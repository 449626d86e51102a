import ChipEight.Config

set_option autoImplicit false

/-!
Memory: four thousand and ninety-six bytes, with the font in low memory and a program from `200` on.

An address may be any number; the address policy says what it stands for. `getElem_place` gives the
bytes after a block has been put in place, `read_eq_error_iff` says when an access fails. Runs of
bytes are read and written one byte after the other, so a run that leaves memory has read or written
all bytes before the first that fails.
-/

namespace ChipEight

/-- The byte or the fault that an address stands for: strict access knows the addresses below `1000`
only, wrapped access takes every address modulo `1000`. -/
def AddressPolicy.resolve : AddressPolicy → Nat → Except Fault (Fin 4096)
  | .wrap, address => .ok ⟨address % 4096, Nat.mod_lt address (by decide)⟩
  | .strict, address =>
      if bound : address < 4096 then .ok ⟨address, bound⟩ else .error (.addressOutOfRange address)

structure Memory where
  bytes : Vector UInt8 4096
deriving DecidableEq

namespace Memory

def programStart : Nat := 0x200

def programCapacity : Nat := 3584

def fontStart : Nat := 0x50

/-- The glyphs of the digits `0` to `F`, five rows each, drawn in the four high bits. -/
def font : List UInt8 :=
  [0xF0, 0x90, 0x90, 0x90, 0xF0,
    0x20, 0x60, 0x20, 0x20, 0x70,
    0xF0, 0x10, 0xF0, 0x80, 0xF0,
    0xF0, 0x10, 0xF0, 0x10, 0xF0,
    0x90, 0x90, 0xF0, 0x10, 0x10,
    0xF0, 0x80, 0xF0, 0x10, 0xF0,
    0xF0, 0x80, 0xF0, 0x90, 0xF0,
    0xF0, 0x10, 0x20, 0x40, 0x40,
    0xF0, 0x90, 0xF0, 0x90, 0xF0,
    0xF0, 0x90, 0xF0, 0x10, 0xF0,
    0xF0, 0x90, 0xF0, 0x90, 0x90,
    0xE0, 0x90, 0xE0, 0x90, 0xE0,
    0xF0, 0x80, 0x80, 0x80, 0xF0,
    0xE0, 0x90, 0x90, 0x90, 0xE0,
    0xF0, 0x80, 0xF0, 0x80, 0xF0,
    0xF0, 0x80, 0xF0, 0x80, 0x80]

/-- Puts a block of bytes at a place; what lies past the end of memory is dropped. -/
def place (memory : Memory) (start : Nat) : List UInt8 → Memory
  | [] => memory
  | byte :: rest => place ⟨memory.bytes.setIfInBounds start byte⟩ (start + 1) rest

def initial : Memory :=
  place ⟨.replicate 4096 0⟩ fontStart font

def withImage (memory : Memory) (image : List UInt8) : Except Fault Memory :=
  if image.length ≤ programCapacity then .ok (memory.place programStart image)
  else .error (.imageTooLarge image.length programCapacity)

/-! ### Access under a policy -/

def read (memory : Memory) (policy : AddressPolicy) (address : Nat) : Except Fault UInt8 :=
  (policy.resolve address).map fun (place : Fin 4096) => memory.bytes[place]

def write (memory : Memory) (policy : AddressPolicy) (address : Nat) (byte : UInt8) :
    Except Fault Memory :=
  (policy.resolve address).map fun (place : Fin 4096) => ⟨memory.bytes.set place byte⟩

/-- The bytes from an address on, `count` of them or up to the first that cannot be read, whose
fault is given with them. -/
def readRun (memory : Memory) (policy : AddressPolicy) (address : Nat) :
    Nat → List UInt8 × Option Fault
  | 0 => ([], none)
  | count + 1 =>
      match memory.read policy address with
      | .error fault => ([], some fault)
      | .ok byte =>
          let rest := memory.readRun policy (address + 1) count
          (byte :: rest.1, rest.2)

/-- Writes bytes from an address on, all of them or up to the first that cannot be written, whose
fault is given with the result. -/
def writeRun (memory : Memory) (policy : AddressPolicy) (address : Nat) :
    List UInt8 → Memory × Option Fault
  | [] => (memory, none)
  | byte :: rest =>
      match memory.write policy address byte with
      | .error fault => (memory, some fault)
      | .ok written => written.writeRun policy (address + 1) rest

/-! ### What each operation does to the bytes -/

theorem getElem_place (memory : Memory) (start : Nat) (block : List UInt8) (address : Nat)
    (bound : address < 4096) :
    (memory.place start block).bytes[address] =
      if inside : start ≤ address ∧ address - start < block.length then
        block[address - start]
      else memory.bytes[address] := by
  induction block generalizing memory start with
  | nil => simp [place]
  | cons byte rest before =>
      rw [place, before]
      grind

theorem resolve_eq_error_iff (policy : AddressPolicy) (address : Nat) (fault : Fault) :
    policy.resolve address = .error fault ↔
      policy = .strict ∧ 4096 ≤ address ∧ fault = .addressOutOfRange address := by
  cases policy <;> grind [AddressPolicy.resolve]

theorem read_eq_error_iff (memory : Memory) (policy : AddressPolicy) (address : Nat)
    (fault : Fault) :
    memory.read policy address = .error fault ↔
      policy = .strict ∧ 4096 ≤ address ∧ fault = .addressOutOfRange address := by
  rw [← resolve_eq_error_iff]
  cases found : policy.resolve address <;> simp [read, found, Except.map]

theorem write_eq_error_iff (memory : Memory) (policy : AddressPolicy) (address : Nat)
    (byte : UInt8) (fault : Fault) :
    memory.write policy address byte = .error fault ↔
      policy = .strict ∧ 4096 ≤ address ∧ fault = .addressOutOfRange address := by
  rw [← resolve_eq_error_iff]
  cases found : policy.resolve address <;> simp [write, found, Except.map]

end Memory

end ChipEight
