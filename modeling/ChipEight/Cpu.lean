import ChipEight.Memory

set_option autoImplicit false

/-!
The processor: registers, index, counter, call stack, timers and the memory that they work on.

A register operand is a byte of which the low four bits count, so operands that are equal modulo
sixteen name the same register (`register_setRegister`). Register fifteen is also the flag. An
operation that sets the flag writes it before its result, so a result in register fifteen stays.
-/

namespace ChipEight

structure Cpu where
  registers : Vector UInt8 16
  /-- The address that instructions on memory start from. -/
  index : UInt16
  /-- The address of the next instruction. -/
  counter : UInt16
  /-- The addresses to return to, the one pushed last in front. -/
  stack : List UInt16
  delay : UInt8
  sound : UInt8
  memory : Memory
  /-- The register operand that waits for a key, if one waits. -/
  awaiting : Option UInt8
deriving DecidableEq

namespace Cpu

def initial : Cpu where
  registers := .replicate 16 0
  index := 0
  counter := UInt16.ofNat Memory.programStart
  stack := []
  delay := 0
  sound := 0
  memory := .initial
  awaiting := none

/-- Loads an image as a program; an image that is too large is refused as a whole. -/
def withImage (cpu : Cpu) (image : List UInt8) : Except Fault Cpu :=
  (cpu.memory.withImage image).map fun memory => { cpu with memory }

/-! ### Registers -/

def register (cpu : Cpu) (x : UInt8) : UInt8 :=
  cpu.registers[x.toNat % 16]

def setRegister (cpu : Cpu) (x value : UInt8) : Cpu :=
  { cpu with registers := cpu.registers.set (x.toNat % 16) value }

def setFlag (cpu : Cpu) (flag : Bool) : Cpu :=
  cpu.setRegister 0xF (if flag then 1 else 0)

def setFlagged (cpu : Cpu) (flag : Bool) (x value : UInt8) : Cpu :=
  (cpu.setFlag flag).setRegister x value

/-- The registers from zero on, `count` of them; after register fifteen comes register zero. -/
def registerRun (cpu : Cpu) (count : Nat) : List UInt8 :=
  (List.range count).map fun x => cpu.register (UInt8.ofNat x)

/-- Sets the registers from `x` on, one after the other; after register fifteen comes register
zero. -/
def setRegisterRun (cpu : Cpu) (x : Nat) : List UInt8 → Cpu
  | [] => cpu
  | value :: rest => (cpu.setRegister (UInt8.ofNat x) value).setRegisterRun (x + 1) rest

theorem register_setRegister (cpu : Cpu) (x value y : UInt8) :
    (cpu.setRegister x value).register y =
      if x.toNat % 16 = y.toNat % 16 then value else cpu.register y := by
  simp [register, setRegister, Vector.getElem_set]

@[simp] theorem setRegister_register (cpu : Cpu) (x : UInt8) :
    cpu.setRegister x (cpu.register x) = cpu := by
  simp [register, setRegister]

/-! ### Arithmetic -/

def addByte (cpu : Cpu) (x byte : UInt8) : Cpu :=
  cpu.setRegister x (cpu.register x + byte)

def add (cpu : Cpu) (x y : UInt8) : Cpu :=
  cpu.setFlagged (decide (255 < (cpu.register x).toNat + (cpu.register y).toNat)) x
    (cpu.register x + cpu.register y)

/-- Subtracts a register; the flag says whether the difference is above zero. -/
def subtract (cpu : Cpu) (x y : UInt8) : Cpu :=
  cpu.setFlagged (decide (cpu.register y < cpu.register x)) x (cpu.register x - cpu.register y)

/-- Subtracts from a register; the flag says whether the difference is above zero. -/
def subtractFrom (cpu : Cpu) (x y : UInt8) : Cpu :=
  cpu.setFlagged (decide (cpu.register x < cpu.register y)) x (cpu.register y - cpu.register x)

def shiftRight (cpu : Cpu) (x : UInt8) : Cpu :=
  cpu.setFlagged (decide ((cpu.register x).toNat % 2 = 1)) x (cpu.register x / 2)

def shiftLeft (cpu : Cpu) (x : UInt8) : Cpu :=
  cpu.setFlagged (decide (128 ≤ (cpu.register x).toNat)) x (cpu.register x + cpu.register x)

def decimalDigits (byte : UInt8) : List UInt8 :=
  [byte / 100, byte / 10 % 10, byte % 10]

/-! ### Counter and stack -/

/-- The low twelve bits of an address operand. -/
def target (address : UInt16) : UInt16 :=
  address % 4096

def advance (cpu : Cpu) : Cpu :=
  { cpu with counter := cpu.counter + 2 }

def skipIf (cpu : Cpu) (condition : Bool) : Cpu :=
  if condition then cpu.advance else cpu

def jump (cpu : Cpu) (address : UInt16) : Cpu :=
  { cpu with counter := target address }

def jumpOffset (cpu : Cpu) (address : UInt16) : Cpu :=
  { cpu with counter := target address + (cpu.register 0).toUInt16 }

def call (cpu : Cpu) (address : UInt16) : Cpu :=
  { cpu with stack := cpu.counter :: cpu.stack, counter := target address }

/-! ### Index and timers -/

def setIndex (cpu : Cpu) (address : UInt16) : Cpu :=
  { cpu with index := target address }

def addIndex (cpu : Cpu) (x : UInt8) : Cpu :=
  { cpu with index := cpu.index + (cpu.register x).toUInt16 }

/-- Points the index at the glyph of the digit that the low four bits of a register give. -/
def pointGlyph (cpu : Cpu) (x : UInt8) : Cpu :=
  { cpu with index := UInt16.ofNat (Memory.fontStart + 5 * ((cpu.register x).toNat % 16)) }

def advanceTimers (cpu : Cpu) : Cpu :=
  { cpu with
    delay := UInt8.ofNat (cpu.delay.toNat - 1)
    sound := UInt8.ofNat (cpu.sound.toNat - 1) }

end Cpu

end ChipEight
