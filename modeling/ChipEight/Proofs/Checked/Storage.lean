import ChipEight.Cpu
import ChipEight.Instruction.Encoding
import ChipEight.Proofs.Checked.Operations
import ChipEight.Screen

set_option autoImplicit false

/-!
Memory, registers, words and pixels under check.

Each access goes to an array with an index of its own making: a register operand is cut to four bits, an
address to what the address policy makes of it, coordinates to their remainders. The lemmas say that each
such index lies inside, so that the access gives what the access without a check gives.
-/

namespace ChipEight.Checked

/-! ### Memory -/

def locate : AddressPolicy → Nat → Except Fault Nat
  | .wrap, address => .ok (address &&& 4095)
  | .strict, address =>
      if address < 4096 then .ok address else .error (.addressOutOfRange address)

def read (memory : Memory) (policy : AddressPolicy) (address : Nat) :
    Except Trap (Except Fault UInt8) := do
  match locate policy address with
  | .error fault => return .error fault
  | .ok place => return .ok (← entry memory.bytes place)

def write (memory : Memory) (policy : AddressPolicy) (address : Nat) (byte : UInt8) :
    Except Trap (Except Fault Memory) := do
  match locate policy address with
  | .error fault => return .error fault
  | .ok place => return .ok ⟨← withEntry memory.bytes place byte⟩

/-- Copies a block to the part of memory from `start` up to `stop`. -/
def overlay (memory : Memory) (start stop : Nat) (block : List UInt8) : Except Trap Memory :=
  if start ≤ stop ∧ stop ≤ 4096 then
    if stop - start = block.length then .ok (memory.place start block)
    else .error (.copy (stop - start) block.length)
  else .error (.slice start stop 4096)

theorem and_4095 (address : Nat) : address &&& 4095 = address % 4096 :=
  Nat.and_two_pow_sub_one_eq_mod address 12

theorem locate_eq (policy : AddressPolicy) (address : Nat) :
    locate policy address = (policy.resolve address).map Fin.val := by
  cases policy with
  | wrap => rw [locate, and_4095]; rfl
  | strict =>
      simp only [locate, AddressPolicy.resolve]
      split
      · rfl
      · rfl

/-- An address stands for a place in memory, or for none. -/
theorem lt_of_locate (policy : AddressPolicy) (address place : Nat)
    (located : locate policy address = .ok place) : place < 4096 := by
  cases policy with
  | wrap =>
      rw [← Except.ok.inj located, and_4095]
      exact Nat.mod_lt address (by decide)
  | strict =>
      by_cases inside : address < 4096
      · rw [locate, if_pos inside] at located
        exact Except.ok.inj located ▸ inside
      · rw [locate, if_neg inside] at located
        cases located

@[simp] theorem read_eq (memory : Memory) (policy : AddressPolicy) (address : Nat) :
    read memory policy address = .ok (memory.read policy address) := by
  rw [read, locate_eq, Memory.read]
  cases policy.resolve address with
  | error fault => rfl
  | ok place =>
      simp only [Except.map, entry_of_lt _ place.isLt]
      rfl

@[simp] theorem write_eq (memory : Memory) (policy : AddressPolicy) (address : Nat) (byte : UInt8) :
    write memory policy address byte = .ok (memory.write policy address byte) := by
  rw [write, locate_eq, Memory.write]
  cases policy.resolve address with
  | error fault => rfl
  | ok place =>
      simp only [Except.map, withEntry_of_lt _ byte place.isLt]
      rfl

theorem overlay_eq (memory : Memory) (start : Nat) (block : List UInt8)
    (inside : start + block.length ≤ 4096) :
    overlay memory start (start + block.length) block = .ok (memory.place start block) := by
  rw [overlay, if_pos ⟨Nat.le_add_right _ _, inside⟩, if_pos (Nat.add_sub_cancel_left _ _)]

def initialCpu : Except Trap Cpu := do
  let stop ← sum 64 Memory.fontStart Memory.font.length
  return { Cpu.initial with
    memory := ← overlay ⟨.replicate 4096 0⟩ Memory.fontStart stop Memory.font }

def withImage (cpu : Cpu) (image : List UInt8) : Except Trap (Except Fault Cpu) := do
  if Memory.programCapacity < image.length then
    return .error (.imageTooLarge image.length Memory.programCapacity)
  else
    let stop ← sum 64 Memory.programStart image.length
    return .ok { cpu with memory := ← overlay cpu.memory Memory.programStart stop image }

theorem initialCpu_eq : initialCpu = .ok Cpu.initial := by
  have inside : Memory.fontStart + Memory.font.length ≤ 4096 := by decide
  have fits : Memory.fontStart + Memory.font.length < 2 ^ 64 := by decide
  rw [initialCpu, sum_of_lt fits, ok_bind, overlay_eq _ _ _ inside]
  rfl

theorem withImage_eq (cpu : Cpu) (image : List UInt8) :
    withImage cpu image = .ok (cpu.withImage image) := by
  rw [withImage, Cpu.withImage, Memory.withImage]
  by_cases fits : image.length ≤ Memory.programCapacity
  · have inside : Memory.programStart + image.length ≤ 4096 :=
      Nat.add_le_add_left fits Memory.programStart
    have narrow : Memory.programStart + image.length < 2 ^ 64 :=
      Nat.lt_of_le_of_lt inside (by decide)
    rw [if_neg (Nat.not_lt.mpr fits), if_pos fits, sum_of_lt narrow, ok_bind,
      overlay_eq _ _ _ inside]
    rfl
  · rw [if_pos (Nat.not_le.mp fits), if_neg fits]
    rfl

/-! ### Registers -/

def register (cpu : Cpu) (x : UInt8) : Except Trap UInt8 :=
  entry cpu.registers (x.toNat &&& 0xF)

def setRegister (cpu : Cpu) (x value : UInt8) : Except Trap Cpu := do
  return { cpu with registers := ← withEntry cpu.registers (x.toNat &&& 0xF) value }

def setFlag (cpu : Cpu) (flag : Bool) : Except Trap Cpu := do
  return { cpu with registers := ← withEntry cpu.registers 0xF (if flag then 1 else 0) }

def setFlagged (cpu : Cpu) (flag : Bool) (x value : UInt8) : Except Trap Cpu := do
  setRegister (← setFlag cpu flag) x value

theorem and_15 (operand : Nat) : operand &&& 0xF = operand % 16 :=
  Nat.and_two_pow_sub_one_eq_mod operand 4

@[simp] theorem register_eq (cpu : Cpu) (x : UInt8) : register cpu x = .ok (cpu.register x) := by
  rw [register, and_15, entry_of_lt _ (Nat.mod_lt _ (by decide))]
  rfl

@[simp] theorem setRegister_eq (cpu : Cpu) (x value : UInt8) :
    setRegister cpu x value = .ok (cpu.setRegister x value) := by
  rw [setRegister, and_15, withEntry_of_lt _ _ (Nat.mod_lt _ (by decide))]
  rfl

@[simp] theorem setFlag_eq (cpu : Cpu) (flag : Bool) : setFlag cpu flag = .ok (cpu.setFlag flag) := by
  rw [setFlag, withEntry_of_lt _ _ (by decide)]
  rfl

@[simp] theorem setFlagged_eq (cpu : Cpu) (flag : Bool) (x value : UInt8) :
    setFlagged cpu flag x value = .ok (cpu.setFlagged flag x value) := by
  rw [setFlagged, setFlag_eq, ok_bind, setRegister_eq]
  rfl

/-! ### Words -/

def wordOfBytes (high low : UInt8) : Except Trap Word := do
  return UInt16.ofNat ((← shiftedLeft 16 high.toNat 8) ||| low.toNat)

def digits (word : Word) : Except Trap (Nat × UInt8 × UInt8) := do
  let lead ← shiftedRight 16 word.toNat 12
  let x ← shiftedRight 16 (word.toNat &&& 0x0F00) 8
  let y ← shiftedRight 16 (word.toNat &&& 0x00F0) 4
  return (lead, UInt8.ofNat x, UInt8.ofNat y)

def decode (word : Word) : Except Trap (Except Fault Instruction) := do
  let _digits ← digits word
  return Instruction.decode word

@[simp] theorem wordOfBytes_eq (high low : UInt8) :
    wordOfBytes high low = .ok (.ofBytes high low) := by
  have highBound := high.toNat_lt
  have lowBound : low.toNat < 2 ^ 8 := low.toNat_lt
  have narrow : high.toNat <<< 8 % 2 ^ 16 = high.toNat <<< 8 := by
    rw [Nat.shiftLeft_eq]
    omega
  rw [wordOfBytes, shiftedLeft_of_lt _ (by decide), ok_bind, narrow,
    ← Nat.shiftLeft_add_eq_or_of_lt lowBound, Nat.shiftLeft_eq]
  rfl

/-- The digits are those that decoding goes by. -/
theorem digits_eq (word : Word) : digits word = .ok (word.lead, word.x, word.y) := by
  have first : (word.toNat &&& 0x0F00) >>> 8 = word.toNat / 256 % 16 := by
    rw [Nat.shiftRight_and_distrib, Nat.shiftRight_eq_div_pow]
    exact and_15 _
  have second : (word.toNat &&& 0x00F0) >>> 4 = word.toNat / 16 % 16 := by
    rw [Nat.shiftRight_and_distrib, Nat.shiftRight_eq_div_pow]
    exact and_15 _
  rw [digits, shiftedRight_of_lt _ (by decide), ok_bind, shiftedRight_of_lt _ (by decide), ok_bind,
    shiftedRight_of_lt _ (by decide), ok_bind, first, second, Nat.shiftRight_eq_div_pow]
  rfl

@[simp] theorem decode_eq (word : Word) : decode word = .ok (Instruction.decode word) := by
  rw [decode, digits_eq]
  rfl

/-! ### Pixels -/

def cell (x y : Nat) : Except Trap Nat := do
  let row ← within 32 (← remainder y 32)
  let column ← within 64 (← remainder x 64)
  return row * 64 + column

def pixel (screen : Screen) (x y : Nat) : Except Trap Bool := do
  entry screen.cells (← cell x y)

def flip (drawing : Drawing) (x y : Nat) : Except Trap Drawing := do
  let place ← cell x y
  let lit ← entry drawing.screen.cells place
  return ⟨⟨← withEntry drawing.screen.cells place (!lit)⟩, drawing.collided || lit⟩

theorem cell_eq (x y : Nat) : cell x y = .ok (Screen.place x y) := by
  rw [cell, remainder_of_ne _ (by decide), ok_bind, within_of_lt (Nat.mod_lt _ (by decide)), ok_bind,
    remainder_of_ne _ (by decide), ok_bind, within_of_lt (Nat.mod_lt _ (by decide))]
  rfl

@[simp] theorem pixel_eq (screen : Screen) (x y : Nat) :
    pixel screen x y = .ok (screen.pixel x y) := by
  rw [pixel, cell_eq, ok_bind, entry_of_lt _ (Screen.place x y).isLt]
  rfl

@[simp] theorem flip_eq (drawing : Drawing) (x y : Nat) :
    flip drawing x y = .ok (drawing.flip x y) := by
  rw [flip, cell_eq, ok_bind, entry_of_lt _ (Screen.place x y).isLt, ok_bind,
    withEntry_of_lt _ _ (Screen.place x y).isLt]
  rfl

end ChipEight.Checked
