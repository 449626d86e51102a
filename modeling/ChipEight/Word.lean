set_option autoImplicit false

/-!
Opcode words.

A word has sixteen bits and is read as four hexadecimal digits `gxyn`: the leading digit names a
group, the next two name registers, and the tails `n`, `yn` and `xyn` are a row count, a byte and an
address. The functions that cut a word and those that build one use the same place values, so each
cut of a built word returns the part it was built from.
-/

namespace ChipEight

abbrev Word := UInt16

namespace Word

/-! ### Cutting a word -/

def lead (word : Word) : Nat :=
  word.toNat / 4096

def x (word : Word) : UInt8 :=
  UInt8.ofNat (word.toNat / 256 % 16)

def y (word : Word) : UInt8 :=
  UInt8.ofNat (word.toNat / 16 % 16)

def last (word : Word) : Nat :=
  word.toNat % 16

def byte (word : Word) : UInt8 :=
  UInt8.ofNat (word.toNat % 256)

def high (word : Word) : UInt8 :=
  UInt8.ofNat (word.toNat / 256)

def address (word : Word) : UInt16 :=
  UInt16.ofNat (word.toNat % 4096)

/-! ### Building a word -/

def ofBytes (high low : UInt8) : Word :=
  UInt16.ofNat (high.toNat * 256 + low.toNat)

/-- The word of a group with two register operands; each operand gives its low four bits. -/
def ofRegisters (lead : Nat) (x y : UInt8) (last : Nat) : Word :=
  UInt16.ofNat (lead * 4096 + x.toNat % 16 * 256 + y.toNat % 16 * 16 + last)

/-- The word of a group with a register operand, of which the low four bits count, and a byte. -/
def ofRegisterByte (lead : Nat) (x byte : UInt8) : Word :=
  UInt16.ofNat (lead * 4096 + x.toNat % 16 * 256 + byte.toNat)

/-- The word of a group with an address operand, of which the low twelve bits count. -/
def ofAddress (lead : Nat) (address : UInt16) : Word :=
  UInt16.ofNat (lead * 4096 + address.toNat % 4096)

/-! ### Place values -/

@[simp] theorem toNat_x (word : Word) : word.x.toNat = word.toNat / 256 % 16 := by
  simp [x]; omega

@[simp] theorem toNat_y (word : Word) : word.y.toNat = word.toNat / 16 % 16 := by
  simp [y]; omega

@[simp] theorem toNat_byte (word : Word) : word.byte.toNat = word.toNat % 256 := by
  simp [byte]

@[simp] theorem toNat_high (word : Word) : word.high.toNat = word.toNat / 256 := by
  have bound := word.toNat_lt
  simp [high]; omega

@[simp] theorem toNat_address (word : Word) : word.address.toNat = word.toNat % 4096 := by
  simp [address]; omega

@[simp] theorem toNat_ofBytes (high low : UInt8) :
    (ofBytes high low).toNat = high.toNat * 256 + low.toNat := by
  have highBound := high.toNat_lt
  have lowBound := low.toNat_lt
  simp [ofBytes]; omega

/-- A word is its two bytes. -/
theorem ofBytes_high_byte (word : Word) : ofBytes word.high word.byte = word := by
  apply UInt16.toNat_inj.mp
  simp
  omega

@[simp] theorem high_ofBytes (high low : UInt8) : (ofBytes high low).high = high := by
  have lowBound := low.toNat_lt
  apply UInt8.toNat_inj.mp
  simp
  omega

@[simp] theorem byte_ofBytes (high low : UInt8) : (ofBytes high low).byte = low := by
  apply UInt8.toNat_inj.mp
  simp

end Word

end ChipEight
