import ChipEight.Config
import ChipEight.Instruction.Basic

set_option autoImplicit false

/-!
Words and instructions.

The leading digit of a word selects a group. Group zero is told apart by the last two digits alone
and always decodes; groups eight, fourteen and fifteen have tables of their own, which leave some
words without an instruction; every other group is one operation. Digits that the operation does not
use are ignored.

Every instruction has one word. An operand gives as many low bits as its field has, and a digit that
the operation does not use is zero.
-/

namespace ChipEight.Instruction

/-! ### From words to instructions -/

/-- Group zero: two operations, and otherwise a call into host machine code. -/
def ofSystemWord (word : Word) : Instruction :=
  match word.byte.toNat with
  | 0xE0 => .clear
  | 0xEE => .leave
  | _ => .system word.address

def ofRegisterWord? (word : Word) : Option Instruction :=
  match word.last with
  | 0x0 => some (.copy word.x word.y)
  | 0x1 => some (.disjoin word.x word.y)
  | 0x2 => some (.conjoin word.x word.y)
  | 0x3 => some (.exclude word.x word.y)
  | 0x4 => some (.add word.x word.y)
  | 0x5 => some (.subtract word.x word.y)
  | 0x6 => some (.shiftRight word.x)
  | 0x7 => some (.subtractFrom word.x word.y)
  | 0xE => some (.shiftLeft word.x)
  | _ => none

def ofKeypadWord? (word : Word) : Option Instruction :=
  match word.byte.toNat with
  | 0x9E => some (.skipHeld word.x)
  | 0xA1 => some (.skipReleased word.x)
  | _ => none

def ofDeviceWord? (word : Word) : Option Instruction :=
  match word.byte.toNat with
  | 0x07 => some (.readDelay word.x)
  | 0x0A => some (.awaitKey word.x)
  | 0x15 => some (.setDelay word.x)
  | 0x18 => some (.setSound word.x)
  | 0x1E => some (.addIndex word.x)
  | 0x29 => some (.pointGlyph word.x)
  | 0x33 => some (.storeDecimal word.x)
  | 0x55 => some (.storeRegisters word.x)
  | 0x65 => some (.loadRegisters word.x)
  | _ => none

def ofWord? (word : Word) : Option Instruction :=
  match word.lead with
  | 0x0 => some (ofSystemWord word)
  | 0x1 => some (.jump word.address)
  | 0x2 => some (.call word.address)
  | 0x3 => some (.skipEqualByte word.x word.byte)
  | 0x4 => some (.skipUnequalByte word.x word.byte)
  | 0x5 => some (.skipEqual word.x word.y)
  | 0x6 => some (.setByte word.x word.byte)
  | 0x7 => some (.addByte word.x word.byte)
  | 0x8 => ofRegisterWord? word
  | 0x9 => some (.skipUnequal word.x word.y)
  | 0xA => some (.setIndex word.address)
  | 0xB => some (.jumpOffset word.address)
  | 0xC => some (.random word.x word.byte)
  | 0xD => some (.draw word.x word.y (UInt8.ofNat word.last))
  | 0xE => ofKeypadWord? word
  | _ => ofDeviceWord? word

def decode (word : Word) : Except Fault Instruction :=
  match ofWord? word with
  | some instruction => .ok instruction
  | none => .error (.unknownOpcode word)

theorem decode_eq_ok_iff (word : Word) (instruction : Instruction) :
    decode word = .ok instruction ↔ ofWord? word = some instruction := by
  cases known : ofWord? word <;> simp [decode, known]

theorem decode_eq_error_iff (word : Word) (fault : Fault) :
    decode word = .error fault ↔ ofWord? word = none ∧ fault = .unknownOpcode word := by
  cases known : ofWord? word <;> simp [decode, known, eq_comm]

/-! ### From instructions to words -/

def encode : Instruction → Word
  | .system address => .ofAddress 0x0 address
  | .clear => 0x00E0
  | .leave => 0x00EE
  | .jump address => .ofAddress 0x1 address
  | .call address => .ofAddress 0x2 address
  | .skipEqualByte x byte => .ofRegisterByte 0x3 x byte
  | .skipUnequalByte x byte => .ofRegisterByte 0x4 x byte
  | .skipEqual x y => .ofRegisters 0x5 x y 0x0
  | .setByte x byte => .ofRegisterByte 0x6 x byte
  | .addByte x byte => .ofRegisterByte 0x7 x byte
  | .copy x y => .ofRegisters 0x8 x y 0x0
  | .disjoin x y => .ofRegisters 0x8 x y 0x1
  | .conjoin x y => .ofRegisters 0x8 x y 0x2
  | .exclude x y => .ofRegisters 0x8 x y 0x3
  | .add x y => .ofRegisters 0x8 x y 0x4
  | .subtract x y => .ofRegisters 0x8 x y 0x5
  | .shiftRight x => .ofRegisters 0x8 x 0 0x6
  | .subtractFrom x y => .ofRegisters 0x8 x y 0x7
  | .shiftLeft x => .ofRegisters 0x8 x 0 0xE
  | .skipUnequal x y => .ofRegisters 0x9 x y 0x0
  | .setIndex address => .ofAddress 0xA address
  | .jumpOffset address => .ofAddress 0xB address
  | .random x mask => .ofRegisterByte 0xC x mask
  | .draw x y rows => .ofRegisters 0xD x y (rows.toNat % 16)
  | .skipHeld x => .ofRegisterByte 0xE x 0x9E
  | .skipReleased x => .ofRegisterByte 0xE x 0xA1
  | .readDelay x => .ofRegisterByte 0xF x 0x07
  | .awaitKey x => .ofRegisterByte 0xF x 0x0A
  | .setDelay x => .ofRegisterByte 0xF x 0x15
  | .setSound x => .ofRegisterByte 0xF x 0x18
  | .addIndex x => .ofRegisterByte 0xF x 0x1E
  | .pointGlyph x => .ofRegisterByte 0xF x 0x29
  | .storeDecimal x => .ofRegisterByte 0xF x 0x33
  | .storeRegisters x => .ofRegisterByte 0xF x 0x55
  | .loadRegisters x => .ofRegisterByte 0xF x 0x65

end ChipEight.Instruction
