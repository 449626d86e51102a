import ChipEight.Instruction.Encoding
import ChipEight.Proofs.Word.Fields

set_option autoImplicit false

/-!
Words and instructions, there and back.

A word has four bits for a register or a row count and twelve for an address, and what it denotes
has no wider operands. Encoding cuts every operand to its field, so decoding gives the narrowed
instruction back; only two calls into host code share their words with other instructions. Decoding
ignores some digits, so encoding gives back the word with these digits zero. What decoding refuses is told
from the digits alone.
-/

namespace ChipEight

/-! ### Operands that fit their fields -/

namespace Instruction

/-- Whether every operand is as narrow as its field in a word. -/
def InRange : Instruction → Prop
  | .clear | .leave => True
  | .system address | .jump address | .call address | .setIndex address | .jumpOffset address =>
      address.toNat < 4096
  | .skipEqualByte x _ | .skipUnequalByte x _ | .setByte x _ | .addByte x _ | .random x _ =>
      x.toNat < 16
  | .shiftRight x | .shiftLeft x | .skipHeld x | .skipReleased x | .readDelay x | .awaitKey x
  | .setDelay x | .setSound x | .addIndex x | .pointGlyph x | .storeDecimal x | .storeRegisters x
  | .loadRegisters x => x.toNat < 16
  | .skipEqual x y | .copy x y | .disjoin x y | .conjoin x y | .exclude x y | .add x y
  | .subtract x y | .subtractFrom x y | .skipUnequal x y => x.toNat < 16 ∧ y.toNat < 16
  | .draw x y rows => x.toNat < 16 ∧ y.toNat < 16 ∧ rows.toNat < 16

theorem x_lt (word : Word) : word.x.toNat < 16 := by
  rw [Word.toNat_x]
  omega

theorem y_lt (word : Word) : word.y.toNat < 16 := by
  rw [Word.toNat_y]
  omega

theorem address_lt (word : Word) : word.address.toNat < 4096 := by
  rw [Word.toNat_address]
  omega

theorem inRange_ofSystemWord (word : Word) : (ofSystemWord word).InRange := by
  unfold ofSystemWord
  split
  · trivial
  · trivial
  · exact address_lt word

theorem inRange_of_ofRegisterWord? (word : Word) (instruction : Instruction)
    (known : ofRegisterWord? word = some instruction) : instruction.InRange := by
  unfold ofRegisterWord? at known
  split at known <;> cases known
  all_goals first | exact ⟨x_lt word, y_lt word⟩ | exact x_lt word

theorem inRange_of_ofKeypadWord? (word : Word) (instruction : Instruction)
    (known : ofKeypadWord? word = some instruction) : instruction.InRange := by
  unfold ofKeypadWord? at known
  split at known <;> cases known
  all_goals exact x_lt word

theorem inRange_of_ofDeviceWord? (word : Word) (instruction : Instruction)
    (known : ofDeviceWord? word = some instruction) : instruction.InRange := by
  unfold ofDeviceWord? at known
  split at known <;> cases known
  all_goals exact x_lt word

/-- What a word denotes has operands as narrow as their fields. -/
theorem inRange_of_ofWord? (word : Word) (instruction : Instruction)
    (known : ofWord? word = some instruction) : instruction.InRange := by
  unfold ofWord? at known
  split at known
  case h_1 => cases known; exact inRange_ofSystemWord word
  case h_9 => exact inRange_of_ofRegisterWord? word instruction known
  case h_14 =>
    cases known
    refine ⟨x_lt word, y_lt word, ?_⟩
    rw [UInt8.toNat_ofNat']
    unfold Word.last
    omega
  case h_15 => exact inRange_of_ofKeypadWord? word instruction known
  case h_16 => exact inRange_of_ofDeviceWord? word instruction known
  all_goals
    cases known
    first | exact address_lt word | exact x_lt word | exact ⟨x_lt word, y_lt word⟩

end Instruction

/-! ### What encoding and decoding leave out -/

/-- The instruction with every operand cut to the width of its field. -/
def Instruction.narrowed : Instruction → Instruction
  | .system address => .system (address % 4096)
  | .clear => .clear
  | .leave => .leave
  | .jump address => .jump (address % 4096)
  | .call address => .call (address % 4096)
  | .skipEqualByte x byte => .skipEqualByte (x % 16) byte
  | .skipUnequalByte x byte => .skipUnequalByte (x % 16) byte
  | .skipEqual x y => .skipEqual (x % 16) (y % 16)
  | .setByte x byte => .setByte (x % 16) byte
  | .addByte x byte => .addByte (x % 16) byte
  | .copy x y => .copy (x % 16) (y % 16)
  | .disjoin x y => .disjoin (x % 16) (y % 16)
  | .conjoin x y => .conjoin (x % 16) (y % 16)
  | .exclude x y => .exclude (x % 16) (y % 16)
  | .add x y => .add (x % 16) (y % 16)
  | .subtract x y => .subtract (x % 16) (y % 16)
  | .shiftRight x => .shiftRight (x % 16)
  | .subtractFrom x y => .subtractFrom (x % 16) (y % 16)
  | .shiftLeft x => .shiftLeft (x % 16)
  | .skipUnequal x y => .skipUnequal (x % 16) (y % 16)
  | .setIndex address => .setIndex (address % 4096)
  | .jumpOffset address => .jumpOffset (address % 4096)
  | .random x mask => .random (x % 16) mask
  | .draw x y rows => .draw (x % 16) (y % 16) (rows % 16)
  | .skipHeld x => .skipHeld (x % 16)
  | .skipReleased x => .skipReleased (x % 16)
  | .readDelay x => .readDelay (x % 16)
  | .awaitKey x => .awaitKey (x % 16)
  | .setDelay x => .setDelay (x % 16)
  | .setSound x => .setSound (x % 16)
  | .addIndex x => .addIndex (x % 16)
  | .pointGlyph x => .pointGlyph (x % 16)
  | .storeDecimal x => .storeDecimal (x % 16)
  | .storeRegisters x => .storeRegisters (x % 16)
  | .loadRegisters x => .loadRegisters (x % 16)

/-- A call into host code whose word denotes another instruction. -/
def Instruction.Shadowed : Instruction → Prop
  | .system address => address.toNat % 256 = 0xE0 ∨ address.toNat % 256 = 0xEE
  | _ => False

namespace Word

def canonical (word : Word) : Word :=
  if word.lead = 0x0 ∧ (word.byte = 0xE0 ∨ word.byte = 0xEE) then
    word - UInt16.ofNat (word.x.toNat * 256)
  else if word.lead = 0x5 ∨ word.lead = 0x9 then word - UInt16.ofNat word.last
  else if word.lead = 0x8 ∧ (word.last = 0x6 ∨ word.last = 0xE) then
    word - UInt16.ofNat (word.y.toNat * 16)
  else word

/-- The instruction of the word ignores a digit that is not zero. -/
def NonCanonical (word : Word) : Prop :=
  (word.lead = 0x0 ∧ (word.byte = 0xE0 ∨ word.byte = 0xEE) ∧ word.x ≠ 0) ∨
    ((word.lead = 0x5 ∨ word.lead = 0x9) ∧ word.last ≠ 0) ∨
      (word.lead = 0x8 ∧ (word.last = 0x6 ∨ word.last = 0xE) ∧ word.y ≠ 0)

def Unassigned (word : Word) : Prop :=
  (word.lead = 0x8 ∧ (0x8 ≤ word.last ∧ word.last ≤ 0xD ∨ word.last = 0xF)) ∨
    (word.lead = 0xE ∧ word.byte ∉ [0x9E, 0xA1]) ∨
      (word.lead = 0xF ∧
        word.byte ∉ [0x07, 0x0A, 0x15, 0x18, 0x1E, 0x29, 0x33, 0x55, 0x65])

end Word

namespace Instruction

/-! ### From instructions to words and back -/

theorem ofSystemWord_eq (word : Word) :
    ofSystemWord word =
      if word.byte = 0xE0 then .clear else if word.byte = 0xEE then .leave
      else .system word.address := by
  unfold ofSystemWord
  split
  · rename_i clears
    rw [if_pos (UInt8.toNat_inj.mp clears)]
  · rename_i leaves
    have here : word.byte = 0xEE := UInt8.toNat_inj.mp leaves
    rw [here, if_neg (by decide), if_pos rfl]
  · rename_i notClear notLeave
    rw [if_neg (fun clears => notClear (congrArg UInt8.toNat clears)),
      if_neg (fun leaves => notLeave (congrArg UInt8.toNat leaves))]

theorem ofWord?_encode_system (address : UInt16) :
    ofWord? (encode (.system address)) =
      some (if address.toNat % 256 = 0xE0 then .clear
        else if address.toNat % 256 = 0xEE then .leave
        else .system (address % 4096)) := by
  have byteIs : ∀ byte : UInt8,
      (Word.ofAddress 0 address).byte = byte ↔ address.toNat % 256 = byte.toNat := by
    intro byte
    rw [← UInt8.toNat_inj, Word.toNat_byte_ofAddress 0 address (by decide)]
  simp only [encode, ofWord?, Word.lead_ofAddress 0 address (by decide), ofSystemWord_eq, byteIs,
    Word.address_ofAddress 0 address (by decide)]
  rfl

/-- Decoding the word of an instruction gives the instruction with its operands cut to their fields,
if the word is not that of another instruction. -/
theorem ofWord?_encode (instruction : Instruction) (plain : ¬ instruction.Shadowed) :
    ofWord? (encode instruction) = some instruction.narrowed := by
  cases instruction with
  | system address =>
      simp only [Shadowed, not_or] at plain
      rw [ofWord?_encode_system, if_neg plain.1, if_neg plain.2]
      rfl
  | clear => decide
  | leave => decide
  | draw x y rows =>
      have narrow : UInt8.ofNat (rows.toNat % 16) = rows % 16 := by
        apply UInt8.toNat_inj.mp
        rw [UInt8.toNat_ofNat', UInt8.toNat_mod]
        change _ = rows.toNat % 16
        omega
      simp [encode, ofWord?, narrowed, narrow, Nat.mod_lt]
  | _ => simp [encode, ofWord?, ofRegisterWord?, ofKeypadWord?, ofDeviceWord?, narrowed]

theorem ofWord?_encode_eq_narrowed_iff (instruction : Instruction) :
    ofWord? (encode instruction) = some instruction.narrowed ↔ ¬ instruction.Shadowed := by
  constructor
  · intro same shadowed
    cases instruction with
    | system address =>
        rw [ofWord?_encode_system] at same
        rcases shadowed with clears | leaves
        · rw [if_pos clears] at same
          cases same
        · rw [if_neg (by omega), if_pos leaves] at same
          cases same
    | _ => exact shadowed
  · exact ofWord?_encode instruction

/-! ### From words to instructions and back -/

theorem mod_eq_self {x : UInt8} (narrow : x.toNat < 16) : x % 16 = x := by
  apply UInt8.toNat_inj.mp
  rw [UInt8.toNat_mod]
  exact Nat.mod_eq_of_lt narrow

theorem address_mod_eq_self {address : UInt16} (narrow : address.toNat < 4096) :
    address % 4096 = address := by
  apply UInt16.toNat_inj.mp
  rw [UInt16.toNat_mod]
  exact Nat.mod_eq_of_lt narrow

theorem narrowed_of_inRange (instruction : Instruction) (inRange : instruction.InRange) :
    instruction.narrowed = instruction := by
  cases instruction <;> simp_all [InRange, narrowed, mod_eq_self, address_mod_eq_self]

theorem not_shadowed_ofSystemWord (word : Word) : ¬ (ofSystemWord word).Shadowed := by
  unfold ofSystemWord
  split
  · exact not_false
  · exact not_false
  · rename_i notClear notLeave
    rw [Word.toNat_byte] at notClear notLeave
    simp only [Shadowed, Word.toNat_address]
    rintro (clears | leaves)
    · exact notClear (by omega)
    · exact notLeave (by omega)

theorem not_shadowed_of_ofWord? (word : Word) (instruction : Instruction)
    (known : ofWord? word = some instruction) : ¬ instruction.Shadowed := by
  unfold ofWord? at known
  split at known
  case h_1 =>
    cases known
    exact not_shadowed_ofSystemWord word
  case h_9 =>
    unfold ofRegisterWord? at known
    split at known <;> cases known
    all_goals exact not_false
  case h_15 =>
    unfold ofKeypadWord? at known
    split at known <;> cases known
    all_goals exact not_false
  case h_16 =>
    unfold ofDeviceWord? at known
    split at known <;> cases known
    all_goals exact not_false
  all_goals
    cases known
    exact not_false

theorem encode_ofSystemWord (word : Word) (system : word.lead = 0x0) :
    encode (ofSystemWord word) = word.canonical := by
  rw [ofSystemWord_eq, Word.canonical, Word.sub_x_eq, system]
  by_cases clears : word.byte = 0xE0
  · rw [if_pos clears, if_pos ⟨rfl, Or.inl clears⟩, clears]
    decide
  · by_cases leaves : word.byte = 0xEE
    · rw [if_neg clears, if_pos leaves, if_pos ⟨rfl, Or.inr leaves⟩, leaves]
      decide
    · have fields := word.ofAddress_fields
      rw [system] at fields
      rw [if_neg clears, if_neg leaves]
      simp [clears, leaves, encode, fields]

theorem encode_of_ofRegisterWord? (word : Word) (instruction : Instruction)
    (group : word.lead = 0x8) (known : ofRegisterWord? word = some instruction) :
    encode instruction = word.canonical := by
  have fields := word.ofRegisters_fields
  rw [group] at fields
  rw [Word.canonical, Word.sub_y_eq, group]
  unfold ofRegisterWord? at known
  split at known <;> cases known
  all_goals
    rename_i last
    rw [last] at fields
    simp [encode, last, fields]

theorem ofRegisterByte_of_byte (word : Word) {lead byte : Nat} (group : word.lead = lead)
    (same : word.byte.toNat = byte) :
    Word.ofRegisterByte lead word.x (UInt8.ofNat byte) = word := by
  subst group same
  rw [UInt8.ofNat_toNat, word.ofRegisterByte_fields]

theorem encode_of_ofKeypadWord? (word : Word) (instruction : Instruction)
    (group : word.lead = 0xE) (known : ofKeypadWord? word = some instruction) :
    encode instruction = word := by
  unfold ofKeypadWord? at known
  split at known <;> cases known
  all_goals
    rename_i byte
    exact ofRegisterByte_of_byte word group byte

theorem encode_of_ofDeviceWord? (word : Word) (instruction : Instruction)
    (group : word.lead = 0xF) (known : ofDeviceWord? word = some instruction) :
    encode instruction = word := by
  unfold ofDeviceWord? at known
  split at known <;> cases known
  all_goals
    rename_i byte
    exact ofRegisterByte_of_byte word group byte

/-- Encoding what a word denotes gives the word back, with zero for the digit that is ignored. -/
theorem encode_of_ofWord? (word : Word) (instruction : Instruction)
    (known : ofWord? word = some instruction) : encode instruction = word.canonical := by
  have addressFields := word.ofAddress_fields
  have registerByteFields := word.ofRegisterByte_fields
  unfold ofWord? at known
  split at known
  case h_1 system =>
    cases known
    exact encode_ofSystemWord word system
  case h_9 group => exact encode_of_ofRegisterWord? word instruction group known
  case h_14 group =>
    cases known
    have registerFields := word.ofRegisters_fields
    rw [group] at registerFields
    simp [Word.canonical, group, encode, Nat.mod_eq_of_lt word.last_lt, registerFields]
  case h_15 group =>
    rw [encode_of_ofKeypadWord? word instruction group known]
    simp [Word.canonical, group]
  case h_16 =>
    have bound := word.lead_lt
    have group : word.lead = 0xF := by
      simp only [imp_false] at *
      omega
    rw [encode_of_ofDeviceWord? word instruction group known]
    simp [Word.canonical, group]
  -- The other groups hold one instruction each; in 5 and 9 the last digit is dropped.
  all_goals
    rename_i group
    rw [group] at addressFields registerByteFields
    cases known
    simp [Word.canonical, Word.sub_last_eq, group, encode, addressFields, registerByteFields]

/-! ### Words without an instruction -/

theorem ofRegisterWord?_eq_none_iff (word : Word) :
    ofRegisterWord? word = none ↔
      0x8 ≤ word.last ∧ word.last ≤ 0xD ∨ word.last = 0xF := by
  have bound := word.last_lt
  unfold ofRegisterWord?
  split
  all_goals simp_all
  omega

theorem ofKeypadWord?_eq_none_iff (word : Word) :
    ofKeypadWord? word = none ↔ word.byte ∉ [0x9E, 0xA1] := by
  unfold ofKeypadWord?
  split
  all_goals simp_all [← UInt8.toNat_inj]

theorem ofDeviceWord?_eq_none_iff (word : Word) :
    ofDeviceWord? word = none ↔
      word.byte ∉ [0x07, 0x0A, 0x15, 0x18, 0x1E, 0x29, 0x33, 0x55, 0x65] := by
  unfold ofDeviceWord?
  split
  all_goals simp_all [← UInt8.toNat_inj]

theorem ofWord?_eq_none_iff (word : Word) : ofWord? word = none ↔ word.Unassigned := by
  unfold ofWord? Word.Unassigned
  split
  case h_9 group => simp [group, ofRegisterWord?_eq_none_iff]
  case h_15 group => simp [group, ofKeypadWord?_eq_none_iff]
  case h_16 =>
    have bound := word.lead_lt
    have group : word.lead = 0xF := by
      simp only [imp_false] at *
      omega
    simp [group, ofDeviceWord?_eq_none_iff]
  all_goals
    rename_i group
    simp [group]

end Instruction

theorem Word.canonical_eq_self_iff (word : Word) :
    word.canonical = word ↔ ¬ word.NonCanonical := by
  unfold canonical NonCanonical
  by_cases system : word.lead = 0x0 ∧ (word.byte = 0xE0 ∨ word.byte = 0xEE)
  · rw [if_pos system, sub_x_eq, ofRegisterByte_zero_eq_iff]
    simp [system]
  · rw [if_neg system]
    by_cases skips : word.lead = 0x5 ∨ word.lead = 0x9
    · have otherGroup : word.lead ≠ 0x0 ∧ word.lead ≠ 0x8 := by omega
      rw [if_pos skips, sub_last_eq, ofRegisters_zero_last_eq_iff]
      simp [skips, otherGroup]
    · rw [if_neg skips]
      by_cases shifts : word.lead = 0x8 ∧ (word.last = 0x6 ∨ word.last = 0xE)
      · rw [if_pos shifts, sub_y_eq, ofRegisters_zero_y_eq_iff]
        simp [shifts]
      · rw [if_neg shifts, iff_true_left rfl]
        rintro (⟨group, byte, _⟩ | ⟨group, _⟩ | ⟨group, last, _⟩)
        · exact system ⟨group, byte⟩
        · exact skips group
        · exact shifts ⟨group, last⟩

namespace Instruction

/-- Encoding and decoding undo each other, up to the operands that are too wide for their fields, the
calls into host code that share the word of another instruction, and the digits that an instruction
ignores. Exactly the unassigned words are refused. -/
theorem decode_encode_and_encode_decode :
    (∀ instruction : Instruction,
      decode instruction.encode = .ok instruction.narrowed ↔ ¬ instruction.Shadowed) ∧
      (∀ address : UInt16, address.toNat % 256 = 0xE0 →
        decode (encode (.system address)) = .ok .clear) ∧
        (∀ address : UInt16, address.toNat % 256 = 0xEE →
          decode (encode (.system address)) = .ok .leave) ∧
          (∀ (word : Word) (instruction : Instruction), decode word = .ok instruction →
            instruction.InRange ∧ (instruction.encode = word ↔ ¬ word.NonCanonical) ∧
              (word.NonCanonical → instruction.encode = word.canonical ∧
                decode instruction.encode = .ok instruction)) ∧
            ∀ (word : Word) (fault : Fault),
              decode word = .error fault ↔ word.Unassigned ∧ fault = .unknownOpcode word := by
  refine ⟨?_, ?_, ?_, ?_, ?_⟩
  · intro instruction
    rw [decode_eq_ok_iff, ofWord?_encode_eq_narrowed_iff]
  · intro address clears
    rw [decode_eq_ok_iff, ofWord?_encode_system, if_pos clears]
  · intro address leaves
    rw [decode_eq_ok_iff, ofWord?_encode_system, if_neg (by omega), if_pos leaves]
  · intro word instruction decoded
    rw [decode_eq_ok_iff] at decoded
    have inRange := inRange_of_ofWord? word instruction decoded
    have encoded := encode_of_ofWord? word instruction decoded
    refine ⟨inRange, ?_, ?_⟩
    · rw [encoded, Word.canonical_eq_self_iff]
    · intro _nonCanonical
      refine ⟨encoded, ?_⟩
      rw [decode_eq_ok_iff, ofWord?_encode _ (not_shadowed_of_ofWord? word instruction decoded),
        narrowed_of_inRange instruction inRange]
  · intro word fault
    rw [decode_eq_error_iff, ofWord?_eq_none_iff]

/-- A shift whose ignored digit is not zero. -/
theorem decode_encode_and_encode_decode_of_shift :
    decode 0x8BA6 = .ok (.shiftRight 0xB) ∧ Word.NonCanonical 0x8BA6 ∧
      encode (.shiftRight 0xB) = Word.canonical 0x8BA6 := by
  have decoded : decode 0x8BA6 = .ok (.shiftRight 0xB) := rfl
  have ignored : Word.NonCanonical 0x8BA6 := Or.inr (Or.inr (by decide))
  have facts := decode_encode_and_encode_decode.2.2.2.1 0x8BA6 (.shiftRight 0xB) decoded
  exact ⟨decoded, ignored, (facts.2.2 ignored).1⟩

end Instruction

end ChipEight
