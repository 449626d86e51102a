import ChipEight.Instruction.Basic
import ChipEight.Proofs.Text.Numerals

set_option autoImplicit false

/-!
Reading assembly text back.

An operand is told by its characters, a mnemonic by its operation and its operands, and an instruction
by its mnemonic, so two instructions never share a text. Neither the width of an operand nor the number
of operations with one name matters for this.
-/

namespace ChipEight

/-! ### Operands -/

/-- The operand that a text names: a row count has decimal digits only, and a hexadecimal number with a
mark is a byte if it has two digits and an address if it has more. -/
def Operand.read? (characters : List Char) : Option Operand :=
  if characters.all Char.isDigit then
    some (.rows (UInt8.ofNat (Nat.ofDigitChars 10 characters 0)))
  else
    match characters with
    | 'V' :: digits => some (.register (UInt8.ofNat (Hex.value digits)))
    | '0' :: 'x' :: digits =>
        if digits.length = 2 then some (.byte (UInt8.ofNat (Hex.value digits)))
        else some (.address (UInt16.ofNat (Hex.value digits)))
    | ['I'] => some .index
    | ['[', 'I', ']'] => some .memoryAtIndex
    | ['D', 'T'] => some .delayTimer
    | ['S', 'T'] => some .soundTimer
    | ['K'] => some .key
    | ['F'] => some .glyph
    | ['B'] => some .decimal
    | _ => none

namespace Operand

theorem toList_text_register (number : UInt8) :
    (Operand.register number).text.toList = 'V' :: Hex.padded 1 number.toNat := by
  simp [text, Hex.text]

theorem toList_text_byte (value : UInt8) :
    (Operand.byte value).text.toList = '0' :: 'x' :: Hex.padded 2 value.toNat := by
  simp [text, Hex.marked, Hex.text]

theorem toList_text_address (value : UInt16) :
    (Operand.address value).text.toList = '0' :: 'x' :: Hex.padded 3 value.toNat := by
  simp [text, Hex.marked, Hex.text]

theorem toList_text_rows (count : UInt8) :
    (Operand.rows count).text.toList = Nat.toDigits 10 count.toNat := by
  simp [text]

theorem read?_register (number : UInt8) :
    read? ('V' :: Hex.padded 1 number.toNat) = some (.register number) := by
  unfold read?
  rw [if_neg (by simp [Char.isDigit])]
  simp only [Hex.value_padded, UInt8.ofNat_toNat]

theorem read?_byte (value : UInt8) :
    read? ('0' :: 'x' :: Hex.padded 2 value.toNat) = some (.byte value) := by
  have two : (Hex.padded 2 value.toNat).length = 2 :=
    Hex.length_padded (by decide) value.toNat_lt
  unfold read?
  rw [if_neg (by simp [Char.isDigit])]
  simp only [two, if_true, Hex.value_padded, UInt8.ofNat_toNat]

theorem read?_address (value : UInt16) :
    read? ('0' :: 'x' :: Hex.padded 3 value.toNat) = some (.address value) := by
  -- Addresses above `FFF` have more than three digits, but none has as few as a byte.
  have longer : (Hex.padded 3 value.toNat).length ≠ 2 := by
    have three := Hex.le_length_padded 3 value.toNat
    omega
  unfold read?
  rw [if_neg (by simp [Char.isDigit])]
  simp only [longer, if_false, Hex.value_padded, UInt16.ofNat_toNat]

theorem read?_rows (count : UInt8) :
    read? (Nat.toDigits 10 count.toNat) = some (.rows count) := by
  have allDigits : (Nat.toDigits 10 count.toNat).all Char.isDigit = true := by
    rw [List.all_eq_true]
    intro character member
    exact Nat.isDigit_of_mem_toDigits (by decide) (by decide) member
  unfold read?
  rw [if_pos allDigits, Nat.ofDigitChars_toDigits (by decide) (by decide), UInt8.ofNat_toNat]

/-- Reading the text of an operand gives the operand. -/
theorem read?_text (operand : Operand) : read? operand.text.toList = some operand := by
  cases operand with
  | register number => rw [toList_text_register, read?_register]
  | byte value => rw [toList_text_byte, read?_byte]
  | address value => rw [toList_text_address, read?_address]
  | rows count => rw [toList_text_rows, read?_rows]
  | _ => rfl

theorem text_injective {left right : Operand} (same : left.text.toList = right.text.toList) :
    left = right := by
  have found := read?_text left
  rw [same, read?_text right] at found
  exact (Option.some.inj found).symm

/-- No operand has a comma in its text. -/
theorem comma_not_mem_text (operand : Operand) : ',' ∉ operand.text.toList := by
  have foreign : ',' ∉ Hex.alphabet := by decide
  cases operand with
  | register number =>
      rw [toList_text_register]
      simp [Hex.not_mem_padded foreign]
  | byte value =>
      rw [toList_text_byte]
      simp [Hex.not_mem_padded foreign]
  | address value =>
      rw [toList_text_address]
      simp [Hex.not_mem_padded foreign]
  | rows count =>
      rw [toList_text_rows]
      intro member
      have digit := Nat.isDigit_of_mem_toDigits (by decide) (by decide) member
      exact absurd digit (by decide)
  | _ => decide

end Operand

/-! ### Lists of operands -/

namespace Mnemonic

def furtherOperands : List Operand → List Char
  | [] => []
  | next :: rest => ',' :: ' ' :: (next.text.toList ++ furtherOperands rest)

def allOperands : List Operand → List Char
  | [] => []
  | first :: rest => ' ' :: (first.text.toList ++ furtherOperands rest)

theorem toList_operandText_cons (first : Operand) (rest : List Operand) :
    (operandText (first :: rest)).toList = first.text.toList ++ furtherOperands rest := by
  induction rest generalizing first with
  | nil => simp [operandText, furtherOperands]
  | cons next rest ih =>
      rw [operandText, String.toList_append, ih, furtherOperands]
      · simp
      · simp

theorem toList_text (mnemonic : Mnemonic) :
    mnemonic.text.toList = mnemonic.operation.toList ++ allOperands mnemonic.operands := by
  rcases mnemonic with ⟨operation, operands⟩
  cases operands with
  | nil => simp [text, allOperands]
  | cons first rest =>
      simp [text, allOperands, toList_operandText_cons]

theorem head_furtherOperands (operands : List Operand) :
    ∀ first ∈ (furtherOperands operands).head?, first = ',' := by
  cases operands <;> simp [furtherOperands]

theorem head_allOperands (operands : List Operand) :
    ∀ first ∈ (allOperands operands).head?, first = ' ' := by
  cases operands <;> simp [allOperands]

theorem append_furtherOperands_inj {first otherFirst : Operand} {rest otherRest : List Operand}
    (same : first.text.toList ++ furtherOperands rest =
      otherFirst.text.toList ++ furtherOperands otherRest) :
    first = otherFirst ∧ furtherOperands rest = furtherOperands otherRest := by
  have parts := Text.append_inj_of_separator first.comma_not_mem_text
    otherFirst.comma_not_mem_text (head_furtherOperands rest) (head_furtherOperands otherRest) same
  exact ⟨Operand.text_injective parts.1, parts.2⟩

theorem furtherOperands_injective {left right : List Operand}
    (same : furtherOperands left = furtherOperands right) : left = right := by
  induction left generalizing right with
  | nil =>
      cases right with
      | nil => rfl
      | cons next rest => cases same
  | cons next rest ih =>
      cases right with
      | nil => cases same
      | cons otherNext otherRest =>
          simp only [furtherOperands, List.cons.injEq, true_and] at same
          obtain ⟨rfl, sameRest⟩ := append_furtherOperands_inj same
          rw [ih sameRest]

theorem allOperands_injective {left right : List Operand}
    (same : allOperands left = allOperands right) : left = right := by
  cases left with
  | nil =>
      cases right with
      | nil => rfl
      | cons first rest => cases same
  | cons first rest =>
      cases right with
      | nil => cases same
      | cons otherFirst otherRest =>
          simp only [allOperands, List.cons.injEq, true_and] at same
          obtain ⟨rfl, sameRest⟩ := append_furtherOperands_inj same
          rw [furtherOperands_injective sameRest]

/-- Mnemonics whose operations have no blank are told apart by their texts. -/
theorem eq_of_text_eq {left right : Mnemonic} (leftWord : ' ' ∉ left.operation.toList)
    (rightWord : ' ' ∉ right.operation.toList) (same : left.text = right.text) : left = right := by
  have sameCharacters := congrArg String.toList same
  rw [toList_text, toList_text] at sameCharacters
  obtain ⟨sameOperation, sameOperands⟩ := Text.append_inj_of_separator leftWord rightWord
    (head_allOperands _) (head_allOperands _) sameCharacters
  rcases left with ⟨operation, operands⟩
  rcases right with ⟨otherOperation, otherOperands⟩
  rw [mk.injEq]
  exact ⟨String.toList_injective sameOperation, allOperands_injective sameOperands⟩

/-! ### Instructions -/

def instruction? : Mnemonic → Option Instruction
  | ⟨"SYS", [.address address]⟩ => some (.system address)
  | ⟨"CLS", []⟩ => some .clear
  | ⟨"RET", []⟩ => some .leave
  | ⟨"JP", [.address address]⟩ => some (.jump address)
  | ⟨"JP", [.register 0, .address address]⟩ => some (.jumpOffset address)
  | ⟨"CALL", [.address address]⟩ => some (.call address)
  | ⟨"SE", [.register x, .byte byte]⟩ => some (.skipEqualByte x byte)
  | ⟨"SE", [.register x, .register y]⟩ => some (.skipEqual x y)
  | ⟨"SNE", [.register x, .byte byte]⟩ => some (.skipUnequalByte x byte)
  | ⟨"SNE", [.register x, .register y]⟩ => some (.skipUnequal x y)
  | ⟨"LD", [.register x, .byte byte]⟩ => some (.setByte x byte)
  | ⟨"LD", [.register x, .register y]⟩ => some (.copy x y)
  | ⟨"LD", [.register x, .delayTimer]⟩ => some (.readDelay x)
  | ⟨"LD", [.register x, .key]⟩ => some (.awaitKey x)
  | ⟨"LD", [.register x, .memoryAtIndex]⟩ => some (.loadRegisters x)
  | ⟨"LD", [.index, .address address]⟩ => some (.setIndex address)
  | ⟨"LD", [.delayTimer, .register x]⟩ => some (.setDelay x)
  | ⟨"LD", [.soundTimer, .register x]⟩ => some (.setSound x)
  | ⟨"LD", [.glyph, .register x]⟩ => some (.pointGlyph x)
  | ⟨"LD", [.decimal, .register x]⟩ => some (.storeDecimal x)
  | ⟨"LD", [.memoryAtIndex, .register x]⟩ => some (.storeRegisters x)
  | ⟨"ADD", [.register x, .byte byte]⟩ => some (.addByte x byte)
  | ⟨"ADD", [.register x, .register y]⟩ => some (.add x y)
  | ⟨"ADD", [.index, .register x]⟩ => some (.addIndex x)
  | ⟨"OR", [.register x, .register y]⟩ => some (.disjoin x y)
  | ⟨"AND", [.register x, .register y]⟩ => some (.conjoin x y)
  | ⟨"XOR", [.register x, .register y]⟩ => some (.exclude x y)
  | ⟨"SUB", [.register x, .register y]⟩ => some (.subtract x y)
  | ⟨"SUBN", [.register x, .register y]⟩ => some (.subtractFrom x y)
  | ⟨"SHR", [.register x]⟩ => some (.shiftRight x)
  | ⟨"SHL", [.register x]⟩ => some (.shiftLeft x)
  | ⟨"RND", [.register x, .byte mask]⟩ => some (.random x mask)
  | ⟨"DRW", [.register x, .register y, .rows rows]⟩ => some (.draw x y rows)
  | ⟨"SKP", [.register x]⟩ => some (.skipHeld x)
  | ⟨"SKNP", [.register x]⟩ => some (.skipReleased x)
  | _ => none

end Mnemonic

namespace Instruction

theorem instruction?_mnemonic (instruction : Instruction) :
    instruction.mnemonic.instruction? = some instruction := by
  cases instruction <;> rfl

theorem mnemonic_injective {left right : Instruction} (same : left.mnemonic = right.mnemonic) :
    left = right := by
  have found := instruction?_mnemonic left
  rw [same, instruction?_mnemonic right] at found
  exact (Option.some.inj found).symm

theorem blank_not_mem_operation (instruction : Instruction) :
    ' ' ∉ instruction.mnemonic.operation.toList := by
  cases instruction <;> simp [mnemonic]

/-- Instructions are told apart by their texts, whatever the width of their operands. -/
theorem text_eq_iff (left right : Instruction) : left.text = right.text ↔ left = right := by
  constructor
  · intro same
    exact mnemonic_injective (Mnemonic.eq_of_text_eq left.blank_not_mem_operation
      right.blank_not_mem_operation same)
  · rintro rfl
    rfl

end Instruction

end ChipEight
