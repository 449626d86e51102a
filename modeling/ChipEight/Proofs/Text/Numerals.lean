import ChipEight.Text.Numeral
import Mathlib.Data.List.Basic

set_option autoImplicit false

/-!
Numerals as parts of longer texts, and what a numeral denotes.

A numeral holds digits only and is as long as its width asks for, so a reader can tell where it ends. A
text that was put together from a front without a separator and a back that starts with the separator
can be taken apart in one way only.

Reading goes digit by digit and gives up as soon as the number is above the limit. A number only grows
with more digits, so reading succeeds exactly if all characters are digits and the whole number is within
the limit, however many zeros are in front (`readDigits_eq_ok_iff`).
-/

namespace ChipEight

/-! ### Parts of longer texts -/

namespace Hex

def alphabet : List Char :=
  ['0', '1', '2', '3', '4', '5', '6', '7', '8', '9', 'A', 'B', 'C', 'D', 'E', 'F']

theorem digitChar_toUpper_mem_alphabet : ∀ {digit : Nat}, digit < 16 →
    (Nat.digitChar digit).toUpper ∈ alphabet := by
  decide

theorem digits_subset_alphabet (number : Nat) : digits number ⊆ alphabet := by
  induction number using Nat.strongRecOn with
  | ind number before =>
      intro digit member
      rw [digits, Nat.toDigits_eq_if (by decide)] at member
      by_cases small : number < 16
      · rw [if_pos small, List.map_singleton, List.mem_singleton] at member
        rw [member]
        exact digitChar_toUpper_mem_alphabet small
      · rw [if_neg small, List.map_append, List.mem_append] at member
        rcases member with front | last
        · exact before (number / 16) (by omega) front
        · rw [List.map_singleton, List.mem_singleton] at last
          rw [last]
          exact digitChar_toUpper_mem_alphabet (Nat.mod_lt _ (by decide))

theorem padded_subset_alphabet (width number : Nat) : padded width number ⊆ alphabet := by
  intro digit member
  rw [padded, List.leftpad, List.mem_append] at member
  rcases member with zero | digit
  · rw [List.eq_of_mem_replicate zero]
    decide
  · exact digits_subset_alphabet number digit

theorem not_mem_padded {character : Char} (foreign : character ∉ alphabet) (width number : Nat) :
    character ∉ padded width number :=
  fun member => foreign (padded_subset_alphabet width number member)

theorem le_length_padded (width number : Nat) : width ≤ (padded width number).length := by
  rw [padded, List.length_leftpad]
  exact Nat.le_max_left _ _

/-- A number that fits the width of its numeral fills it exactly. -/
theorem length_padded {width number : Nat} (positive : 0 < width) (small : number < Nat.pow 16 width) :
    (padded width number).length = width := by
  rw [padded, List.length_leftpad, digits, List.length_map]
  exact Nat.max_eq_left ((Nat.length_toDigits_le_iff (by decide) positive).mpr small)

end Hex

namespace Text

/-- A front without the separator ends where the separator comes first. -/
theorem append_inj_of_separator {separator : Char} {front otherFront back otherBack : List Char}
    (clean : separator ∉ front) (otherClean : separator ∉ otherFront)
    (starts : ∀ first ∈ back.head?, first = separator)
    (otherStarts : ∀ first ∈ otherBack.head?, first = separator)
    (same : front ++ back = otherFront ++ otherBack) : front = otherFront ∧ back = otherBack := by
  -- The fronts end together: otherwise the separator of one text lies in the front of the other.
  induction front generalizing otherFront with
  | nil =>
      cases otherFront with
      | nil => exact ⟨rfl, same⟩
      | cons first _ =>
          have separates := starts first (by rw [show back = _ from same]; rfl)
          rw [separates] at otherClean
          exact absurd List.mem_cons_self otherClean
  | cons first rest ih =>
      cases otherFront with
      | nil =>
          have separates := otherStarts first (by rw [show otherBack = _ from same.symm]; rfl)
          rw [separates] at clean
          exact absurd List.mem_cons_self clean
      | cons otherFirst otherRest =>
          rw [List.cons_append, List.cons_append, List.cons.injEq] at same
          obtain ⟨sameFirst, sameRest⟩ := same
          have later := ih (fun member => clean (List.mem_cons_of_mem _ member))
            (fun member => otherClean (List.mem_cons_of_mem _ member)) sameRest
          exact ⟨by rw [sameFirst, later.1], later.2⟩

end Text

/-! ### Reading -/

namespace Numeral

variable (radix limit : Nat)

/-- The number that digits make up behind those that make up `total`. -/
def totalOf (total : Nat) (digits : List Char) : Nat :=
  digits.foldl (fun total digit => total * radix + (digit? radix digit).getD 0) total

theorem digit?_plus : digit? radix '+' = none :=
  if_neg (Nat.lt_irrefl radix)

theorem le_totalOf (positive : 0 < radix) (total : Nat) (digits : List Char) :
    total ≤ totalOf radix total digits := by
  induction digits generalizing total with
  | nil => exact Nat.le_refl total
  | cons digit rest ih =>
      have grows : total ≤ total * radix + (digit? radix digit).getD 0 :=
        Nat.le_trans (Nat.le_mul_of_pos_right total positive) (Nat.le_add_right _ _)
      exact Nat.le_trans grows (ih _)

theorem readDigits_cons_of_none (total : Nat) (character : Char) (rest : List Char)
    (foreign : digit? radix character = none) :
    readDigits radix limit total (character :: rest) = .error .invalidDigit := by
  simp only [readDigits, foreign]

theorem readDigits_cons_of_some (total digit : Nat) (character : Char) (rest : List Char)
    (found : digit? radix character = some digit) :
    readDigits radix limit total (character :: rest) =
      if total * radix + digit ≤ limit then readDigits radix limit (total * radix + digit) rest
      else .error .tooLarge := by
  simp only [readDigits, found]

theorem readDigits_eq_ok_iff (positive : 0 < radix) (total number : Nat) (start : total ≤ limit)
    (digits : List Char) :
    readDigits radix limit total digits = .ok number ↔
      (∀ digit ∈ digits, digit? radix digit ≠ none) ∧ totalOf radix total digits = number ∧
        number ≤ limit := by
  induction digits generalizing total with
  | nil =>
      rw [readDigits, Except.ok.injEq]
      constructor
      · intro same
        exact ⟨List.forall_mem_nil _, same, same ▸ start⟩
      · intro whole
        exact whole.2.1
  | cons character rest ih =>
      rw [List.forall_mem_cons]
      cases found : digit? radix character with
      | none =>
          rw [readDigits_cons_of_none radix limit total character rest found]
          constructor
          · intro impossible
            cases impossible
          · intro whole
            exact absurd rfl whole.1.1
      | some digit =>
          have same : totalOf radix total (character :: rest) =
              totalOf radix (total * radix + digit) rest := by
            rw [totalOf, List.foldl_cons, found]
            rfl
          rw [readDigits_cons_of_some radix limit total digit character rest found, same]
          by_cases within : total * radix + digit ≤ limit
          · rw [if_pos within, ih _ within]
            simp only [ne_eq, reduceCtorEq, not_false_eq_true, true_and]
          · rw [if_neg within]
            constructor
            · intro impossible
              cases impossible
            · intro whole
              have below := le_totalOf radix positive (total * radix + digit) rest
              rw [whole.2.1] at below
              exact absurd (Nat.le_trans below whole.2.2) within

/-- One plus sign is allowed in front of the digits. -/
theorem read_eq_ok_iff (number : Nat) (text : String) :
    read radix limit text = .ok number ↔
      ∃ digits, (text.toList = digits ∨ text.toList = '+' :: digits) ∧ digits ≠ [] ∧
        readDigits radix limit 0 digits = .ok number := by
  have signed : ∀ rest, readDigits radix limit 0 ('+' :: rest) ≠ .ok number := by
    intro rest same
    rw [readDigits_cons_of_none radix limit 0 '+' rest (digit?_plus radix)] at same
    cases same
  rw [read]
  generalize text.toList = characters
  constructor
  · intro accepted
    split at accepted
    · cases accepted
    · cases accepted
    · rename_i digits lone
      refine ⟨digits, Or.inr rfl, ?_, accepted⟩
      rintro rfl
      exact lone rfl
    · rename_i nonempty _lone _unsigned
      exact ⟨characters, Or.inl rfl, nonempty, accepted⟩
  · intro accepted
    obtain ⟨digits, form, nonempty, value⟩ := accepted
    rcases form with rfl | rfl
    · split
      · exact absurd rfl nonempty
      · exact absurd value (signed _)
      · exact absurd value (signed _)
      · exact value
    · cases digits with
      | nil => exact absurd rfl nonempty
      | cons first rest => exact value

/-- Reading, in terms of other names for the digits of the radix and for the number that they make up. -/
theorem read_eq_ok_iff_of_digits (positive : 0 < radix) (number : Nat) (text : String)
    {isDigit : Char → Prop} {value : List Char → Nat}
    (digits : ∀ character, digit? radix character ≠ none ↔ isDigit character)
    (values : ∀ numeral, (∀ digit ∈ numeral, isDigit digit) → totalOf radix 0 numeral = value numeral) :
    read radix limit text = .ok number ↔
      (∃ numeral, (text.toList = numeral ∨ text.toList = '+' :: numeral) ∧ numeral ≠ [] ∧
        (∀ digit ∈ numeral, isDigit digit) ∧ value numeral = number) ∧ number ≤ limit := by
  have digitwise : ∀ numeral, readDigits radix limit 0 numeral = .ok number ↔
      (∀ digit ∈ numeral, isDigit digit) ∧ value numeral = number ∧ number ≤ limit := by
    intro numeral
    rw [readDigits_eq_ok_iff radix limit positive 0 number (Nat.zero_le limit)]
    simp only [digits]
    apply and_congr_right
    intro all
    rw [values numeral all]
  rw [read_eq_ok_iff]
  simp only [digitwise]
  constructor
  · intro accepted
    obtain ⟨numeral, form, nonempty, all, same, within⟩ := accepted
    exact ⟨⟨numeral, form, nonempty, all, same⟩, within⟩
  · intro denoted
    obtain ⟨⟨numeral, form, nonempty, all, same⟩, within⟩ := denoted
    exact ⟨numeral, form, nonempty, all, same, within⟩

end Numeral

namespace Decimal

theorem digit?_ten (character : Char) :
    Numeral.digit? 10 character =
      if character.isDigit = true then some (character.toNat - '0'.toNat) else none := by
  rw [Numeral.digit?]
  by_cases digit : character.isDigit = true
  · have between : 48 ≤ character.toNat ∧ character.toNat ≤ 57 := Char.isDigit_iff_toNat.mp digit
    have small : character.toNat - 48 < 10 := by omega
    rw [if_pos digit, if_pos digit]
    exact if_pos small
  · rw [if_neg digit, if_neg digit]
    refine if_neg (Nat.not_lt.mpr ?_)
    split
    · rename_i letter
      have above : 97 ≤ character.toNat := UInt32.le_iff_toNat_le.mp (Char.le_def.mp letter.1)
      omega
    · split
      · rename_i letter
        have above : 65 ≤ character.toNat := UInt32.le_iff_toNat_le.mp (Char.le_def.mp letter.1)
        omega
      · exact Nat.le_refl 10

/-- The number of a text that is one or more decimal digits, behind a plus sign or not. -/
def Denotes (text : String) (number : Nat) : Prop :=
  ∃ digits : List Char, (text.toList = digits ∨ text.toList = '+' :: digits) ∧ digits ≠ [] ∧
    (∀ digit ∈ digits, digit.isDigit = true) ∧ Nat.ofDigitChars 10 digits 0 = number

theorem digit?_ten_ne_none_iff (character : Char) :
    Numeral.digit? 10 character ≠ none ↔ character.isDigit = true := by
  rw [digit?_ten]
  split
  · rename_i digit
    exact iff_of_true (Option.some_ne_none _) digit
  · rename_i foreign
    exact iff_of_false (fun found => found rfl) foreign

theorem totalOf_ten (digits : List Char) (all : ∀ digit ∈ digits, digit.isDigit = true) :
    Numeral.totalOf 10 0 digits = Nat.ofDigitChars 10 digits 0 := by
  rw [Numeral.totalOf, Nat.ofDigitChars]
  apply List.foldl_ext
  intro total digit member
  rw [digit?_ten, if_pos (all digit member), Nat.mul_comm]
  rfl

theorem read_ten_eq_ok_iff (limit number : Nat) (text : String) :
    Numeral.read 10 limit text = .ok number ↔ Denotes text number ∧ number ≤ limit :=
  Numeral.read_eq_ok_iff_of_digits 10 limit (by decide) number text digit?_ten_ne_none_iff totalOf_ten

end Decimal

namespace Hex

theorem digit?_sixteen (character : Char) :
    Numeral.digit? 16 character =
      if character.toUpper ∈ alphabet then some (digitValue character.toUpper) else none := by
  by_cases ascii : character.toNat < 128
  · have each : ∀ code : Fin 128, Numeral.digit? 16 (Char.ofNat code) =
        if (Char.ofNat code).toUpper ∈ alphabet then some (digitValue (Char.ofNat code).toUpper)
        else none := by
      decide +kernel
    have this := each ⟨character.toNat, ascii⟩
    rwa [Char.ofNat_toNat] at this
  · have low : ∀ letter ∈ alphabet, letter.toNat < 128 := by simp [alphabet]
    have beyond : ∀ limit : Char, limit.toNat < 128 → ¬ character ≤ limit := by
      intro limit small below
      exact ascii (Nat.lt_of_le_of_lt (UInt32.le_iff_toNat_le.mp (Char.le_def.mp below)) small)
    have same : character.toUpper = character :=
      dif_neg fun between => beyond 'z' (by decide) between.2
    have foreign : character.toUpper ∉ alphabet := by
      rw [same]
      intro member
      exact ascii (low character member)
    have digitless : ¬ character.isDigit = true := by
      rw [Char.isDigit_iff_toNat]
      intro between
      exact ascii (Nat.lt_of_le_of_lt between.2 (by decide))
    have small : ¬ ('a' ≤ character ∧ character ≤ 'z') := fun between =>
      beyond 'z' (by decide) between.2
    have capital : ¬ ('A' ≤ character ∧ character ≤ 'Z') := fun between =>
      beyond 'Z' (by decide) between.2
    rw [if_neg foreign, Numeral.digit?, if_neg digitless, if_neg small, if_neg capital]
    rfl

/-- The number of a text that is one or more hexadecimal digits of either case, behind a plus sign or
not. -/
def Denotes (text : String) (number : Nat) : Prop :=
  ∃ digits : List Char, (text.toList = digits ∨ text.toList = '+' :: digits) ∧ digits ≠ [] ∧
    (∀ digit ∈ digits, digit.toUpper ∈ alphabet) ∧ value (digits.map Char.toUpper) = number

theorem digit?_ne_none_iff (character : Char) :
    Numeral.digit? 16 character ≠ none ↔ character.toUpper ∈ alphabet := by
  rw [digit?_sixteen]
  split
  · rename_i member
    exact iff_of_true (Option.some_ne_none _) member
  · rename_i foreign
    exact iff_of_false (fun found => found rfl) foreign

theorem totalOf_sixteen (digits : List Char) (all : ∀ digit ∈ digits, digit.toUpper ∈ alphabet) :
    Numeral.totalOf 16 0 digits = value (digits.map Char.toUpper) := by
  rw [Numeral.totalOf, value, List.foldl_map]
  apply List.foldl_ext
  intro total digit member
  rw [digit?_sixteen, if_pos (all digit member), Nat.mul_comm]
  rfl

theorem read_sixteen_eq_ok_iff (limit number : Nat) (text : String) :
    Numeral.read 16 limit text = .ok number ↔ Denotes text number ∧ number ≤ limit :=
  Numeral.read_eq_ok_iff_of_digits 16 limit (by decide) number text digit?_ne_none_iff totalOf_sixteen

end Hex

end ChipEight
