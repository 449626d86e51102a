set_option autoImplicit false

/-!
Numerals, written and read.

Hexadecimal numerals are written in upper case, as a list of characters with the most significant digit
first; `text` and `marked` are their forms as strings, without and with the `0x` mark. `value` reads such
a numeral back, and `value_padded` says that padding with zeros loses nothing, so the numeral of a number
determines the number.

A numeral that is read is an optional plus sign and one or more digits; zeros in front are allowed. Digits
are read from the left, and the first that is wrong decides: either it is no digit, or the number that it
completes is above the limit.
-/

namespace ChipEight.Hex

def digits (number : Nat) : List Char :=
  (Nat.toDigits 16 number).map Char.toUpper

def padded (width number : Nat) : List Char :=
  (digits number).leftpad width '0'

def text (width number : Nat) : String :=
  String.ofList (padded width number)

def marked (width number : Nat) : String :=
  "0x" ++ text width number

/-- The value of an upper-case digit; other characters count as zero. -/
def digitValue (digit : Char) : Nat :=
  if digit.isDigit then digit.toNat - 48
  else if 'A' ≤ digit ∧ digit ≤ 'F' then digit.toNat - 55
  else 0

def value (numeral : List Char) : Nat :=
  numeral.foldl (fun total digit => 16 * total + digitValue digit) 0

theorem digitValue_toUpper_digitChar : ∀ {digit : Nat}, digit < 16 →
    digitValue (Nat.digitChar digit).toUpper = digit := by
  decide

private theorem foldl_append_digit (front : List Char) (last : Char) :
    value (front ++ [last]) = 16 * value front + digitValue last := by
  simp [value, List.foldl_append]

theorem value_digits (number : Nat) : value (digits number) = number := by
  induction number using Nat.strongRecOn with
  | ind number before =>
      by_cases small : number < 16
      · simpa [digits, value, Nat.toDigits_of_lt_base small] using
          digitValue_toUpper_digitChar small
      · have split := Nat.toDigits_of_base_le (b := 16) (n := number) (by decide) (by omega)
        have front := before (number / 16) (by omega)
        have last := digitValue_toUpper_digitChar (Nat.mod_lt number (by decide : 0 < 16))
        rw [digits] at front
        rw [digits, split, List.map_append, List.map_singleton, foldl_append_digit, front, last]
        omega

/-- Zeros in front do not change the value of a numeral. -/
theorem value_padded (width number : Nat) : value (padded width number) = number := by
  have zeros : ∀ count : Nat,
      (List.replicate count '0').foldl (fun total digit => 16 * total + digitValue digit) 0 = 0 := by
    intro count
    induction count with
    | zero => rfl
    | succ count before => simpa [List.replicate_succ, List.foldl_cons, digitValue] using before
  have plain := value_digits number
  simp only [value] at plain
  simp [value, padded, List.leftpad, List.foldl_append, zeros, plain]

theorem padded_injective (width : Nat) {left right : Nat}
    (same : padded width left = padded width right) : left = right := by
  rw [← value_padded width left, same, value_padded]

theorem text_injective (width : Nat) {left right : Nat}
    (same : text width left = text width right) : left = right :=
  padded_injective width (String.ofList_injective same)

end ChipEight.Hex

namespace ChipEight.Numeral

inductive Failure where
  /-- There is no text at all. -/
  | empty
  /-- A character is no digit. -/
  | invalidDigit
  /-- The number is above the limit. -/
  | tooLarge
deriving DecidableEq, Repr

def Failure.message : Failure → String
  | .empty => "cannot parse integer from empty string"
  | .invalidDigit => "invalid digit found in string"
  | .tooLarge => "number too large to fit in target type"

/-- The value of a character as a digit, letters in either case. -/
def digit? (radix : Nat) (character : Char) : Option Nat :=
  let value :=
    if character.isDigit then character.toNat - 48
    else if 'a' ≤ character ∧ character ≤ 'z' then character.toNat - 87
    else if 'A' ≤ character ∧ character ≤ 'Z' then character.toNat - 55
    else radix
  if value < radix then some value else none

def readDigits (radix limit total : Nat) : List Char → Except Failure Nat
  | [] => .ok total
  | character :: rest =>
      match digit? radix character with
      | none => .error .invalidDigit
      | some digit =>
          let longer := total * radix + digit
          if longer ≤ limit then readDigits radix limit longer rest else .error .tooLarge

def read (radix limit : Nat) (text : String) : Except Failure Nat :=
  match text.toList with
  | [] => .error .empty
  | ['+'] => .error .invalidDigit
  | '+' :: digits => readDigits radix limit 0 digits
  | digits => readDigits radix limit 0 digits

end ChipEight.Numeral
