import ChipEight.CommandLine.Options
import ChipEight.Proofs.Text.Numerals

set_option autoImplicit false

/-!
Which texts name a key.

A key is named by a hexadecimal numeral of a number up to fifteen. A numeral of a greater byte is told
apart from all other texts, among them the numerals of numbers that are no bytes
(`readKey_by_numeral`).
-/

namespace ChipEight.CommandLine

theorem readKey_of_denotes (text : String) (number : Nat) (denoted : Hex.Denotes text number)
    (byte : number ≤ 255) :
    readKey text = if number ≤ 15 then .ok (UInt8.ofNat number) else .error (.outside number) := by
  have found := (Hex.read_sixteen_eq_ok_iff 255 number text).mpr ⟨denoted, byte⟩
  simp only [readKey, found]

theorem readKey_of_not_denotes (text : String)
    (foreign : ∀ number, Hex.Denotes text number → 255 < number) :
    readKey text = .error (.malformed text) := by
  cases found : Numeral.read 16 255 text with
  | ok number =>
      obtain ⟨denoted, byte⟩ := (Hex.read_sixteen_eq_ok_iff 255 number text).mp found
      exact absurd byte (Nat.not_le.mpr (foreign number denoted))
  | error failure =>
      simp only [readKey, found]

theorem exists_byte_or (text : String) :
    (∃ number, Hex.Denotes text number ∧ number ≤ 255) ∨
      ∀ number, Hex.Denotes text number → 255 < number := by
  by_cases byte : ∃ number, Hex.Denotes text number ∧ number ≤ 255
  · exact Or.inl byte
  · refine Or.inr fun number denoted => ?_
    by_contra small
    exact byte ⟨number, denoted, Nat.not_lt.mp small⟩

theorem readKey_eq_ok_iff (text : String) (key : UInt8) :
    readKey text = .ok key ↔ Hex.Denotes text key.toNat ∧ key.toNat ≤ 15 := by
  constructor
  · intro accepted
    rcases exists_byte_or text with ⟨number, denoted, byte⟩ | foreign
    · rw [readKey_of_denotes text number denoted byte] at accepted
      split at accepted
      · rename_i small
        cases accepted
        have same : (UInt8.ofNat number).toNat = number :=
          UInt8.toNat_ofNat_of_lt (Nat.lt_succ_of_le byte)
        rw [same]
        exact ⟨denoted, small⟩
      · cases accepted
    · rw [readKey_of_not_denotes text foreign] at accepted
      cases accepted
  · intro numeral
    obtain ⟨denoted, small⟩ := numeral
    rw [readKey_of_denotes text key.toNat denoted (Nat.le_trans small (by decide)), if_pos small,
      UInt8.ofNat_toNat]

theorem readKey_eq_outside_iff (text : String) (number : Nat) :
    readKey text = .error (.outside number) ↔
      Hex.Denotes text number ∧ 16 ≤ number ∧ number ≤ 255 := by
  constructor
  · intro rejected
    rcases exists_byte_or text with ⟨other, denoted, byte⟩ | foreign
    · rw [readKey_of_denotes text other denoted byte] at rejected
      split at rejected
      · cases rejected
      · rename_i large
        cases rejected
        exact ⟨denoted, Nat.not_le.mp large, byte⟩
    · rw [readKey_of_not_denotes text foreign] at rejected
      cases rejected
  · intro numeral
    obtain ⟨denoted, large, byte⟩ := numeral
    rw [readKey_of_denotes text number denoted byte, if_neg (Nat.not_le.mpr large)]

theorem readKey_eq_malformed_iff (text shown : String) :
    readKey text = .error (.malformed shown) ↔
      shown = text ∧ ∀ number, Hex.Denotes text number → 255 < number := by
  constructor
  · intro rejected
    rcases exists_byte_or text with ⟨number, denoted, byte⟩ | foreign
    · rw [readKey_of_denotes text number denoted byte] at rejected
      split at rejected <;> cases rejected
    · rw [readKey_of_not_denotes text foreign] at rejected
      cases rejected
      exact ⟨rfl, foreign⟩
  · intro other
    rw [other.1]
    exact readKey_of_not_denotes text other.2

theorem text_one_of_byte (number : Nat) (large : 16 ≤ number) (byte : number ≤ 255) :
    Hex.text 1 number =
      String.ofList [(Nat.digitChar (number / 16)).toUpper, (Nat.digitChar (number % 16)).toUpper] := by
  have short : number / 16 < 16 := Nat.div_lt_of_lt_mul (Nat.lt_succ_of_le byte)
  have digits : Nat.toDigits 16 number =
      [Nat.digitChar (number / 16), Nat.digitChar (number % 16)] := by
    rw [Nat.toDigits_of_base_le (by decide) large, Nat.toDigits_of_lt_base short]
    rfl
  rw [Hex.text, Hex.padded, Hex.digits, digits]
  rfl

/-- A key is named by its hexadecimal numerals, a greater byte in a numeral is named in the failure, and
all other texts are no numerals of a byte. -/
theorem readKey_by_numeral (text : String) :
    (∀ key : UInt8, readKey text = .ok key ↔ Hex.Denotes text key.toNat ∧ key.toNat ≤ 15) ∧
    (∀ number, readKey text = .error (.outside number) ↔
      Hex.Denotes text number ∧ 16 ≤ number ∧ number ≤ 255) ∧
    (∀ shown, readKey text = .error (.malformed shown) ↔
      shown = text ∧ ∀ number, Hex.Denotes text number → 255 < number) ∧
    (∀ number, 16 ≤ number → number ≤ 255 →
      (KeyFailure.outside number).message =
        "key " ++ String.ofList
          [(Nat.digitChar (number / 16)).toUpper, (Nat.digitChar (number % 16)).toUpper] ++
          " is outside of 0-F") ∧
    (KeyFailure.malformed text).message = Text.quoted text ++ " is not a hex key" := by
  refine ⟨readKey_eq_ok_iff text, readKey_eq_outside_iff text, readKey_eq_malformed_iff text, ?_, rfl⟩
  intro number large byte
  rw [KeyFailure.message, text_one_of_byte number large byte]

theorem readKey_by_numeral_at_limits :
    readKey "+00f" = .ok 15 ∧ readKey "1f" = .error (.outside 31) ∧
      (KeyFailure.outside 31).message = "key 1F is outside of 0-F" ∧
      readKey "0100" = .error (.malformed "0100") := by
  refine ⟨?_, ?_, ?_, ?_⟩
  · have digits : ∀ digit ∈ ['0', '0', 'f'], digit.toUpper ∈ Hex.alphabet := by simp [Hex.alphabet]
    have denoted : Hex.Denotes "+00f" 15 := ⟨_, Or.inr rfl, by decide, digits, rfl⟩
    exact ((readKey_by_numeral "+00f").1 15).mpr ⟨denoted, by decide⟩
  · have digits : ∀ digit ∈ ['1', 'f'], digit.toUpper ∈ Hex.alphabet := by simp [Hex.alphabet]
    have denoted : Hex.Denotes "1f" 31 := ⟨_, Or.inl rfl, by decide, digits, rfl⟩
    exact ((readKey_by_numeral "1f").2.1 31).mpr ⟨denoted, by decide, by decide⟩
  · exact (readKey_by_numeral "1f").2.2.2.1 31 (by decide) (by decide)
  · refine ((readKey_by_numeral "0100").2.2.1 "0100").mpr ⟨rfl, ?_⟩
    intro number denoted
    obtain ⟨digits, form, _nonempty, _all, same⟩ := denoted
    rcases form with plain | signed
    · rw [← same, ← plain]
      decide
    · cases signed

end ChipEight.CommandLine
