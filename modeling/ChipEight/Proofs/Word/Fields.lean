import ChipEight.Word

set_option autoImplicit false

/-!
The fields of a word.

A word built from parts has these parts as its fields, each as wide as the field, and a word built from
its own fields is the word itself.
-/

namespace ChipEight.Word

theorem lead_lt (word : Word) : word.lead < 16 := by
  have bound := word.toNat_lt
  unfold lead
  omega

theorem last_lt (word : Word) : word.last < 16 :=
  Nat.mod_lt _ (by decide)

/-! ### Fields of built words -/

theorem toNat_ofRegisters (lead : Nat) (x y : UInt8) (last : Nat) (leadBound : lead < 16)
    (lastBound : last < 16) :
    (ofRegisters lead x y last).toNat =
      lead * 4096 + x.toNat % 16 * 256 + y.toNat % 16 * 16 + last := by
  rw [ofRegisters, UInt16.toNat_ofNat']
  omega

theorem toNat_ofRegisterByte (lead : Nat) (x byte : UInt8) (leadBound : lead < 16) :
    (ofRegisterByte lead x byte).toNat = lead * 4096 + x.toNat % 16 * 256 + byte.toNat := by
  have byteBound := byte.toNat_lt
  rw [ofRegisterByte, UInt16.toNat_ofNat']
  omega

theorem toNat_ofAddress (lead : Nat) (address : UInt16) (leadBound : lead < 16) :
    (ofAddress lead address).toNat = lead * 4096 + address.toNat % 4096 := by
  rw [ofAddress, UInt16.toNat_ofNat']
  omega

variable (lead : Nat) (x y byte : UInt8) (last : Nat) (address : UInt16)

@[simp] theorem lead_ofRegisters (leadBound : lead < 16) (lastBound : last < 16) :
    (ofRegisters lead x y last).lead = lead := by
  rw [Word.lead, toNat_ofRegisters lead x y last leadBound lastBound]
  omega

@[simp] theorem x_ofRegisters (leadBound : lead < 16) (lastBound : last < 16) :
    (ofRegisters lead x y last).x = x % 16 := by
  apply UInt8.toNat_inj.mp
  rw [toNat_x, toNat_ofRegisters lead x y last leadBound lastBound, UInt8.toNat_mod]
  change _ = x.toNat % 16
  omega

@[simp] theorem y_ofRegisters (leadBound : lead < 16) (lastBound : last < 16) :
    (ofRegisters lead x y last).y = y % 16 := by
  apply UInt8.toNat_inj.mp
  rw [toNat_y, toNat_ofRegisters lead x y last leadBound lastBound, UInt8.toNat_mod]
  change _ = y.toNat % 16
  omega

@[simp] theorem last_ofRegisters (leadBound : lead < 16) (lastBound : last < 16) :
    (ofRegisters lead x y last).last = last := by
  rw [Word.last, toNat_ofRegisters lead x y last leadBound lastBound]
  omega

@[simp] theorem lead_ofRegisterByte (leadBound : lead < 16) :
    (ofRegisterByte lead x byte).lead = lead := by
  have byteBound := byte.toNat_lt
  rw [Word.lead, toNat_ofRegisterByte lead x byte leadBound]
  omega

@[simp] theorem x_ofRegisterByte (leadBound : lead < 16) :
    (ofRegisterByte lead x byte).x = x % 16 := by
  have byteBound := byte.toNat_lt
  apply UInt8.toNat_inj.mp
  rw [toNat_x, toNat_ofRegisterByte lead x byte leadBound, UInt8.toNat_mod]
  change _ = x.toNat % 16
  omega

@[simp] theorem byte_ofRegisterByte (leadBound : lead < 16) :
    (ofRegisterByte lead x byte).byte = byte := by
  have byteBound := byte.toNat_lt
  apply UInt8.toNat_inj.mp
  rw [toNat_byte, toNat_ofRegisterByte lead x byte leadBound]
  omega

@[simp] theorem lead_ofAddress (leadBound : lead < 16) : (ofAddress lead address).lead = lead := by
  rw [Word.lead, toNat_ofAddress lead address leadBound]
  omega

@[simp] theorem address_ofAddress (leadBound : lead < 16) :
    (ofAddress lead address).address = address % 4096 := by
  apply UInt16.toNat_inj.mp
  rw [toNat_address, toNat_ofAddress lead address leadBound, UInt16.toNat_mod]
  change _ = address.toNat % 4096
  omega

@[simp] theorem toNat_byte_ofAddress (leadBound : lead < 16) :
    (ofAddress lead address).byte.toNat = address.toNat % 256 := by
  rw [toNat_byte, toNat_ofAddress lead address leadBound]
  omega

/-! ### Words built from their own fields -/

theorem ofRegisters_fields (word : Word) :
    ofRegisters word.lead word.x word.y word.last = word := by
  apply UInt16.toNat_inj.mp
  rw [toNat_ofRegisters _ _ _ _ word.lead_lt word.last_lt, toNat_x, toNat_y, Word.lead, Word.last]
  omega

theorem ofRegisterByte_fields (word : Word) : ofRegisterByte word.lead word.x word.byte = word := by
  apply UInt16.toNat_inj.mp
  rw [toNat_ofRegisterByte _ _ _ word.lead_lt, toNat_x, toNat_byte, Word.lead]
  omega

theorem ofAddress_fields (word : Word) : ofAddress word.lead word.address = word := by
  apply UInt16.toNat_inj.mp
  rw [toNat_ofAddress _ _ word.lead_lt, toNat_address, Word.lead]
  omega

/-! ### Words with a digit set to zero -/

theorem sub_x_eq (word : Word) :
    word - UInt16.ofNat (word.x.toNat * 256) = ofRegisterByte word.lead 0 word.byte := by
  have bound := word.toNat_lt
  have zero : (0 : UInt8).toNat = 0 := rfl
  apply UInt16.toNat_inj.mp
  rw [UInt16.toNat_sub, UInt16.toNat_ofNat', toNat_ofRegisterByte _ _ _ word.lead_lt, toNat_x,
    toNat_byte, zero, Word.lead]
  omega

theorem sub_y_eq (word : Word) :
    word - UInt16.ofNat (word.y.toNat * 16) = ofRegisters word.lead word.x 0 word.last := by
  have bound := word.toNat_lt
  have zero : (0 : UInt8).toNat = 0 := rfl
  apply UInt16.toNat_inj.mp
  rw [UInt16.toNat_sub, UInt16.toNat_ofNat', toNat_ofRegisters _ _ _ _ word.lead_lt word.last_lt,
    toNat_x, toNat_y, zero, Word.lead, Word.last]
  omega

theorem sub_last_eq (word : Word) :
    word - UInt16.ofNat word.last = ofRegisters word.lead word.x word.y 0 := by
  have bound := word.toNat_lt
  apply UInt16.toNat_inj.mp
  rw [UInt16.toNat_sub, UInt16.toNat_ofNat',
    toNat_ofRegisters _ _ _ _ word.lead_lt (by decide), toNat_x, toNat_y, Word.lead, Word.last]
  omega

theorem ofRegisterByte_zero_eq_iff (word : Word) :
    ofRegisterByte word.lead 0 word.byte = word ↔ word.x = 0 := by
  constructor
  · intro same
    rw [← same, x_ofRegisterByte _ _ _ word.lead_lt]
    rfl
  · intro zero
    rw [← zero, word.ofRegisterByte_fields]

theorem ofRegisters_zero_y_eq_iff (word : Word) :
    ofRegisters word.lead word.x 0 word.last = word ↔ word.y = 0 := by
  constructor
  · intro same
    rw [← same, y_ofRegisters _ _ _ _ word.lead_lt word.last_lt]
    rfl
  · intro zero
    rw [← zero, word.ofRegisters_fields]

theorem ofRegisters_zero_last_eq_iff (word : Word) :
    ofRegisters word.lead word.x word.y 0 = word ↔ word.last = 0 := by
  constructor
  · intro same
    rw [← same, last_ofRegisters _ _ _ _ word.lead_lt (by decide)]
  · intro zero
    rw [← zero, word.ofRegisters_fields]

end ChipEight.Word
