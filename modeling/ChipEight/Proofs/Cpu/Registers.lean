import ChipEight.Cpu

set_option autoImplicit false

/-!
Register operands, the flag and runs of registers.

An operand may be cut to its low four bits before it is used (`register_mod`, `setRegister_mod`). The flag
is set before the result that comes with it, and a result in the flag register replaces it
(`flag_setFlagged`).

Setting a run of registers that does not pass register fifteen puts each byte into its own register and
leaves everything else as it was. A longer run comes around to register zero again, and each register
keeps the last byte for it (`getElem_setRegisterRun_of_last`).
-/

namespace ChipEight.Cpu

/-! ### Register operands -/

theorem mod_mod (x : UInt8) : x % 16 % 16 = x % 16 := by
  apply UInt8.toNat_inj.mp
  rw [UInt8.toNat_mod, UInt8.toNat_mod]
  exact Nat.mod_mod _ _

theorem toNat_mod_mod (x : UInt8) : (x % 16).toNat % 16 = x.toNat % 16 := by
  rw [UInt8.toNat_mod]
  exact Nat.mod_mod _ _

theorem register_mod (cpu : Cpu) (x : UInt8) : cpu.register (x % 16) = cpu.register x := by
  simp only [register, toNat_mod_mod]

theorem setRegister_mod (cpu : Cpu) (x value : UInt8) :
    cpu.setRegister (x % 16) value = cpu.setRegister x value := by
  simp only [setRegister, toNat_mod_mod]

theorem getElem_setRegister_of_ne (cpu : Cpu) (x value : UInt8) (register : Nat)
    (bound : register < 16) (other : x.toNat % 16 ≠ register) :
    (cpu.setRegister x value).registers[register] = cpu.registers[register] :=
  Vector.getElem_set_ne (Nat.mod_lt _ (by decide)) bound other

/-! ### The flag -/

theorem register_setFlag (cpu : Cpu) (flag : Bool) :
    (cpu.setFlag flag).register 0xF = if flag then 1 else 0 := by
  rw [setFlag, register_setRegister, if_pos rfl]

theorem setFlag_setFlag (cpu : Cpu) (first second : Bool) :
    (cpu.setFlag first).setFlag second = cpu.setFlag second := by
  simp only [setFlag, setRegister, Vector.set_set]

theorem getElem_setFlag_of_ne (cpu : Cpu) (flag : Bool) (register : Nat)
    (bound : register < 16) (other : register ≠ 15) :
    (cpu.setFlag flag).registers[register] = cpu.registers[register] := by
  apply getElem_setRegister_of_ne
  intro same
  exact other same.symm

theorem register_setFlagged (cpu : Cpu) (flag : Bool) (x value : UInt8) :
    (cpu.setFlagged flag x value).register x = value := by
  rw [setFlagged, register_setRegister, if_pos rfl]

/-- The flag register has the flag, unless the result goes there. -/
theorem flag_setFlagged (cpu : Cpu) (flag : Bool) (x value : UInt8) :
    (cpu.setFlagged flag x value).register 0xF =
      if x.toNat % 16 = 15 then value else if flag then 1 else 0 := by
  rw [setFlagged, register_setRegister, register_setFlag]
  rfl

theorem getElem_setFlagged_of_ne (cpu : Cpu) (flag : Bool) (x value : UInt8) (register : Nat)
    (bound : register < 16) (other : ¬ (x.toNat % 16 = register ∨ register = 15)) :
    (cpu.setFlagged flag x value).registers[register] = cpu.registers[register] := by
  rw [not_or] at other
  rw [setFlagged, getElem_setRegister_of_ne _ _ _ _ bound other.1,
    getElem_setFlag_of_ne _ _ _ bound other.2]

/-! ### Runs -/

theorem getElem_registerRun (cpu : Cpu) (count x : Nat)
    (inside : x < (cpu.registerRun count).length) :
    (cpu.registerRun count)[x] = cpu.register (UInt8.ofNat x) := by
  simp only [registerRun, List.getElem_map, List.getElem_range]

@[simp] theorem length_registerRun (cpu : Cpu) (count : Nat) :
    (cpu.registerRun count).length = count := by
  simp only [registerRun, List.length_map, List.length_range]

/-- A run of registers leaves all but the registers as it was. -/
theorem setRegisterRun_eq (cpu : Cpu) (x : Nat) (bytes : List UInt8) :
    cpu.setRegisterRun x bytes =
      { cpu with registers := (cpu.setRegisterRun x bytes).registers } := by
  induction bytes generalizing cpu x with
  | nil => rfl
  | cons byte rest ih =>
      rw [setRegisterRun, ih]
      rfl

theorem getElem_setRegisterRun (cpu : Cpu) (x : Nat) (bytes : List UInt8)
    (short : x + bytes.length ≤ 16) (register : Nat) (bound : register < 16) :
    (cpu.setRegisterRun x bytes).registers[register] =
      if inside : x ≤ register ∧ register < x + bytes.length then bytes[register - x]
      else cpu.registers[register] := by
  induction bytes generalizing cpu x with
  | nil =>
      have outside : ¬ (x ≤ register ∧ register < x + ([] : List UInt8).length) := by
        simp only [List.length_nil]
        omega
      rw [setRegisterRun, dif_neg outside]
  | cons byte rest ih =>
      simp only [List.length_cons] at short
      have small : (UInt8.ofNat x).toNat % 16 = x := by
        rw [UInt8.toNat_ofNat']
        omega
      rw [setRegisterRun, ih _ _ (by omega)]
      simp only [setRegister, small, Vector.getElem_set]
      grind

theorem toNat_ofNat_mod (x : Nat) : (UInt8.ofNat x).toNat % 16 = x % 16 := by
  rw [UInt8.toNat_ofNat']
  omega

theorem getElem_setRegisterRun_of_unnamed (cpu : Cpu) (x : Nat) (bytes : List UInt8)
    (register : Nat) (bound : register < 16)
    (unnamed : ∀ offset < bytes.length, (x + offset) % 16 ≠ register) :
    (cpu.setRegisterRun x bytes).registers[register] = cpu.registers[register] := by
  induction bytes generalizing cpu x with
  | nil => rfl
  | cons byte rest ih =>
      have first : (UInt8.ofNat x).toNat % 16 ≠ register := by
        rw [toNat_ofNat_mod]
        exact unnamed 0 (Nat.zero_lt_succ _)
      have others : ∀ offset < rest.length, (x + 1 + offset) % 16 ≠ register := by
        intro offset inside
        have other := unnamed (offset + 1) (Nat.succ_lt_succ inside)
        rwa [Nat.add_comm offset 1, ← Nat.add_assoc] at other
      rw [setRegisterRun, ih _ _ others, getElem_setRegister_of_ne _ _ _ _ bound first]

theorem getElem_setRegisterRun_of_last (cpu : Cpu) (x : Nat) (bytes : List UInt8)
    (register : Nat) (bound : register < 16) (offset : Nat) (inside : offset < bytes.length)
    (named : (x + offset) % 16 = register)
    (last : ∀ other < bytes.length, (x + other) % 16 = register → other ≤ offset) :
    (cpu.setRegisterRun x bytes).registers[register] = bytes[offset] := by
  induction bytes generalizing cpu x offset with
  | nil => cases inside
  | cons byte rest ih =>
      rw [setRegisterRun]
      cases offset with
      | zero =>
          have others : ∀ other < rest.length, (x + 1 + other) % 16 ≠ register := by
            intro other within same
            have before := last (other + 1) (Nat.succ_lt_succ within) (by omega)
            omega
          have here : (UInt8.ofNat x).toNat % 16 = register := by
            rw [toNat_ofNat_mod]
            exact named
          rw [getElem_setRegisterRun_of_unnamed _ _ _ register bound others, setRegister]
          simp only [here, Vector.getElem_set_self, List.getElem_cons_zero]
      | succ offset =>
          rw [List.getElem_cons_succ]
          apply ih _ _ offset (Nat.lt_of_succ_lt_succ inside) (by omega)
          intro other within same
          have before := last (other + 1) (Nat.succ_lt_succ within) (by omega)
          omega

theorem exists_last_offset (count register : Nat) (reached : register < count)
    (bound : register < 16) :
    ∃ offset < count, offset % 16 = register ∧
      ∀ other < count, other % 16 = register → other ≤ offset :=
  ⟨register + (count - 1 - register) / 16 * 16, by omega, by omega, by omega⟩

/-- Setting registers to a run of other registers copies the registers that the run comes to. -/
theorem getElem_setRegisterRun_registerRun (cpu source : Cpu) (count register : Nat)
    (bound : register < 16) :
    (cpu.setRegisterRun 0 (source.registerRun count)).registers[register] =
      if register < count then source.registers[register] else cpu.registers[register] := by
  have length := source.length_registerRun count
  by_cases reached : register < count
  · obtain ⟨offset, inside, named, last⟩ := exists_last_offset count register reached bound
    rw [if_pos reached, getElem_setRegisterRun_of_last cpu 0 _ register bound offset
      (length.symm ▸ inside) (by omega) (by
        intro other within same
        exact last other (length ▸ within) (by omega))]
    simp only [getElem_registerRun, Cpu.register, toNat_ofNat_mod, named]
  · rw [if_neg reached]
    apply getElem_setRegisterRun_of_unnamed
    intro offset inside
    omega

/-- A run of registers that has just been set holds the bytes. -/
theorem registerRun_setRegisterRun (cpu : Cpu) (bytes : List UInt8) (short : bytes.length ≤ 16) :
    (cpu.setRegisterRun 0 bytes).registerRun bytes.length = bytes := by
  apply List.ext_getElem
  · exact length_registerRun _ _
  · intro offset _inside inside
    have small : (UInt8.ofNat offset).toNat % 16 = offset := by
      rw [toNat_ofNat_mod]
      omega
    have within : 0 ≤ offset ∧ offset < 0 + bytes.length := by omega
    rw [getElem_registerRun]
    simp only [Cpu.register, small]
    rw [getElem_setRegisterRun cpu 0 bytes (by omega) offset (by omega), dif_pos within]
    rfl

theorem registers_setRegisterRun_congr {left right : Cpu}
    (same : left.registers = right.registers) (x : Nat) (bytes : List UInt8) :
    (left.setRegisterRun x bytes).registers = (right.setRegisterRun x bytes).registers := by
  induction bytes generalizing left right x with
  | nil => exact same
  | cons byte rest ih =>
      apply ih
      simp only [setRegister, same]

end ChipEight.Cpu
