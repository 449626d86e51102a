import ChipEight.Proofs.Machine.Drawing
import ChipEight.Proofs.Machine.Transfers

set_option autoImplicit false

/-!
Decimal digits in memory.

A register is stored as its three decimal digits, from the index on and around the end of memory if need
be, and the first three registers can be loaded with them (`decimals_stored_and_loaded`).
-/

namespace ChipEight

structure Cpu.DecimalOf (value hundreds tens ones : UInt8) : Prop where
  digits : hundreds.toNat ≤ 9 ∧ tens.toNat ≤ 9 ∧ ones.toNat ≤ 9
  value : 100 * hundreds.toNat + 10 * tens.toNat + ones.toNat = value.toNat

theorem Cpu.decimalOf_decimalDigits (value : UInt8) :
    DecimalOf value (value / 100) (value / 10 % 10) (value % 10) := by
  have bound := value.toNat_lt
  constructor
  · simp only [UInt8.toNat_div, UInt8.toNat_mod, UInt8.reduceToNat]
    omega
  · simp only [UInt8.toNat_div, UInt8.toNat_mod, UInt8.reduceToNat]
    omega

namespace Machine

/-- A store leaves three bytes behind each other from the index on, and everything else as it was. -/
structure StoresThree (machine : Machine) (step : Step) (first second third : UInt8) : Prop where
  unfailing : step.fault = none
  memory : ∃ firstPlace secondPlace thirdPlace : Fin 4096,
    (machine.config.addressPolicy.resolve machine.cpu.index.toNat = .ok firstPlace ∧
        machine.config.addressPolicy.resolve (machine.cpu.index.toNat + 1) = .ok secondPlace ∧
          machine.config.addressPolicy.resolve (machine.cpu.index.toNat + 2) = .ok thirdPlace) ∧
      (step.machine.cpu.memory.bytes.get firstPlace = first ∧
          step.machine.cpu.memory.bytes.get secondPlace = second ∧
            step.machine.cpu.memory.bytes.get thirdPlace = third) ∧
        ∀ place : Fin 4096, place ≠ firstPlace → place ≠ secondPlace → place ≠ thirdPlace →
          step.machine.cpu.memory.bytes.get place = machine.cpu.memory.bytes.get place
  rest : step.machine =
    { machine with cpu := { machine.cpu with memory := step.machine.cpu.memory } }

/-- A load puts three bytes into the first three registers and leaves everything else as it was. -/
structure LoadsThree (machine : Machine) (step : Step) (first second third : UInt8) : Prop where
  unfailing : step.fault = none
  loaded : step.machine.cpu.register 0 = first ∧ step.machine.cpu.register 1 = second ∧
    step.machine.cpu.register 2 = third
  others : ∀ number, (bound : number < 16) → 2 < number →
    step.machine.cpu.registers[number] = machine.cpu.registers[number]
  rest : step.machine =
    { machine with cpu := { machine.cpu with registers := step.machine.cpu.registers } }

variable (machine : Machine)

theorem storesThree_store (first second third : UInt8)
    (unfailing : (machine.store [first, second, third]).fault = none) :
    machine.StoresThree (machine.store [first, second, third]) first second third := by
  have short : [first, second, third].length ≤ 4096 := Nat.le_of_ble_eq_true rfl
  have safe := (machine.fault_store [first, second, third]).symm.trans unfailing
  have resolved : ∀ offset < 3,
      machine.config.addressPolicy.resolve (machine.cpu.index.toNat + offset) =
        .ok (Fin.ofNat 4096 (machine.cpu.index.toNat + offset)) :=
    fun offset inside => resolve_of_runFault_eq_none _ _ _ offset safe inside
  have held : ∀ offset, (inside : offset < 3) →
      (machine.store [first, second, third]).machine.cpu.memory.bytes[
        Fin.ofNat 4096 (machine.cpu.index.toNat + offset)] = [first, second, third][offset] :=
    fun offset inside => machine.cpu.memory.getElem_writeRun_of_resolve _ _ _ short offset inside _
      (resolved offset inside)
  constructor
  case unfailing => exact unfailing
  case memory =>
    refine ⟨_, _, _, ⟨resolved 0 (by decide), resolved 1 (by decide), resolved 2 (by decide)⟩,
      ⟨held 0 (by decide), held 1 (by decide), held 2 (by decide)⟩, ?_⟩
    intro place notFirst notSecond notThird
    apply machine.cpu.memory.getElem_writeRun_of_unresolved _ _ _ short
    intro offset inside same
    have small : offset < 3 := inside
    rw [resolved offset small, Except.ok.injEq] at same
    rcases (by omega : offset = 0 ∨ offset = 1 ∨ offset = 2) with rfl | rfl | rfl
    · exact notFirst same.symm
    · exact notSecond same.symm
    · exact notThird same.symm
  case rest => rfl

/-- Loading from where three bytes have been stored. -/
theorem loadsThree_of_readRun (first second third : UInt8)
    (read : machine.cpu.memory.readRun machine.config.addressPolicy machine.cpu.index.toNat 3 =
      ([first, second, third], none)) :
    machine.LoadsThree (machine.execute (.loadRegisters 2)) first second third := by
  have loaded := machine.execute_loadRegisters_eq 2 _ read
  have number : ∀ register, (bound : register < 16) →
      (machine.cpu.setRegisterRun 0 [first, second, third]).registers[register] =
        if inside : 0 ≤ register ∧ register < 0 + [first, second, third].length then
          [first, second, third][register - 0]
        else machine.cpu.registers[register] :=
    fun register bound => machine.cpu.getElem_setRegisterRun 0 _ (Nat.le_of_ble_eq_true rfl)
      register bound
  rw [Cpu.setRegisterRun_eq] at loaded
  rw [loaded]
  constructor
  case unfailing => rfl
  case loaded => exact ⟨number 0 (by decide), number 1 (by decide), number 2 (by decide)⟩
  case others =>
    intro register bound above
    refine (number register bound).trans (dif_neg ?_)
    intro inside
    exact absurd inside.2 (Nat.not_lt.mpr above)
  case rest => rfl

/-- A register that is stored in decimal leaves the three digits of its value in the places that the
addresses from the index on stand for, and loading the first three registers then gives them the digits. -/
theorem decimals_stored_and_loaded (x : UInt8)
    (unfailing : (machine.execute (.storeDecimal x)).fault = none) :
    let stored := machine.execute (.storeDecimal x)
    ∃ hundreds tens ones : UInt8,
      Cpu.DecimalOf (machine.cpu.register x) hundreds tens ones ∧
        machine.StoresThree stored hundreds tens ones ∧
          stored.machine.LoadsThree (stored.machine.execute (.loadRegisters 2))
            hundreds tens ones := by
  intro stored
  refine ⟨_, _, _, Cpu.decimalOf_decimalDigits (machine.cpu.register x),
    machine.storesThree_store _ _ _ unfailing, ?_⟩
  apply loadsThree_of_readRun
  exact machine.readRun_of_store (Cpu.decimalDigits (machine.cpu.register x))
    (Nat.le_of_ble_eq_true rfl) unfailing

/-- A register that the load overwrites, stored around the end of memory. -/
theorem decimals_stored_and_loaded_around_end :
    ∃ machine : Machine, machine.cpu.index = 0xFFF ∧ machine.cpu.register 1 = 207 ∧
      (machine.execute (.storeDecimal 1)).fault = none ∧
        let stored := machine.execute (.storeDecimal 1)
        ∃ hundreds tens ones : UInt8, Cpu.DecimalOf 207 hundreds tens ones ∧
          machine.StoresThree stored hundreds tens ones ∧
            stored.machine.LoadsThree (stored.machine.execute (.loadRegisters 2))
              hundreds tens ones := by
  let machine : Machine := { fresh { addressPolicy := .wrap } with
    cpu := { Cpu.initial.setRegister 1 207 with index := 0xFFF } }
  have unfailing : (machine.execute (.storeDecimal 1)).fault = none := by decide +kernel
  exact ⟨machine, rfl, rfl, unfailing, machine.decimals_stored_and_loaded 1 unfailing⟩

end Machine

end ChipEight
