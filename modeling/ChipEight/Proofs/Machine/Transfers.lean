import ChipEight.Proofs.Cpu.Registers
import ChipEight.Proofs.Machine.Steps
import ChipEight.Proofs.Memory.Runs

set_option autoImplicit false

/-!
Registers stored in memory and loaded again.

Storing the registers up to one and loading them gives them back, whatever the registers were set to
meanwhile. Loading registers and storing them leaves memory as it was, as long as no register is loaded
twice.
-/

namespace ChipEight

/-- A load gives the registers up to one the contents that they had in another machine, and changes
nothing else. -/
structure Machine.Restores (source : Machine) (x : UInt8) (before : Machine) (load : Step) : Prop where
  unfailing : load.fault = none
  restored : ∀ register, (bound : register < 16) → register ≤ min x.toNat 15 →
    load.machine.cpu.registers[register] = source.cpu.registers[register]
  others : ∀ register, (bound : register < 16) → min x.toNat 15 < register →
    load.machine.cpu.registers[register] = before.cpu.registers[register]
  rest : load.machine =
    { before with cpu := { before.cpu with registers := load.machine.cpu.registers } }

namespace Machine

variable (machine : Machine)

theorem execute_storeRegisters_eq (x : UInt8)
    (unfailing : (machine.execute (.storeRegisters x)).fault = none) :
    machine.execute (.storeRegisters x) =
      { machine :=
          { machine with
            cpu :=
              { machine.cpu with
                memory := (machine.cpu.memory.writeRun machine.config.addressPolicy
                  machine.cpu.index.toNat (machine.cpu.registerRun (x.toNat + 1))).1 } } } := by
  simp only [execute, store] at unfailing ⊢
  rw [unfailing]

theorem execute_loadRegisters_eq (x : UInt8) (bytes : List UInt8)
    (read : machine.cpu.memory.readRun machine.config.addressPolicy machine.cpu.index.toNat
      (x.toNat + 1) = (bytes, none)) :
    machine.execute (.loadRegisters x) =
      { machine := { machine with cpu := machine.cpu.setRegisterRun 0 bytes } } := by
  simp only [execute, load, read]

/-- Bytes that have been stored are read again. -/
theorem readRun_of_store (bytes : List UInt8) (short : bytes.length ≤ 4096)
    (unfailing : (machine.store bytes).fault = none) :
    (machine.store bytes).machine.cpu.memory.readRun machine.config.addressPolicy
      machine.cpu.index.toNat bytes.length = (bytes, none) :=
  machine.cpu.memory.readRun_writeRun machine.config.addressPolicy machine.cpu.index.toNat bytes short
    ((machine.fault_store bytes).symm.trans unfailing)

/-- The bytes that a run of registers has been stored in are read as the contents of the registers. -/
theorem readRun_of_storeRegisters (x : UInt8)
    (unfailing : (machine.execute (.storeRegisters x)).fault = none) :
    (machine.execute (.storeRegisters x)).machine.cpu.memory.readRun machine.config.addressPolicy
        machine.cpu.index.toNat (x.toNat + 1) =
      (machine.cpu.registerRun (x.toNat + 1), none) := by
  have length := machine.cpu.length_registerRun (x.toNat + 1)
  have narrow := x.toNat_lt
  have read := machine.readRun_of_store (machine.cpu.registerRun (x.toNat + 1)) (by omega) unfailing
  rw [length] at read
  exact read

/-- Storing registers that have just been loaded changes nothing. -/
theorem execute_storeRegisters_of_loadRegisters (x : UInt8) (narrow : x.toNat ≤ 15)
    (unfailing : (machine.execute (.loadRegisters x)).fault = none) :
    (machine.execute (.loadRegisters x)).machine.cpu.memory = machine.cpu.memory ∧
      (machine.execute (.loadRegisters x)).machine.execute (.storeRegisters x) =
        { machine := (machine.execute (.loadRegisters x)).machine } := by
  have safe := (machine.fault_load (x.toNat + 1)).symm.trans unfailing
  obtain ⟨bytes, read⟩ : ∃ bytes, machine.cpu.memory.readRun machine.config.addressPolicy
      machine.cpu.index.toNat (x.toNat + 1) = (bytes, none) := by
    rw [Memory.readRun_eq, safe]
    exact ⟨_, rfl⟩
  have length : bytes.length = x.toNat + 1 := by
    have same := machine.cpu.memory.length_readRun_of_safe _ _ _ safe
    rwa [read] at same
  have written := machine.cpu.memory.writeRun_readRun machine.config.addressPolicy
    machine.cpu.index.toNat (x.toNat + 1)
  have stays := machine.cpu.memory.writeRun_fault machine.config.addressPolicy
    machine.cpu.index.toNat bytes
  have registers := machine.cpu.registerRun_setRegisterRun bytes (by omega)
  rw [read] at written
  rw [length, safe] at stays
  rw [length] at registers
  rw [machine.execute_loadRegisters_eq x bytes read]
  rw [Cpu.setRegisterRun_eq] at registers ⊢
  refine ⟨rfl, ?_⟩
  simp only [execute, store, registers, written, stays]

/-- A store and a load undo each other: what has been stored is loaded again, and what has been loaded
is in memory already. -/
theorem load_store_and_store_load (x : UInt8) :
    ((machine.execute (.storeRegisters x)).fault = none → ∀ contents : Vector UInt8 16,
      let stored := (machine.execute (.storeRegisters x)).machine
      let before : Machine := { stored with cpu := { stored.cpu with registers := contents } }
      machine.Restores x before (before.execute (.loadRegisters x))) ∧
      (x.toNat ≤ 15 → (machine.execute (.loadRegisters x)).fault = none →
        let loaded := (machine.execute (.loadRegisters x)).machine
        loaded.execute (.storeRegisters x) = { machine := loaded } ∧
          loaded.cpu.memory = machine.cpu.memory) := by
  constructor
  · intro unfailing contents stored before
    have sameIndex : before.cpu.index = machine.cpu.index := by
      simp only [before, stored, machine.execute_storeRegisters_eq x unfailing]
    have samePolicy : before.config.addressPolicy = machine.config.addressPolicy := by
      simp only [before, stored, machine.execute_storeRegisters_eq x unfailing]
    have read := machine.readRun_of_storeRegisters x unfailing
    rw [← sameIndex, ← samePolicy] at read
    have loaded := before.execute_loadRegisters_eq x _ read
    rw [Cpu.setRegisterRun_eq] at loaded
    rw [loaded]
    constructor
    case unfailing => rfl
    case restored =>
      intro register bound upTo
      rw [Cpu.getElem_setRegisterRun_registerRun _ _ _ register bound, if_pos (by omega)]
    case others =>
      intro register bound above
      rw [Cpu.getElem_setRegisterRun_registerRun _ _ _ register bound, if_neg (by omega)]
    case rest => rfl
  · intro narrow unfailing loaded
    obtain ⟨sameMemory, sameMachine⟩ :=
      machine.execute_storeRegisters_of_loadRegisters x narrow unfailing
    exact ⟨sameMachine, sameMemory⟩

/-- Twenty bytes of registers stored around the end of memory, with all registers zero afterwards, and
three registers loaded from there. -/
theorem load_store_and_store_load_around_end :
    ∃ machine : Machine, machine.cpu.index = 0xFFE ∧ machine.cpu.register 3 = 7 ∧
      (let stored := (machine.execute (.storeRegisters 19)).machine
        let before : Machine :=
          { stored with cpu := { stored.cpu with registers := .replicate 16 0 } }
        machine.Restores 19 before (before.execute (.loadRegisters 19))) ∧
        let loaded := (machine.execute (.loadRegisters 2)).machine
        loaded.execute (.storeRegisters 2) = { machine := loaded } ∧
          loaded.cpu.memory = machine.cpu.memory := by
  let machine : Machine := { fresh { addressPolicy := .wrap } with
    cpu := { Cpu.initial.setRegister 3 7 with index := 0xFFE } }
  have stores : (machine.execute (.storeRegisters 19)).fault = none := by decide +kernel
  have loads : (machine.execute (.loadRegisters 2)).fault = none := by decide +kernel
  exact ⟨machine, rfl, rfl, (machine.load_store_and_store_load 19).1 stores _,
    (machine.load_store_and_store_load 2).2 (by decide) loads⟩

end Machine

end ChipEight
