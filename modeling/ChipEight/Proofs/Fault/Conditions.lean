import ChipEight.Machine.Headless
import ChipEight.Machine.Host
import ChipEight.Proofs.Machine.Steps

set_option autoImplicit false

/-!
When a step fails.

`Machine.Fails` and `Machine.CycleFails` give the conditions on the machine alone, in the order in
which they count, without carrying anything out.
-/

namespace ChipEight

/-- The instructions that a machine cannot carry out to the end, and the fault of each. A sprite
counts as far as the bottom edge of the screen, wherever it lies sideways. -/
inductive Machine.Fails (machine : Machine) : Instruction → Fault → Prop
  | leave (faults : machine.config.returnPolicy = .fault) (empty : machine.cpu.stack = []) :
      Fails machine .leave (.stackUnderflow machine.cpu.counter)
  | storeDecimal (x : UInt8) (strict : machine.config.addressPolicy = .strict)
      (leaves : 0xFFF < machine.cpu.index.toNat + 2) :
      Fails machine (.storeDecimal x) (.addressOutOfRange (max machine.cpu.index.toNat 0x1000))
  | storeRegisters (x : UInt8) (strict : machine.config.addressPolicy = .strict)
      (leaves : 0xFFF < machine.cpu.index.toNat + x.toNat) :
      Fails machine (.storeRegisters x) (.addressOutOfRange (max machine.cpu.index.toNat 0x1000))
  | loadRegisters (x : UInt8) (strict : machine.config.addressPolicy = .strict)
      (leaves : 0xFFF < machine.cpu.index.toNat + x.toNat) :
      Fails machine (.loadRegisters x) (.addressOutOfRange (max machine.cpu.index.toNat 0x1000))
  | draw (x y rows : UInt8) (strict : machine.config.addressPolicy = .strict)
      (onScreen : (machine.cpu.register y).toNat < 32) (nonempty : 1 ≤ rows.toNat)
      (leaves : 0x1000 <
        machine.cpu.index.toNat + min rows.toNat (32 - (machine.cpu.register y).toNat)) :
      Fails machine (.draw x y rows) (.addressOutOfRange (max machine.cpu.index.toNat 0x1000))

/-- The faults of a cycle: of the fetch, of the word that was fetched, and of its instruction with
the counter two further. A machine that waits for a key has none. -/
inductive Machine.CycleFails (machine : Machine) : Fault → Prop
  | fetch (free : machine.cpu.awaiting = none) (strict : machine.config.addressPolicy = .strict)
      (outside : 0xFFF ≤ machine.cpu.counter.toNat) :
      CycleFails machine (.addressOutOfRange (max machine.cpu.counter.toNat 0x1000))
  | decode (free : machine.cpu.awaiting = none)
      (fetched : ¬ (machine.config.addressPolicy = .strict ∧ 0xFFF ≤ machine.cpu.counter.toNat))
      (unknown : Instruction.ofWord? machine.wordAtCounter = none) :
      CycleFails machine (.unknownOpcode machine.wordAtCounter)
  | execute (instruction : Instruction) (fault : Fault) (free : machine.cpu.awaiting = none)
      (fetched : ¬ (machine.config.addressPolicy = .strict ∧ 0xFFF ≤ machine.cpu.counter.toNat))
      (known : Instruction.ofWord? machine.wordAtCounter = some instruction)
      (fails : Fails
        { machine with cpu := { machine.cpu with counter := machine.cpu.counter + 2 } }
        instruction fault) :
      CycleFails machine fault

namespace Machine

/-! ### Instructions -/

theorem fault_leave_iff (machine : Machine) (fault : Fault) :
    machine.leave.fault = some fault ↔ machine.Fails .leave fault := by
  constructor
  · intro failed
    cases returns : machine.cpu.stack with
    | cons counter stack => simp only [Machine.leave, returns] at failed; cases failed
    | nil =>
        cases policy : machine.config.returnPolicy with
        | ignore => simp only [Machine.leave, returns, policy] at failed; cases failed
        | fault =>
            simp only [Machine.leave, returns, policy, Option.some.injEq] at failed
            rw [← failed]
            exact Fails.leave policy returns
  · intro fails
    cases fails with
    | leave policy returns => simp only [Machine.leave, returns, policy]

theorem fault_awaitKey (machine : Machine) (x : UInt8) : (machine.awaitKey x).fault = none := by
  unfold Machine.awaitKey
  split <;> rfl

theorem fault_storeDecimal_iff (machine : Machine) (x : UInt8) (fault : Fault) :
    (machine.store (Cpu.decimalDigits (machine.cpu.register x))).fault = some fault ↔
      machine.Fails (.storeDecimal x) fault := by
  rw [fault_store, AddressPolicy.runFault_eq_some_iff]
  simp only [Cpu.decimalDigits, List.length_cons, List.length_nil]
  constructor
  · intro failed
    obtain ⟨strict, _nonempty, leaves, rfl⟩ := failed
    exact Fails.storeDecimal x strict (by omega)
  · intro fails
    cases fails with
    | storeDecimal _ strict leaves => exact ⟨strict, by omega, by omega, rfl⟩

theorem fault_storeRegisters_iff (machine : Machine) (x : UInt8) (fault : Fault) :
    (machine.store (machine.cpu.registerRun (x.toNat + 1))).fault = some fault ↔
      machine.Fails (.storeRegisters x) fault := by
  rw [fault_store, AddressPolicy.runFault_eq_some_iff]
  simp only [Cpu.registerRun, List.length_map, List.length_range]
  constructor
  · intro failed
    obtain ⟨strict, _nonempty, leaves, rfl⟩ := failed
    exact Fails.storeRegisters x strict (by omega)
  · intro fails
    cases fails with
    | storeRegisters _ strict leaves => exact ⟨strict, by omega, by omega, rfl⟩

theorem fault_loadRegisters_iff (machine : Machine) (x : UInt8) (fault : Fault) :
    (machine.load (x.toNat + 1)).fault = some fault ↔ machine.Fails (.loadRegisters x) fault := by
  rw [fault_load, AddressPolicy.runFault_eq_some_iff]
  constructor
  · intro failed
    obtain ⟨strict, _nonempty, leaves, rfl⟩ := failed
    exact Fails.loadRegisters x strict (by omega)
  · intro fails
    cases fails with
    | loadRegisters _ strict leaves => exact ⟨strict, by omega, by omega, rfl⟩

theorem fault_draw_iff (machine : Machine) (x y rows : UInt8) (fault : Fault) :
    (machine.draw x y rows).fault = some fault ↔ machine.Fails (.draw x y rows) fault := by
  rw [fault_draw, AddressPolicy.runFault_eq_some_iff]
  constructor
  · intro failed
    obtain ⟨strict, nonempty, leaves, rfl⟩ := failed
    exact Fails.draw x y rows strict (by omega) (by omega) leaves
  · intro fails
    cases fails with
    | draw _ _ _ strict onScreen nonempty leaves => exact ⟨strict, by omega, leaves, rfl⟩

theorem fault_execute_iff (machine : Machine) (instruction : Instruction) (fault : Fault) :
    (machine.execute instruction).fault = some fault ↔ machine.Fails instruction fault := by
  cases instruction with
  | leave => exact machine.fault_leave_iff fault
  | draw x y rows => exact machine.fault_draw_iff x y rows fault
  | storeDecimal x => exact machine.fault_storeDecimal_iff x fault
  | storeRegisters x => exact machine.fault_storeRegisters_iff x fault
  | loadRegisters x => exact machine.fault_loadRegisters_iff x fault
  | awaitKey x =>
      constructor
      · intro impossible
        rw [execute, fault_awaitKey] at impossible
        cases impossible
      · intro impossible
        cases impossible
  | _ =>
      constructor
      · intro impossible
        cases impossible
      · intro impossible
        cases impossible

/-! ### Cycles, frames and other actions -/

theorem CycleFails.free {machine : Machine} {fault : Fault} (fails : machine.CycleFails fault) :
    machine.cpu.awaiting = none := by
  cases fails <;> assumption

theorem fault_cycle_iff (machine : Machine) (fault : Fault) :
    machine.cycle.fault = some fault ↔ machine.CycleFails fault := by
  cases waits : machine.cpu.awaiting with
  | some x =>
      have unfailing : (machine.deliverKey x).fault = none := by
        unfold deliverKey
        split <;> rfl
      rw [machine.cycle_of_awaiting x waits, unfailing]
      constructor
      · intro impossible
        cases impossible
      · intro fails
        have free := fails.free
        rw [waits] at free
        cases free
  | none =>
      by_cases leaves : machine.config.addressPolicy = .strict ∧ 0xFFF ≤ machine.cpu.counter.toNat
      · rw [machine.cycle_of_fetch_error _ waits (machine.fetch_eq_error leaves.1 leaves.2)]
        constructor
        · intro failed
          cases failed
          exact CycleFails.fetch waits leaves.1 leaves.2
        · intro fails
          cases fails with
          | fetch _free _strict _outside => rfl
          | decode _free fetched _unknown => exact absurd leaves fetched
          | execute _instruction _fault _free fetched _known _fails =>
              exact absurd leaves fetched
      · rw [machine.cycle_of_fetch_ok _ waits ((machine.fetch_eq_ok_iff _).mpr ⟨leaves, rfl⟩)]
        cases decoded : Instruction.ofWord? machine.wordAtCounter with
        | none =>
            rw [machine.perform_of_unknown _ decoded]
            constructor
            · intro failed
              cases failed
              exact CycleFails.decode waits leaves decoded
            · intro fails
              cases fails with
              | fetch _free strict outside => exact absurd ⟨strict, outside⟩ leaves
              | decode _free _fetched _unknown => rfl
              | execute _instruction _fault _free _fetched known _fails =>
                  rw [decoded] at known
                  cases known
        | some instruction =>
            rw [machine.perform_of_known _ instruction decoded]
            constructor
            · intro failed
              exact CycleFails.execute instruction fault waits leaves decoded
                ((machine.advanced.fault_execute_iff instruction fault).mp failed)
            · intro fails
              cases fails with
              | fetch _free strict outside => exact absurd ⟨strict, outside⟩ leaves
              | decode _free _fetched unknown =>
                  rw [decoded] at unknown
                  cases unknown
              | execute _instruction _fault _free _fetched known fails =>
                  rw [decoded] at known
                  cases known
                  exact (machine.advanced.fault_execute_iff instruction fault).mpr fails

/-- The fault of a frame is the fault of one of its cycles. -/
theorem exists_cycleFails_of_fault_frame (machine : Machine) (fault : Fault)
    (failed : machine.frame.fault = some fault) : ∃ before : Machine, before.CycleFails fault := by
  obtain ⟨completed, _bound, _going, last, _same⟩ := Run.exists_last_step cycle _ _ rfl fault failed
  exact ⟨_, (fault_cycle_iff _ fault).mp last⟩

theorem not_cycleFails_imageTooLarge (machine : Machine) (size capacity : Nat) :
    ¬ machine.CycleFails (.imageTooLarge size capacity) := by
  intro fails
  cases fails with
  | execute _instruction _fault _free _fetched _known impossible => cases impossible

/-- A step fails exactly under the stated conditions and with the stated fault, so that none of
them refuses an image. -/
theorem fault_eq_some_iff :
    (∀ (machine : Machine) (instruction : Instruction) (fault : Fault),
      (machine.execute instruction).fault = some fault ↔ machine.Fails instruction fault) ∧
      (∀ (machine : Machine) (fault : Fault),
        machine.cycle.fault = some fault ↔ machine.CycleFails fault) ∧
        ∀ (machine : Machine) (action : Action) (size capacity : Nat),
          (machine.act action).fault ≠ some (.imageTooLarge size capacity) := by
  refine ⟨fault_execute_iff, fault_cycle_iff, ?_⟩
  intro machine action size capacity failed
  cases action with
  | cycle =>
      exact machine.not_cycleFails_imageTooLarge size capacity
        ((machine.fault_cycle_iff _).mp failed)
  | frame =>
      obtain ⟨before, fails⟩ := machine.exists_cycleFails_of_fault_frame _ failed
      exact before.not_cycleFails_imageTooLarge size capacity fails
  | execute instruction =>
      have fails := (machine.fault_execute_iff instruction _).mp failed
      cases fails
  | _ => cases failed

end Machine

end ChipEight
