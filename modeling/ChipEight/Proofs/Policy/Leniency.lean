import ChipEight.Proofs.Machine.Simulation
import ChipEight.Proofs.Machine.Steps

set_option autoImplicit false

/-!
Policies matter only where they fault.

A lenient configuration wraps addresses or ignores empty returns where a strict one faults, and is
the same otherwise. Until the strict machine meets a fault over which the two disagree, both
machines do the same in every step.
-/

namespace ChipEight

/-- The first configuration faults wherever the second one does. -/
structure Config.Refines (strict lenient : Config) : Prop where
  cyclesPerFrame : strict.cyclesPerFrame = lenient.cyclesPerFrame
  addressPolicy : strict.addressPolicy = lenient.addressPolicy ∨
    strict.addressPolicy = .strict ∧ lenient.addressPolicy = .wrap
  returnPolicy : strict.returnPolicy = lenient.returnPolicy ∨
    strict.returnPolicy = .fault ∧ lenient.returnPolicy = .ignore

def Config.contests (strict lenient : Config) : Fault → Bool
  | .addressOutOfRange _ => decide (strict.addressPolicy ≠ lenient.addressPolicy)
  | .stackUnderflow _ => decide (strict.returnPolicy ≠ lenient.returnPolicy)
  | .unknownOpcode _ => false
  | .imageTooLarge _ _ => false

def Machine.under (machine : Machine) (config : Config) : Machine :=
  { machine with config }

def Step.under (step : Step) (config : Config) : Step :=
  { step with machine := step.machine.under config }

variable {strict lenient : Config}

/-! ### Accesses to memory -/

/-- A run of accesses that meets no contested fault is safe, or the policies are the same. -/
theorem Config.runFault_of_uncontested (address count : Nat)
    (uncontested : (strict.addressPolicy.runFault address count).any (strict.contests lenient) = false)
    (differ : strict.addressPolicy ≠ lenient.addressPolicy) :
    strict.addressPolicy.runFault address count = none := by
  cases failed : strict.addressPolicy.runFault address count with
  | none => rfl
  | some fault =>
      obtain ⟨_strict, _nonempty, _leaves, same⟩ :=
        (AddressPolicy.runFault_eq_some_iff _ _ _ _).mp failed
      rw [failed, same] at uncontested
      simp only [Option.any_some, contests, decide_eq_false_iff_not] at uncontested
      exact absurd differ uncontested

theorem Config.Refines.readRun (refines : strict.Refines lenient) (memory : Memory)
    (address count : Nat)
    (uncontested : (strict.addressPolicy.runFault address count).any (strict.contests lenient) = false) :
    memory.readRun lenient.addressPolicy address count =
      memory.readRun strict.addressPolicy address count := by
  rcases refines.addressPolicy with same | ⟨atStrict, atLenient⟩
  · rw [same]
  · have safe := Config.runFault_of_uncontested address count uncontested
      (by rw [atStrict, atLenient]; decide)
    have reached := AddressPolicy.reach_of_runFault_eq_none _ _ _ safe
    rw [Memory.readRun_eq, Memory.readRun_eq, safe, reached, atLenient,
      AddressPolicy.runFault_wrap]
    rfl

theorem Config.Refines.writeRun (refines : strict.Refines lenient) (memory : Memory)
    (address : Nat) (block : List UInt8)
    (uncontested :
      (strict.addressPolicy.runFault address block.length).any (strict.contests lenient) = false) :
    memory.writeRun lenient.addressPolicy address block =
      memory.writeRun strict.addressPolicy address block := by
  rcases refines.addressPolicy with same | ⟨atStrict, atLenient⟩
  · rw [same]
  · have safe := Config.runFault_of_uncontested address block.length uncontested
      (by rw [atStrict, atLenient]; decide)
    rw [atStrict] at safe
    rw [atStrict, atLenient]
    exact memory.writeRun_wrap_of_strict address block safe

namespace Machine

/-! ### One step under two configurations -/

theorem leave_under (machine : Machine) (refines : machine.config.Refines lenient)
    (uncontested : machine.leave.fault.any (machine.config.contests lenient) = false) :
    (machine.under lenient).leave = machine.leave.under lenient := by
  cases returns : machine.cpu.stack with
  | cons counter stack => simp only [leave, under, returns]; rfl
  | nil =>
      rcases refines.returnPolicy with same | ⟨atStrict, atLenient⟩
      · simp only [leave, under, returns, ← same]
        split <;> rfl
      · simp only [leave, returns, atStrict, Option.any_some, Config.contests, atLenient] at uncontested
        cases uncontested

theorem draw_under (machine : Machine) (x y rows : UInt8)
    (refines : machine.config.Refines lenient)
    (uncontested : (machine.draw x y rows).fault.any (machine.config.contests lenient) = false) :
    (machine.under lenient).draw x y rows = (machine.draw x y rows).under lenient := by
  rw [fault_draw] at uncontested
  simp only [draw, under, Cpu.register] at uncontested ⊢
  rw [refines.readRun _ _ _ uncontested]
  rfl

theorem store_under (machine : Machine) (bytes : List UInt8)
    (refines : machine.config.Refines lenient)
    (uncontested : (machine.store bytes).fault.any (machine.config.contests lenient) = false) :
    (machine.under lenient).store bytes = (machine.store bytes).under lenient := by
  rw [fault_store] at uncontested
  simp only [store, under]
  rw [refines.writeRun _ _ _ uncontested]
  rfl

theorem load_under (machine : Machine) (count : Nat) (refines : machine.config.Refines lenient)
    (uncontested : (machine.load count).fault.any (machine.config.contests lenient) = false) :
    (machine.under lenient).load count = (machine.load count).under lenient := by
  rw [fault_load] at uncontested
  simp only [load, under]
  rw [refines.readRun _ _ _ uncontested]
  rfl

theorem awaitKey_under (machine : Machine) (x : UInt8) (config : Config) :
    (machine.under config).awaitKey x = (machine.awaitKey x).under config := by
  simp only [awaitKey, under]
  split <;> rfl

theorem deliverKey_under (machine : Machine) (x : UInt8) (config : Config) :
    (machine.under config).deliverKey x = (machine.deliverKey x).under config := by
  simp only [deliverKey, under]
  split <;> rfl

/-- An instruction that meets no contested fault does not depend on the policies. -/
theorem execute_under (machine : Machine) (instruction : Instruction)
    (refines : machine.config.Refines lenient)
    (uncontested :
      (machine.execute instruction).fault.any (machine.config.contests lenient) = false) :
    (machine.under lenient).execute instruction = (machine.execute instruction).under lenient := by
  cases instruction with
  | leave => exact machine.leave_under refines uncontested
  | draw x y rows => exact machine.draw_under x y rows refines uncontested
  | awaitKey x => exact machine.awaitKey_under x lenient
  | storeDecimal x => exact machine.store_under _ refines uncontested
  | storeRegisters x => exact machine.store_under _ refines uncontested
  | loadRegisters x => exact machine.load_under _ refines uncontested
  | _ => rfl

theorem perform_under (machine : Machine) (word : Word) (refines : machine.config.Refines lenient)
    (uncontested : (machine.perform word).fault.any (machine.config.contests lenient) = false) :
    (machine.under lenient).perform word = (machine.perform word).under lenient := by
  cases decoded : Instruction.ofWord? word with
  | none =>
      rw [perform_of_unknown _ word decoded, perform_of_unknown _ word decoded]
      rfl
  | some instruction =>
      rw [perform_of_known _ word instruction decoded] at uncontested
      rw [perform_of_known _ word instruction decoded, perform_of_known _ word instruction decoded]
      have executed := machine.advanced.execute_under instruction refines uncontested
      change ((machine.advanced.under lenient).execute instruction).announcing _ = _
      rw [executed]
      rfl

theorem fetch_under (machine : Machine) (refines : machine.config.Refines lenient)
    (uncontested : ∀ fault, machine.fetch = .error fault →
      machine.config.contests lenient fault = false) :
    (machine.under lenient).fetch = machine.fetch := by
  rcases refines.addressPolicy with same | ⟨atStrict, atLenient⟩
  · simp only [fetch, under, same]
  · by_cases inside : machine.cpu.counter.toNat < 4095
    · rw [machine.fetch_eq_ok fun _ => inside, (machine.under lenient).fetch_eq_ok fun _ => inside]
      rfl
    · have failed := uncontested _ (machine.fetch_eq_error atStrict (Nat.not_lt.mp inside))
      simp only [Config.contests, atStrict, atLenient] at failed
      cases failed

theorem cycle_under (machine : Machine) (refines : machine.config.Refines lenient)
    (uncontested : machine.cycle.fault.any (machine.config.contests lenient) = false) :
    (machine.under lenient).cycle = machine.cycle.under lenient := by
  cases waits : machine.cpu.awaiting with
  | some x =>
      rw [cycle_of_awaiting _ x waits, cycle_of_awaiting (machine.under lenient) x waits]
      exact machine.deliverKey_under x lenient
  | none =>
      have fetched := machine.fetch_under refines (by
        intro fault failed
        rw [cycle_of_fetch_error _ fault waits failed] at uncontested
        exact uncontested)
      cases found : machine.fetch with
      | error fault =>
          rw [cycle_of_fetch_error _ fault waits found,
            cycle_of_fetch_error (machine.under lenient) fault waits (fetched.trans found)]
          rfl
      | ok word =>
          rw [cycle_of_fetch_ok _ word waits found] at uncontested
          rw [cycle_of_fetch_ok _ word waits found,
            cycle_of_fetch_ok (machine.under lenient) word waits (fetched.trans found)]
          exact machine.perform_under word refines uncontested

end Machine

/-! ### Sessions under two configurations -/

/-- Machines that differ in their configuration only, up to the first contested fault. -/
def leniency (strict lenient : Config) : Simulation where
  machines left right := left.config = strict ∧ right = left.under lenient
  faults := Eq
  notices := Eq
  excusedFault fault := strict.contests lenient fault = true
  excusedNotice _ := False

theorem excuses_leniency_iff (step : Step) :
    (leniency strict lenient).Excuses step ↔
      step.fault.any (strict.contests lenient) = true := by
  constructor
  · intro excused
    rcases excused with ⟨fault, failed, contested⟩ | ⟨_notice, _given, impossible⟩
    · rw [failed]
      exact contested
    · exact impossible.elim
  · intro contested
    cases failed : step.fault with
    | none => rw [failed] at contested; cases contested
    | some fault =>
        rw [failed] at contested
        exact Or.inl ⟨fault, failed, contested⟩

theorem matches_leniency_under (step : Step) (kept : step.machine.config = strict) :
    (leniency strict lenient).Matches step (step.under lenient) := by
  refine ⟨⟨kept, rfl⟩, ?_, ?_⟩
  · change Option.Rel Eq step.fault step.fault
    cases step.fault with
    | none => exact Option.Rel.none
    | some fault => exact Option.Rel.some rfl
  · exact List.forall₂_same.mpr fun _notice _given => rfl

theorem eq_under_of_matches_leniency {left right : Step}
    (same : (leniency strict lenient).Matches left right) : right = left.under lenient := by
  rcases left with ⟨leftMachine, leftFault, leftNotices⟩
  rcases right with ⟨rightMachine, rightFault, rightNotices⟩
  obtain ⟨⟨_kept, machines⟩, faults, notices⟩ := same
  have sameFault : leftFault = rightFault := by
    cases faults with
    | none => rfl
    | some equal => exact congrArg some equal
  have sameNotices : leftNotices = rightNotices := by
    rw [← List.forall₂_eq_eq_eq]
    exact notices
  subst sameFault sameNotices
  simp only at machines
  rw [machines]
  rfl

theorem lawful_leniency (refines : strict.Refines lenient) :
    (leniency strict lenient).Lawful where
  cyclesPerFrame := by
    intro left right related
    obtain ⟨kept, rfl⟩ := related
    rw [kept]
    exact refines.cyclesPerFrame
  timers := by
    intro left right related
    obtain ⟨kept, rfl⟩ := related
    exact ⟨kept, rfl⟩
  cycle := by
    intro left right related unexcused
    obtain ⟨rfl, rfl⟩ := related
    rw [excuses_leniency_iff, Bool.not_eq_true] at unexcused
    rw [left.cycle_under refines unexcused]
    exact matches_leniency_under _ left.config_cycle

theorem act_leniency (refines : strict.Refines lenient) (action : Action) (left right : Machine)
    (related : (leniency strict lenient).machines left right)
    (unexcused : ¬ (leniency strict lenient).Excuses (left.act action)) :
    (leniency strict lenient).Matches (left.act action) (right.act action) := by
  cases action with
  | cycle => exact (lawful_leniency refines).cycle left right related unexcused
  | frame => exact (lawful_leniency refines).frame left right related unexcused
  | execute instruction =>
      obtain ⟨rfl, rfl⟩ := related
      rw [excuses_leniency_iff, Bool.not_eq_true] at unexcused
      simp only [Machine.act] at unexcused ⊢
      rw [left.execute_under instruction refines unexcused]
      exact matches_leniency_under _ (left.config_execute instruction)
  | _ =>
      obtain ⟨kept, rfl⟩ := related
      exact matches_leniency_under _ kept

theorem boot_under (strict lenient : Config) (image : List UInt8) (keypad : Keypad)
    (random : RandomSource) :
    Machine.boot lenient image keypad random =
      (Machine.boot strict image keypad random).map fun machine => machine.under lenient := by
  unfold Machine.boot
  cases Cpu.initial.withImage image <;> rfl

/-- Policies matter only where they fault: an image loads under both configurations or under none,
and until the strict session meets a contested fault, each of its steps is the step of the lenient
session, configuration aside. -/
theorem session_take_under (refines : strict.Refines lenient) (image : List UInt8)
    (keypad : Keypad) (random : RandomSource) :
    (Machine.boot lenient image keypad random =
        (Machine.boot strict image keypad random).map fun machine => machine.under lenient) ∧
      ∀ machine, Machine.boot strict image keypad random = .ok machine →
        ∀ (actions : List Action) (count : Nat),
          (∀ step ∈ (machine.session actions).take count,
            step.fault.any (strict.contests lenient) = false) →
          ((machine.under lenient).session actions).take count =
            ((machine.session actions).take count).map fun step => step.under lenient := by
  refine ⟨boot_under strict lenient image keypad random, ?_⟩
  intro machine loaded actions count uncontested
  have kept : machine.config = strict := by
    unfold Machine.boot at loaded
    cases prepared : Cpu.initial.withImage image with
    | error fault => rw [prepared] at loaded; cases loaded
    | ok cpu => rw [prepared] at loaded; cases loaded; rfl
  have agreed := Simulation.forall₂_session actions
    (fun action _member left right => act_leniency refines action left right) machine
    (machine.under lenient) ⟨kept, rfl⟩ count (by
      intro step member
      rw [excuses_leniency_iff, uncontested step member]
      exact Bool.false_ne_true)
  generalize (machine.session actions).take count = left at agreed
  generalize ((machine.under lenient).session actions).take count = right at agreed
  induction agreed with
  | nil => rfl
  | cons same _rest ih => rw [List.map_cons, ← eq_under_of_matches_leniency same, ih]

/-- A session that meets an unknown word and a load at the end of memory, up to the return over
which the configurations disagree. -/
theorem session_take_under_before_empty_return :
    (⟨16, .fault, .strict⟩ : Config).Refines ⟨16, .ignore, .wrap⟩ ∧
      ∃ machine,
        Machine.boot ⟨16, .fault, .strict⟩ [0xFF, 0xFF] .idle (.cyclic #[]) = .ok machine ∧
          ((machine.under ⟨16, .ignore, .wrap⟩).session
              [.cycle, .execute (.setIndex 0xFFF), .execute (.loadRegisters 0),
                .execute .leave]).take 3 =
            ((machine.session
              [.cycle, .execute (.setIndex 0xFFF), .execute (.loadRegisters 0),
                .execute .leave]).take 3).map fun step => step.under ⟨16, .ignore, .wrap⟩ := by
  have refines : (⟨16, .fault, .strict⟩ : Config).Refines ⟨16, .ignore, .wrap⟩ :=
    ⟨rfl, Or.inr ⟨rfl, rfl⟩, Or.inr ⟨rfl, rfl⟩⟩
  refine ⟨refines, _, rfl, (session_take_under refines [0xFF, 0xFF] .idle (.cyclic #[])).2 _ rfl
    _ 3 ?_⟩
  decide +kernel

end ChipEight
