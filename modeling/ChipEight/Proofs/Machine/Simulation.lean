import ChipEight.Machine.Host
import Mathlib.Data.List.Forall2

set_option autoImplicit false

/-!
Two machines side by side.

A simulation says which machines, faults and notices of a left and a right side correspond. Some
faults and notices of the left side may be excused: once one has come up, nothing is said any more.
What holds for a step up to there holds for a run of steps, for a frame and for a session of a host.
-/

namespace ChipEight

structure Simulation where
  machines : Machine → Machine → Prop
  faults : Fault → Fault → Prop
  notices : Notice → Notice → Prop
  excusedFault : Fault → Prop
  excusedNotice : Notice → Prop

namespace Simulation

variable (simulation : Simulation)

def Excuses (step : Step) : Prop :=
  (∃ fault, step.fault = some fault ∧ simulation.excusedFault fault) ∨
    ∃ notice ∈ step.notices, simulation.excusedNotice notice

/-- Where neither faults nor notices are excused, no step is. -/
theorem not_excuses (sureFaults : ∀ fault, ¬ simulation.excusedFault fault)
    (sureNotices : ∀ notice, ¬ simulation.excusedNotice notice) (step : Step) :
    ¬ simulation.Excuses step := by
  rintro (⟨fault, _failed, excused⟩ | ⟨notice, _given, excused⟩)
  · exact sureFaults fault excused
  · exact sureNotices notice excused

structure Matches (left right : Step) : Prop where
  machines : simulation.machines left.machine right.machine
  faults : Option.Rel simulation.faults left.fault right.fault
  notices : List.Forall₂ simulation.notices left.notices right.notices

theorem matches_announcing {left right : Step} {leftNotice rightNotice : Notice}
    (same : simulation.Matches left right) (sameNotice : simulation.notices leftNotice rightNotice) :
    simulation.Matches (left.announcing leftNotice) (right.announcing rightNotice) :=
  ⟨same.machines, same.faults, List.Forall₂.cons sameNotice same.notices⟩

theorem rel_eq_iff (left right : Option Fault) : Option.Rel Eq left right ↔ left = right := by
  constructor
  · intro same
    cases same with
    | none => rfl
    | some equal => exact congrArg some equal
  · rintro rfl
    cases left with
    | none => exact Option.Rel.none
    | some fault => exact Option.Rel.some rfl

/-- Where faults and notices have to be the same, only machines are matched. -/
theorem matches_iff_of_eq (sameFaults : simulation.faults = Eq)
    (sameNotices : simulation.notices = Eq) (left right : Step) :
    simulation.Matches left right ↔
      simulation.machines left.machine right.machine ∧ left.fault = right.fault ∧
        left.notices = right.notices := by
  rw [← rel_eq_iff, ← List.forall₂_eq_eq_eq, ← sameFaults, ← sameNotices]
  constructor
  · intro same
    exact ⟨same.machines, same.faults, same.notices⟩
  · rintro ⟨machines, faults, notices⟩
    exact ⟨machines, faults, notices⟩

/-- What a simulation has to keep in a cycle, for a frame to keep it. -/
structure Lawful : Prop where
  cyclesPerFrame : ∀ left right, simulation.machines left right →
    left.config.cyclesPerFrame = right.config.cyclesPerFrame
  timers : ∀ left right, simulation.machines left right →
    simulation.machines { left with cpu := left.cpu.advanceTimers }
      { right with cpu := right.cpu.advanceTimers }
  cycle : ∀ left right, simulation.machines left right → ¬ simulation.Excuses left.cycle →
    simulation.Matches left.cycle right.cycle

/-! ### Runs -/

structure MatchesRun (left right : Run) : Prop where
  step : simulation.Matches left.toStep right.toStep
  completed : left.completed = right.completed

theorem excuses_push (run : Run) (step : Step) (excused : simulation.Excuses step) :
    simulation.Excuses (run.push step).toStep := by
  rcases excused with atFault | ⟨notice, given, atNotice⟩
  · exact Or.inl atFault
  · refine Or.inr ⟨notice, ?_, atNotice⟩
    simp only [Run.toStep, Run.push, Array.toList_appendList]
    exact List.mem_append_right _ given

/-- A run that goes on keeps its excuse. -/
theorem excuses_extend (step : Machine → Step) (count : Nat) (run : Run)
    (excused : simulation.Excuses run.toStep) :
    simulation.Excuses (Run.extend step count run).toStep := by
  induction count generalizing run with
  | zero => exact excused
  | succ count ih =>
      cases stopped : run.fault with
      | some fault =>
          rw [Run.extend_of_fault step _ run fault stopped]
          exact excused
      | none =>
          simp only [Run.extend, stopped]
          apply ih
          rcases excused with ⟨fault, failed, _⟩ | ⟨notice, given, atNotice⟩
          · have impossible : run.fault = some fault := failed
            rw [stopped] at impossible
            cases impossible
          · refine Or.inr ⟨notice, ?_, atNotice⟩
            simp only [Run.toStep, Run.push, Array.toList_appendList]
            exact List.mem_append_left _ given

theorem matchesRun_push (left right : Run) (leftStep rightStep : Step)
    (before : simulation.MatchesRun left right)
    (after : simulation.Matches leftStep rightStep) :
    simulation.MatchesRun (left.push leftStep) (right.push rightStep) := by
  have sameEnd : leftStep.fault.isNone = rightStep.fault.isNone := by
    have faults := after.faults
    revert faults
    cases leftStep.fault <;> cases rightStep.fault <;> intro faults <;> cases faults <;> rfl
  refine ⟨⟨after.machines, after.faults, ?_⟩, ?_⟩
  · simp only [Run.toStep, Run.push, Array.toList_appendList]
    exact List.rel_append before.step.notices after.notices
  · simp only [Run.push, sameEnd, before.completed]

/-- Matching steps make matching runs. -/
theorem matchesRun_extend (step : Machine → Step)
    (each : ∀ left right, simulation.machines left right → ¬ simulation.Excuses (step left) →
      simulation.Matches (step left) (step right))
    (count : Nat) (left right : Run) (before : simulation.MatchesRun left right)
    (unexcused : ¬ simulation.Excuses (Run.extend step count left).toStep) :
    simulation.MatchesRun (Run.extend step count left) (Run.extend step count right) := by
  induction count generalizing left right with
  | zero => exact before
  | succ count ih =>
      have faults := before.step.faults
      simp only [Run.toStep] at faults
      cases stopped : left.fault with
      | some fault =>
          cases otherStopped : right.fault with
          | none => rw [stopped, otherStopped] at faults; cases faults
          | some otherFault =>
              rw [Run.extend_of_fault step _ left fault stopped,
                Run.extend_of_fault step _ right otherFault otherStopped]
              exact before
      | none =>
          cases otherStopped : right.fault with
          | some otherFault => rw [stopped, otherStopped] at faults; cases faults
          | none =>
              simp only [Run.extend, stopped] at unexcused
              simp only [Run.extend, stopped, otherStopped]
              -- An excuse in this step would be one in the whole run, which has none.
              have continuing : ¬ simulation.Excuses (step left.machine) := fun excused =>
                unexcused (simulation.excuses_extend step count _
                  (simulation.excuses_push left _ excused))
              exact ih _ _ (simulation.matchesRun_push left right _ _ before
                (each left.machine right.machine before.step.machines continuing)) unexcused

theorem matchesRun_start (left right : Machine) (related : simulation.machines left right) :
    simulation.MatchesRun { machine := left } { machine := right } :=
  ⟨⟨related, Option.Rel.none, List.Forall₂.nil⟩, rfl⟩

/-! ### Frames and sessions -/

variable {simulation}

theorem Lawful.cycles (lawful : simulation.Lawful) (left right : Machine) (count : Nat)
    (related : simulation.machines left right)
    (unexcused : ¬ simulation.Excuses (left.cycles count).toStep) :
    simulation.MatchesRun (left.cycles count) (right.cycles count) :=
  simulation.matchesRun_extend Machine.cycle lawful.cycle count _ _
    (simulation.matchesRun_start left right related) unexcused

theorem Lawful.frame (lawful : simulation.Lawful) (left right : Machine)
    (related : simulation.machines left right) (unexcused : ¬ simulation.Excuses left.frame) :
    simulation.Matches left.frame right.frame := by
  have sameLength := lawful.cyclesPerFrame left right related
  simp only [Machine.frame] at unexcused ⊢
  rw [← sameLength]
  exact (lawful.cycles _ _ _ (lawful.timers left right related) unexcused).step

/-- Matching actions make matching sessions, up to the first step that is excused. -/
theorem forall₂_session (actions : List Action)
    (each : ∀ action ∈ actions, ∀ left right, simulation.machines left right →
      ¬ simulation.Excuses (left.act action) →
      simulation.Matches (left.act action) (right.act action))
    (left right : Machine) (related : simulation.machines left right) (count : Nat)
    (unexcused : ∀ step ∈ (left.session actions).take count, ¬ simulation.Excuses step) :
    List.Forall₂ simulation.Matches ((left.session actions).take count)
      ((right.session actions).take count) := by
  induction actions generalizing left right count with
  | nil => simp only [Machine.session, List.take_nil, List.Forall₂.nil]
  | cons action rest ih =>
      cases count with
      | zero => exact List.Forall₂.nil
      | succ count =>
          simp only [Machine.session, List.take_succ_cons] at unexcused ⊢
          have first := each action List.mem_cons_self left right related
            (unexcused _ List.mem_cons_self)
          refine List.Forall₂.cons first ?_
          exact ih (fun other member => each other (List.mem_cons_of_mem _ member)) _ _
            first.machines count (fun step member => unexcused step (List.mem_cons_of_mem _ member))

end Simulation

end ChipEight
