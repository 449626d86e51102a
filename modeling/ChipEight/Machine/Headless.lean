import ChipEight.Machine.Execution

set_option autoImplicit false

/-!
Runs: the same step again and again, up to the first fault.

A run keeps how many of its steps ended well. Running for `first + second` steps is running for
`first` and then for `second` (`extend_add`); a run that has met a fault stays as it is. A run that stops
with a fault has a last step: all steps before it ended well, it failed with the fault of the run, and
nothing was done after it. Going on with a run is starting anew from its machine and putting the two
together (`extend_of_going`).

A frame is a run of cycles. Without a window, so many frames are run as fast as possible, and what is
left is the screen as text.
-/

namespace ChipEight

/-- A machine on its way: how many steps ended well, the fault that stopped it if one did, and all
notices in order. -/
structure Run where
  machine : Machine
  completed : Nat := 0
  fault : Option Fault := none
  notices : Array Notice := #[]

namespace Run

def push (run : Run) (step : Step) : Run where
  machine := step.machine
  completed := if step.fault.isNone then run.completed + 1 else run.completed
  fault := step.fault
  notices := run.notices ++ step.notices

/-- Goes on with a run for so many steps, or up to the first fault. -/
def extend (step : Machine → Step) : Nat → Run → Run
  | 0, run => run
  | count + 1, run =>
      match run.fault with
      | some _ => run
      | none => extend step count (run.push (step run.machine))

def toStep (run : Run) : Step :=
  ⟨run.machine, run.fault, run.notices.toList⟩

theorem extend_of_fault (step : Machine → Step) (count : Nat) (run : Run) (fault : Fault)
    (stopped : run.fault = some fault) : extend step count run = run := by
  cases count with
  | zero => rfl
  | succ count => simp [extend, stopped]

theorem extend_add (step : Machine → Step) (first second : Nat) (run : Run) :
    extend step (first + second) run = extend step second (extend step first run) := by
  induction first generalizing run with
  | zero => simp [extend]
  | succ first before =>
      cases stopped : run.fault with
      | some fault => simp [extend_of_fault step _ run fault stopped]
      | none => rw [Nat.succ_add, extend, extend]; simp [stopped, before]

/-! ### Where a run stops -/

theorem extend_succ_of_going (step : Machine → Step) (count : Nat) (run : Run)
    (going : (extend step count run).fault = none) :
    extend step (count + 1) run =
      (extend step count run).push (step (extend step count run).machine) := by
  rw [extend_add]
  simp only [extend, going]

theorem extend_succ_of_stopped (step : Machine → Step) (count : Nat) (run : Run) (fault : Fault)
    (stopped : (extend step count run).fault = some fault) :
    extend step (count + 1) run = extend step count run := by
  rw [extend_add]
  exact extend_of_fault step 1 _ fault stopped

theorem going_of_extend_succ (step : Machine → Step) (count : Nat) (run : Run)
    (going : (extend step (count + 1) run).fault = none) :
    (extend step count run).fault = none := by
  cases stopped : (extend step count run).fault with
  | none => rfl
  | some fault =>
      rw [extend_succ_of_stopped step count run fault stopped, stopped] at going
      cases going

/-- The step in which a run fails is its last. -/
theorem exists_last_step (step : Machine → Step) (count : Nat) (run : Run)
    (going : run.fault = none) (fault : Fault)
    (stopped : (extend step count run).fault = some fault) :
    ∃ completed < count,
      (extend step completed run).fault = none ∧
        (step (extend step completed run).machine).fault = some fault ∧
          extend step count run =
            (extend step completed run).push (step (extend step completed run).machine) := by
  induction count with
  | zero =>
      rw [show extend step 0 run = run from rfl, going] at stopped
      cases stopped
  | succ count ih =>
      -- Either the run is still going before the new step, or it has its last step already.
      cases before : (extend step count run).fault with
      | none =>
          have last := extend_succ_of_going step count run before
          rw [last] at stopped
          exact ⟨count, Nat.lt_succ_self count, before, stopped, last⟩
      | some earlier =>
          have same := extend_succ_of_stopped step count run earlier before
          rw [same] at stopped
          obtain ⟨completed, bound, found⟩ := ih stopped
          rw [same]
          exact ⟨completed, Nat.lt_succ_of_lt bound, found⟩

/-! ### Two runs in a row -/

def append (first second : Run) : Run where
  machine := second.machine
  completed := first.completed + second.completed
  fault := second.fault
  notices := first.notices ++ second.notices

theorem append_push (first second : Run) (step : Step) :
    first.append (second.push step) = (first.append second).push step := by
  have notices : first.notices ++ (second.notices ++ step.notices) =
      first.notices ++ second.notices ++ step.notices := by
    apply Array.ext'
    simp only [Array.toList_append, Array.toList_appendList, List.append_assoc]
  simp only [append, push, notices, Run.mk.injEq, true_and, and_true]
  split <;> rfl

theorem extend_of_going (step : Machine → Step) (count : Nat) (run : Run)
    (going : run.fault = none) :
    extend step count run = run.append (extend step count { machine := run.machine }) := by
  induction count with
  | zero =>
      obtain ⟨machine, completed, fault, notices⟩ := run
      cases going
      simp [extend, append]
  | succ count ih =>
      cases ended : (extend step count { machine := run.machine }).fault with
      | none =>
          have before : (extend step count run).fault = none := by rw [ih]; exact ended
          rw [extend_succ_of_going step count run before,
            extend_succ_of_going step count _ ended, ih, append_push]
          rfl
      | some fault =>
          have before : (extend step count run).fault = some fault := by rw [ih]; exact ended
          rw [extend_succ_of_stopped step count run fault before,
            extend_succ_of_stopped step count _ fault ended, ih]

theorem completed_extend (step : Machine → Step) (count : Nat) (run : Run)
    (going : (extend step count run).fault = none) :
    (extend step count run).completed = run.completed + count := by
  induction count with
  | zero => rfl
  | succ count ih =>
      have before := going_of_extend_succ step count run going
      have last := extend_succ_of_going step count run before
      rw [last] at going ⊢
      have unfailing : (step (extend step count run).machine).fault = none := going
      simp only [push, unfailing, Option.isNone_none, if_true, ih before, Nat.add_assoc]

end Run

/-! ### Cycles and frames -/

namespace Machine

def cycles (machine : Machine) (count : Nat) : Run :=
  .extend cycle count { machine }

/-- Runs one frame: both timers count down, and then the cycles of a frame are run. -/
def frame (machine : Machine) : Step :=
  (cycles { machine with cpu := machine.cpu.advanceTimers } machine.config.cyclesPerFrame).toStep

def frames (machine : Machine) (count : Nat) : Run :=
  .extend frame count { machine }

end Machine

/-! ### Without a window -/

structure Stop where
  counter : UInt16
  /-- The frame that was stopped, counting from zero. -/
  frame : Nat
  fault : Fault
deriving DecidableEq, Repr

def Stop.message (stop : Stop) : String :=
  "program stopped at " ++ Hex.marked 3 stop.counter.toNat ++ " in frame " ++ toString stop.frame

/-- The end of a run without a window: the machine, the notices, and the text of the screen if no
frame was stopped. -/
structure Headless where
  machine : Machine
  notices : Array Notice
  result : Except Stop String

def Machine.headless (machine : Machine) (count : Nat) : Headless :=
  let run := machine.frames count
  match run.fault with
  | some fault =>
      ⟨run.machine, run.notices, .error ⟨run.machine.cpu.counter, run.completed, fault⟩⟩
  | none =>
      ⟨run.machine,
        run.notices.push (.framesRun count run.machine.cpu.counter run.machine.isSounding),
        .ok run.machine.screen.text⟩

end ChipEight
