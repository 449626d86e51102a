import ChipEight.Machine.Headless
import ChipEight.Proofs.Keypad.Delivery
import ChipEight.Proofs.Machine.Simulation

set_option autoImplicit false

/-!
How much of the register operand that waits for a key counts.

The operand is kept as a byte, and its low four bits say which register receives the key. So machines
that differ in the upper bits only do the same in every session and in every run without a window, the
notice of the delivery aside (`session_narrowWait`, `result_headless_narrowWait`).
-/

namespace ChipEight

/-- The machine with the upper bits of the operand that waits left out. -/
def Machine.narrowWait (machine : Machine) : Machine :=
  { machine with
    cpu := { machine.cpu with awaiting := machine.cpu.awaiting.map fun x => x % 16 } }

@[inherit_doc Machine.narrowWait]
def Notice.narrowWait : Notice → Notice
  | .keyReceived x key => .keyReceived (x % 16) key
  | notice => notice

@[inherit_doc Machine.narrowWait]
def Step.narrowWait (step : Step) : Step where
  machine := step.machine.narrowWait
  fault := step.fault
  notices := step.notices.map Notice.narrowWait

theorem Machine.narrowWait_narrowWait (machine : Machine) :
    machine.narrowWait.narrowWait = machine.narrowWait := by
  have again : ((fun x : UInt8 => x % 16) ∘ fun x => x % 16) = fun x => x % 16 :=
    funext Cpu.mod_mod
  simp only [narrowWait, Option.map_map, again]

theorem Notice.narrowWait_narrowWait (notice : Notice) :
    notice.narrowWait.narrowWait = notice.narrowWait := by
  cases notice with
  | keyReceived x key => simp only [narrowWait, Cpu.mod_mod]
  | _ => rfl

theorem Step.narrowWait_narrowWait (step : Step) :
    step.narrowWait.narrowWait = step.narrowWait := by
  have again : Notice.narrowWait ∘ Notice.narrowWait = Notice.narrowWait :=
    funext Notice.narrowWait_narrowWait
  simp only [narrowWait, Machine.narrowWait_narrowWait, List.map_map, again]

namespace Machine

variable (machine : Machine)

/-! ### Instructions -/

theorem leave_narrowWait : machine.narrowWait.leave = machine.leave.narrowWait := by
  have sameStack : machine.narrowWait.cpu.stack = machine.cpu.stack := rfl
  have samePolicy : machine.narrowWait.config.returnPolicy = machine.config.returnPolicy := rfl
  unfold leave
  rw [sameStack, samePolicy]
  split
  · rfl
  · split <;> rfl

theorem load_narrowWait (count : Nat) :
    machine.narrowWait.load count = (machine.load count).narrowWait := by
  have sameRegisters : machine.narrowWait.cpu.registers = machine.cpu.registers := rfl
  simp only [load]
  rw [Cpu.setRegisterRun_eq, Cpu.setRegisterRun_eq machine.cpu,
    Cpu.registers_setRegisterRun_congr sameRegisters]
  rfl

theorem awaitKey_narrowWait (x : UInt8) :
    (machine.narrowWait.awaitKey x).narrowWait = (machine.awaitKey x).narrowWait := by
  have sameKeypad : machine.narrowWait.keypad = machine.keypad := rfl
  unfold awaitKey
  rw [sameKeypad]
  split
  · rename_i key _pending
    exact Step.narrowWait_narrowWait { machine :=
      { machine with cpu := machine.cpu.setRegister x key, keypad := machine.keypad.taken } }
  · rfl

theorem execute_narrowWait (instruction : Instruction) :
    (machine.narrowWait.execute instruction).narrowWait =
      (machine.execute instruction).narrowWait := by
  by_cases awaits : ∃ x, instruction = .awaitKey x
  · obtain ⟨x, rfl⟩ := awaits
    exact machine.awaitKey_narrowWait x
  · -- No other instruction has to do with the operand that waits.
    have same : machine.narrowWait.execute instruction =
        (machine.execute instruction).narrowWait := by
      cases instruction with
      | awaitKey x => exact absurd ⟨x, rfl⟩ awaits
      | leave => exact machine.leave_narrowWait
      | loadRegisters x => exact machine.load_narrowWait _
      | skipEqualByte x byte | skipUnequalByte x byte | skipEqual x y | skipUnequal x y | skipHeld x
      | skipReleased x =>
          simp only [execute, Cpu.skipIf_eq]
          rfl
      | _ => rfl
    rw [same, Step.narrowWait_narrowWait]

/-! ### Cycles -/

theorem deliverKey_narrowWait (x : UInt8) :
    (machine.narrowWait.deliverKey (x % 16)).narrowWait = (machine.deliverKey x).narrowWait := by
  have sameKeypad : machine.narrowWait.keypad = machine.keypad := rfl
  unfold deliverKey
  rw [sameKeypad]
  split
  · simp only [Cpu.setRegister_mod, Step.narrowWait, List.map_cons, Notice.narrowWait, Cpu.mod_mod]
    rfl
  · exact Step.narrowWait_narrowWait { machine }

theorem perform_narrowWait (word : Word) :
    (machine.narrowWait.perform word).narrowWait = (machine.perform word).narrowWait := by
  cases decoded : Instruction.ofWord? word with
  | none =>
      rw [perform_of_unknown _ word decoded, perform_of_unknown _ word decoded]
      exact Step.narrowWait_narrowWait
        { machine := machine.advanced, fault := some (.unknownOpcode word) }
  | some instruction =>
      rw [perform_of_known _ word instruction decoded, perform_of_known _ word instruction decoded]
      exact congrArg (Step.announcing (.executing (machine.eventOf word instruction)))
        (machine.advanced.execute_narrowWait instruction)

theorem cycle_narrowWait : machine.narrowWait.cycle.narrowWait = machine.cycle.narrowWait := by
  have sameFetch : machine.narrowWait.fetch = machine.fetch := rfl
  cases waits : machine.cpu.awaiting with
  | some x =>
      have alsoWaits : machine.narrowWait.cpu.awaiting = some (x % 16) :=
        congrArg (Option.map fun x => x % 16) waits
      rw [cycle_of_awaiting _ x waits, cycle_of_awaiting _ (x % 16) alsoWaits]
      exact machine.deliverKey_narrowWait x
  | none =>
      have alsoFree : machine.narrowWait.cpu.awaiting = none :=
        congrArg (Option.map fun x => x % 16) waits
      cases found : machine.fetch with
      | error fault =>
          rw [cycle_of_fetch_error _ fault waits found,
            cycle_of_fetch_error _ fault alsoFree (sameFetch.trans found)]
          exact Step.narrowWait_narrowWait { machine, fault := some fault }
      | ok word =>
          rw [cycle_of_fetch_ok _ word waits found,
            cycle_of_fetch_ok _ word alsoFree (sameFetch.trans found)]
          exact machine.perform_narrowWait word

end Machine

/-! ### Machines side by side -/

def waitingAlike : Simulation where
  machines left right := left.narrowWait = right.narrowWait
  faults := Eq
  notices left right := left.narrowWait = right.narrowWait
  excusedFault _ := False
  excusedNotice _ := False

theorem not_excuses_waitingAlike (step : Step) : ¬ waitingAlike.Excuses step :=
  waitingAlike.not_excuses (fun _fault => not_false) (fun _notice => not_false) step

theorem matches_waitingAlike_iff (left right : Step) :
    waitingAlike.Matches left right ↔ left.narrowWait = right.narrowWait := by
  have faults : Option.Rel waitingAlike.faults left.fault right.fault ↔ left.fault = right.fault :=
    Simulation.rel_eq_iff _ _
  have notices : List.Forall₂ waitingAlike.notices left.notices right.notices ↔
      left.notices.map Notice.narrowWait = right.notices.map Notice.narrowWait := by
    rw [← List.forall₂_eq_eq_eq, List.forall₂_map_left_iff, List.forall₂_map_right_iff]
    rfl
  rw [Step.narrowWait, Step.narrowWait, Step.mk.injEq, ← faults, ← notices]
  constructor
  · intro same
    exact ⟨same.machines, same.faults, same.notices⟩
  · rintro ⟨machines, sameFaults, sameNotices⟩
    exact ⟨machines, sameFaults, sameNotices⟩

theorem lawful_waitingAlike : waitingAlike.Lawful where
  cyclesPerFrame left right related :=
    congrArg (fun machine => machine.config.cyclesPerFrame) related
  timers := by
    intro left right related
    have same : left.narrowWait = right.narrowWait := related
    exact congrArg (fun machine => (machine.move .countDown).machine) same
  cycle := by
    intro left right related _unexcused
    have same : left.narrowWait = right.narrowWait := related
    rw [matches_waitingAlike_iff, ← left.cycle_narrowWait, same, right.cycle_narrowWait]

namespace Machine

variable (left right : Machine)

theorem act_narrowWait (action : Action) (same : left.narrowWait = right.narrowWait) :
    (left.act action).narrowWait = (right.act action).narrowWait := by
  cases action with
  | cycle =>
      rw [act, act, ← left.cycle_narrowWait, same, right.cycle_narrowWait]
  | frame =>
      exact (matches_waitingAlike_iff _ _).mp
        (lawful_waitingAlike.frame left right same (not_excuses_waitingAlike _))
  | execute instruction =>
      rw [act, act, ← left.execute_narrowWait, same, right.execute_narrowWait]
  | press key =>
      exact congrArg (fun machine => machine.act (.press key)) same
  | release key =>
      exact congrArg (fun machine => machine.act (.release key)) same
  | takeKey =>
      exact congrArg (fun machine => machine.act .takeKey) same
  | clearScreen =>
      exact congrArg (fun machine => machine.act .clearScreen) same
  | flip x y =>
      exact congrArg (fun machine => machine.act (.flip x y)) same

/-- A host cannot tell the upper bits of the operand that waits, in any session. -/
theorem session_narrowWait (actions : List Action) (same : left.narrowWait = right.narrowWait) :
    (left.session actions).map Step.narrowWait = (right.session actions).map Step.narrowWait := by
  induction actions generalizing left right with
  | nil => rfl
  | cons action rest ih =>
      have first := left.act_narrowWait right action same
      have after : (left.act action).machine.narrowWait = (right.act action).machine.narrowWait :=
        congrArg Step.machine first
      simp only [session, List.map_cons, first, ih _ _ after]

theorem result_headless_narrowWait (count : Nat) (same : left.narrowWait = right.narrowWait) :
    (left.headless count).result = (right.headless count).result := by
  have matched := waitingAlike.matchesRun_extend frame lawful_waitingAlike.frame count _ _
    (waitingAlike.matchesRun_start left right same) (not_excuses_waitingAlike _)
  have steps := (matches_waitingAlike_iff _ _).mp matched.step
  have faults : (left.frames count).fault = (right.frames count).fault :=
    congrArg Step.fault steps
  have counters : (left.frames count).machine.cpu.counter =
      (right.frames count).machine.cpu.counter :=
    congrArg (fun step => step.machine.cpu.counter) steps
  have screens : (left.frames count).machine.screen = (right.frames count).machine.screen :=
    congrArg (fun step => step.machine.screen) steps
  have completed : (left.frames count).completed = (right.frames count).completed :=
    matched.completed
  unfold headless
  simp only [faults]
  split
  · simp only [counters, completed]
  · simp only [screens]

end Machine

/-! ### A wait and what follows it -/

/-- The move neither gives the waiting register its key nor makes another register wait. -/
def Moment.KeepsWaiting (moment : Moment) : Prop :=
  match moment.move with
  | .cycle => moment.before.keypad.pending = none
  | .execute (.awaitKey _) => moment.before.keypad.pending ≠ none
  | _ => True

/-- An operand is kept as it is, and whatever follows, the register that its low four bits name
receives the key. -/
structure Machine.WaitsFor (machine : Machine) (x : UInt8) (step : Step) : Prop where
  recorded : step =
    { machine := { machine with cpu := { machine.cpu with awaiting := some x } }
      notices := [.keyAwaited x] }
  delivered : ∀ moves : List Move,
    (∀ moment ∈ step.machine.history moves, moment.KeepsWaiting) →
      ∀ key, (step.machine.afterMoves moves).keypad.pending = some key →
        (step.machine.afterMoves moves).cycle =
          { machine := (step.machine.afterMoves moves).received (x % 16) key
            notices := [.keyReceived x key] }
  sessions : ∀ actions : List Action,
    (step.machine.session actions).map Step.narrowWait =
      ((machine.execute (.awaitKey (x % 16))).machine.session actions).map Step.narrowWait
  headless : ∀ count : Nat,
    (step.machine.headless count).result =
      ((machine.execute (.awaitKey (x % 16))).machine.headless count).result

namespace Machine

variable (machine : Machine) (x : UInt8)

theorem awaiting_move_of_keepsWaiting (move : Move) (waits : machine.cpu.awaiting = some x)
    (keeps : Moment.KeepsWaiting ⟨machine, move⟩) :
    (machine.move move).machine.cpu.awaiting = some x := by
  cases move with
  | cycle =>
      have nothing : machine.keypad.pending = none := keeps
      rw [Machine.move, machine.cycle_of_awaiting x waits, deliverKey, nothing]
      exact waits
  | execute instruction =>
      rw [Machine.move, awaiting_execute]
      cases instruction with
      | awaitKey y =>
          have pending : machine.keypad.pending.isNone = false :=
            Option.isNone_eq_false_iff.mpr (Option.isSome_iff_ne_none.mpr keeps)
          simp only [pending, Bool.false_eq_true, if_false, waits]
      | _ => exact waits
  | _ => exact waits

theorem awaiting_afterMoves (moves : List Move) (waits : machine.cpu.awaiting = some x)
    (keep : ∀ moment ∈ machine.history moves, moment.KeepsWaiting) :
    (machine.afterMoves moves).cpu.awaiting = some x := by
  induction moves generalizing machine with
  | nil => exact waits
  | cons move rest ih =>
      exact ih _ (machine.awaiting_move_of_keepsWaiting x move waits (keep _ List.mem_cons_self))
        fun moment member => keep moment (List.mem_cons_of_mem _ member)

theorem cycle_of_awaiting_of_pending (key : UInt8) (waits : machine.cpu.awaiting = some x)
    (pending : machine.keypad.pending = some key) :
    machine.cycle =
      { machine := machine.received (x % 16) key, notices := [.keyReceived x key] } := by
  rw [machine.cycle_of_awaiting x waits, deliverKey, pending]
  simp only [received, Cpu.setRegister_mod]

/-- An instruction that finds no press waits, and the upper bits of its operand do not matter. -/
theorem waitsFor_awaitKey (nothing : machine.keypad.pending = none) :
    machine.WaitsFor x (machine.awaitKey x) := by
  have waiting : ∀ operand : UInt8, machine.awaitKey operand =
      { machine := { machine with cpu := { machine.cpu with awaiting := some operand } }
        notices := [.keyAwaited operand] } := by
    intro operand
    simp only [awaitKey, nothing]
  have alike : (machine.awaitKey x).machine.narrowWait =
      (machine.execute (.awaitKey (x % 16))).machine.narrowWait := by
    rw [execute, waiting, waiting]
    simp only [narrowWait, Option.map_some, Cpu.mod_mod]
  constructor
  case recorded => exact waiting x
  case delivered =>
    intro moves keep key pending
    have waits : (machine.awaitKey x).machine.cpu.awaiting = some x := by rw [waiting]
    exact cycle_of_awaiting_of_pending _ x key (awaiting_afterMoves _ x moves waits keep) pending
  case sessions =>
    intro actions
    exact session_narrowWait _ _ actions alike
  case headless =>
    intro count
    exact result_headless_narrowWait _ _ count alike

end Machine

end ChipEight
