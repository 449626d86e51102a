import ChipEight.Proofs.Machine.Frames
import ChipEight.Proofs.Machine.Loading
import ChipEight.Proofs.Parts.Isolation

set_option autoImplicit false

/-!
Frames of any length.

Timers count down between the cycles of a program, and how many cycles lie between two of these moments
is a matter of pace. A program that does not look at the delay timer cannot tell: the same cycles in
longer or shorter frames come to the same machine, the timers aside (`frames_regrouped`).
-/

namespace ChipEight

/-- Two lists of moves with the same cycles, between which the timers count down as they like. -/
inductive Regrouped : List Move → List Move → Prop
  | done : Regrouped [] []
  | countDownLeft {left right : List Move} (rest : Regrouped left right) :
      Regrouped (.countDown :: left) right
  | countDownRight {left right : List Move} (rest : Regrouped left right) :
      Regrouped left (.countDown :: right)
  | cycle {left right : List Move} (rest : Regrouped left right) :
      Regrouped (.cycle :: left) (.cycle :: right)

theorem regrouped_of_count_eq (left right : List Move) (leftMoves : ∀ move ∈ left, move.InFrame)
    (rightMoves : ∀ move ∈ right, move.InFrame)
    (same : left.count .cycle = right.count .cycle) : Regrouped left right := by
  induction left generalizing right with
  | nil =>
      induction right with
      | nil => exact Regrouped.done
      | cons move rest ih =>
          have inFrame := rightMoves move List.mem_cons_self
          cases move with
          | countDown =>
              exact Regrouped.countDownRight
                (ih (fun other member => rightMoves other (List.mem_cons_of_mem _ member)) same)
          | cycle =>
              rw [List.count_nil, List.count_cons_self] at same
              omega
          | _ => exact inFrame.elim
  | cons move leftRest leftIh =>
      have leftTail : ∀ other ∈ leftRest, other.InFrame :=
        fun other member => leftMoves other (List.mem_cons_of_mem _ member)
      have inFrame := leftMoves move List.mem_cons_self
      cases move with
      | countDown => exact Regrouped.countDownLeft (leftIh right leftTail rightMoves same)
      | cycle =>
          -- The right side counts down until it comes to the cycle of the left side.
          induction right with
          | nil =>
              rw [List.count_nil, List.count_cons_self] at same
              omega
          | cons other rest ih =>
              have otherInFrame := rightMoves other List.mem_cons_self
              have tail : ∀ further ∈ rest, further.InFrame :=
                fun further member => rightMoves further (List.mem_cons_of_mem _ member)
              cases other with
              | countDown => exact Regrouped.countDownRight (ih tail same)
              | cycle =>
                  rw [List.count_cons_self, List.count_cons_self, Nat.succ_inj] at same
                  exact Regrouped.cycle (leftIh rest leftTail tail same)
              | _ => exact otherInFrame.elim
      | _ => exact inFrame.elim

theorem regrouped_framePlan (left right leftCount rightCount : Nat)
    (same : left * leftCount = right * rightCount) :
    Regrouped (framePlan left leftCount) (framePlan right rightCount) := by
  apply regrouped_of_count_eq
  · exact inFrame_of_mem_framePlan left leftCount
  · exact inFrame_of_mem_framePlan right rightCount
  · rw [count_cycle_framePlan, count_cycle_framePlan, same]

/-! ### Machines without timers and pace -/

def Machine.timeless (machine : Machine) : Machine :=
  ((machine.without .delay).without .sound).without .pace

def Step.timeless (step : Step) : Step :=
  ((step.without .delay).without .sound).without .pace

theorem Step.timeless_eq_iff (left right : Step) :
    left.timeless = right.timeless ↔
      left.machine.timeless = right.machine.timeless ∧ left.fault = right.fault ∧
        left.notices = right.notices := by
  rw [timeless, timeless, without_eq_iff]
  rfl

theorem Step.timeless_andThen {left right leftRest rightRest : Step}
    (first : left.timeless = right.timeless) (rest : leftRest.timeless = rightRest.timeless) :
    (left.andThen leftRest).timeless = (right.andThen rightRest).timeless := by
  rw [timeless_eq_iff] at first rest ⊢
  obtain ⟨_machines, faults, notices⟩ := first
  obtain ⟨restMachines, restFaults, restNotices⟩ := rest
  exact ⟨restMachines, congrArg₂ Option.or faults restFaults,
    congrArg₂ (fun notices more => notices ++ more) notices restNotices⟩

theorem Step.without_comm (step : Step) (first second : Part) :
    (step.without first).without second = (step.without second).without first := by
  cases first <;> cases second <;> rfl

theorem Step.timeless_of_without {left right : Step} (part : Part)
    (temporal : part = .delay ∨ part = .sound ∨ part = .pace)
    (same : left.without part = right.without part) : left.timeless = right.timeless := by
  rcases temporal with rfl | rfl | rfl
  · rw [timeless, same, timeless]
  · rw [timeless, without_comm left, same, without_comm right, timeless]
  · rw [timeless, without_comm (left.without .delay), without_comm left, same,
      without_comm right, without_comm (right.without .delay), timeless]

namespace Machine

theorem next?_timeless (machine : Machine) : machine.timeless.next? = machine.next? := by
  rw [timeless, next?_without, next?_without, next?_without]

/-- A cycle that does not look at the delay timer does the same at any time and pace. -/
theorem cycle_timeless (machine : Machine)
    (unread : ∀ instruction, machine.next? = some instruction →
      Part.delay.isReadBy instruction = false) :
    machine.timeless.cycle.timeless = machine.cycle.timeless := by
  have delay := machine.cycle_without .delay unread nofun
  have sound := (machine.without .delay).cycle_without .sound (fun _ _ => rfl) nofun
  have pace := ((machine.without .delay).without .sound).cycle_without .pace (fun _ _ => rfl) nofun
  calc machine.timeless.cycle.timeless
      = ((machine.without .delay).without .sound).cycle.timeless :=
        Step.timeless_of_without .pace (Or.inr (Or.inr rfl)) pace
    _ = (machine.without .delay).cycle.timeless :=
        Step.timeless_of_without .sound (Or.inr (Or.inl rfl)) sound
    _ = machine.cycle.timeless := Step.timeless_of_without .delay (Or.inl rfl) delay

theorem cycle_timeless_congr (left right : Machine) (same : left.timeless = right.timeless)
    (unread : ∀ event ∈ left.cycle.events, Part.delay.isReadBy event.instruction = false) :
    left.cycle.timeless = right.cycle.timeless := by
  have looksAway : ∀ instruction, left.next? = some instruction →
      Part.delay.isReadBy instruction = false := by
    intro instruction next
    obtain ⟨event, announced, rfl⟩ := left.exists_event_of_next? instruction next
    exact unread event announced
  have sameNext : right.next? = left.next? := by
    rw [← left.next?_timeless, same, right.next?_timeless]
  rw [← left.cycle_timeless looksAway, same, right.cycle_timeless (sameNext ▸ looksAway)]

/-! ### Plans of the same cycles -/

/-- Regrouped plans come to the same but for timers and pace, after the same number of cycles. -/
theorem follow_timeless_congr {first second : List Move} (regrouped : Regrouped first second)
    (left right : Machine) (same : left.timeless = right.timeless)
    (unread : ∀ event ∈ (left.follow first).events,
      Part.delay.isReadBy event.instruction = false) :
    (left.follow first).timeless = (right.follow second).timeless ∧
      (left.followed first).count .cycle = (right.followed second).count .cycle := by
  induction regrouped generalizing left right with
  | done => exact ⟨(Step.timeless_eq_iff _ _).mpr ⟨same, rfl, rfl⟩, rfl⟩
  | countDownLeft _rest ih =>
      rw [left.follow_cons_of_going .countDown _ rfl] at unread ⊢
      rw [left.followed_cons_of_going .countDown _ rfl, List.count_cons_of_ne (by decide)]
      exact ih _ right same unread
  | countDownRight _rest ih =>
      rw [right.follow_cons_of_going .countDown _ rfl,
        right.followed_cons_of_going .countDown _ rfl, List.count_cons_of_ne (by decide)]
      exact ih left _ same unread
  | cycle _rest ih =>
      cases ended : (left.move .cycle).fault with
      | some fault =>
          rw [left.follow_cons_of_fault .cycle _ fault ended] at unread ⊢
          have first := left.cycle_timeless_congr right same unread
          have alsoEnded : (right.move .cycle).fault = some fault :=
            ((Step.timeless_eq_iff _ _).mp first).2.1.symm.trans ended
          rw [right.follow_cons_of_fault .cycle _ fault alsoEnded,
            left.followed_cons_of_fault .cycle _ fault ended,
            right.followed_cons_of_fault .cycle _ fault alsoEnded]
          exact ⟨first, rfl⟩
      | none =>
          rw [left.follow_cons_of_going .cycle _ ended, Step.events_andThen] at unread
          have first := left.cycle_timeless_congr right same
            fun event announced => unread event (List.mem_append_left _ announced)
          obtain ⟨machines, faults, _notices⟩ := (Step.timeless_eq_iff _ _).mp first
          have going : (right.move .cycle).fault = none := faults.symm.trans ended
          obtain ⟨later, count⟩ := ih _ _ machines
            fun event announced => unread event (List.mem_append_right _ announced)
          rw [left.follow_cons_of_going .cycle _ ended, right.follow_cons_of_going .cycle _ going,
            left.followed_cons_of_going .cycle _ ended,
            right.followed_cons_of_going .cycle _ going, List.count_cons_self,
            List.count_cons_self]
          exact ⟨Step.timeless_andThen first later, congrArg Nat.succ count⟩

/-! ### Runs of frames -/

def paced (machine : Machine) (cyclesPerFrame : Nat) : Machine :=
  { machine with config := { machine.config with cyclesPerFrame } }

/-- How many cycles a run of so many frames makes; one that fails is the last of them. -/
def cyclesOfFrames (machine : Machine) (count : Nat) : Nat :=
  (machine.followed (framePlan machine.config.cyclesPerFrame count)).count .cycle

theorem config_frames (machine : Machine) (count : Nat) :
    (machine.frames count).machine.config = machine.config := by
  change (machine.frames count).toStep.machine.config = machine.config
  rw [toStep_frames]
  exact machine.config_afterMoves _

theorem eq_of_timeless_eq (left right : Machine) (same : left.timeless = right.timeless) :
    right =
      { left with
        cpu := { left.cpu with delay := right.cpu.delay, sound := right.cpu.sound }
        config := { left.config with cyclesPerFrame := right.config.cyclesPerFrame } } := by
  rcases left with ⟨⟨_, _, _, _, _, _, _, _⟩, _, _, _, ⟨_, _, _⟩⟩
  rcases right with ⟨⟨_, _, _, _, _, _, _, _⟩, _, _, _, ⟨_, _, _⟩⟩
  cases same
  rfl

/-- The same number of cycles in frames of another length ends in the same way after the same number of
cycles, gives the same notices, and leaves the same machine but for the timers, if no instruction looks
at the delay timer. -/
theorem frames_regrouped (machine : Machine) (pace otherPace count otherCount : Nat)
    (same : pace * count = otherPace * otherCount)
    (unread : ∀ event ∈ ((machine.paced pace).frames count).toStep.events, ∀ x,
      event.instruction ≠ .readDelay x) :
    let run := (machine.paced pace).frames count
    let other := (machine.paced otherPace).frames otherCount
    other.fault = run.fault ∧
      (machine.paced otherPace).cyclesOfFrames otherCount =
        (machine.paced pace).cyclesOfFrames count ∧
        other.notices = run.notices ∧
          ∃ delay sound, other.machine =
            ({ run.machine with cpu := { run.machine.cpu with delay, sound } } : Machine).paced
              otherPace := by
  intro run other
  have looksAway : ∀ event ∈ ((machine.paced pace).frames count).toStep.events,
      Part.delay.isReadBy event.instruction = false := by
    intro event announced
    have different := unread event announced
    cases found : event.instruction with
    | readDelay x => exact absurd found (different x)
    | _ => rfl
  rw [toStep_frames] at looksAway
  obtain ⟨alike, cycles⟩ := follow_timeless_congr
    (regrouped_framePlan pace otherPace count otherCount same) (machine.paced pace)
    (machine.paced otherPace) rfl looksAway
  have matched : run.toStep.timeless = other.toStep.timeless := by
    rw [(machine.paced pace).toStep_frames, (machine.paced otherPace).toStep_frames]
    exact alike
  obtain ⟨machines, faults, notices⟩ := (Step.timeless_eq_iff _ _).mp matched
  refine ⟨faults.symm, cycles.symm, (Array.toList_inj.mp notices).symm,
    other.machine.cpu.delay, other.machine.cpu.sound, ?_⟩
  have rest := eq_of_timeless_eq run.machine other.machine machines
  rw [show other.machine.config = (machine.paced otherPace).config from config_frames _ _] at rest
  exact rest

/-- A program that sets both timers fails in its fifth cycle, be it in the second frame or in the
third. -/
theorem frames_regrouped_before_empty_return :
    ∃ machine,
      boot { returnPolicy := .fault } [0x60, 0x05, 0xF0, 0x15, 0xF0, 0x18, 0x70, 0x01, 0x00, 0xEE]
        .idle (.cyclic #[]) = .ok machine ∧
      ((machine.paced 2).frames 3).fault = some (.stackUnderflow 0x20A) ∧
        (machine.paced 2).cyclesOfFrames 3 = 5 ∧
          ((machine.paced 3).frames 2).completed = 1 ∧
            ((machine.paced 2).frames 3).completed = 2 := by
  obtain ⟨machine, same⟩ : ∃ machine, machine = booted { returnPolicy := .fault }
    [0x60, 0x05, 0xF0, 0x15, 0xF0, 0x18, 0x70, 0x01, 0x00, 0xEE] .idle (.cyclic #[]) := ⟨_, rfl⟩
  have facts : (∀ event ∈ ((machine.paced 3).frames 2).toStep.events,
      Part.delay.isReadBy event.instruction = false) ∧
        ((machine.paced 3).frames 2).fault = some (.stackUnderflow 0x20A) ∧
          (machine.paced 3).cyclesOfFrames 2 = 5 ∧
            ((machine.paced 3).frames 2).completed = 1 ∧
              ((machine.paced 2).frames 3).completed = 2 := by
    subst same
    decide +kernel
  obtain ⟨unread, fault, cycles, completed, otherCompleted⟩ := facts
  obtain ⟨otherFault, otherCycles, _notices, _machines⟩ :=
    frames_regrouped machine 3 2 2 3 rfl (by
      intro event announced x reads
      have looksAway := unread event announced
      rw [reads] at looksAway
      cases looksAway)
  refine ⟨machine, ?_, otherFault.trans fault, otherCycles.trans cycles, completed, otherCompleted⟩
  rw [same]
  exact boot_eq_ok _ _ _ _ (by decide)

end Machine

end ChipEight
