import ChipEight.Proofs.Machine.Components

set_option autoImplicit false

/-!
Frames in a row.

The moves of frames can be planned ahead: the timers count down, and then come the cycles of a frame.
A run of frames follows this plan up to the first move that fails (`toStep_frames`).
-/

namespace ChipEight

/-! ### Steps one after the other -/

def Step.andThen (first second : Step) : Step where
  machine := second.machine
  fault := first.fault.or second.fault
  notices := first.notices ++ second.notices

theorem Step.andThen_assoc (first second third : Step) :
    (first.andThen second).andThen third = first.andThen (second.andThen third) := by
  simp only [andThen, Option.or_assoc, List.append_assoc]

theorem Step.events_andThen (first second : Step) :
    (first.andThen second).events = first.events ++ second.events :=
  List.filterMap_append

theorem Run.toStep_push (run : Run) (step : Step) (going : run.fault = none) :
    (run.push step).toStep = run.toStep.andThen step := by
  simp only [toStep, push, Step.andThen, going, Option.none_or, Array.toList_appendList]

/-! ### Plans -/

def Move.InFrame : Move → Prop
  | .cycle | .countDown => True
  | _ => False

theorem Move.InFrame.undirected {move : Move} (inFrame : move.InFrame) : move.Undirected := by
  cases move with
  | cycle | countDown => trivial
  | _ => exact inFrame.elim

def framePlan (cycles : Nat) : Nat → List Move
  | 0 => []
  | count + 1 => .countDown :: List.replicate cycles .cycle ++ framePlan cycles count

theorem inFrame_of_mem_frame (cycles : Nat) (move : Move)
    (member : move ∈ Move.countDown :: List.replicate cycles .cycle) : move.InFrame := by
  rcases List.mem_cons.mp member with rfl | cycle
  · trivial
  · rw [List.eq_of_mem_replicate cycle]
    trivial

theorem inFrame_of_mem_framePlan (cycles count : Nat) (move : Move)
    (member : move ∈ framePlan cycles count) : move.InFrame := by
  induction count with
  | zero => cases member
  | succ count ih =>
      rcases List.mem_append.mp member with first | later
      · exact inFrame_of_mem_frame cycles move first
      · exact ih later

theorem count_cycle_framePlan (cycles count : Nat) :
    (framePlan cycles count).count .cycle = cycles * count := by
  induction count with
  | zero => rfl
  | succ count ih =>
      rw [framePlan, List.count_append, ih, List.count_cons_of_ne (by decide),
        List.count_replicate_self, Nat.mul_succ, Nat.add_comm]

namespace Machine

variable (machine : Machine)

/-- The moves of a plan up to the first that fails. -/
def followed (machine : Machine) : List Move → List Move
  | [] => []
  | move :: rest =>
      move ::
        match (machine.move move).fault with
        | some _ => []
        | none => (machine.move move).machine.followed rest

def follow (plan : List Move) : Step :=
  machine.stepOf (machine.followed plan)

theorem mem_of_mem_followed (plan : List Move) (move : Move)
    (member : move ∈ machine.followed plan) : move ∈ plan := by
  induction plan generalizing machine with
  | nil => exact member
  | cons first rest ih =>
      rw [followed] at member
      rcases List.mem_cons.mp member with rfl | later
      · exact List.mem_cons_self
      · split at later
        · cases later
        · exact List.mem_cons_of_mem first (ih _ later)

theorem stepOf_cons (move : Move) (rest : List Move) :
    machine.stepOf (move :: rest) =
      (machine.move move).andThen ((machine.move move).machine.stepOf rest) := by
  simp only [stepOf, Step.andThen, afterMoves, history, List.findSome?_cons, List.flatMap_cons,
    Moment.step, Step.mk.injEq, and_true, true_and]
  cases (machine.move move).fault <;> rfl

theorem exists_of_fault_stepOf (moves : List Move) (fault : Fault)
    (failed : (machine.stepOf moves).fault = some fault) :
    ∃ moment ∈ machine.history moves, moment.step.fault = some fault :=
  List.exists_of_findSome?_eq_some failed

theorem config_afterMoves (moves : List Move) :
    (machine.afterMoves moves).config = machine.config := by
  induction moves generalizing machine with
  | nil => rfl
  | cons move rest ih => exact (ih _).trans (machine.config_move move)

/-! ### Following a plan move by move -/

theorem followed_cons_of_fault (move : Move) (rest : List Move) (fault : Fault)
    (failed : (machine.move move).fault = some fault) :
    machine.followed (move :: rest) = [move] := by
  simp only [followed, failed]

theorem followed_cons_of_going (move : Move) (rest : List Move)
    (going : (machine.move move).fault = none) :
    machine.followed (move :: rest) = move :: (machine.move move).machine.followed rest := by
  simp only [followed, going]

theorem follow_cons_of_fault (move : Move) (rest : List Move) (fault : Fault)
    (failed : (machine.move move).fault = some fault) :
    machine.follow (move :: rest) = machine.move move := by
  rw [follow, machine.followed_cons_of_fault move rest fault failed, stepOf_singleton]

theorem follow_cons_of_going (move : Move) (rest : List Move)
    (going : (machine.move move).fault = none) :
    machine.follow (move :: rest) =
      (machine.move move).andThen ((machine.move move).machine.follow rest) := by
  rw [follow, machine.followed_cons_of_going move rest going, stepOf_cons]
  rfl

theorem follow_append_of_fault (first second : List Move) (fault : Fault)
    (failed : (machine.follow first).fault = some fault) :
    machine.follow (first ++ second) = machine.follow first := by
  induction first generalizing machine with
  | nil => cases failed
  | cons move rest ih =>
      rw [List.cons_append]
      cases ended : (machine.move move).fault with
      | some _ =>
          rw [machine.follow_cons_of_fault move _ _ ended,
            machine.follow_cons_of_fault move _ _ ended]
      | none =>
          rw [machine.follow_cons_of_going move rest ended, Step.andThen, ended,
            Option.none_or] at failed
          rw [machine.follow_cons_of_going move _ ended, machine.follow_cons_of_going move _ ended,
            ih _ failed]

theorem follow_append_of_going (first second : List Move)
    (going : (machine.follow first).fault = none) :
    machine.follow (first ++ second) =
      (machine.follow first).andThen ((machine.follow first).machine.follow second) := by
  induction first generalizing machine with
  | nil => rfl
  | cons move rest ih =>
      rw [List.cons_append]
      cases ended : (machine.move move).fault with
      | some _ =>
          rw [machine.follow_cons_of_fault move _ _ ended, ended] at going
          cases going
      | none =>
          rw [machine.follow_cons_of_going move rest ended, Step.andThen, ended,
            Option.none_or] at going
          rw [machine.follow_cons_of_going move _ ended, machine.follow_cons_of_going move _ ended,
            ih _ going, Step.andThen_assoc]
          rfl

/-! ### Runs of frames -/

theorem cycleMoves_eq_followed (count : Nat) :
    machine.cycleMoves count = machine.followed (List.replicate count .cycle) := by
  induction count generalizing machine with
  | zero => rfl
  | succ count ih =>
      rw [List.replicate_succ, cycleMoves, followed]
      simp only [ih]
      rfl

theorem movesOf_frame :
    machine.movesOf .frame =
      machine.followed (.countDown :: List.replicate machine.config.cyclesPerFrame .cycle) := by
  rw [movesOf, cycleMoves_eq_followed]
  rfl

theorem frame_eq_follow :
    machine.frame =
      machine.follow (.countDown :: List.replicate machine.config.cyclesPerFrame .cycle) := by
  rw [follow, ← movesOf_frame]
  exact machine.act_eq_stepOf .frame

theorem toStep_extend_frame (count : Nat) (run : Run) (going : run.fault = none) :
    (Run.extend frame count run).toStep =
      run.toStep.andThen
        (run.machine.follow (framePlan run.machine.config.cyclesPerFrame count)) := by
  induction count generalizing run with
  | zero =>
      have nothing : run.machine.follow [] = { machine := run.machine } := rfl
      rw [framePlan, nothing, Step.andThen, Option.or_none, List.append_nil]
      rfl
  | succ count ih =>
      have first := run.machine.frame_eq_follow
      have kept : (run.push run.machine.frame).machine.config = run.machine.config :=
        (congrArg (fun step => step.machine.config) first).trans
          (run.machine.config_afterMoves _)
      rw [Run.extend]
      simp only [going]
      cases ended : run.machine.frame.fault with
      | some fault =>
          rw [Run.extend_of_fault frame count (run.push run.machine.frame) fault ended,
            run.toStep_push _ going, first, framePlan,
            run.machine.follow_append_of_fault _ _ fault (first ▸ ended)]
      | none =>
          rw [ih (run.push run.machine.frame) ended, run.toStep_push _ going, Step.andThen_assoc,
            kept, framePlan, run.machine.follow_append_of_going _ _ (first ▸ ended), ← first]
          rfl

/-- A run of frames follows its plan. -/
theorem toStep_frames (count : Nat) :
    (machine.frames count).toStep =
      machine.follow (framePlan machine.config.cyclesPerFrame count) :=
  toStep_extend_frame count { machine } rfl

theorem inFrame_of_mem_moves (count : Nat) (move : Move)
    (member : move ∈ machine.moves (List.replicate count .frame)) : move.InFrame := by
  induction count generalizing machine with
  | zero => cases member
  | succ count ih =>
      rcases List.mem_append.mp member with first | later
      · rw [movesOf_frame] at first
        exact inFrame_of_mem_frame _ move (machine.mem_of_mem_followed _ move first)
      · exact ih _ later

end Machine

end ChipEight
