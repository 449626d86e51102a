import ChipEight.Machine.Host
import ChipEight.Proofs.Machine.Steps
import Mathlib.Data.List.Induction

set_option autoImplicit false

/-!
What a machine goes through in the hands of a host, move by move.

A frame is many moves: the timers count down, and cycles follow up to the first that fails. The trail
of a session has a moment for every move, those inside frames included, and it comes to the same
machine, faults and notices as the session (`act_eq_stepOf`). What every move keeps holds at every
moment of a trail (`holds_trail`).
-/

namespace ChipEight

inductive Move where
  | cycle
  /-- Both timers count down, as they do at the start of a frame. -/
  | countDown
  | execute (instruction : Instruction)
  | press (key : UInt8)
  | release (key : UInt8)
  | takeKey
  | clearScreen
  | flip (x y : Nat)
deriving DecidableEq

structure Moment where
  before : Machine
  move : Move

def Machine.move (machine : Machine) : Move → Step
  | .cycle => machine.cycle
  | .countDown => .ofCpu machine machine.cpu.advanceTimers
  | .execute instruction => machine.execute instruction
  | .press key => machine.act (.press key)
  | .release key => machine.act (.release key)
  | .takeKey => machine.act .takeKey
  | .clearScreen => machine.act .clearScreen
  | .flip x y => machine.act (.flip x y)

def Moment.step (moment : Moment) : Step :=
  moment.before.move moment.move

def Moment.after (moment : Moment) : Machine :=
  moment.step.machine

def Step.events (step : Step) : List TraceEvent :=
  step.notices.filterMap Notice.event?

def eventsOf (moments : List Moment) : List TraceEvent :=
  moments.flatMap fun moment => moment.step.events

/-- The host leaves it to the program which instructions are carried out. -/
def Move.Undirected : Move → Prop
  | .execute _ => False
  | _ => True

@[inherit_doc Move.Undirected]
def Action.Undirected : Action → Prop
  | .execute _ => False
  | _ => True

instance : DecidablePred Action.Undirected
  | .execute _ => inferInstanceAs (Decidable False)
  | .cycle | .frame | .press _ | .release _ | .takeKey | .clearScreen | .flip _ _ =>
      inferInstanceAs (Decidable True)

namespace Machine

variable (machine : Machine)

/-! ### Moves in a row -/

def afterMoves (machine : Machine) : List Move → Machine
  | [] => machine
  | move :: rest => (machine.move move).machine.afterMoves rest

def history (machine : Machine) : List Move → List Moment
  | [] => []
  | move :: rest => ⟨machine, move⟩ :: (machine.move move).machine.history rest

def stepOf (moves : List Move) : Step where
  machine := machine.afterMoves moves
  fault := (machine.history moves).findSome? fun moment => moment.step.fault
  notices := (machine.history moves).flatMap fun moment => moment.step.notices

theorem afterMoves_append (first second : List Move) :
    machine.afterMoves (first ++ second) = (machine.afterMoves first).afterMoves second := by
  induction first generalizing machine with
  | nil => rfl
  | cons move rest ih => exact ih (machine.move move).machine

theorem history_append (first second : List Move) :
    machine.history (first ++ second) =
      machine.history first ++ (machine.afterMoves first).history second := by
  induction first generalizing machine with
  | nil => rfl
  | cons move rest ih => exact congrArg _ (ih (machine.move move).machine)

theorem take_history (moves : List Move) (count : Nat) :
    (machine.history moves).take count = machine.history (moves.take count) := by
  induction moves generalizing machine count with
  | nil => simp only [history, List.take_nil]
  | cons move rest ih =>
      cases count with
      | zero => rfl
      | succ count => simp only [history, List.take_succ_cons, ih]

theorem getElem?_history (moves : List Move) (place : Nat) :
    (machine.history moves)[place]? =
      moves[place]?.map fun move => ⟨machine.afterMoves (moves.take place), move⟩ := by
  induction moves generalizing machine place with
  | nil => rfl
  | cons move rest ih =>
      cases place with
      | zero => rfl
      | succ place =>
          simp only [history, List.getElem?_cons_succ, List.take_succ_cons, afterMoves, ih]

theorem map_move_history (moves : List Move) :
    (machine.history moves).map Moment.move = moves := by
  induction moves generalizing machine with
  | nil => rfl
  | cons move rest ih => exact congrArg _ (ih _)

/-- What holds at the start and is kept by every allowed move holds after allowed moves, of the
moments so far and the machine that they lead to. -/
theorem holds_history {holds : List Moment → Machine → Prop} {allowed : Move → Prop}
    (start : holds [] machine)
    (each : ∀ earlier (before : Machine) move, allowed move → holds earlier before →
      holds (earlier ++ [⟨before, move⟩]) (before.move move).machine)
    (moves : List Move) (all : ∀ move ∈ moves, allowed move) :
    holds (machine.history moves) (machine.afterMoves moves) := by
  induction moves using List.reverseRecOn with
  | nil => exact start
  | append_singleton rest move ih =>
      rw [history_append, afterMoves_append]
      exact each _ _ move (all move (List.mem_append_right rest List.mem_cons_self))
        (ih fun other member => all other (List.mem_append_left _ member))

/-- It holds at every moment of allowed moves, too. -/
theorem holds_before {holds : List Moment → Machine → Prop} {allowed : Move → Prop}
    (start : holds [] machine)
    (each : ∀ earlier (before : Machine) move, allowed move → holds earlier before →
      holds (earlier ++ [⟨before, move⟩]) (before.move move).machine)
    (moves : List Move) (all : ∀ move ∈ moves, allowed move) (place : Nat) (moment : Moment)
    (found : (machine.history moves)[place]? = some moment) :
    allowed moment.move ∧ holds ((machine.history moves).take place) moment.before := by
  rw [getElem?_history] at found
  obtain ⟨move, present, rfl⟩ := Option.map_eq_some_iff.mp found
  refine ⟨all move (List.mem_of_getElem? present), ?_⟩
  rw [take_history]
  exact machine.holds_history start each _ fun other member =>
    all other (List.mem_of_mem_take member)

/-! ### The moves of actions -/

/-- So many cycles, or those up to the first that fails. -/
def cycleMoves (machine : Machine) : Nat → List Move
  | 0 => []
  | count + 1 =>
      .cycle ::
        match machine.cycle.fault with
        | some _ => []
        | none => machine.cycle.machine.cycleMoves count

def movesOf : Action → List Move
  | .cycle => [.cycle]
  | .frame =>
      .countDown ::
        (machine.move .countDown).machine.cycleMoves machine.config.cyclesPerFrame
  | .execute instruction => [.execute instruction]
  | .press key => [.press key]
  | .release key => [.release key]
  | .takeKey => [.takeKey]
  | .clearScreen => [.clearScreen]
  | .flip x y => [.flip x y]

theorem toStep_extend_cycle (count : Nat) (run : Run) (going : run.fault = none) :
    (Run.extend cycle count run).toStep =
      { run.machine.stepOf (run.machine.cycleMoves count) with
        notices := run.notices.toList ++
          (run.machine.stepOf (run.machine.cycleMoves count)).notices } := by
  induction count generalizing run with
  | zero => simp [Run.extend, Run.toStep, cycleMoves, stepOf, history, afterMoves, going]
  | succ count ih =>
      simp only [Run.extend, going]
      cases ended : run.machine.cycle.fault with
      | some fault =>
          rw [Run.extend_of_fault cycle count _ fault ended]
          simp [Run.toStep, Run.push, cycleMoves, ended, stepOf, history, afterMoves, move,
            Moment.step]
      | none =>
          rw [ih (run.push run.machine.cycle) ended]
          simp [Run.push, cycleMoves, ended, stepOf, history, afterMoves, move, Moment.step]

theorem stepOf_singleton (move : Move) : machine.stepOf [move] = machine.move move := by
  cases fault : (machine.move move).fault <;>
    simp [stepOf, history, afterMoves, Moment.step, ← fault]

/-- An action comes to the same as its moves. -/
theorem act_eq_stepOf (action : Action) :
    machine.act action = machine.stepOf (machine.movesOf action) := by
  cases action with
  | frame =>
      have run := toStep_extend_cycle machine.config.cyclesPerFrame
        { machine := (machine.move .countDown).machine } rfl
      simp only [List.nil_append] at run
      exact run
  | _ =>
      rw [movesOf, stepOf_singleton]
      rfl

/-! ### The trail of a session -/

def moves (machine : Machine) : List Action → List Move
  | [] => []
  | action :: rest => machine.movesOf action ++ (machine.act action).machine.moves rest

/-- The moments of a session, those inside its frames included. -/
def trail (actions : List Action) : List Moment :=
  machine.history (machine.moves actions)

theorem afterSession_eq (actions : List Action) :
    machine.afterSession actions = machine.afterMoves (machine.moves actions) := by
  induction actions generalizing machine with
  | nil => rfl
  | cons action rest ih =>
      rw [moves, afterMoves_append, afterSession, ih, act_eq_stepOf]
      rfl

theorem trail_cons (action : Action) (rest : List Action) :
    machine.trail (action :: rest) =
      machine.history (machine.movesOf action) ++ (machine.act action).machine.trail rest := by
  rw [trail, moves, history_append, act_eq_stepOf]
  rfl

theorem trail_singleton (action : Action) :
    machine.trail [action] = machine.history (machine.movesOf action) :=
  (machine.trail_cons action []).trans (List.append_nil _)

theorem trail_append (first second : List Action) :
    machine.trail (first ++ second) =
      machine.trail first ++ (machine.afterSession first).trail second := by
  induction first generalizing machine with
  | nil => rfl
  | cons action rest ih =>
      rw [List.cons_append, trail_cons, ih, trail_cons, List.append_assoc]
      rfl

/-- A session and its trail announce the same instructions. -/
theorem eventsOf_trail (actions : List Action) :
    eventsOf (machine.trail actions) = (machine.session actions).flatMap Step.events := by
  induction actions generalizing machine with
  | nil => rfl
  | cons action rest ih =>
      have first : eventsOf (machine.history (machine.movesOf action)) =
          (machine.act action).events := by
        rw [act_eq_stepOf]
        simp only [eventsOf, Step.events, stepOf, List.filterMap_flatMap]
      rw [trail_cons, session, List.flatMap_cons, ← first, ← ih, eventsOf, List.flatMap_append]
      rfl

theorem undirected_of_mem_cycleMoves (count : Nat) (move : Move)
    (member : move ∈ machine.cycleMoves count) : move.Undirected := by
  induction count generalizing machine with
  | zero => cases member
  | succ count ih =>
      rcases List.mem_cons.mp member with rfl | later
      · trivial
      · split at later
        · cases later
        · exact ih _ later

theorem undirected_of_mem_movesOf (action : Action) (undirected : action.Undirected) (move : Move)
    (member : move ∈ machine.movesOf action) : move.Undirected := by
  cases action with
  | execute instruction => exact undirected.elim
  | frame =>
      rcases List.mem_cons.mp member with rfl | later
      · trivial
      · exact undirected_of_mem_cycleMoves _ _ move later
  | _ =>
      rw [List.mem_singleton.mp member]
      trivial

theorem undirected_of_mem_moves (actions : List Action)
    (undirected : ∀ action ∈ actions, action.Undirected) (move : Move)
    (member : move ∈ machine.moves actions) : move.Undirected := by
  induction actions generalizing machine with
  | nil => cases member
  | cons action rest ih =>
      rcases List.mem_append.mp member with first | later
      · exact machine.undirected_of_mem_movesOf action (undirected action List.mem_cons_self) move
          first
      · exact ih _ (fun other present => undirected other (List.mem_cons_of_mem _ present)) later

/-- What undirected moves keep holds after a session and at every moment of its trail. -/
theorem holds_trail {holds : List Moment → Machine → Prop} (start : holds [] machine)
    (each : ∀ earlier (before : Machine) (move : Move), move.Undirected → holds earlier before →
      holds (earlier ++ [⟨before, move⟩]) (before.move move).machine)
    (actions : List Action) (undirected : ∀ action ∈ actions, action.Undirected) :
    holds (machine.trail actions) (machine.afterSession actions) ∧
      ∀ place moment, (machine.trail actions)[place]? = some moment →
        moment.move.Undirected ∧ holds ((machine.trail actions).take place) moment.before := by
  have allowed := machine.undirected_of_mem_moves actions undirected
  constructor
  · rw [afterSession_eq]
    exact machine.holds_history start each _ allowed
  · exact machine.holds_before start each _ allowed

end Machine

end ChipEight
