import ChipEight.Machine.Headless
import ChipEight.Proofs.Keypad.Delivery
import ChipEight.Proofs.Machine.Frames

set_option autoImplicit false

/-!
Frames without key events.

A press can be taken once, and frames bring no other. So a program that is left alone receives at most
the key that was pending at the start, and once it waits with nothing pending, only the timers go on
(`frames_without_key_events`).
-/

namespace ChipEight.Machine

/-! ### The press that is there -/

theorem keypad_cycle (machine : Machine) :
    machine.cycle.machine.keypad = machine.keypad ∨
      machine.cycle.machine.keypad = machine.keypad.taken := by
  have course := machine.course_cycle
  generalize machine.cycle = step at course ⊢
  cases course with
  | waiting x _waits => exact Or.inr (machine.keypad_deliverKey x)
  | unfetched _fault _free _failed => exact Or.inl rfl
  | unknown _word _free _fetched _unknown => exact Or.inl rfl
  | known word instruction _free _fetched _known =>
      simp only [Step.announcing, keypad_execute]
      cases instruction with
      | awaitKey x => exact Or.inr rfl
      | _ => exact Or.inl rfl

theorem keypad_move (machine : Machine) (move : Move) (inFrame : move.InFrame) :
    (machine.move move).machine.keypad = machine.keypad ∨
      (machine.move move).machine.keypad = machine.keypad.taken := by
  cases move with
  | cycle => exact machine.keypad_cycle
  | countDown => exact Or.inl rfl
  | _ => exact inFrame.elim

theorem pending_of_delivers (moment : Moment) (inFrame : moment.move.InFrame) (x key : UInt8)
    (delivers : moment.Delivers x key) :
    moment.before.keypad.pending = some key ∧ moment.after.keypad.pending = none := by
  obtain ⟨pending, after⟩ :=
    moment.before.after_of_delivers moment.move inFrame.undirected x key delivers
  refine ⟨pending, ?_⟩
  rcases after with ⟨_idle, same⟩ | ⟨_waits, same⟩
  · exact congrArg (fun machine => machine.keypad.pending) same
  · exact congrArg (fun machine => machine.keypad.pending) same

/-- Nothing but the taking of the press that was pending has happened to a keypad, and it has been taken
if some key has been delivered. -/
structure Unreplenished (start : Keypad) (earlier : List Moment) (machine : Machine) : Prop where
  keypad : machine.keypad = start ∨ machine.keypad = start.taken
  delivered : ∀ moment ∈ earlier, ∀ x key, moment.Delivers x key →
    machine.keypad.pending = none

theorem unreplenished_start (machine : Machine) : Unreplenished machine.keypad [] machine where
  keypad := Or.inl rfl
  delivered := by
    intro moment member
    cases member

theorem unreplenished_move (start : Keypad) (earlier : List Moment) (before : Machine) (move : Move)
    (inFrame : move.InFrame) (unreplenished : Unreplenished start earlier before) :
    Unreplenished start (earlier ++ [⟨before, move⟩]) (before.move move).machine := by
  have after := before.keypad_move move inFrame
  constructor
  case keypad =>
    rcases after with same | taken
    · rw [same]
      exact unreplenished.keypad
    · rw [taken]
      rcases unreplenished.keypad with same | already
      · exact Or.inr (congrArg Keypad.taken same)
      · exact Or.inr ((congrArg Keypad.taken already).trans rfl)
  case delivered =>
    intro moment member x key delivers
    rcases List.mem_append.mp member with first | last
    · have none := unreplenished.delivered moment first x key delivers
      rcases after with same | taken
      · rw [same, none]
      · rw [taken, Keypad.pending_taken]
    · obtain rfl := List.mem_singleton.mp last
      exact (pending_of_delivers _ inFrame x key delivers).2

theorem Unreplenished.pending_start {start : Keypad} {earlier : List Moment} {machine : Machine}
    (unreplenished : Unreplenished start earlier machine) (key : UInt8)
    (pending : machine.keypad.pending = some key) : start.pending = some key := by
  rcases unreplenished.keypad with same | taken
  · rw [← same, pending]
  · rw [taken, Keypad.pending_taken] at pending
    cases pending

theorem isHeld_afterMoves (machine : Machine) (moves : List Move)
    (inFrame : ∀ move ∈ moves, move.InFrame) (key : UInt8) :
    (machine.afterMoves moves).keypad.isHeld key = machine.keypad.isHeld key := by
  have reached := machine.holds_history (unreplenished_start machine)
    (unreplenished_move machine.keypad) moves inFrame
  rcases reached.keypad with same | taken
  · rw [same]
  · rw [taken, Keypad.isHeld_taken]

/-- What was delivered at one moment is not delivered at a later one. -/
theorem not_lt_of_delivers {start : Keypad} {trail : List Moment} {first second : Nat}
    {left right : Moment} {x y key other : UInt8} (inFrame : right.move.InFrame)
    (unreplenished : Unreplenished start (trail.take second) right.before)
    (there : trail[first]? = some left) (delivers : left.Delivers x key)
    (deliversAgain : right.Delivers y other) : ¬ first < second := by
  intro before
  have among : left ∈ trail.take second := by
    apply List.mem_of_getElem? (i := first)
    rw [List.getElem?_take_of_lt before, there]
  have taken := unreplenished.delivered left among x key delivers
  have pending := (pending_of_delivers right inFrame y other deliversAgain).1
  rw [taken] at pending
  cases pending

/-! ### Waiting for ever -/

/-- The program waits for a key, and no press is pending. -/
def Stalled (machine : Machine) : Prop :=
  machine.isAwaitingKey = true ∧ machine.keypad.pending = none

/-- The machine so many frames later, if nothing but the timers goes on. -/
def countedDown (machine : Machine) (frames : Nat) : Machine :=
  { machine with
    cpu :=
      { machine.cpu with
        delay := UInt8.ofNat (machine.cpu.delay.toNat - frames)
        sound := UInt8.ofNat (machine.cpu.sound.toNat - frames) } }

theorem countedDown_zero (machine : Machine) : machine.countedDown 0 = machine := by
  simp only [countedDown, Nat.sub_zero, UInt8.ofNat_toNat]

theorem countedDown_add (machine : Machine) (first second : Nat) :
    machine.countedDown (first + second) = (machine.countedDown first).countedDown second := by
  have again (timer : UInt8) : (UInt8.ofNat (timer.toNat - first)).toNat = timer.toNat - first := by
    have bound := timer.toNat_lt
    rw [UInt8.toNat_ofNat', Nat.mod_eq_of_lt (by omega)]
  simp only [countedDown, again, Nat.sub_sub]

namespace Stalled

variable {machine : Machine}

theorem countedDown (stalled : machine.Stalled) (frames : Nat) :
    (machine.countedDown frames).Stalled :=
  stalled

theorem cycle (stalled : machine.Stalled) : machine.cycle = { machine } := by
  obtain ⟨waits, nothing⟩ := stalled
  obtain ⟨x, waiting⟩ := Option.isSome_iff_exists.mp waits
  rw [machine.cycle_of_awaiting x waiting, deliverKey, nothing]

/-- The moves of frames only count the timers down. -/
theorem stepOf (stalled : machine.Stalled) (moves : List Move)
    (inFrame : ∀ move ∈ moves, move.InFrame) :
    machine.stepOf moves = { machine := machine.countedDown (moves.count .countDown) } := by
  induction moves generalizing machine with
  | nil => exact congrArg (fun machine => ({ machine } : Step)) machine.countedDown_zero.symm
  | cons move rest ih =>
      have restInFrame : ∀ other ∈ rest, other.InFrame :=
        fun other member => inFrame other (List.mem_cons_of_mem _ member)
      have first := inFrame move List.mem_cons_self
      rw [stepOf_cons]
      cases move with
      | cycle =>
          have quiet : machine.move .cycle = { machine } := stalled.cycle
          rw [quiet, ih stalled restInFrame, List.count_cons_of_ne (by decide)]
          rfl
      | countDown =>
          have quiet : machine.move .countDown = { machine := machine.countedDown 1 } := rfl
          rw [quiet, ih (stalled.countedDown 1) restInFrame, List.count_cons_self, Nat.add_comm,
            countedDown_add]
          rfl
      | _ => exact first.elim

/-- A run of steps each of which only counts the timers down, so many times. -/
theorem extend (stalled : machine.Stalled) (step : Machine → Step) (frames : Nat)
    (quiet : ∀ machine : Machine, machine.Stalled →
      step machine = { machine := machine.countedDown frames })
    (count completed : Nat) :
    Run.extend step count { machine, completed } =
      { machine := machine.countedDown (frames * count), completed := completed + count } := by
  induction count generalizing machine completed with
  | zero =>
      rw [Nat.mul_zero, countedDown_zero]
      rfl
  | succ count ih =>
      have pushed : Run.push { machine, completed } (step machine) =
          { machine := machine.countedDown frames, completed := completed + 1 } := by
        rw [quiet machine stalled]
        rfl
      rw [Run.extend, pushed, ih (stalled.countedDown frames), ← countedDown_add, Nat.mul_succ,
        Nat.add_comm frames, Nat.add_assoc, Nat.add_comm 1]

theorem cycles (stalled : machine.Stalled) (count : Nat) :
    machine.cycles count = { machine, completed := count } := by
  have quiet : ∀ machine : Machine, machine.Stalled →
      machine.cycle = { machine := machine.countedDown 0 } := by
    intro machine stalled
    rw [stalled.cycle, countedDown_zero]
  rw [Machine.cycles, stalled.extend Machine.cycle 0 quiet, Nat.zero_mul, countedDown_zero,
    Nat.zero_add]

theorem frame (stalled : machine.Stalled) :
    machine.frame = { machine := machine.countedDown 1 } := by
  change (Machine.cycles (machine.countedDown 1) machine.config.cyclesPerFrame).toStep = _
  rw [(stalled.countedDown 1).cycles]
  rfl

theorem frames (stalled : machine.Stalled) (count : Nat) :
    machine.frames count = { machine := machine.countedDown count, completed := count } := by
  rw [Machine.frames, stalled.extend Machine.frame 1 (fun _machine stalled => stalled.frame),
    Nat.one_mul, Nat.zero_add]

theorem headless (stalled : machine.Stalled) (count : Nat) :
    (machine.headless count).result = .ok machine.screen.text ∧
      (machine.headless count).machine = machine.countedDown count := by
  rw [Machine.headless, stalled.frames]
  exact ⟨rfl, rfl⟩

end Stalled

/-- A program that is left alone for some frames sees the same keys held all the time and receives at
most one key, the one that was pending at the start. From any moment at which it waits with nothing
pending, only the timers go on, in the rest of these frames and in any that follow. -/
theorem frames_without_key_events (machine : Machine) (count : Nat) :
    let moves := machine.moves (List.replicate count .frame)
    let trail := machine.trail (List.replicate count .frame)
    (∀ place key, (machine.afterMoves (moves.take place)).keypad.isHeld key =
        machine.keypad.isHeld key) ∧
      (∀ (place : Nat) (moment : Moment) x key, trail[place]? = some moment → moment.Delivers x key →
        machine.keypad.pending = some key ∧
          ∀ (otherPlace : Nat) (other : Moment) y otherKey, trail[otherPlace]? = some other →
            other.Delivers y otherKey → otherPlace = place) ∧
        ∀ place stalled, machine.afterMoves (moves.take place) = stalled → stalled.Stalled →
          (∀ later, stalled.stepOf ((moves.drop place).take later) =
              { machine :=
                  stalled.countedDown (((moves.drop place).take later).count .countDown) }) ∧
            ∀ further,
              stalled.frames further =
                  { machine := stalled.countedDown further, completed := further } ∧
                (stalled.headless further).result = .ok stalled.screen.text := by
  intro moves trail
  have inFrame : ∀ move ∈ moves, move.InFrame := machine.inFrame_of_mem_moves count
  have tracked := machine.holds_before (unreplenished_start machine)
    (unreplenished_move machine.keypad) moves inFrame
  refine ⟨?_, ?_, ?_⟩
  · intro place key
    exact machine.isHeld_afterMoves _ (fun move member => inFrame move (List.mem_of_mem_take member))
      key
  · intro place moment x key there delivers
    obtain ⟨allowed, unreplenished⟩ := tracked place moment there
    constructor
    · exact unreplenished.pending_start key (pending_of_delivers moment allowed x key delivers).1
    · intro otherPlace other y otherKey otherThere otherDelivers
      obtain ⟨otherAllowed, otherUnreplenished⟩ := tracked otherPlace other otherThere
      apply Nat.le_antisymm
      · exact Nat.not_lt.mp
          (not_lt_of_delivers otherAllowed otherUnreplenished there delivers otherDelivers)
      · exact Nat.not_lt.mp
          (not_lt_of_delivers allowed unreplenished otherThere otherDelivers delivers)
  · rintro place stalled _reached stalls
    constructor
    · intro later
      exact stalls.stepOf _ fun move member =>
        inFrame move (List.mem_of_mem_drop (List.mem_of_mem_take member))
    · intro further
      exact ⟨stalls.frames further, (stalls.headless further).1⟩

/-- A key that is pending at the start is taken in the first cycle, and the wait in the second cycle is
never over. -/
theorem frames_without_key_events_after_press :
    ∃ machine stalled : Machine, machine.keypad.pending = some 4 ∧
      (∃ moment : Moment, (machine.trail (List.replicate 2 .frame))[1]? = some moment ∧
        moment.Delivers 3 4) ∧
        machine.afterMoves ((machine.moves (List.replicate 2 .frame)).take 3) = stalled ∧
          stalled.cpu.awaiting = some 5 ∧
            ∀ further, (stalled.frames further).fault = none ∧
              (stalled.headless further).result = .ok stalled.screen.text := by
  obtain ⟨machine, same⟩ : ∃ machine, machine = booted { cyclesPerFrame := 3 }
    [0xF3, 0x0A, 0xF5, 0x0A] (Keypad.idle.press 4) (.cyclic #[]) := ⟨_, rfl⟩
  have facts : ((machine.trail (List.replicate 2 .frame))[1]?.map fun moment =>
        (moment.step.events.map fun event => event.instruction, moment.after.cpu.awaiting,
          moment.after.cpu.register 3)) = some ([.awaitKey 3], none, 4) ∧
      (machine.afterMoves ((machine.moves (List.replicate 2 .frame)).take 3)).cpu.awaiting =
          some 5 ∧
        (machine.afterMoves
          ((machine.moves (List.replicate 2 .frame)).take 3)).keypad.pending = none := by
    subst same
    decide +kernel
  obtain ⟨first, waits, nothing⟩ := facts
  obtain ⟨moment, there, received⟩ := Option.map_eq_some_iff.mp first
  simp only [Prod.mk.injEq] at received
  obtain ⟨instructions, free, key⟩ := received
  obtain ⟨event, only, awaits⟩ := List.map_eq_singleton_iff.mp instructions
  have delivers : moment.Delivers 3 4 :=
    .atOnce ⟨event, only ▸ List.mem_singleton_self event, awaits⟩ free key
  have stalls : (machine.afterMoves ((machine.moves (List.replicate 2 .frame)).take 3)).Stalled :=
    ⟨congrArg Option.isSome waits, nothing⟩
  obtain ⟨_held, deliveries, after⟩ := frames_without_key_events machine 2
  refine ⟨machine, _, (deliveries 1 moment 3 4 there delivers).1, ⟨moment, there, delivers⟩, rfl,
    waits, ?_⟩
  intro further
  obtain ⟨frames, headless⟩ := (after 3 _ rfl stalls).2 further
  exact ⟨congrArg Run.fault frames, headless⟩

end ChipEight.Machine
