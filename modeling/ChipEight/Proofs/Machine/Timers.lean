import ChipEight.Proofs.Machine.Components

set_option autoImplicit false

/-!
Timers over runs.

Two things become of a timer: an instruction stores a value in it, or a frame begins and counts it down.
Nothing else touches it, so a timer is the value that was stored last less the frames begun since then,
and zero at the lowest (`timer_after_session`).
-/

namespace ChipEight

inductive Timer where
  | delay
  | sound
deriving DecidableEq

inductive Timer.Event where
  | stored (value : UInt8)
  /-- A frame begins. -/
  | frame
deriving DecidableEq

/-- The instruction that is carried out at a moment, in a cycle or by itself. -/
def Moment.instruction? (moment : Moment) : Option Instruction :=
  match moment.move with
  | .execute instruction => some instruction
  | _ => moment.step.events.head?.map TraceEvent.instruction

namespace Timer

def Event.value? : Event → Option UInt8
  | .stored value => some value
  | .frame => none

def Event.isFrame : Event → Bool
  | .stored _ => false
  | .frame => true

def Event.apply : Event → UInt8 → UInt8
  | .stored value, _ => value
  | .frame, value => UInt8.ofNat (value.toNat - 1)

def value : Timer → Cpu → UInt8
  | .delay, cpu => cpu.delay
  | .sound, cpu => cpu.sound

def operand? : Timer → Instruction → Option UInt8
  | .delay, .setDelay x => some x
  | .sound, .setSound x => some x
  | _, _ => none

/-- The value that is stored in the timer at a moment: what the register holds at that moment. -/
def stored? (timer : Timer) (moment : Moment) : Option UInt8 :=
  (moment.instruction?.bind timer.operand?).map moment.before.cpu.register

def event? (timer : Timer) (moment : Moment) : Option Event :=
  match moment.move with
  | .countDown => some .frame
  | _ => (timer.stored? moment).map .stored

/-- The events of the timer in some moments. Cycles that store nothing in it have no part in them. -/
def course (timer : Timer) (moments : List Moment) : List Event :=
  moments.filterMap timer.event?

def lastValue (initial : UInt8) (course : List Event) : UInt8 :=
  (course.filterMap Event.value?).getLast?.getD initial

/-- How many frames have begun since a value was stored last. -/
def framesSince (course : List Event) : Nat :=
  (course.reverse.takeWhile Event.isFrame).length

/-! ### One move -/

theorem value_execute (timer : Timer) (machine : Machine) (instruction : Instruction) :
    timer.value (machine.execute instruction).machine.cpu =
      (timer.operand? instruction).elim (timer.value machine.cpu) machine.cpu.register := by
  have effects := machine.effects_execute instruction
  cases timer with
  | delay =>
      refine effects.delay.trans ?_
      cases instruction <;> rfl
  | sound =>
      refine effects.sound.trans ?_
      cases instruction <;> rfl

theorem value_deliverKey (timer : Timer) (machine : Machine) (x : UInt8) :
    timer.value (machine.deliverKey x).machine.cpu = timer.value machine.cpu := by
  unfold Machine.deliverKey
  split
  · cases timer <;> rfl
  · rfl

/-- A cycle stores in a timer if it announces an instruction that does, and else leaves it alone. -/
theorem value_cycle (timer : Timer) (machine : Machine) :
    timer.value machine.cycle.machine.cpu =
      (timer.stored? ⟨machine, .cycle⟩).getD (timer.value machine.cpu) := by
  have stored : timer.stored? ⟨machine, .cycle⟩ =
      ((machine.cycle.events.head?.map TraceEvent.instruction).bind timer.operand?).map
        machine.cpu.register := rfl
  have course := machine.course_cycle
  rw [stored]
  generalize machine.cycle = step at course ⊢
  cases course with
  | waiting x _waits =>
      rw [machine.events_deliverKey, value_deliverKey]
      rfl
  | unfetched _fault _free _failed => rfl
  | unknown _word _free _fetched _unknown => cases timer <;> rfl
  | known word instruction _free _fetched _known =>
      rw [machine.events_known, List.head?_cons, Option.map_some, Option.bind_some]
      have executed := timer.value_execute machine.advanced instruction
      refine executed.trans ?_
      change (timer.operand? instruction).elim _ _ =
        ((timer.operand? instruction).map machine.cpu.register).getD _
      cases timer.operand? instruction with
      | none => cases timer <;> rfl
      | some x => rfl

/-- A move changes a timer by the event that it is for the timer. -/
theorem value_move (timer : Timer) (machine : Machine) (move : Move) :
    timer.value (machine.move move).machine.cpu =
      (timer.event? ⟨machine, move⟩).elim (timer.value machine.cpu) fun event =>
        event.apply (timer.value machine.cpu) := by
  cases move with
  | countDown => cases timer <;> rfl
  | cycle =>
      refine (timer.value_cycle machine).trans ?_
      change _ = ((timer.stored? ⟨machine, .cycle⟩).map Event.stored).elim _ _
      cases timer.stored? ⟨machine, .cycle⟩ <;> rfl
  | execute instruction =>
      refine (timer.value_execute machine instruction).trans ?_
      change _ = (((timer.operand? instruction).map machine.cpu.register).map Event.stored).elim _ _
      cases timer.operand? instruction <;> rfl
  | _ => cases timer <;> rfl

/-! ### Many moves -/

theorem value_afterMoves (timer : Timer) (machine : Machine) (moves : List Move) :
    timer.value (machine.afterMoves moves).cpu =
      (timer.course (machine.history moves)).foldl (fun value event => event.apply value)
        (timer.value machine.cpu) := by
  induction moves generalizing machine with
  | nil => rfl
  | cons move rest ih =>
      rw [Machine.afterMoves, ih, value_move, Machine.history, course, course,
        List.filterMap_cons]
      cases timer.event? ⟨machine, move⟩ <;> rfl

theorem lastValue_concat (initial : UInt8) (course : List Event) (event : Event) :
    lastValue initial (course ++ [event]) = event.value?.getD (lastValue initial course) := by
  rw [lastValue, List.filterMap_append]
  cases event with
  | stored value => exact congrArg (Option.getD · initial) List.getLast?_concat
  | frame => exact congrArg (fun values => values.getLast?.getD initial) (List.append_nil _)

theorem framesSince_concat (course : List Event) (event : Event) :
    framesSince (course ++ [event]) = if event.isFrame then framesSince course + 1 else 0 := by
  rw [framesSince, List.reverse_append, List.reverse_singleton, List.singleton_append,
    List.takeWhile_cons]
  split <;> rfl

/-- Counting down frame by frame, zero at the lowest, comes to one subtraction. -/
theorem toNat_foldl_apply (initial : UInt8) (course : List Event) :
    (course.foldl (fun value event => event.apply value) initial).toNat =
      (lastValue initial course).toNat - framesSince course := by
  induction course using List.reverseRecOn with
  | nil => rfl
  | append_singleton course event ih =>
      rw [List.foldl_append, lastValue_concat, framesSince_concat]
      cases event with
      | stored value => rfl
      | frame =>
          have bound := (lastValue initial course).toNat_lt
          change (UInt8.ofNat _).toNat =
            (lastValue initial course).toNat - (framesSince course + 1)
          rw [ih, UInt8.toNat_ofNat']
          omega

/-! ### Frames as calls -/

theorem framesSince_append_replicate (course : List Event) (count : Nat) :
    framesSince (course ++ List.replicate count .frame) = framesSince course + count := by
  induction count with
  | zero => rw [List.replicate_zero, List.append_nil, Nat.add_zero]
  | succ count ih =>
      rw [List.replicate_succ', ← List.append_assoc, framesSince_concat, ih]
      rfl

theorem event?_of_ne (timer : Timer) (moment : Moment) (other : moment.move ≠ .countDown) :
    timer.event? moment = (timer.stored? moment).map .stored := by
  unfold event?
  split
  · rename_i begins
    exact absurd begins other
  · rfl

theorem lastValue_append_replicate (initial : UInt8) (course : List Event) (count : Nat) :
    lastValue initial (course ++ List.replicate count .frame) = lastValue initial course := by
  induction count with
  | zero => rw [List.replicate_zero, List.append_nil]
  | succ count ih =>
      rw [List.replicate_succ', ← List.append_assoc, lastValue_concat, ih]
      rfl

/-- Moments that store nothing in a timer are as many events as frames begin. -/
theorem course_of_unstored (timer : Timer) (moments : List Moment)
    (unstored : ∀ moment ∈ moments, timer.stored? moment = none) :
    timer.course moments =
      List.replicate ((moments.map Moment.move).count .countDown) .frame := by
  induction moments with
  | nil => rfl
  | cons moment rest ih =>
      have others := ih fun other member => unstored other (List.mem_cons_of_mem moment member)
      rw [course] at others ⊢
      by_cases begins : moment.move = .countDown
      · have event : timer.event? moment = some .frame := by
          rw [event?, begins]
        rw [List.filterMap_cons_some event, List.map_cons, begins, List.count_cons_self,
          List.replicate_succ, others]
      · have event : timer.event? moment = none := by
          rw [timer.event?_of_ne moment begins, unstored moment List.mem_cons_self, Option.map_none]
        rw [List.filterMap_cons_none event, List.map_cons, List.count_cons_of_ne begins, others]

theorem course_of_no_frame (timer : Timer) (moments : List Moment)
    (absent : .countDown ∉ moments.map Moment.move) :
    timer.course moments = (moments.filterMap timer.stored?).map .stored := by
  induction moments with
  | nil => rfl
  | cons moment rest ih =>
      rw [List.map_cons, List.mem_cons, not_or] at absent
      have event := timer.event?_of_ne moment (Ne.symm absent.1)
      have others := ih absent.2
      rw [course] at others ⊢
      rw [List.filterMap_cons, List.filterMap_cons, event, others]
      cases timer.stored? moment <;> rfl

end Timer

namespace Machine

variable (machine : Machine)

theorem countDown_not_mem_cycleMoves (count : Nat) :
    .countDown ∉ machine.cycleMoves count := by
  induction count generalizing machine with
  | zero => exact List.not_mem_nil
  | succ count ih =>
      rw [cycleMoves, List.mem_cons, not_or]
      refine ⟨Move.noConfusion, ?_⟩
      split
      · exact List.not_mem_nil
      · exact ih _

theorem count_countDown_moves (actions : List Action) :
    (machine.moves actions).count .countDown = actions.count .frame := by
  induction actions generalizing machine with
  | nil => rfl
  | cons action rest ih =>
      rw [moves, List.count_append, ih]
      cases action with
      | frame =>
          rw [movesOf, List.count_cons_self, List.count_cons_self,
            List.count_eq_zero_of_not_mem (countDown_not_mem_cycleMoves _ _), Nat.zero_add,
            Nat.add_comm]
      | _ =>
          rw [movesOf, List.count_singleton, List.count_cons_of_ne Action.noConfusion]
          exact Nat.zero_add _

end Machine

namespace Timer

variable (timer : Timer) (machine : Machine)

theorem course_trail_of_unstored (actions : List Action)
    (unstored : ∀ moment ∈ machine.trail actions, timer.stored? moment = none) :
    timer.course (machine.trail actions) = List.replicate (actions.count .frame) .frame := by
  rw [timer.course_of_unstored _ unstored, Machine.trail, Machine.map_move_history,
    Machine.count_countDown_moves]

/-- Within one action the frame begins first, if it is one, and the stores come after it. -/
theorem course_trail_singleton (action : Action) :
    timer.course (machine.trail [action]) =
      List.replicate ([action].count .frame) .frame ++
        ((machine.trail [action]).filterMap timer.stored?).map .stored := by
  by_cases frame : action = .frame
  · subst frame
    let after := (machine.move .countDown).machine
    have trail : machine.trail [.frame] =
        ⟨machine, .countDown⟩ ::
          after.history (after.cycleMoves machine.config.cyclesPerFrame) :=
      machine.trail_singleton .frame
    have cycles := timer.course_of_no_frame
      (after.history (after.cycleMoves machine.config.cyclesPerFrame)) (by
        rw [Machine.map_move_history]
        exact after.countDown_not_mem_cycleMoves _)
    have begins : timer.event? ⟨machine, .countDown⟩ = some .frame := rfl
    have unstored : timer.stored? ⟨machine, .countDown⟩ = none := rfl
    rw [course] at cycles
    rw [trail, course, List.filterMap_cons_some begins, List.filterMap_cons_none unstored, cycles]
    rfl
  · have none : [action].count .frame = 0 :=
      List.count_eq_zero_of_not_mem fun member => frame (List.mem_singleton.mp member).symm
    rw [none, List.replicate_zero, List.nil_append]
    apply course_of_no_frame
    rw [Machine.trail, Machine.map_move_history]
    exact List.count_eq_zero.mp ((machine.count_countDown_moves [action]).trans none)

theorem course_trail_append (first second : List Action) :
    timer.course (machine.trail (first ++ second)) =
      timer.course (machine.trail first) ++
        timer.course ((machine.afterSession first).trail second) := by
  rw [machine.trail_append, course, List.filterMap_append]
  rfl

/-- The course of a session whose action `action` has stores, which no later action has. -/
theorem course_trail_of_last_store (earlier later : List Action) (action : Action)
    (unstored : ∀ moment ∈ (machine.afterSession (earlier ++ [action])).trail later,
      timer.stored? moment = none) (stored : UInt8)
    (last : (((machine.afterSession earlier).trail [action]).filterMap
      timer.stored?).getLast? = some stored) :
    ∃ before, timer.course (machine.trail (earlier ++ action :: later)) =
      before ++ [.stored stored] ++ List.replicate (later.count .frame) .frame := by
  obtain ⟨front, stores⟩ := List.getLast?_eq_some_iff.mp last
  refine ⟨timer.course (machine.trail earlier) ++
    (List.replicate ([action].count .frame) .frame ++ front.map .stored), ?_⟩
  have split : earlier ++ action :: later = (earlier ++ [action]) ++ later := by
    rw [List.append_assoc, List.singleton_append]
  rw [split, course_trail_append, course_trail_append, course_trail_singleton, stores,
    timer.course_trail_of_unstored _ later unstored, List.map_append, List.map_singleton]
  simp only [List.append_assoc]

/-- A timer is the value that was stored last less the frames begun since then, or the value at the start
less all frames if nothing was stored, and zero at the lowest. What is stored and when frames begin is
all that counts: the timer is the same after any other session with the same course. -/
theorem timer_after_session (actions : List Action) :
    ((∀ moment ∈ machine.trail actions, timer.stored? moment = none) →
      (timer.value (machine.afterSession actions).cpu).toNat =
        (timer.value machine.cpu).toNat - actions.count .frame) ∧
      (∀ earlier action later stored, actions = earlier ++ action :: later →
        (((machine.afterSession earlier).trail [action]).filterMap
          timer.stored?).getLast? = some stored →
          (∀ moment ∈ (machine.afterSession (earlier ++ [action])).trail later,
            timer.stored? moment = none) →
            (timer.value (machine.afterSession actions).cpu).toNat =
              stored.toNat - later.count .frame) ∧
        (timer.value (machine.afterSession actions).cpu).toNat =
          (lastValue (timer.value machine.cpu) (timer.course (machine.trail actions))).toNat -
            framesSince (timer.course (machine.trail actions)) ∧
          ∀ (other : Machine) (otherActions : List Action),
            timer.value other.cpu = timer.value machine.cpu →
              timer.course (other.trail otherActions) = timer.course (machine.trail actions) →
                timer.value (other.afterSession otherActions).cpu =
                  timer.value (machine.afterSession actions).cpu := by
  have law : ∀ (any : Machine) (session : List Action),
      timer.value (any.afterSession session).cpu =
        (timer.course (any.trail session)).foldl (fun value event => event.apply value)
          (timer.value any.cpu) := by
    intro any session
    rw [any.afterSession_eq]
    exact timer.value_afterMoves any _
  have closed := (congrArg UInt8.toNat (law machine actions)).trans (toNat_foldl_apply _ _)
  refine ⟨?_, ?_, closed, ?_⟩
  · intro unstored
    rw [closed, timer.course_trail_of_unstored machine actions unstored]
    have frames := framesSince_append_replicate [] (actions.count .frame)
    have initial := lastValue_append_replicate (timer.value machine.cpu) [] (actions.count .frame)
    rw [List.nil_append] at frames initial
    rw [frames, initial]
    exact congrArg _ (Nat.zero_add _)
  · rintro earlier action later stored rfl last unstored
    obtain ⟨before, course⟩ :=
      timer.course_trail_of_last_store machine earlier later action unstored stored last
    rw [closed, course, lastValue_append_replicate, framesSince_append_replicate, lastValue_concat,
      framesSince_concat]
    exact congrArg _ (Nat.zero_add _)
  · intro other otherActions same course
    rw [law, law, same, course]

/-- A value that is stored in the first of three frames, of which others fail, with fewer and with more
cycles in a frame; nothing is stored in the other timer. -/
theorem timer_after_session_with_failing_frames :
    let cpu : Cpu :=
      { Cpu.initial with
        counter := 0
        memory := Memory.place ⟨.replicate 4096 0⟩ 0 [0x60, 3, 0xF0, 0x15, 0x80, 0x08, 0x80, 0x08] }
    let machine := { Machine.fresh { cyclesPerFrame := 2 } with cpu }
    let other := { Machine.fresh { cyclesPerFrame := 5 } with cpu }
    let actions : List Action := [.frame, .frame, .frame]
    (delay.value (machine.afterSession actions).cpu).toNat = 3 - 2 ∧
      (sound.value (machine.afterSession actions).cpu).toNat = 0 - 3 ∧
        delay.value (other.afterSession actions).cpu =
          delay.value (machine.afterSession actions).cpu := by
  intro cpu machine other actions
  obtain ⟨_unstored, stored, _closed, alike⟩ := timer_after_session delay machine actions
  obtain ⟨unstored, _stored, _closed, _alike⟩ := timer_after_session sound machine actions
  have delayed := stored [] .frame [.frame, .frame] 3 rfl (by decide +kernel) (by decide +kernel)
  have silent := unstored (by decide +kernel)
  have same := alike other actions rfl (by decide +kernel)
  exact ⟨delayed, silent, same⟩

end Timer

end ChipEight
