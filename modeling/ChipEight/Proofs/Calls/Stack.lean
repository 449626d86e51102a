import ChipEight.Proofs.Calls.Matching
import ChipEight.Proofs.Machine.Components
import ChipEight.Proofs.Machine.Loading

set_option autoImplicit false

/-!
The stack as the record of calls and returns.

Calls push and returns take, as the announced instructions tell, and nothing else touches the stack. So
the stack holds the addresses behind the calls that are still open (`stack_eq_openCalls`): a return
goes back behind the call that it answers, and one that answers no call finds the stack empty.
-/

namespace ChipEight

def TraceEvent.next (event : TraceEvent) : UInt16 :=
  event.counter + 2

def TraceEvent.stackAfter (event : TraceEvent) (stack : List UInt16) : List UInt16 :=
  match event.bracket with
  | .call => event.next :: stack
  | .back => stack.tail
  | .other => stack

namespace Calls

theorem reverse_stackAfter (earlier : List TraceEvent) (event : TraceEvent) (stack : List UInt16)
    (same : stack.reverse = (openCalls earlier).map TraceEvent.next) :
    (event.stackAfter stack).reverse = (openCalls (earlier ++ [event])).map TraceEvent.next := by
  unfold TraceEvent.stackAfter
  cases kind : event.bracket with
  | call =>
      rw [openCalls_concat _ _ (by rw [kind]; decide), openCalls_singleton event kind,
        List.map_append, List.reverse_cons, same]
      rfl
  | back =>
      rw [openCalls_concat_back _ _ kind, List.map_dropLast, ← same, List.dropLast_reverse]
  | other =>
      have closed : openCalls [event] = [] := openCalls_of_ne event [] (by rw [kind]; decide)
      rw [openCalls_concat _ _ (by rw [kind]; decide), closed, List.append_nil]
      exact same

theorem reverse_foldl_stackAfter (earlier events : List TraceEvent) (stack : List UInt16)
    (same : stack.reverse = (openCalls earlier).map TraceEvent.next) :
    (events.foldl (fun stack event => event.stackAfter stack) stack).reverse =
      (openCalls (earlier ++ events)).map TraceEvent.next := by
  induction events generalizing earlier stack with
  | nil =>
      rw [List.append_nil]
      exact same
  | cons event rest ih =>
      rw [List.append_cons]
      exact ih (earlier ++ [event]) _ (reverse_stackAfter earlier event stack same)

theorem foldl_stackAfter_of_other (events : List TraceEvent) (stack : List UInt16)
    (others : ∀ event ∈ events, event.bracket = .other) :
    events.foldl (fun stack event => event.stackAfter stack) stack = stack := by
  induction events with
  | nil => rfl
  | cons event rest ih =>
      have same : event.stackAfter stack = stack := by
        rw [TraceEvent.stackAfter, others event List.mem_cons_self]
      rw [List.foldl_cons, same]
      exact ih fun other member => others other (List.mem_cons_of_mem event member)

theorem head?_of_returnsTo (earlier : List TraceEvent) (stack : List UInt16) (call : TraceEvent)
    (same : stack.reverse = (openCalls earlier).map TraceEvent.next)
    (returns : ReturnsTo earlier call) : stack.head? = some call.next := by
  rw [← List.getLast?_reverse, same, List.getLast?_map, (getLast?_openCalls earlier call).mpr returns]
  rfl

theorem eq_nil_of_forall_not_returnsTo (earlier : List TraceEvent) (stack : List UInt16)
    (same : stack.reverse = (openCalls earlier).map TraceEvent.next)
    (unanswered : ∀ call, ¬ ReturnsTo earlier call) : stack = [] := by
  cases last : (openCalls earlier).getLast? with
  | none =>
      rw [List.getLast?_eq_none_iff.mp last, List.map_nil] at same
      exact List.reverse_eq_nil_iff.mp same
  | some call => exact absurd ((getLast?_openCalls earlier call).mp last) (unanswered call)

end Calls

namespace Machine

open Calls

theorem stack_deliverKey (machine : Machine) (x : UInt8) :
    (machine.deliverKey x).machine.cpu.stack = machine.cpu.stack := by
  unfold deliverKey
  split <;> rfl

/-- A cycle changes the stack by the instruction that it announces, if it announces one. -/
theorem stack_cycle (machine : Machine) :
    machine.cycle.machine.cpu.stack =
      machine.cycle.events.foldl (fun stack event => event.stackAfter stack) machine.cpu.stack := by
  have course := machine.course_cycle
  generalize machine.cycle = step at course ⊢
  cases course with
  | waiting x _waits =>
      rw [stack_deliverKey, events_deliverKey]
      rfl
  | unfetched _fault _free _failed => rfl
  | unknown _word _free _fetched _unknown => rfl
  | known word instruction _free _fetched _known =>
      change (machine.advanced.execute instruction).machine.cpu.stack = _
      rw [events_known, stack_execute]
      cases instruction <;> rfl

theorem stack_move (machine : Machine) (move : Move) (undirected : move.Undirected) :
    (machine.move move).machine.cpu.stack =
      (machine.move move).events.foldl (fun stack event => event.stackAfter stack)
        machine.cpu.stack := by
  cases move with
  | cycle => exact machine.stack_cycle
  | execute instruction => exact undirected.elim
  | _ => rfl

/-- A return takes the address pushed last and goes there. If there is none it fails, unless that is
ignored. -/
theorem move_of_return (machine : Machine) (move : Move) (undirected : move.Undirected)
    (back : TraceEvent) (announced : back ∈ (machine.move move).events)
    (returns : back.bracket = .back) :
    (machine.move move).machine.cpu.counter = machine.cpu.stack.headD back.next ∧
      (machine.move move).machine.cpu.stack = machine.cpu.stack.tail ∧
        (machine.cpu.stack = [] →
          ((machine.move move).fault = none ↔ machine.config.returnPolicy = .ignore)) := by
  cases move with
  | cycle =>
      rw [Machine.move] at announced ⊢
      have course := machine.course_cycle
      generalize machine.cycle = step at announced course ⊢
      cases course with
      | waiting x _waits =>
          rw [events_deliverKey] at announced
          cases announced
      | unfetched _fault _free _failed => cases announced
      | unknown _word _free _fetched _unknown => cases announced
      | known word instruction _free _fetched _known =>
          rw [events_known, List.mem_singleton] at announced
          subst announced
          cases instruction with
          | leave =>
              simp only [Step.announcing, execute, machine_leave]
              refine ⟨rfl, rfl, ?_⟩
              intro empty
              have nothing : machine.advanced.cpu.stack = [] := empty
              have policy : machine.advanced.config = machine.config := rfl
              rw [leave, nothing, ← policy]
              cases machine.advanced.config.returnPolicy with
              | ignore => simp
              | fault => simp
          | _ => cases returns
  | execute instruction => exact undirected.elim
  | _ => cases announced

/-! ### Sessions -/

/-- The stack holds the addresses behind the open calls. -/
def Stacked (config : Config) (earlier : List Moment) (machine : Machine) : Prop :=
  machine.config = config ∧
    machine.cpu.stack.reverse = (openCalls (eventsOf earlier)).map TraceEvent.next

theorem stacked_booted (config : Config) (image : List UInt8) (keypad : Keypad)
    (random : RandomSource) : Stacked config [] (booted config image keypad random) :=
  ⟨rfl, rfl⟩

theorem stacked_move (config : Config) (earlier : List Moment) (before : Machine) (move : Move)
    (undirected : move.Undirected) (stacked : Stacked config earlier before) :
    Stacked config (earlier ++ [⟨before, move⟩]) (before.move move).machine := by
  obtain ⟨rfl, same⟩ := stacked
  refine ⟨before.config_move move, ?_⟩
  rw [before.stack_move move undirected, eventsOf_append, eventsOf_singleton]
  exact reverse_foldl_stackAfter _ _ _ same

end Machine

structure Moment.KeepsCalls (config : Config) (earlier : List TraceEvent) (moment : Moment) :
    Prop where
  stack : moment.before.cpu.stack.reverse = (Calls.openCalls earlier).map TraceEvent.next
  answering : ∀ back ∈ moment.step.events, back.bracket = .back →
    ∀ call, Calls.ReturnsTo earlier call → moment.after.cpu.counter = call.next
  lone : ∀ back ∈ moment.step.events, back.bracket = .back →
    (∀ call, ¬ Calls.ReturnsTo earlier call) →
      moment.after.cpu.counter = back.next ∧ moment.after.cpu.stack = [] ∧
        (moment.step.fault = none ↔ config.returnPolicy = .ignore)
  other : (∀ event ∈ moment.step.events, event.bracket = .other) →
    moment.after.cpu.stack = moment.before.cpu.stack

namespace Machine

open Calls

theorem keepsCalls_of_stacked (config : Config) (earlier : List Moment) (moment : Moment)
    (undirected : moment.move.Undirected) (stacked : Stacked config earlier moment.before) :
    moment.KeepsCalls config (eventsOf earlier) := by
  obtain ⟨rfl, same⟩ := stacked
  constructor
  case stack => exact same
  case answering =>
    intro back announced returns call answers
    have counter := (moment.before.move_of_return _ undirected back announced returns).1
    rw [List.headD_eq_head?_getD, head?_of_returnsTo _ _ call same answers] at counter
    exact counter
  case lone =>
    intro back announced returns unanswered
    have empty := eq_nil_of_forall_not_returnsTo _ _ same unanswered
    obtain ⟨counter, stack, fault⟩ :=
      moment.before.move_of_return _ undirected back announced returns
    rw [empty] at counter stack
    exact ⟨counter, stack, fault empty⟩
  case other =>
    intro others
    exact (moment.before.stack_move moment.move undirected).trans
      (foldl_stackAfter_of_other _ _ others)

/-- After any session, the stack holds the addresses behind the calls that no return has answered. At
every moment, a return goes behind the call that it answers, one that answers none leaves the counter
behind itself and the stack empty, and nothing but calls and returns touches the stack. -/
theorem stack_eq_openCalls (config : Config) (image : List UInt8) (keypad : Keypad)
    (random : RandomSource) (fits : image.length ≤ 3584) :
    ∃ machine, boot config image keypad random = .ok machine ∧
      ∀ actions : List Action, (∀ action ∈ actions, action.Undirected) →
        (machine.afterSession actions).cpu.stack.reverse =
            (openCalls ((machine.session actions).flatMap Step.events)).map TraceEvent.next ∧
          ∀ place (moment : Moment), (machine.trail actions)[place]? = some moment →
            moment.KeepsCalls config (eventsOf ((machine.trail actions).take place)) := by
  refine ⟨_, boot_eq_ok config image keypad random fits, ?_⟩
  intro actions undirected
  have stacked := holds_trail _ (stacked_booted config image keypad random) (stacked_move config)
    actions undirected
  rw [← eventsOf_trail]
  refine ⟨stacked.1.2, ?_⟩
  intro place moment found
  obtain ⟨allowed, before⟩ := stacked.2 place moment found
  exact keepsCalls_of_stacked config _ moment allowed before

/-- A call within a call, a return too many, which is ignored, and a call that stays open. -/
theorem stack_eq_openCalls_after_lone_return :
    ∃ machine,
      boot { cyclesPerFrame := 6 }
        [0x22, 0x06, 0x00, 0xEE, 0x22, 0x06, 0x22, 0x0A, 0x00, 0xEE, 0x00, 0xEE] .idle
        (.cyclic #[]) = .ok machine ∧
      (machine.afterSession [.frame]).cpu.stack.reverse = [0x206] ∧
        ∃ moment, (machine.trail [.frame])[5]? = some moment ∧
          moment.after.cpu.counter = 0x204 ∧ moment.after.cpu.stack = [] := by
  have fits : [0x22, 0x06, 0x00, 0xEE, 0x22, 0x06, 0x22, 0x0A, 0x00, 0xEE, 0x00, 0xEE].length ≤
      3584 := by decide
  obtain ⟨machine, loaded, sessions⟩ := stack_eq_openCalls { cyclesPerFrame := 6 }
    [0x22, 0x06, 0x00, 0xEE, 0x22, 0x06, 0x22, 0x0A, 0x00, 0xEE, 0x00, 0xEE] .idle (.cyclic #[])
    fits
  obtain ⟨stack, moments⟩ := sessions [.frame] (by decide)
  have same := booted_eq_of_boot _ _ _ _ machine loaded
  have facts :
      (openCalls ((machine.session [.frame]).flatMap Step.events)).map TraceEvent.next = [0x206] ∧
        openCalls (eventsOf ((machine.trail [.frame]).take 5)) = [] ∧
          ((machine.trail [.frame])[5]?.map fun moment =>
            moment.step.events.map fun back => (back.next, back.bracket)) =
              some [(0x204, .back)] := by
    rw [← same]
    decide +kernel
  obtain ⟨openAtEnd, openBefore, announced⟩ := facts
  obtain ⟨moment, found, events⟩ := Option.map_eq_some_iff.mp announced
  obtain ⟨back, only, counter⟩ := List.map_eq_singleton_iff.mp events
  have unanswered : ∀ call, ¬ ReturnsTo (eventsOf ((machine.trail [.frame]).take 5)) call := by
    intro call answers
    have last := (getLast?_openCalls _ call).mpr answers
    rw [openBefore] at last
    cases last
  obtain ⟨went, empty, _ignored⟩ := (moments 5 moment found).lone back
    (by rw [only]; exact List.mem_cons_self) (congrArg Prod.snd counter) unanswered
  exact ⟨machine, loaded, stack.trans openAtEnd, moment, found,
    went.trans (congrArg Prod.fst counter), empty⟩

end Machine

end ChipEight
