import ChipEight.Proofs.Keypad.Presses

set_option autoImplicit false

/-!
Waiting for a key.

An instruction that waits for a key receives it at once or suspends the program, and then a later cycle
delivers the key. In both cases the key is that of the latest press, which is taken by this and so is
not delivered again (`delivery_exact`). A suspended instruction takes no press from before it was
suspended, since none was pending then.
-/

namespace ChipEight

namespace Moment

def Awaits (moment : Moment) (x : UInt8) : Prop :=
  ∃ event ∈ moment.step.events, event.instruction = .awaitKey x

def Suspends (moment : Moment) (x : UInt8) : Prop :=
  moment.Awaits x ∧ moment.after.cpu.awaiting = some x

inductive Delivers (moment : Moment) (x key : UInt8) : Prop
  | atOnce (awaits : moment.Awaits x) (free : moment.after.cpu.awaiting = none)
      (received : moment.after.cpu.register x = key)
  | suspended (cycles : moment.move = .cycle) (waits : moment.before.cpu.awaiting = some x)
      (free : moment.after.cpu.awaiting = none) (received : moment.after.cpu.register x = key)

end Moment

/-- The program is suspended at a place, and has been waiting since. -/
structure Suspension (moments : List Moment) (suspension : Nat) (x : UInt8) : Prop where
  suspends : ∃ moment, moments[suspension]? = some moment ∧ moment.Suspends x
  waiting : Since (fun moment => moment.before.cpu.awaiting = some x) moments (suspension + 1)

namespace Machine

/-! ### One delivery -/

theorem after_of_awaits (before : Machine) (move : Move) (undirected : move.Undirected) (x : UInt8)
    (awaits : Moment.Awaits ⟨before, move⟩ x) :
    before.cpu.awaiting = none ∧
      (before.move move).machine = (before.advanced.awaitKey x).machine := by
  obtain ⟨event, announced, same⟩ := awaits
  rw [Moment.step] at announced
  cases move with
  | cycle =>
      change event ∈ before.cycle.events at announced
      rw [Machine.move]
      have course := before.course_cycle
      generalize before.cycle = step at announced course ⊢
      cases course with
      | waiting y _waits =>
          rw [events_deliverKey] at announced
          cases announced
      | unfetched _fault _free _failed => cases announced
      | unknown _word _free _fetched _unknown => cases announced
      | known word instruction free _fetched _known =>
          rw [events_known, List.mem_singleton] at announced
          subst announced
          cases same
          exact ⟨free, rfl⟩
  | execute instruction => exact undirected.elim
  | _ => cases announced

def received (machine : Machine) (x key : UInt8) : Machine :=
  { machine with
    cpu := { machine.cpu.setRegister x key with awaiting := none }
    keypad := machine.keypad.taken }

theorem register_received (machine : Machine) (x key : UInt8) :
    (machine.received x key).cpu.register x = key := by
  simp [received, Cpu.register, Cpu.setRegister]

theorem awaitKey_of_pending (machine : Machine) (x key : UInt8)
    (free : machine.cpu.awaiting = none) (pending : machine.keypad.pending = some key) :
    (machine.awaitKey x).machine = machine.received x key := by
  simp only [awaitKey, pending, received, Cpu.setRegister, free]

theorem deliverKey_of_pending (machine : Machine) (x key : UInt8)
    (pending : machine.keypad.pending = some key) :
    (machine.deliverKey x).machine = machine.received x key := by
  simp only [deliverKey, pending, received, Cpu.setRegister]

/-- A delivery gives the pending key to the register, after the fetch if there was one. -/
theorem after_of_delivers (before : Machine) (move : Move) (undirected : move.Undirected)
    (x key : UInt8) (delivers : Moment.Delivers ⟨before, move⟩ x key) :
    before.keypad.pending = some key ∧
      (before.cpu.awaiting = none ∧
          (before.move move).machine = before.advanced.received x key ∨
        before.cpu.awaiting = some x ∧ (before.move move).machine = before.received x key) := by
  cases delivers with
  | atOnce awaits free written =>
      obtain ⟨idle, after⟩ := before.after_of_awaits move undirected x awaits
      rw [Moment.after, Moment.step, after] at free written
      cases pending : before.keypad.pending with
      | none =>
          simp only [awaitKey, advanced, pending] at free
          cases free
      | some other =>
          rw [before.advanced.awaitKey_of_pending x other idle pending] at after written
          rw [register_received] at written
          subst written
          exact ⟨rfl, Or.inl ⟨idle, after⟩⟩
  | suspended cycles waits free written =>
      have after : (before.move move).machine = (before.deliverKey x).machine := by
        rw [show move = .cycle from cycles, Machine.move, before.cycle_of_awaiting x waits]
      rw [Moment.after, Moment.step, after] at free written
      cases pending : before.keypad.pending with
      | none =>
          simp only [deliverKey, pending] at free
          exact absurd (waits.symm.trans free) (Option.some_ne_none x)
      | some other =>
          rw [before.deliverKey_of_pending x other pending] at after written
          rw [register_received] at written
          subst written
          exact ⟨rfl, Or.inr ⟨waits, after⟩⟩

theorem pending_after_suspends (before : Machine) (move : Move) (undirected : move.Undirected)
    (x : UInt8) (suspends : Moment.Suspends ⟨before, move⟩ x) :
    (before.move move).machine.keypad.pending = none := by
  have after := (before.after_of_awaits move undirected x suspends.1).2
  have taken := before.advanced.keypad_execute (.awaitKey x)
  rw [after]
  exact congrArg Keypad.pending taken

/-! ### Suspension -/

theorem awaiting_move (before : Machine) (move : Move) (undirected : move.Undirected) (x : UInt8)
    (waits : (before.move move).machine.cpu.awaiting = some x) :
    before.cpu.awaiting = some x ∨ Moment.Suspends ⟨before, move⟩ x := by
  cases move with
  | cycle =>
      rw [Moment.Suspends, Moment.Awaits, Moment.after, Moment.step]
      rw [Machine.move] at waits ⊢
      have course := before.course_cycle
      generalize before.cycle = step at waits course ⊢
      cases course with
      | waiting y waiting =>
          cases pending : before.keypad.pending with
          | none =>
              simp only [deliverKey, pending] at waits
              exact Or.inl waits
          | some key =>
              rw [before.deliverKey_of_pending y key pending] at waits
              cases waits
      | unfetched _fault _free _failed => exact Or.inl waits
      | unknown _word _free _fetched _unknown => exact Or.inl waits
      | known word instruction free _fetched _known =>
          rw [events_known]
          refine Or.inr ⟨⟨_, List.mem_singleton_self _, ?_⟩, waits⟩
          simp only [Step.announcing, awaiting_execute] at waits
          have idle : before.advanced.cpu.awaiting = none := free
          rw [idle] at waits
          cases instruction with
          | awaitKey y =>
              dsimp only at waits
              split at waits
              · cases waits
                rfl
              · cases waits
          | _ => cases waits
  | execute instruction => exact undirected.elim
  | _ => exact Or.inl waits

/-- A program that waits has been waiting since some instruction suspended it. -/
def Suspended (earlier : List Moment) (machine : Machine) : Prop :=
  ∀ x, machine.cpu.awaiting = some x → ∃ suspension, Suspension earlier suspension x

theorem suspended_booted (config : Config) (image : List UInt8) (keypad : Keypad)
    (random : RandomSource) : Suspended [] (booted config image keypad random) := by
  intro x waits
  cases waits

theorem suspended_move (earlier : List Moment) (before : Machine) (move : Move)
    (undirected : move.Undirected) (suspended : Suspended earlier before) :
    Suspended (earlier ++ [⟨before, move⟩]) (before.move move).machine := by
  intro x waits
  rcases before.awaiting_move move undirected x waits with already | suspends
  · obtain ⟨suspension, ⟨moment, there, suspends⟩, waiting⟩ := suspended x already
    exact ⟨suspension, ⟨moment, getElem?_concat_of_some _ there, suspends⟩,
      waiting.concat _ already⟩
  · exact ⟨earlier.length, ⟨_, List.getElem?_concat_length, suspends⟩,
      Since.past_concat earlier _⟩

end Machine

/-! ### Deliveries of a session -/

/-- What comes with a delivery after some moments: the key is that of the latest press and still held,
and if the program was suspended, then the press came afterwards and nothing else changes. -/
structure Moment.Delivery (earlier : List Moment) (moment : Moment) (x key : UInt8) : Prop where
  real : key ≤ 0xF
  held : moment.before.keypad.isHeld key = true
  written : moment.after.cpu.registers = (moment.before.cpu.setRegister x key).registers
  pressed : ∃ press, LatestPress earlier press key
  resumed : moment.before.cpu.awaiting = some x →
    (∃ suspension, Suspension earlier suspension x ∧
      ∀ press, LatestPress earlier press key → suspension < press) ∧
        moment.after = moment.before.received x key

namespace Machine

structure Tracked (earlier : List Moment) (machine : Machine) : Prop where
  undirected : ∀ moment ∈ earlier, moment.move.Undirected
  kept : Kept earlier machine
  suspended : Suspended earlier machine

theorem tracked_booted (config : Config) (image : List UInt8) (random : RandomSource) :
    Tracked [] (booted config image .idle random) where
  undirected := by
    intro moment member
    cases member
  kept := kept_booted config image random
  suspended := suspended_booted config image .idle random

theorem tracked_move (earlier : List Moment) (before : Machine) (move : Move)
    (undirected : move.Undirected) (tracked : Tracked earlier before) :
    Tracked (earlier ++ [⟨before, move⟩]) (before.move move).machine where
  undirected := by
    intro moment member
    rcases List.mem_append.mp member with first | last
    · exact tracked.undirected moment first
    · rw [List.mem_singleton.mp last]
      exact undirected
  kept := kept_move earlier before move undirected tracked.kept
  suspended := suspended_move earlier before move undirected tracked.suspended

theorem delivery_of_tracked (earlier : List Moment) (moment : Moment)
    (undirected : moment.move.Undirected) (tracked : Tracked earlier moment.before) (x key : UInt8)
    (delivers : moment.Delivers x key) : moment.Delivery earlier x key := by
  obtain ⟨pending, after⟩ := moment.before.after_of_delivers moment.move undirected x key delivers
  obtain ⟨held, press, latestPress, _since⟩ := tracked.kept key pending
  have small := moment.before.keypad.lt_of_isHeld key held
  constructor
  case real => exact UInt8.le_iff_toNat_le.mpr (Nat.le_of_lt_succ small)
  case held => exact held
  case written =>
    rcases after with ⟨_idle, same⟩ | ⟨_waits, same⟩
    · exact congrArg (fun machine => machine.cpu.registers) same
    · exact congrArg (fun machine => machine.cpu.registers) same
  case pressed => exact ⟨press, latestPress⟩
  case resumed =>
    intro waits
    constructor
    · obtain ⟨suspension, suspended⟩ := tracked.suspended x waits
      obtain ⟨start, there, suspends⟩ := suspended.suspends
      refine ⟨suspension, suspended, ?_⟩
      intro other latestOther
      exact lt_press_of_kept tracked.kept pending there
        (start.before.pending_after_suspends start.move
          (tracked.undirected start (List.mem_of_getElem? there)) x suspends) latestOther
    · rcases after with ⟨idle, _same⟩ | ⟨_waits, same⟩
      · exact absurd (waits.symm.trans idle) (Option.some_ne_none x)
      · exact same

/-- A press that a delivery has taken is not delivered again. -/
theorem not_lt_of_same_press (trail : List Moment) (first second press : Nat) (left right : Moment)
    (x y key other : UInt8) (undirected : left.move.Undirected)
    (rightUndirected : right.move.Undirected) (tracked : Tracked (trail.take second) right.before)
    (there : trail[first]? = some left) (delivers : left.Delivers x key)
    (latestPress : LatestPress (trail.take first) press key)
    (deliversAgain : right.Delivers y other)
    (samePress : LatestPress (trail.take second) press other) : ¬ first < second := by
  intro before
  have taken : left.after.keypad.pending = none := by
    have after := (left.before.after_of_delivers left.move undirected x key delivers).2
    rcases after with ⟨_idle, same⟩ | ⟨_waits, same⟩
    · exact congrArg (fun machine => machine.keypad.pending) same
    · exact congrArg (fun machine => machine.keypad.pending) same
  have pending := (right.before.after_of_delivers right.move rightUndirected y other deliversAgain).1
  have among : (trail.take second)[first]? = some left := by
    rw [List.getElem?_take_of_lt before, there]
  have later := lt_press_of_kept tracked.kept pending among taken samePress
  have earlier := latestPress.lt_length
  rw [List.length_take] at earlier
  omega

/-- Every delivery of a session gives the key of the latest press, which is held, and no two deliveries
come from the same press. -/
theorem delivery_exact (config : Config) (image : List UInt8) (random : RandomSource)
    (fits : image.length ≤ 3584) :
    ∃ machine, boot config image .idle random = .ok machine ∧
      ∀ actions : List Action, (∀ action ∈ actions, action.Undirected) →
        (∀ place (moment : Moment) x key, (machine.trail actions)[place]? = some moment →
          moment.Delivers x key → moment.Delivery ((machine.trail actions).take place) x key) ∧
        ∀ (first second press : Nat) (left right : Moment) (x y key other : UInt8),
          (machine.trail actions)[first]? = some left → left.Delivers x key →
            LatestPress ((machine.trail actions).take first) press key →
              (machine.trail actions)[second]? = some right → right.Delivers y other →
                LatestPress ((machine.trail actions).take second) press other →
                  first = second := by
  refine ⟨_, boot_eq_ok config image .idle random fits, ?_⟩
  intro actions undirected
  have tracked := (holds_trail _ (tracked_booted config image random) tracked_move actions
    undirected).2
  constructor
  · intro place moment x key there delivers
    obtain ⟨allowed, tracks⟩ := tracked place moment there
    exact delivery_of_tracked _ moment allowed tracks x key delivers
  · intro first second press left right x y key other atFirst delivers latestFirst atSecond
      deliversAgain latestSecond
    obtain ⟨leftAllowed, leftTracks⟩ := tracked first left atFirst
    obtain ⟨rightAllowed, rightTracks⟩ := tracked second right atSecond
    apply Nat.le_antisymm
    · exact Nat.not_lt.mp (not_lt_of_same_press _ second first press right left y x other key
        rightAllowed leftAllowed leftTracks atSecond deliversAgain latestSecond delivers latestFirst)
    · exact Nat.not_lt.mp (not_lt_of_same_press _ first second press left right x y key other
        leftAllowed rightAllowed rightTracks atFirst delivers latestFirst deliversAgain latestSecond)

/-- A key taken at once, and one of three pressed while the program waits, the first of which does not
exist. -/
theorem delivery_exact_after_presses :
    let actions : List Action :=
      [.press 4, .cycle, .cycle, .press 0x20, .press 7, .press 9, .release 7, .cycle]
    ∃ machine, boot {} [0xF3, 0x0A, 0xF5, 0x0A] .idle (.cyclic #[]) = .ok machine ∧
      (∃ moment, (machine.trail actions)[1]? = some moment ∧
        moment.Delivery ((machine.trail actions).take 1) 3 4) ∧
      ∃ moment, (machine.trail actions)[7]? = some moment ∧
        moment.before.cpu.awaiting = some 5 ∧
          moment.Delivery ((machine.trail actions).take 7) 5 9 := by
  intro actions
  have fits : [0xF3, 0x0A, 0xF5, 0x0A].length ≤ 3584 := by decide
  obtain ⟨machine, loaded, sessions⟩ :=
    delivery_exact {} [0xF3, 0x0A, 0xF5, 0x0A] (.cyclic #[]) fits
  have deliveries := (sessions actions (by decide)).1
  have same := booted_eq_of_boot _ _ _ _ machine loaded
  let first : Moment := ⟨machine.afterMoves [.press 4], .cycle⟩
  let second : Moment :=
    ⟨machine.afterMoves
      [.press 4, .cycle, .cycle, .press 0x20, .press 7, .press 9, .release 7], .cycle⟩
  have facts : (∃ event ∈ first.step.events, event.instruction = .awaitKey 3) ∧
      first.after.cpu.awaiting = none ∧ first.after.cpu.register 3 = 4 ∧
        second.before.cpu.awaiting = some 5 ∧ second.after.cpu.awaiting = none ∧
          second.after.cpu.register 5 = 9 := by
    simp only [first, second, ← same]
    decide +kernel
  obtain ⟨awaits, firstFree, firstKey, waits, secondFree, secondKey⟩ := facts
  exact ⟨machine, loaded,
    ⟨first, rfl, deliveries 1 first 3 4 rfl (.atOnce awaits firstFree firstKey)⟩,
    ⟨second, rfl, waits, deliveries 7 second 5 9 rfl (.suspended rfl waits secondFree secondKey)⟩⟩

end Machine

end ChipEight
