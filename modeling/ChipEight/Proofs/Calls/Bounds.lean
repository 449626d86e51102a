import ChipEight.Proofs.Calls.Stack
import ChipEight.Proofs.Fault.Conditions
import ChipEight.Proofs.Machine.Frames
import ChipEight.Proofs.Machine.Headless

set_option autoImplicit false

/-!
How far the counter can get where memory does not wrap.

A word is fetched from inside memory, so the counter is behind it at `1000` at most. Calls push such an
address, and only a jump by register zero goes further, to `FFF` and `FF` at most. These bounds hold
whatever a host does, faults included, as long as it leaves it to the program which instructions are
carried out (`inBounds_of_reachable`).
-/

namespace ChipEight

def BehindWord (address : UInt16) : Prop :=
  0x002 ≤ address.toNat ∧ address.toNat ≤ 0x1000

namespace Cpu

theorem toNat_add_two (counter : UInt16) (bound : counter.toNat ≤ 0x1000) :
    (counter + 2).toNat = counter.toNat + 2 := by
  have two : (2 : UInt16).toNat = 2 := rfl
  rw [UInt16.toNat_add, two, Nat.mod_eq_of_lt (by omega)]

theorem toNat_target_le (address : UInt16) : (target address).toNat ≤ 0xFFF := by
  have rest : (target address).toNat = address.toNat % 4096 := UInt16.toNat_mod _ _
  omega

theorem toNat_target_add_le (address : UInt16) (offset : UInt8) :
    (target address + offset.toUInt16).toNat ≤ 0x10FE := by
  have base := toNat_target_le address
  have bound := offset.toNat_lt
  rw [UInt16.toNat_add, UInt8.toNat_toUInt16, Nat.mod_eq_of_lt (by omega)]
  omega

end Cpu

namespace Machine

structure Confined (machine : Machine) : Prop where
  strict : machine.config.addressPolicy = .strict
  counter : machine.cpu.counter.toNat ≤ 0x10FE
  stack : ∀ address ∈ machine.cpu.stack, BehindWord address

end Machine

/-- A moment at which the machine is confined, and where the fault of a fetch and of a return can
point. -/
structure Moment.InBounds (moment : Moment) : Prop where
  before : moment.before.Confined
  after : moment.after.Confined
  fetch : ∀ fault, moment.before.fetch = .error fault →
    ∃ address, fault = .addressOutOfRange address ∧ 0x1000 ≤ address ∧ address ≤ 0x10FE
  underflow : ∀ counter, moment.step.fault = some (.stackUnderflow counter) → BehindWord counter

namespace Machine

theorem counter_deliverKey (machine : Machine) (x : UInt8) :
    (machine.deliverKey x).machine.cpu.counter = machine.cpu.counter := by
  unfold deliverKey
  split <;> rfl

theorem confined_booted (config : Config) (image : List UInt8) (keypad : Keypad)
    (random : RandomSource) (strict : config.addressPolicy = .strict) :
    (booted config image keypad random).Confined where
  strict := strict
  counter := by
    change (0x200 : UInt16).toNat ≤ 0x10FE
    decide
  stack := by
    intro address member
    cases member

namespace Confined

variable {machine : Machine}

theorem fetch (confined : machine.Confined) (fault : Fault)
    (failed : machine.fetch = .error fault) :
    ∃ address, fault = .addressOutOfRange address ∧ 0x1000 ≤ address ∧ address ≤ 0x10FE := by
  have bound := confined.counter
  by_cases outside : 0xFFF ≤ machine.cpu.counter.toNat
  · rw [machine.fetch_eq_error confined.strict outside] at failed
    cases failed
    exact ⟨_, rfl, by omega, by omega⟩
  · rw [machine.fetch_eq_ok fun _strict => Nat.not_le.mp outside] at failed
    cases failed

theorem behindWord_advanced (confined : machine.Confined) (word : Word)
    (fetched : machine.fetch = .ok word) : BehindWord machine.advanced.cpu.counter := by
  have inside : ¬ 0xFFF ≤ machine.cpu.counter.toNat := fun outside =>
    ((machine.fetch_eq_ok_iff word).mp fetched).1 ⟨confined.strict, outside⟩
  have value := Cpu.toNat_add_two machine.cpu.counter (by omega)
  change 0x002 ≤ (machine.cpu.counter + 2).toNat ∧ (machine.cpu.counter + 2).toNat ≤ 0x1000
  omega

/-- The machine right behind the word that it carries out, before any skip or jump. -/
theorem advanced (confined : machine.Confined) (word : Word)
    (fetched : machine.fetch = .ok word) : machine.advanced.Confined where
  strict := confined.strict
  counter := by
    have behind := (confined.behindWord_advanced word fetched).2
    omega
  stack := confined.stack

theorem execute (confined : machine.Confined) (behind : BehindWord machine.cpu.counter)
    (instruction : Instruction) : (machine.execute instruction).machine.Confined := by
  have onward : (if machine.skips instruction then machine.cpu.counter + 2
      else machine.cpu.counter).toNat ≤ 0x10FE := by
    have start := behind.2
    split
    · rw [Cpu.toNat_add_two _ start]
      omega
    · omega
  constructor
  case strict =>
    rw [config_execute]
    exact confined.strict
  case counter =>
    rw [counter_execute]
    cases instruction with
    | leave =>
        cases returns : machine.cpu.stack with
        | nil => exact confined.counter
        | cons address rest =>
            have back := (confined.stack address (returns ▸ List.mem_cons_self)).2
            exact Nat.le_trans back (by decide)
    | jump address | call address =>
        exact Nat.le_trans (Cpu.toNat_target_le address) (by decide)
    | jumpOffset address => exact Cpu.toNat_target_add_le address _
    | _ => exact onward
  case stack =>
    intro address member
    rw [stack_execute] at member
    cases instruction with
    | call _ =>
        rcases List.mem_cons.mp member with rfl | earlier
        · exact behind
        · exact confined.stack address earlier
    | leave => exact confined.stack address (List.mem_of_mem_tail member)
    | _ => exact confined.stack address member

theorem cycle (confined : machine.Confined) : machine.cycle.machine.Confined := by
  have course := machine.course_cycle
  generalize machine.cycle = step at course ⊢
  cases course with
  | waiting x _waits =>
      constructor
      · rw [config_deliverKey]
        exact confined.strict
      · rw [counter_deliverKey]
        exact confined.counter
      · rw [stack_deliverKey]
        exact confined.stack
  | unfetched _fault _free _failed => exact confined
  | unknown word _free fetched _unknown => exact confined.advanced word fetched
  | known word instruction _free fetched _known =>
      exact (confined.advanced word fetched).execute
        (confined.behindWord_advanced word fetched) instruction

theorem move (confined : machine.Confined) (move : Move) (undirected : move.Undirected) :
    (machine.move move).machine.Confined := by
  cases move with
  | cycle => exact confined.cycle
  | execute instruction => exact undirected.elim
  | _ => exact ⟨confined.strict, confined.counter, confined.stack⟩

theorem underflow (confined : machine.Confined) (move : Move) (undirected : move.Undirected)
    (counter : UInt16) (failed : (machine.move move).fault = some (.stackUnderflow counter)) :
    BehindWord counter := by
  cases move with
  | cycle =>
      cases (machine.fault_cycle_iff _).mp failed with
      | execute _instruction _fault _free inside _known fails =>
          have fetched := (machine.fetch_eq_ok_iff _).mpr ⟨inside, rfl⟩
          cases fails
          exact confined.behindWord_advanced _ fetched
  | execute instruction => exact undirected.elim
  | _ => cases failed

/-! ### Moves in a row -/

theorem afterMoves (confined : machine.Confined) (moves : List Move)
    (undirected : ∀ move ∈ moves, move.Undirected) : (machine.afterMoves moves).Confined := by
  induction moves generalizing machine with
  | nil => exact confined
  | cons move rest ih =>
      apply ih (confined.move move (undirected move List.mem_cons_self))
      intro other member
      exact undirected other (List.mem_cons_of_mem move member)

theorem inBounds (confined : machine.Confined) (moves : List Move)
    (undirected : ∀ move ∈ moves, move.Undirected) (moment : Moment)
    (member : moment ∈ machine.history moves) : moment.InBounds := by
  obtain ⟨place, there⟩ := List.mem_iff_getElem?.mp member
  rw [getElem?_history] at there
  obtain ⟨move, present, rfl⟩ := Option.map_eq_some_iff.mp there
  have before := confined.afterMoves (moves.take place) fun other earlier =>
    undirected other (List.mem_of_mem_take earlier)
  have allowed := undirected move (List.mem_of_getElem? present)
  exact
    { before
      after := before.move move allowed
      fetch := before.fetch
      underflow := before.underflow move allowed }

theorem underflow_stepOf (confined : machine.Confined) (moves : List Move)
    (undirected : ∀ move ∈ moves, move.Undirected) (counter : UInt16)
    (failed : (machine.stepOf moves).fault = some (.stackUnderflow counter)) :
    BehindWord counter := by
  obtain ⟨moment, member, last⟩ := machine.exists_of_fault_stepOf moves _ failed
  exact (confined.inBounds moves undirected moment member).underflow counter last

end Confined

/-! ### In the hands of a host -/

/-- What a host can make of a machine if it carries out no instructions of its own. It may go on after
a fault. -/
inductive Reachable (start : Machine) : Machine → Prop
  | start : Reachable start start
  | act (machine : Machine) (action : Action) (before : Reachable start machine)
      (undirected : action.Undirected) : Reachable start (machine.act action).machine
  | headless (machine : Machine) (count : Nat) (before : Reachable start machine) :
      Reachable start (machine.headless count).machine

theorem machine_headless (machine : Machine) (count : Nat) :
    (machine.headless count).machine =
      (machine.follow (framePlan machine.config.cyclesPerFrame count)).machine := by
  rw [← toStep_frames, headless]
  split <;> rfl

theorem stop_of_headless (machine : Machine) (count : Nat) (stop : Stop)
    (stopped : (machine.headless count).result = .error stop) :
    stop.counter = (machine.headless count).machine.cpu.counter ∧
      (machine.follow (framePlan machine.config.cyclesPerFrame count)).fault =
        some stop.fault := by
  rw [← toStep_frames]
  exact ⟨(machine.endsIn_of_headless_error count stop stopped).counter,
    machine.frames_of_headless_error count stop stopped⟩

theorem undirected_of_mem_followed (machine : Machine) (count : Nat) (move : Move)
    (member : move ∈
      machine.followed (framePlan machine.config.cyclesPerFrame count)) : move.Undirected :=
  (inFrame_of_mem_framePlan _ _ _ (machine.mem_of_mem_followed _ move member)).undirected

theorem confined_of_reachable (start machine : Machine) (confined : start.Confined)
    (reachable : start.Reachable machine) : machine.Confined := by
  induction reachable with
  | start => exact confined
  | act machine action _before undirected ih =>
      rw [act_eq_stepOf]
      exact ih.afterMoves _ (machine.undirected_of_mem_movesOf action undirected)
  | headless machine count _before ih =>
      rw [machine_headless]
      exact ih.afterMoves _ (machine.undirected_of_mem_followed count)

/-- Where memory does not wrap, whatever a host does with a machine that it has booted, the counter is
at `10FE` at most, and every address to return to is behind a word that lies in memory. So it is at
every moment of an action and of a run without a window, and a fetch and a return fail at such addresses
only. -/
theorem inBounds_of_reachable (config : Config) (image : List UInt8) (keypad : Keypad)
    (random : RandomSource) (start machine : Machine) (strict : config.addressPolicy = .strict)
    (loaded : boot config image keypad random = .ok start) (reachable : start.Reachable machine) :
    machine.Confined ∧
      (∀ action : Action, action.Undirected →
        (∀ moment ∈ machine.history (machine.movesOf action), moment.InBounds) ∧
          ∀ counter, (machine.act action).fault = some (.stackUnderflow counter) →
            BehindWord counter) ∧
        ∀ count,
          (∀ moment ∈ machine.history
              (machine.followed (framePlan machine.config.cyclesPerFrame count)),
            moment.InBounds) ∧
            ∀ stop, (machine.headless count).result = .error stop →
              stop.counter.toNat ≤ 0x10FE ∧
                ∀ counter, stop.fault = .stackUnderflow counter → BehindWord counter := by
  have booted := confined_booted config image keypad random strict
  rw [booted_eq_of_boot config image keypad random start loaded] at booted
  have confined := confined_of_reachable start machine booted reachable
  refine ⟨confined, ?_, ?_⟩
  · intro action undirected
    have moves := machine.undirected_of_mem_movesOf action undirected
    refine ⟨confined.inBounds _ moves, ?_⟩
    rw [act_eq_stepOf]
    exact confined.underflow_stepOf _ moves
  · intro count
    have moves := machine.undirected_of_mem_followed count
    refine ⟨confined.inBounds _ moves, ?_⟩
    intro stop stopped
    obtain ⟨counter, fault⟩ := machine.stop_of_headless count stop stopped
    have ended : (machine.headless count).machine.Confined := by
      rw [machine_headless]
      exact confined.afterMoves _ moves
    constructor
    · rw [counter]
      exact ended.counter
    · intro behind same
      rw [same] at fault
      exact confined.underflow_stepOf _ moves behind fault

/-- A program writes a return into the last word of memory and jumps there, with nothing to return to. -/
theorem inBounds_of_reachable_behind_last_word :
    ∃ start machine,
      boot { addressPolicy := .strict, returnPolicy := .fault }
        [0x60, 0x00, 0x61, 0xEE, 0xAF, 0xFE, 0xF1, 0x55, 0x1F, 0xFE] .idle (.cyclic #[]) =
          .ok start ∧
        (start.headless 1).result = .error ⟨0x1000, 0, .stackUnderflow 0x1000⟩ ∧
          BehindWord 0x1000 ∧
            start.Reachable machine ∧ machine.fetch = .error (.addressOutOfRange 0x1000) ∧
              machine.cpu.counter.toNat ≤ 0x10FE := by
  obtain ⟨start, same⟩ : ∃ start, start = booted
    { addressPolicy := .strict, returnPolicy := .fault }
    [0x60, 0x00, 0x61, 0xEE, 0xAF, 0xFE, 0xF1, 0x55, 0x1F, 0xFE] .idle (.cyclic #[]) := ⟨_, rfl⟩
  have loaded : boot { addressPolicy := .strict, returnPolicy := .fault }
      [0x60, 0x00, 0x61, 0xEE, 0xAF, 0xFE, 0xF1, 0x55, 0x1F, 0xFE] .idle (.cyclic #[]) =
        .ok start := by
    rw [same]
    exact boot_eq_ok _ _ _ _ (by decide)
  have facts : (start.headless 1).result = .error ⟨0x1000, 0, .stackUnderflow 0x1000⟩ ∧
      (start.headless 1).machine.fetch = .error (.addressOutOfRange 0x1000) := by
    subst same
    decide +kernel
  obtain ⟨stopped, unfetched⟩ := facts
  have reached : start.Reachable (start.headless 1).machine := .headless start 1 .start
  obtain ⟨_confined, _actions, headless⟩ := inBounds_of_reachable _ _ _ _ start start rfl loaded .start
  obtain ⟨confined, _rest⟩ := inBounds_of_reachable _ _ _ _ start _ rfl loaded reached
  exact ⟨start, _, loaded, stopped, ((headless 1).2 _ stopped).2 _ rfl, reached, unfetched,
    confined.counter⟩

end Machine

end ChipEight
