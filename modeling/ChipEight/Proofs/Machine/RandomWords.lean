import ChipEight.Proofs.Machine.Frames
import ChipEight.Proofs.Machine.Timers
import ChipEight.Proofs.Parts.Isolation

set_option autoImplicit false

/-!
The words that a program takes from its random source.

Every random instruction takes one word, the next one, and nothing else takes any. So the words are used
once each and in order, and as only low bytes reach a register, sources whose used words have the same
low bytes cannot be told apart (`words_taken_in_order`).
-/

namespace ChipEight

def Instruction.request? : Instruction → Option (UInt8 × UInt8)
  | .random x mask => some (x, mask)
  | _ => none

def Moment.request? (moment : Moment) : Option (UInt8 × UInt8) :=
  moment.instruction?.bind Instruction.request?

def requestsOf (moments : List Moment) : List (UInt8 × UInt8) :=
  moments.filterMap Moment.request?

theorem requestsOf_cons (moment : Moment) (rest : List Moment) :
    requestsOf (moment :: rest) = moment.request?.toList ++ requestsOf rest := by
  cases found : moment.request? with
  | none => exact List.filterMap_cons_none found
  | some request => exact List.filterMap_cons_some found

namespace RandomSource

def after (source : RandomSource) (count : Nat) : RandomSource :=
  { source with drawn := source.drawn + count }

def withWords (source : RandomSource) (words : Nat → UInt32) : RandomSource :=
  { source with word := words }

theorem byte_eq (source : RandomSource) :
    source.byte = (source.word source.drawn).toUInt8 := by
  apply UInt8.toNat_inj.mp
  rw [byte, UInt8.toNat_ofNat', UInt32.toNat_toUInt8]
  exact Nat.mod_mod _ _

end RandomSource

def Machine.withWords (machine : Machine) (words : Nat → UInt32) : Machine :=
  { machine with random := machine.random.withWords words }

def Step.withWords (step : Step) (words : Nat → UInt32) : Step :=
  { step with machine := step.machine.withWords words }

def Moment.withWords (moment : Moment) (words : Nat → UInt32) : Moment :=
  { moment with before := moment.before.withWords words }

namespace Machine

variable (machine : Machine)

/-! ### One move -/

theorem instruction?_cycle : Moment.instruction? ⟨machine, .cycle⟩ = machine.next? := by
  have told : Moment.instruction? ⟨machine, .cycle⟩ =
      machine.cycle.events.head?.map TraceEvent.instruction := rfl
  have course := machine.course_cycle
  rw [told]
  generalize machine.cycle = step at course ⊢
  cases course with
  | waiting x waits =>
      rw [events_deliverKey]
      simp only [next?, waits]
      rfl
  | unfetched fault free failed =>
      simp only [next?, free, failed]
      rfl
  | unknown word free fetched unknown =>
      rw [machine.next?_eq word free fetched, unknown]
      rfl
  | known word instruction free fetched known =>
      rw [machine.next?_eq word free fetched, known, events_known]
      rfl

theorem random_cycle_of_next?_eq_none (idle : machine.next? = none) :
    machine.cycle.machine.random = machine.random := by
  have course := machine.course_cycle
  generalize machine.cycle = step at course ⊢
  cases course with
  | waiting x _waits =>
      rw [deliverKey]
      split
      · rfl
      · rfl
  | unfetched _fault _free _failed => rfl
  | unknown _word _free _fetched _unknown => rfl
  | known word instruction free fetched known =>
      rw [machine.next?_eq word free fetched, known] at idle
      cases idle

theorem random_execute (instruction : Instruction) :
    (machine.execute instruction).machine.random =
      machine.random.after (instruction.request?.toList.length) := by
  have effects := machine.effects_execute instruction
  rw [effects.random]
  cases instruction <;> rfl

/-- A move takes a word if a random instruction is carried out, and none otherwise. -/
theorem random_move (move : Move) :
    (machine.move move).machine.random =
      machine.random.after (Moment.request? ⟨machine, move⟩).toList.length := by
  cases move with
  | cycle =>
      rw [Moment.request?, instruction?_cycle, Machine.move]
      cases next : machine.next? with
      | none => exact machine.random_cycle_of_next?_eq_none next
      | some instruction =>
          obtain ⟨word, free, fetched, known⟩ := machine.exists_fetch_of_next? instruction next
          rw [machine.cycle_of_known word instruction free fetched known]
          exact machine.advanced.random_execute instruction
  | execute instruction =>
      refine (machine.random_execute instruction).trans ?_
      cases instruction <;> rfl
  | _ => rfl

/-- A random instruction gives its register the low byte of the next word, under its mask. -/
theorem register_move_of_request (move : Move) (x mask : UInt8)
    (asks : Moment.request? ⟨machine, move⟩ = some (x, mask)) :
    (machine.move move).machine.cpu.register x = machine.random.byte &&& mask := by
  have answered : ∀ ready : Machine, ready.random = machine.random →
      (ready.execute (.random x mask)).machine.cpu.register x = machine.random.byte &&& mask := by
    intro ready same
    rw [← same]
    exact (Cpu.register_setRegister _ _ _ _).trans (if_pos rfl)
  have instruction : Moment.instruction? ⟨machine, move⟩ = some (.random x mask) := by
    obtain ⟨instruction, found, request⟩ := Option.bind_eq_some_iff.mp asks
    rw [found]
    cases instruction with
    | random y other => cases request; rfl
    | _ => cases request
  cases move with
  | cycle =>
      rw [instruction?_cycle] at instruction
      obtain ⟨word, free, fetched, known⟩ := machine.exists_fetch_of_next? _ instruction
      rw [Machine.move, machine.cycle_of_known word _ free fetched known]
      exact answered machine.advanced rfl
  | execute other =>
      cases instruction
      exact answered machine rfl
  | _ => cases instruction

/-! ### Many moves -/

theorem random_afterMoves (moves : List Move) :
    (machine.afterMoves moves).random =
      machine.random.after (requestsOf (machine.history moves)).length := by
  induction moves generalizing machine with
  | nil => rfl
  | cons move rest ih =>
      rw [afterMoves, ih, random_move, history, requestsOf_cons, List.length_append]
      exact congrArg (RandomSource.mk machine.random.word) (Nat.add_assoc _ _ _)

theorem drawn_le_afterMoves (moves : List Move) :
    machine.random.drawn ≤ (machine.afterMoves moves).random.drawn := by
  rw [random_afterMoves]
  exact Nat.le_add_right _ _

/-! ### Other words -/

/-- Some words have the same low bytes as those that the source has before the place `limit`. -/
def AlikeBelow (machine : Machine) (words : Nat → UInt32) (limit : Nat) : Prop :=
  ∀ place, machine.random.drawn ≤ place → place < limit →
    (words place).toNat % 256 = (machine.random.word place).toNat % 256

theorem AlikeBelow.byte {machine : Machine} {words : Nat → UInt32} {limit : Nat}
    (alike : machine.AlikeBelow words limit) (inside : machine.random.drawn < limit) :
    (machine.withWords words).random.byte = machine.random.byte :=
  congrArg UInt8.ofNat (alike machine.random.drawn (Nat.le_refl _) inside)

theorem AlikeBelow.narrow {machine : Machine} {words : Nat → UInt32} {limit other : Nat}
    (alike : machine.AlikeBelow words limit) (within : other ≤ limit) :
    machine.AlikeBelow words other := by
  intro place lower upper
  exact alike place lower (Nat.lt_of_lt_of_le upper within)

theorem AlikeBelow.afterMoves {machine : Machine} {words : Nat → UInt32} {limit : Nat}
    (alike : machine.AlikeBelow words limit) (moves : List Move) :
    (machine.afterMoves moves).AlikeBelow words limit := by
  intro place lower upper
  rw [random_afterMoves] at lower ⊢
  exact alike place (Nat.le_trans (Nat.le_add_right _ _) lower) upper

end Machine

theorem Step.eq_withWords {left right : Step} {words : Nat → UInt32}
    (same : left.without .random = right.without .random)
    (random : left.machine.random = right.machine.random.withWords words) :
    left = right.withWords words := by
  obtain ⟨machines, faults, notices⟩ := (Step.without_eq_iff left right .random).mp same
  have machine : left.machine = right.machine.withWords words := by
    calc
      left.machine = { left.machine.without .random with random := left.machine.random } := rfl
      _ = { right.machine.without .random with
            random := right.machine.random.withWords words } := by rw [machines, random]
      _ = right.machine.withWords words := rfl
  rw [withWords, Step.mk.injEq]
  exact ⟨machine, faults, notices⟩

namespace Machine

variable {machine : Machine} {words : Nat → UInt32}

theorem execute_withWords (instruction : Instruction)
    (alike : machine.AlikeBelow words (machine.execute instruction).machine.random.drawn) :
    (machine.withWords words).execute instruction =
      (machine.execute instruction).withWords words := by
  by_cases reads : Part.random.isReadBy instruction = true
  · cases instruction with
    | random x mask =>
        have same := alike.byte (Nat.lt_succ_self _)
        rw [execute, same]
        rfl
    | _ => cases reads
  · have unread := Bool.eq_false_iff.mpr reads
    apply Step.eq_withWords
    · rw [← execute_without _ .random instruction unread, ← machine.execute_without _ _ unread]
      rfl
    · rw [random_execute, random_execute]
      rfl

theorem cycle_withWords
    (alike : machine.AlikeBelow words machine.cycle.machine.random.drawn) :
    (machine.withWords words).cycle = machine.cycle.withWords words := by
  cases next : machine.next? with
  | none =>
      have otherNext : (machine.withWords words).next? = none := next
      have nothing : ∀ instruction, machine.next? = some instruction →
          Part.random.isReadBy instruction = false := by
        intro instruction some
        rw [next] at some
        cases some
      have free : Part.random = .keypad → machine.cpu.awaiting = none := Part.noConfusion
      apply Step.eq_withWords
      · rw [← machine.cycle_without _ nothing free]
        exact (cycle_without (machine.withWords words) _ nothing free).symm
      · rw [random_cycle_of_next?_eq_none _ next, random_cycle_of_next?_eq_none _ otherNext]
        rfl
  | some instruction =>
      obtain ⟨word, free, fetched, known⟩ := machine.exists_fetch_of_next? instruction next
      rw [machine.cycle_of_known word instruction free fetched known] at alike ⊢
      rw [cycle_of_known (machine.withWords words) word instruction free fetched known]
      exact congrArg (Step.announcing (.executing (machine.eventOf word instruction)))
        (machine.advanced.execute_withWords instruction alike)

theorem move_withWords (move : Move)
    (alike : machine.AlikeBelow words (machine.move move).machine.random.drawn) :
    (machine.withWords words).move move = (machine.move move).withWords words := by
  cases move with
  | cycle => exact cycle_withWords alike
  | execute instruction => exact execute_withWords instruction alike
  | _ => rfl

theorem history_withWords (moves : List Move)
    (alike : machine.AlikeBelow words (machine.afterMoves moves).random.drawn) :
    (machine.withWords words).history moves =
      (machine.history moves).map fun moment => moment.withWords words := by
  induction moves generalizing machine with
  | nil => rfl
  | cons move rest ih =>
      have first := move_withWords move (alike.narrow (drawn_le_afterMoves _ rest))
      rw [history, first]
      exact congrArg (List.cons _) (ih (alike.afterMoves [move]))

theorem stepOf_withWords (moves : List Move)
    (alike : machine.AlikeBelow words (machine.afterMoves moves).random.drawn) :
    (machine.withWords words).stepOf moves = (machine.stepOf moves).withWords words := by
  induction moves generalizing machine with
  | nil => rfl
  | cons move rest ih =>
      have first := move_withWords move (alike.narrow (drawn_le_afterMoves _ rest))
      have later := ih (alike.afterMoves [move])
      rw [stepOf_cons, stepOf_cons, first]
      exact congrArg (Step.andThen _) later

/-- The cycles of a frame are as many with the other words. -/
theorem cycleMoves_withWords (count : Nat)
    (alike : machine.AlikeBelow words
      (machine.afterMoves (machine.cycleMoves count)).random.drawn) :
    (machine.withWords words).cycleMoves count = machine.cycleMoves count := by
  induction count generalizing machine with
  | zero => rfl
  | succ count ih =>
      have first := cycle_withWords (alike.narrow (drawn_le_afterMoves _ _))
      have later := alike.afterMoves [.cycle]
      rw [cycleMoves, cycleMoves, first]
      cases ended : machine.cycle.fault with
      | some fault => simp only [Step.withWords, ended]
      | none =>
          simp only [cycleMoves, ended] at later
          simp only [Step.withWords, ended]
          exact congrArg (List.cons _) (ih later)

theorem movesOf_withWords (action : Action)
    (alike : machine.AlikeBelow words
      (machine.afterMoves (machine.movesOf action)).random.drawn) :
    (machine.withWords words).movesOf action = machine.movesOf action := by
  cases action with
  | frame => exact congrArg (List.cons _) (cycleMoves_withWords _ (alike.afterMoves [.countDown]))
  | _ => rfl

theorem act_withWords (action : Action)
    (alike : machine.AlikeBelow words
      (machine.afterMoves (machine.movesOf action)).random.drawn) :
    (machine.withWords words).act action = (machine.act action).withWords words := by
  rw [act_eq_stepOf, act_eq_stepOf, movesOf_withWords action alike, stepOf_withWords _ alike]

/-! ### Sessions -/

theorem session_withWords (actions : List Action)
    (alike : machine.AlikeBelow words (machine.afterSession actions).random.drawn) :
    (machine.withWords words).session actions =
        (machine.session actions).map (fun step => step.withWords words) ∧
      (machine.withWords words).moves actions = machine.moves actions := by
  induction actions generalizing machine with
  | nil => exact ⟨rfl, rfl⟩
  | cons action rest ih =>
      have after : (machine.act action).machine = machine.afterMoves (machine.movesOf action) := by
        rw [act_eq_stepOf]
        rfl
      rw [afterSession, after] at alike
      have further := drawn_le_afterMoves (machine.afterMoves (machine.movesOf action))
        ((machine.afterMoves (machine.movesOf action)).moves rest)
      rw [← afterSession_eq] at further
      have sameMoves := movesOf_withWords action (alike.narrow further)
      have sameStep := act_withWords action (alike.narrow further)
      obtain ⟨laterSteps, laterMoves⟩ := ih (alike.afterMoves (machine.movesOf action))
      rw [← after] at laterSteps laterMoves
      rw [session, moves, sameStep, sameMoves]
      exact ⟨congrArg (List.cons _) laterSteps, congrArg _ laterMoves⟩

theorem trail_withWords (actions : List Action)
    (alike : machine.AlikeBelow words (machine.afterSession actions).random.drawn) :
    (machine.withWords words).trail actions =
      (machine.trail actions).map fun moment => moment.withWords words := by
  have sameMoves := (session_withWords actions alike).2
  rw [afterSession_eq] at alike
  rw [trail, sameMoves, history_withWords _ alike, trail]

theorem random_of_getElem?_trail (actions : List Action) (place : Nat) (moment : Moment)
    (there : (machine.trail actions)[place]? = some moment) :
    moment.before.random =
      machine.random.after (requestsOf ((machine.trail actions).take place)).length := by
  rw [trail, getElem?_history] at there
  obtain ⟨move, _present, same⟩ := Option.map_eq_some_iff.mp there
  rw [← same, trail, take_history, random_afterMoves]

variable (machine)

/-- So many words have been taken as random instructions have been carried out, at every moment and in
the end, and each of these instructions has left the low byte of the word after those of the ones before it,
under its mask, in its register. With other words that have the same low bytes as far as words are taken,
the session goes through the same steps and the same moments. -/
theorem words_taken_in_order (actions : List Action) :
    (machine.afterSession actions).random =
        machine.random.after (requestsOf (machine.trail actions)).length ∧
      (∀ place moment, (machine.trail actions)[place]? = some moment →
        let taken := (requestsOf ((machine.trail actions).take place)).length
        moment.before.random = machine.random.after taken ∧
          ∀ x mask, moment.request? = some (x, mask) →
            moment.after.random = machine.random.after (taken + 1) ∧
              moment.after.cpu.register x =
                (machine.random.word (machine.random.drawn + taken)).toUInt8 &&& mask) ∧
        ∀ words, machine.AlikeBelow words (machine.afterSession actions).random.drawn →
          (machine.withWords words).session actions =
              (machine.session actions).map (fun step => step.withWords words) ∧
            (machine.withWords words).trail actions =
              (machine.trail actions).map fun moment => moment.withWords words := by
  refine ⟨?_, ?_, ?_⟩
  · rw [afterSession_eq, random_afterMoves]
    rfl
  · intro place moment there taken
    have reached := random_of_getElem?_trail actions place moment there
    refine ⟨reached, ?_⟩
    intro x mask asks
    constructor
    · have next := moment.before.random_move moment.move
      rw [asks, reached] at next
      exact next
    · have answer := moment.before.register_move_of_request moment.move x mask asks
      rw [RandomSource.byte_eq, reached] at answer
      exact answer
  · intro words alike
    exact ⟨(session_withWords actions alike).1, trail_withWords actions alike⟩

/-- Words taken by a single instruction, in a frame that ends in a wait and in one that fails, and other
words that differ in all but the low bytes and altogether behind the last that is taken. -/
theorem words_taken_in_order_around_wait :
    let machine : Machine :=
      { fresh { cyclesPerFrame := 3 } with
        cpu :=
          { Cpu.initial with
            memory := Memory.initial.place 0x200
              [0xC0, 0xF0, 0xF1, 0x0A, 0xC3, 0xFF, 0x80, 0x08] }
        random := .cyclic #[0x101, 0x2AB, 0xFFFFFF7C] }
    let actions : List Action := [.execute (.random 0x12 0x0F), .frame, .press 4, .frame]
    let words : Nat → UInt32 := fun place =>
      if place < 3 then machine.random.word place + 0x500 else 0
    (machine.afterSession actions).random = machine.random.after 3 ∧
      (∃ moment, (machine.trail actions)[8]? = some moment ∧ moment.request? = some (3, 0xFF) ∧
        moment.after.cpu.register 3 = 0x7C) ∧
        ((machine.withWords words).session actions).map Step.fault =
          [none, none, none, some (.unknownOpcode 0x8008)] := by
  intro machine actions words
  have facts : (requestsOf (machine.trail actions)).length = 3 ∧
      (machine.trail actions)[8]?.map Moment.request? = some (some (3, 0xFF)) ∧
        (requestsOf ((machine.trail actions).take 8)).length = 2 ∧
          (machine.session actions).map Step.fault =
            [none, none, none, some (.unknownOpcode 0x8008)] := by
    decide +kernel
  obtain ⟨count, found, before, faults⟩ := facts
  obtain ⟨moment, there, asks⟩ := Option.map_eq_some_iff.mp found
  obtain ⟨taken, answers, alike⟩ := machine.words_taken_in_order actions
  rw [count] at taken
  refine ⟨taken, ⟨moment, there, asks, ?_⟩, ?_⟩
  · have answer := ((answers 8 moment there).2 3 0xFF asks).2
    rw [before] at answer
    exact answer.trans (by decide +kernel)
  · have same : machine.AlikeBelow words (machine.afterSession actions).random.drawn := by
      rw [taken]
      intro place _lower upper
      have first : place < 3 := upper
      simp only [words, if_pos first, UInt32.toNat_add]
      have byte : (0x500 : UInt32).toNat = 1280 := rfl
      omega
    rw [(alike words same).1, List.map_map, ← faults]
    rfl

end Machine

end ChipEight
