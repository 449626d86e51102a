import ChipEight.Machine.Headless
import ChipEight.Proofs.Machine.Frames

set_option autoImplicit false

/-!
A run told again from its announcements.

An event holds the instruction with the registers and the index just before it. Carrying out the
announced instructions one after the other, with the counter behind each but with nothing fetched, goes
through the same machines as the run that announced them (`replay_cycles`), even if the program has
changed its own words in the meantime.
-/

namespace ChipEight.Machine

structure Announces (machine : Machine) (event : TraceEvent) : Prop where
  only : machine.cycle.events = [event]
  decoded : Instruction.decode event.word = .ok event.instruction
  word : ∃ high low,
    machine.config.addressPolicy.resolve machine.cpu.counter.toNat = .ok high ∧
      machine.config.addressPolicy.resolve (machine.cpu.counter.toNat + 1) = .ok low ∧
        event.word = .ofBytes (machine.cpu.memory.bytes.get high) (machine.cpu.memory.bytes.get low)
  counter : event.counter = machine.cpu.counter
  registers : event.registers = machine.cpu.registers
  index : event.index = machine.cpu.index

/-- Carries out an announced instruction as if it had just been fetched. -/
def replay (machine : Machine) (event : TraceEvent) : Machine :=
  (execute { machine with cpu := { machine.cpu with counter := event.counter + 2 } }
    event.instruction).machine

def replayAll (machine : Machine) (events : List TraceEvent) : Machine :=
  events.foldl replay machine

variable (machine : Machine)

theorem replayAll_concat (events : List TraceEvent) (event : TraceEvent) :
    machine.replayAll (events ++ [event]) = (machine.replayAll events).replay event := by
  rw [replayAll, List.foldl_append]
  rfl

/-! ### One cycle -/

theorem exists_resolve_of_fetch (word : Word) (fetched : machine.fetch = .ok word) :
    ∃ high low,
      machine.config.addressPolicy.resolve machine.cpu.counter.toNat = .ok high ∧
        machine.config.addressPolicy.resolve (machine.cpu.counter.toNat + 1) = .ok low ∧
          word = .ofBytes (machine.cpu.memory.bytes.get high) (machine.cpu.memory.bytes.get low) := by
  obtain ⟨stays, same⟩ := (machine.fetch_eq_ok_iff word).mp fetched
  have bound : machine.config.addressPolicy = .strict → machine.cpu.counter.toNat < 4095 := by
    intro strict
    have inside : ¬ 4095 ≤ machine.cpu.counter.toNat := fun outside => stays ⟨strict, outside⟩
    omega
  have high := Memory.resolve_eq_ok machine.config.addressPolicy machine.cpu.counter.toNat
    fun strict => Nat.lt_succ_of_lt (bound strict)
  have low := Memory.resolve_eq_ok machine.config.addressPolicy (machine.cpu.counter.toNat + 1)
    fun strict => Nat.succ_lt_succ (bound strict)
  exact ⟨_, _, high, low, same⟩

theorem announces_eventOf (word : Word) (instruction : Instruction)
    (free : machine.cpu.awaiting = none) (fetched : machine.fetch = .ok word)
    (known : Instruction.ofWord? word = some instruction) :
    machine.Announces (machine.eventOf word instruction) where
  only := by
    rw [machine.cycle_of_known word instruction free fetched known]
    exact machine.events_known instruction word
  decoded := (Instruction.decode_eq_ok_iff word instruction).mpr known
  word := machine.exists_resolve_of_fetch word fetched
  counter := rfl
  registers := rfl
  index := rfl

theorem exists_announces_of_cycle (free : machine.cpu.awaiting = none)
    (unfailing : machine.cycle.fault = none) :
    ∃ event, machine.Announces event ∧ machine.replay event = machine.cycle.machine := by
  have course := machine.course_cycle
  generalize ended : machine.cycle = step at unfailing course ⊢
  cases course with
  | waiting x waits =>
      rw [free] at waits
      cases waits
  | unfetched _fault _free _failed => cases unfailing
  | unknown _word _free _fetched _unknown => cases unfailing
  | known word instruction _free fetched known =>
      exact ⟨_, machine.announces_eventOf word instruction free fetched known, rfl⟩

/-- The cycles without an event, and the instruction that is announced although it fails. -/
structure AnnouncesRightly (machine : Machine) : Prop where
  waiting : machine.cpu.awaiting ≠ none → machine.cycle.events = []
  unfetched : ∀ fault, machine.fetch = .error fault → machine.cycle.events = []
  unknown : ∀ word fault, machine.fetch = .ok word → Instruction.decode word = .error fault →
    machine.cycle.events = []
  execute : ∀ instruction, (machine.execute instruction).events = []
  failing : ∀ word instruction fault, machine.cpu.awaiting = none → machine.fetch = .ok word →
    Instruction.decode word = .ok instruction →
      (machine.advanced.execute instruction).fault = some fault →
        machine.cycle.fault = some fault ∧ machine.Announces (machine.eventOf word instruction)

theorem announcesRightly : machine.AnnouncesRightly := by
  have silent : machine.cpu.awaiting ≠ none → machine.cycle.events = [] := by
    intro waits
    obtain ⟨x, waiting⟩ := Option.ne_none_iff_exists'.mp waits
    rw [machine.cycle_of_awaiting x waiting]
    exact machine.events_deliverKey x
  constructor
  case waiting => exact silent
  case unfetched =>
    intro fault failed
    by_cases free : machine.cpu.awaiting = none
    · rw [machine.cycle_of_fetch_error fault free failed]
      rfl
    · exact silent free
  case unknown =>
    intro word fault fetched failed
    by_cases free : machine.cpu.awaiting = none
    · have unknown := ((Instruction.decode_eq_error_iff word fault).mp failed).1
      rw [machine.cycle_of_fetch_ok word free fetched, machine.perform_of_unknown word unknown]
      rfl
    · exact silent free
  case execute => exact machine.events_execute
  case failing =>
    intro word instruction fault free fetched decoded failed
    have known := (Instruction.decode_eq_ok_iff word instruction).mp decoded
    refine ⟨?_, machine.announces_eventOf word instruction free fetched known⟩
    rw [machine.cycle_of_known word instruction free fetched known]
    exact failed

/-! ### Cycles in a row -/

/-- Some events tell a run of so many cycles: there is one for each cycle, and replaying them goes
through the machines of the run. -/
structure Records (machine : Machine) (count : Nat) (events : List TraceEvent) : Prop where
  length : events.length = count
  moments : ∀ place event, events[place]? = some event →
    (machine.cycles place).machine.Announces event ∧
      machine.replayAll (events.take place) = (machine.cycles place).machine
  final : machine.replayAll events = (machine.cycles count).machine

variable {machine}

theorem Records.concat {count : Nat} {events : List TraceEvent} {event : TraceEvent}
    (records : machine.Records count events)
    (announced : (machine.cycles count).machine.Announces event)
    (next : (machine.cycles count).machine.replay event = (machine.cycles (count + 1)).machine) :
    machine.Records (count + 1) (events ++ [event]) where
  length := by rw [List.length_append, records.length, List.length_singleton]
  moments := by
    intro place other there
    rcases Nat.lt_trichotomy place events.length with before | rfl | behind
    · rw [List.getElem?_append_left before] at there
      rw [List.take_append_of_le_length (Nat.le_of_lt before)]
      exact records.moments place other there
    · rw [List.getElem?_concat_length] at there
      cases there
      rw [List.take_left, records.length]
      exact ⟨announced, records.final⟩
    · rw [List.getElem?_eq_none] at there
      · cases there
      · rw [List.length_append, List.length_singleton]
        exact behind
  final := by rw [replayAll_concat, records.final, next]

theorem records_cycles (count : Nat) (going : (machine.cycles count).fault = none)
    (free : ∀ done < count, (machine.cycles done).machine.cpu.awaiting = none) :
    machine.Records count (machine.cycles count).toStep.events := by
  induction count with
  | zero =>
      refine ⟨rfl, ?_, rfl⟩
      intro place event there
      cases there
  | succ count ih =>
      have before : (machine.cycles count).fault = none :=
        Run.going_of_extend_succ cycle count { machine } going
      have last : machine.cycles (count + 1) =
          (machine.cycles count).push (machine.cycles count).machine.cycle :=
        Run.extend_succ_of_going cycle count { machine } before
      rw [last] at going
      obtain ⟨event, announced, next⟩ := exists_announces_of_cycle _
        (free count (Nat.lt_succ_self count)) going
      have events : (machine.cycles (count + 1)).toStep.events =
          (machine.cycles count).toStep.events ++ [event] := by
        rw [last, Run.toStep_push _ _ before, Step.events_andThen, announced.only]
      rw [events]
      apply (ih before fun done within => free done (Nat.lt_succ_of_lt within)).concat announced
      rw [next, last]
      rfl

variable (machine)

/-- A run of cycles that end well, none of them while a key is awaited, announces one event in each
cycle, and the event tells its word, its instruction and the machine just before. Replaying the events
without fetching reproduces the registers and the index that every later event tells, and in the end the
machine itself. Nothing but an instruction that has been decoded is announced, and this is announced
even if it fails. -/
theorem replay_cycles :
    (∀ count, (machine.cycles count).fault = none →
      (∀ done < count, (machine.cycles done).machine.cpu.awaiting = none) →
        let events := (machine.cycles count).toStep.events
        events.length = count ∧
          (∀ (place : Nat) event, events[place]? = some event →
            (machine.cycles place).machine.Announces event ∧
              (machine.replayAll (events.take place)).cpu.registers = event.registers ∧
                (machine.replayAll (events.take place)).cpu.index = event.index) ∧
            machine.replayAll events = (machine.cycles count).machine) ∧
      machine.AnnouncesRightly := by
  refine ⟨?_, machine.announcesRightly⟩
  intro count going free events
  have records := records_cycles count going free
  refine ⟨records.length, ?_, records.final⟩
  intro place event there
  obtain ⟨announced, reached⟩ := records.moments place event there
  rw [reached]
  exact ⟨announced, announced.registers.symm, announced.index.symm⟩

/-- A program that puts a word in front of itself and comes to it: replaying the events needs no look at
the memory, where the word was missing at the start. -/
theorem replay_cycles_of_rewritten_word :
    ∃ machine : Machine,
      machine.cpu.memory.bytes.get 0x20A = 0 ∧
        (∃ event, (machine.cycles 6).toStep.events[5]? = some event ∧
          (machine.cycles 5).machine.Announces event ∧ event.instruction = .setByte 2 7) ∧
          (machine.replayAll (machine.cycles 6).toStep.events).cpu.register 2 = 7 := by
  obtain ⟨machine, same⟩ : ∃ machine : Machine, machine = { fresh {} with
      cpu :=
        { Cpu.initial with
          memory := Memory.initial.place 0x200
            [0xA2, 0x0A, 0x60, 0x62, 0x61, 0x07, 0xF1, 0x55, 0x70, 0x01] } } := ⟨_, rfl⟩
  have facts : machine.cpu.memory.bytes.get 0x20A = 0 ∧ (machine.cycles 6).fault = none ∧
      (∀ done < 6, (machine.cycles done).machine.cpu.awaiting = none) ∧
        (machine.cycles 6).toStep.events[5]?.map TraceEvent.instruction = some (.setByte 2 7) ∧
          (machine.cycles 6).machine.cpu.register 2 = 7 := by
    subst same
    decide +kernel
  obtain ⟨missing, going, free, last, held⟩ := facts
  obtain ⟨event, there, instruction⟩ := Option.map_eq_some_iff.mp last
  obtain ⟨_one, moments, final⟩ := (replay_cycles machine).1 6 going free
  refine ⟨machine, missing, ⟨event, there, (moments 5 event there).1, instruction⟩, ?_⟩
  rw [final]
  exact held

end ChipEight.Machine
