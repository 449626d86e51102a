import ChipEight.Proofs.Machine.Components
import ChipEight.Proofs.Machine.Simulation

set_option autoImplicit false

/-!
Parts of a machine that few instructions look at.

A cycle whose instruction does not look at a part does the same whatever that part is
(`cycle_without`). So machines that agree on all but one part run alike until an instruction looks at it
(`cycles_alike_of_unread`, and `frames_alike` for frames).
-/

namespace ChipEight

inductive Part where
  | sound
  | delay
  | keypad
  | random
  | screen
  /-- How many cycles a frame runs. -/
  | pace
deriving DecidableEq

/-- Whether an instruction looks at a part. The sound timer and the pace are for the host only. -/
def Part.isReadBy : Part → Instruction → Bool
  | .delay, .readDelay _ => true
  | .keypad, .skipHeld _ => true
  | .keypad, .skipReleased _ => true
  | .keypad, .awaitKey _ => true
  | .random, .random _ _ => true
  | .screen, .draw _ _ _ => true
  | _, _ => false

/-- The machine with a part put into a fixed state, so that machines agree on everything but the part
if they are equal without it. -/
def Machine.without (machine : Machine) : Part → Machine
  | .sound => { machine with cpu := { machine.cpu with sound := 0 } }
  | .delay => { machine with cpu := { machine.cpu with delay := 0 } }
  | .keypad => { machine with keypad := .idle }
  | .random => { machine with random := .cyclic #[] }
  | .screen => { machine with screen := .blank }
  | .pace => { machine with config := { machine.config with cyclesPerFrame := 0 } }

@[inherit_doc Machine.without]
def Step.without (step : Step) (part : Part) : Step :=
  { step with machine := step.machine.without part }

theorem Step.without_eq_iff (left right : Step) (part : Part) :
    left.without part = right.without part ↔
      left.machine.without part = right.machine.without part ∧ left.fault = right.fault ∧
        left.notices = right.notices := by
  rw [without, without, Step.mk.injEq]

namespace Machine

variable (machine : Machine) (part : Part)

/-! ### Instructions -/

theorem keypad_without (other : part ≠ .keypad) :
    (machine.without part).keypad = machine.keypad := by
  cases part with
  | keypad => exact absurd rfl other
  | _ => rfl

theorem leave_without :
    (machine.without part).leave.without part = machine.leave.without part := by
  have sameStack : (machine.without part).cpu.stack = machine.cpu.stack := by cases part <;> rfl
  have samePolicy : (machine.without part).config.returnPolicy = machine.config.returnPolicy := by
    cases part <;> rfl
  unfold leave
  rw [sameStack, samePolicy]
  split
  · cases part <;> rfl
  · split
    · cases part <;> rfl
    · cases part <;> rfl

theorem load_without (count : Nat) :
    ((machine.without part).load count).without part = (machine.load count).without part := by
  have sameBytes : (machine.without part).cpu.memory.readRun
      (machine.without part).config.addressPolicy (machine.without part).cpu.index.toNat count =
        machine.cpu.memory.readRun machine.config.addressPolicy machine.cpu.index.toNat count := by
    cases part <;> rfl
  have sameRegisters : (machine.without part).cpu.registers = machine.cpu.registers := by
    cases part <;> rfl
  simp only [load, sameBytes]
  rw [Cpu.setRegisterRun_eq, Cpu.setRegisterRun_eq machine.cpu,
    Cpu.registers_setRegisterRun_congr sameRegisters]
  cases part <;> rfl

theorem awaitKey_without (x : UInt8) (other : part ≠ .keypad) :
    ((machine.without part).awaitKey x).without part = (machine.awaitKey x).without part := by
  unfold awaitKey
  rw [machine.keypad_without part other]
  split
  · cases part <;> rfl
  · cases part <;> rfl

theorem deliverKey_without (x : UInt8) (other : part ≠ .keypad) :
    ((machine.without part).deliverKey x).without part = (machine.deliverKey x).without part := by
  unfold deliverKey
  rw [machine.keypad_without part other]
  split
  · cases part <;> rfl
  · cases part <;> rfl

/-- An instruction that does not look at a part does the same to everything else, whatever the part
is. -/
theorem execute_without (instruction : Instruction)
    (unread : part.isReadBy instruction = false) :
    ((machine.without part).execute instruction).without part =
      (machine.execute instruction).without part := by
  cases instruction with
  | leave => exact machine.leave_without part
  | loadRegisters x => exact machine.load_without part _
  | awaitKey x =>
      apply machine.awaitKey_without part x
      rintro rfl
      cases unread
  | skipEqualByte x byte | skipUnequalByte x byte | skipEqual x y | skipUnequal x y =>
      simp only [execute, Cpu.skipIf_eq]
      cases part <;> rfl
  | skipHeld x | skipReleased x =>
      simp only [execute, Cpu.skipIf_eq]
      cases part with
      | keypad => cases unread
      | _ => rfl
  | readDelay x =>
      cases part with
      | delay => cases unread
      | _ => rfl
  | random x mask =>
      cases part with
      | random => cases unread
      | _ => rfl
  | draw x y rows =>
      cases part with
      | screen => cases unread
      | _ => rfl
  | _ => cases part <;> rfl

/-! ### Cycles -/

def next? (machine : Machine) : Option Instruction :=
  match machine.cpu.awaiting, machine.fetch with
  | none, .ok word => Instruction.ofWord? word
  | _, _ => none

theorem next?_eq (word : Word) (free : machine.cpu.awaiting = none)
    (fetched : machine.fetch = .ok word) : machine.next? = Instruction.ofWord? word := by
  simp only [next?, free, fetched]

theorem exists_fetch_of_next? (instruction : Instruction) (next : machine.next? = some instruction) :
    ∃ word, machine.cpu.awaiting = none ∧ machine.fetch = .ok word ∧
      Instruction.ofWord? word = some instruction := by
  unfold next? at next
  split at next
  · rename_i word free fetched
    exact ⟨word, free, fetched, next⟩
  · cases next

theorem exists_event_of_next? (instruction : Instruction)
    (next : machine.next? = some instruction) :
    ∃ event ∈ machine.cycle.events, event.instruction = instruction := by
  obtain ⟨word, free, fetched, known⟩ := machine.exists_fetch_of_next? instruction next
  rw [machine.cycle_of_known word instruction free fetched known, events_known]
  exact ⟨_, List.mem_singleton_self _, rfl⟩

theorem awaiting_without : (machine.without part).cpu.awaiting = machine.cpu.awaiting := by
  cases part <;> rfl

theorem fetch_without : (machine.without part).fetch = machine.fetch := by
  cases part <;> rfl

theorem next?_without : (machine.without part).next? = machine.next? := by
  rw [next?, awaiting_without, fetch_without, next?]

theorem perform_without (word : Word)
    (unread : ∀ instruction, Instruction.ofWord? word = some instruction →
      part.isReadBy instruction = false) :
    ((machine.without part).perform word).without part =
      (machine.perform word).without part := by
  cases decoded : Instruction.ofWord? word with
  | none =>
      rw [perform_of_unknown _ word decoded, perform_of_unknown _ word decoded]
      cases part <;> rfl
  | some instruction =>
      have sameAdvanced : (machine.without part).advanced = machine.advanced.without part := by
        cases part <;> rfl
      have sameEvent : (machine.without part).eventOf word instruction =
          machine.eventOf word instruction := by
        cases part <;> rfl
      rw [perform_of_known _ word instruction decoded, perform_of_known _ word instruction decoded,
        sameAdvanced, sameEvent]
      exact congrArg (Step.announcing (.executing (machine.eventOf word instruction)))
        (machine.advanced.execute_without part instruction (unread instruction decoded))

/-- A cycle that does not look at a part does the same to everything else, whatever the part is. -/
theorem cycle_without
    (unread : ∀ instruction, machine.next? = some instruction → part.isReadBy instruction = false)
    (idle : part = .keypad → machine.cpu.awaiting = none) :
    (machine.without part).cycle.without part = machine.cycle.without part := by
  have sameAwaiting := machine.awaiting_without part
  have sameFetch := machine.fetch_without part
  cases waits : machine.cpu.awaiting with
  | some x =>
      have other : part ≠ .keypad := by
        intro same
        rw [idle same] at waits
        cases waits
      rw [cycle_of_awaiting _ x waits,
        cycle_of_awaiting (machine.without part) x (sameAwaiting.trans waits)]
      exact machine.deliverKey_without part x other
  | none =>
      have free := sameAwaiting.trans waits
      cases found : machine.fetch with
      | error fault =>
          rw [cycle_of_fetch_error _ fault waits found,
            cycle_of_fetch_error (machine.without part) fault free (sameFetch.trans found)]
          cases part <;> rfl
      | ok word =>
          rw [machine.next?_eq word waits found] at unread
          rw [cycle_of_fetch_ok _ word waits found,
            cycle_of_fetch_ok (machine.without part) word free (sameFetch.trans found)]
          exact machine.perform_without part word unread

/-- A free machine that carries out no wait for a key stays free. -/
theorem awaiting_cycle_of_unread (free : machine.cpu.awaiting = none)
    (unread : ∀ instruction, machine.next? = some instruction →
      Part.keypad.isReadBy instruction = false) :
    machine.cycle.machine.cpu.awaiting = none := by
  have course := machine.course_cycle
  generalize machine.cycle = step at course ⊢
  cases course with
  | waiting x waits => exact absurd (free.symm.trans waits).symm (Option.some_ne_none x)
  | unfetched _fault _free _failed => exact free
  | unknown _word _free _fetched _unknown => exact free
  | known word instruction _free fetched known =>
      have looksAway := unread instruction ((machine.next?_eq word free fetched).trans known)
      have advancedFree : machine.advanced.cpu.awaiting = none := free
      simp only [Step.announcing, awaiting_execute, advancedFree]
      cases instruction with
      | awaitKey x => cases looksAway
      | _ => rfl

/-! ### Frames -/

theorem cyclesPerFrame_without (paced : part ≠ .pace) :
    (machine.without part).config.cyclesPerFrame = machine.config.cyclesPerFrame := by
  cases part with
  | pace => exact absurd rfl paced
  | _ => rfl

theorem advanceTimers_without :
    ({ machine.without part with cpu := (machine.without part).cpu.advanceTimers } :
      Machine).without part =
        ({ machine with cpu := machine.cpu.advanceTimers } : Machine).without part := by
  cases part <;> rfl

end Machine

/-! ### Runs side by side -/

/-- Machines that agree on all but a part, up to the first instruction that looks at it. -/
def isolation (part : Part) : Simulation where
  machines left right :=
    left.without part = right.without part ∧ (part = .keypad → left.cpu.awaiting = none)
  faults := Eq
  notices := Eq
  excusedFault _ := False
  excusedNotice notice :=
    ∃ event, notice.event? = some event ∧ part.isReadBy event.instruction = true

theorem excuses_isolation_iff (part : Part) (step : Step) :
    (isolation part).Excuses step ↔
      ∃ event ∈ step.events, part.isReadBy event.instruction = true := by
  simp only [Simulation.Excuses, isolation, and_false, exists_false, false_or, Step.events,
    List.mem_filterMap]
  constructor
  · rintro ⟨notice, given, event, announced, reads⟩
    exact ⟨event, ⟨notice, given, announced⟩, reads⟩
  · rintro ⟨event, ⟨notice, given, announced⟩, reads⟩
    exact ⟨notice, given, event, announced, reads⟩

theorem cycle_isolation (part : Part) (left right : Machine)
    (related : (isolation part).machines left right)
    (unexcused : ¬ (isolation part).Excuses left.cycle) :
    (isolation part).Matches left.cycle right.cycle := by
  obtain ⟨agree, idle⟩ := related
  have unread : ∀ instruction, left.next? = some instruction →
      part.isReadBy instruction = false := by
    intro instruction next
    obtain ⟨event, announced, rfl⟩ := left.exists_event_of_next? instruction next
    by_contra reads
    exact unexcused ((excuses_isolation_iff part _).mpr
      ⟨event, announced, Bool.not_eq_false _ ▸ reads⟩)
  have sameNext : right.next? = left.next? := by
    rw [← left.next?_without part, agree, right.next?_without]
  have sameAwaiting : right.cpu.awaiting = left.cpu.awaiting := by
    rw [← left.awaiting_without part, agree, right.awaiting_without]
  have same : left.cycle.without part = right.cycle.without part := by
    rw [← left.cycle_without part unread idle, agree]
    exact right.cycle_without part (sameNext ▸ unread) (sameAwaiting ▸ idle)
  obtain ⟨machines, faults, notices⟩ := (Step.without_eq_iff _ _ part).mp same
  rw [(isolation part).matches_iff_of_eq rfl rfl]
  refine ⟨⟨machines, ?_⟩, faults, notices⟩
  rintro rfl
  exact left.awaiting_cycle_of_unread (idle rfl) unread

theorem lawful_isolation (part : Part) (paced : part ≠ .pace) : (isolation part).Lawful where
  cyclesPerFrame := by
    rintro left right ⟨agree, _idle⟩
    rw [← left.cyclesPerFrame_without part paced, agree, right.cyclesPerFrame_without part paced]
  timers := by
    rintro left right ⟨agree, idle⟩
    refine ⟨?_, idle⟩
    rw [← left.advanceTimers_without part, agree, right.advanceTimers_without part]
  cycle := cycle_isolation part

namespace Machine

/-- Machines that agree on all but a part run alike as long as no instruction looks at the part: the
runs end in the same way after the same number of cycles, give the same notices, and still agree on all
but the part. -/
theorem cycles_alike_of_unread (part : Part) (left right : Machine)
    (agree : left.without part = right.without part)
    (idle : part = .keypad → left.cpu.awaiting = none) (count : Nat)
    (unread : ∀ event ∈ (left.cycles count).toStep.events,
      part.isReadBy event.instruction = false) (done : Nat) (within : done ≤ count) :
    (right.cycles done).machine.without part = (left.cycles done).machine.without part ∧
      (right.cycles done).fault = (left.cycles done).fault ∧
        (right.cycles done).completed = (left.cycles done).completed ∧
          (right.cycles done).notices = (left.cycles done).notices := by
  have unexcused : ¬ (isolation part).Excuses (left.cycles done).toStep := by
    intro excused
    have whole : Run.extend cycle (count - done) (left.cycles done) = left.cycles count := by
      rw [cycles, ← Run.extend_add, Nat.add_sub_cancel' within]
      rfl
    have later := (isolation part).excuses_extend cycle (count - done) _ excused
    rw [whole, excuses_isolation_iff] at later
    obtain ⟨event, announced, reads⟩ := later
    rw [unread event announced] at reads
    cases reads
  obtain ⟨matched, completed⟩ :=
    (isolation part).matchesRun_extend cycle (cycle_isolation part) done _ _
      ((isolation part).matchesRun_start left right ⟨agree, idle⟩) unexcused
  obtain ⟨⟨machines, _idle⟩, faults, notices⟩ :=
    ((isolation part).matches_iff_of_eq rfl rfl _ _).mp matched
  exact ⟨machines.symm, faults.symm, completed.symm, (Array.toList_inj.mp notices).symm⟩

/-- One of two machines has a key pressed, and their program sets a timer, takes a random byte and draws
before it fails. -/
theorem cycles_alike_of_unread_with_pressed_key :
    ∃ left right : Machine, left.keypad ≠ right.keypad ∧
      left.without .keypad = right.without .keypad ∧
        (right.cycles 6).fault = some (.unknownOpcode 0xFFFF) ∧ (right.cycles 6).completed = 4 ∧
          (right.cycles 6).machine.without .keypad = (left.cycles 6).machine.without .keypad := by
  obtain ⟨left, same⟩ : ∃ left : Machine, left = { fresh {} with
      cpu :=
        { Cpu.initial with
          memory := Memory.initial.place 0x200
            [0x60, 0x05, 0xF0, 0x15, 0xC1, 0xFF, 0xD0, 0x15, 0xFF, 0xFF] } } := ⟨_, rfl⟩
  have facts : (∀ event ∈ (left.cycles 6).toStep.events,
      Part.keypad.isReadBy event.instruction = false) ∧
        (left.cycles 6).fault = some (.unknownOpcode 0xFFFF) ∧ (left.cycles 6).completed = 4 := by
    subst same
    decide +kernel
  obtain ⟨unread, fault, completed⟩ := facts
  have free : left.cpu.awaiting = none := by
    rw [same]
    rfl
  have idle : left.keypad ≠ left.keypad.press 5 := by
    rw [same]
    decide
  obtain ⟨machines, faults, counts, _notices⟩ :=
    cycles_alike_of_unread .keypad left { left with keypad := left.keypad.press 5 } rfl
      (fun _keypad => free) 6 unread 6 (Nat.le_refl 6)
  exact ⟨left, { left with keypad := left.keypad.press 5 }, idle, rfl, faults.trans fault,
    counts.trans completed, machines⟩

/-- What has been said of cycles goes for frames, which only need to be of the same length. -/
theorem frames_alike (part : Part) (paced : part ≠ .pace) (left right : Machine)
    (agree : left.without part = right.without part)
    (idle : part = .keypad → left.cpu.awaiting = none) (count : Nat)
    (unread : ∀ event ∈ (left.frames count).toStep.events,
      part.isReadBy event.instruction = false) :
    (right.frames count).machine.without part = (left.frames count).machine.without part ∧
      (right.frames count).fault = (left.frames count).fault ∧
        (right.frames count).completed = (left.frames count).completed := by
  have unexcused : ¬ (isolation part).Excuses (left.frames count).toStep := by
    rw [excuses_isolation_iff]
    rintro ⟨event, announced, reads⟩
    rw [unread event announced] at reads
    cases reads
  obtain ⟨matched, completed⟩ :=
    (isolation part).matchesRun_extend frame (lawful_isolation part paced).frame count _ _
      ((isolation part).matchesRun_start left right ⟨agree, idle⟩) unexcused
  obtain ⟨⟨machines, _idle⟩, faults, _notices⟩ :=
    ((isolation part).matches_iff_of_eq rfl rfl _ _).mp matched
  exact ⟨machines.symm, faults.symm, completed.symm⟩

end Machine

end ChipEight
