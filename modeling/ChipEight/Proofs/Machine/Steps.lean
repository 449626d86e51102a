import ChipEight.Machine.Execution
import ChipEight.Proofs.Memory.Runs

set_option autoImplicit false

/-!
The parts of a step: the word that a fetch finds, the fault of an access to memory, and the
configuration, which no step changes.
-/

namespace ChipEight.Machine

def fresh (config : Config) : Machine where
  cpu := .initial
  screen := .blank
  keypad := .idle
  random := .cyclic #[]
  config

/-! ### Fetching -/

/-- The word at the counter, both addresses taken modulo the size of memory. -/
def wordAtCounter (machine : Machine) : Word :=
  .ofBytes (machine.cpu.memory.byteAt machine.cpu.counter.toNat)
    (machine.cpu.memory.byteAt (machine.cpu.counter.toNat + 1))

def advanced (machine : Machine) : Machine :=
  { machine with cpu := machine.cpu.advance }

theorem fetch_eq_ok (machine : Machine)
    (inside : machine.config.addressPolicy = .strict → machine.cpu.counter.toNat < 4095) :
    machine.fetch = .ok machine.wordAtCounter := by
  have high := machine.cpu.memory.read_eq_ok machine.config.addressPolicy
    machine.cpu.counter.toNat (fun strict => Nat.lt_succ_of_lt (inside strict))
  have low := machine.cpu.memory.read_eq_ok machine.config.addressPolicy
    (machine.cpu.counter.toNat + 1) (fun strict => Nat.succ_lt_succ (inside strict))
  simp only [fetch, high, low]
  rfl

theorem fetch_eq_error (machine : Machine) (strict : machine.config.addressPolicy = .strict)
    (outside : 4095 ≤ machine.cpu.counter.toNat) :
    machine.fetch = .error (.addressOutOfRange (max machine.cpu.counter.toNat 4096)) := by
  by_cases atEnd : machine.cpu.counter.toNat = 4095
  · have high := machine.cpu.memory.read_eq_ok .strict 4095 (fun _ => by decide)
    have low := machine.cpu.memory.read_eq_error 4096 (Nat.le_refl 4096)
    simp only [fetch, strict, atEnd, high, low]
    rfl
  · have beyond : 4096 ≤ machine.cpu.counter.toNat := by omega
    have high := machine.cpu.memory.read_eq_error machine.cpu.counter.toNat beyond
    simp only [fetch, strict, high, Nat.max_eq_left beyond]
    rfl

/-- A fetch fails in one case only, and otherwise gives the word at the counter. -/
theorem fetch_eq_ok_iff (machine : Machine) (word : Word) :
    machine.fetch = .ok word ↔
      ¬ (machine.config.addressPolicy = .strict ∧ 4095 ≤ machine.cpu.counter.toNat) ∧
        word = machine.wordAtCounter := by
  by_cases leaves : machine.config.addressPolicy = .strict ∧ 4095 ≤ machine.cpu.counter.toNat
  · rw [machine.fetch_eq_error leaves.1 leaves.2]
    simp [leaves]
  · rw [machine.fetch_eq_ok (fun strict => by
      have bound : ¬ 4095 ≤ machine.cpu.counter.toNat := fun outside => leaves ⟨strict, outside⟩
      omega)]
    rw [and_iff_right leaves, Except.ok.injEq, eq_comm]

/-! ### The cases of a cycle -/

theorem cycle_of_awaiting (machine : Machine) (x : UInt8)
    (waits : machine.cpu.awaiting = some x) : machine.cycle = machine.deliverKey x := by
  simp only [cycle, waits]

theorem cycle_of_fetch_error (machine : Machine) (fault : Fault)
    (free : machine.cpu.awaiting = none) (failed : machine.fetch = .error fault) :
    machine.cycle = { machine, fault := some fault } := by
  simp only [cycle, free, failed]

theorem cycle_of_fetch_ok (machine : Machine) (word : Word)
    (free : machine.cpu.awaiting = none) (fetched : machine.fetch = .ok word) :
    machine.cycle = machine.perform word := by
  simp only [cycle, free, fetched]

def eventOf (machine : Machine) (word : Word) (instruction : Instruction) : TraceEvent where
  counter := machine.cpu.counter
  word
  instruction
  registers := machine.cpu.registers
  index := machine.cpu.index

theorem perform_of_unknown (machine : Machine) (word : Word)
    (unknown : Instruction.ofWord? word = none) :
    machine.perform word = { machine := machine.advanced, fault := some (.unknownOpcode word) } := by
  simp only [perform, Instruction.decode, unknown]
  rfl

theorem perform_of_known (machine : Machine) (word : Word) (instruction : Instruction)
    (known : Instruction.ofWord? word = some instruction) :
    machine.perform word =
      (machine.advanced.execute instruction).announcing
        (.executing (machine.eventOf word instruction)) := by
  simp only [perform, Instruction.decode, known]
  rfl

theorem cycle_of_known (machine : Machine) (word : Word) (instruction : Instruction)
    (free : machine.cpu.awaiting = none) (fetched : machine.fetch = .ok word)
    (known : Instruction.ofWord? word = some instruction) :
    machine.cycle =
      (machine.advanced.execute instruction).announcing
        (.executing (machine.eventOf word instruction)) := by
  rw [machine.cycle_of_fetch_ok word free fetched, machine.perform_of_known word instruction known]

inductive Course (machine : Machine) : Step → Prop
  | waiting (x : UInt8) (waits : machine.cpu.awaiting = some x) :
      Course machine (machine.deliverKey x)
  | unfetched (fault : Fault) (free : machine.cpu.awaiting = none)
      (failed : machine.fetch = .error fault) : Course machine { machine, fault := some fault }
  | unknown (word : Word) (free : machine.cpu.awaiting = none)
      (fetched : machine.fetch = .ok word) (unknown : Instruction.ofWord? word = none) :
      Course machine { machine := machine.advanced, fault := some (.unknownOpcode word) }
  | known (word : Word) (instruction : Instruction) (free : machine.cpu.awaiting = none)
      (fetched : machine.fetch = .ok word)
      (known : Instruction.ofWord? word = some instruction) :
      Course machine
        ((machine.advanced.execute instruction).announcing
          (.executing (machine.eventOf word instruction)))

theorem course_cycle (machine : Machine) : machine.Course machine.cycle := by
  cases waits : machine.cpu.awaiting with
  | some x =>
      rw [machine.cycle_of_awaiting x waits]
      exact Course.waiting x waits
  | none =>
      cases found : machine.fetch with
      | error fault =>
          rw [machine.cycle_of_fetch_error fault waits found]
          exact Course.unfetched fault waits found
      | ok word =>
          rw [machine.cycle_of_fetch_ok word waits found]
          cases decoded : Instruction.ofWord? word with
          | none =>
              rw [machine.perform_of_unknown word decoded]
              exact Course.unknown word waits found decoded
          | some instruction =>
              rw [machine.perform_of_known word instruction decoded]
              exact Course.known word instruction waits found decoded

/-! ### The fault of an access to memory -/

theorem fault_store (machine : Machine) (bytes : List UInt8) :
    (machine.store bytes).fault =
      machine.config.addressPolicy.runFault machine.cpu.index.toNat bytes.length :=
  Memory.writeRun_fault _ _ _ _

theorem fault_load (machine : Machine) (count : Nat) :
    (machine.load count).fault =
      machine.config.addressPolicy.runFault machine.cpu.index.toNat count := by
  simp only [load, Memory.readRun_eq]

theorem fault_draw (machine : Machine) (x y rows : UInt8) :
    (machine.draw x y rows).fault =
      machine.config.addressPolicy.runFault machine.cpu.index.toNat
        (min rows.toNat (32 - (machine.cpu.register y).toNat)) := by
  simp only [draw, Memory.readRun_eq]

/-! ### The configuration -/

theorem config_leave (machine : Machine) : machine.leave.machine.config = machine.config := by
  unfold leave
  split
  · rfl
  · split <;> rfl

theorem config_awaitKey (machine : Machine) (x : UInt8) :
    (machine.awaitKey x).machine.config = machine.config := by
  unfold awaitKey
  split <;> rfl

theorem config_execute (machine : Machine) (instruction : Instruction) :
    (machine.execute instruction).machine.config = machine.config := by
  cases instruction with
  | leave => exact machine.config_leave
  | awaitKey x => exact machine.config_awaitKey x
  | _ => rfl

theorem config_deliverKey (machine : Machine) (x : UInt8) :
    (machine.deliverKey x).machine.config = machine.config := by
  unfold deliverKey
  split <;> rfl

theorem config_cycle (machine : Machine) : machine.cycle.machine.config = machine.config := by
  have course := machine.course_cycle
  generalize machine.cycle = step at course ⊢
  cases course with
  | waiting x _waits => exact machine.config_deliverKey x
  | unfetched _fault _free _failed => rfl
  | unknown _word _free _fetched _unknown => rfl
  | known _word instruction _free _fetched _known =>
      exact machine.advanced.config_execute instruction

end ChipEight.Machine
