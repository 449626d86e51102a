import ChipEight.Machine.Host
import ChipEight.Proofs.Checked.Execution
import ChipEight.Proofs.Machine.Steps

set_option autoImplicit false

/-!
Sessions under check.

A machine is loaded with an image, and its host then does what it likes: it runs cycles and frames, has
instructions with operands of any size carried out, works the keypad, and flips and reads pixels anywhere.
Nothing of this meets a trap (`boot_and_session_without_trap`). That one action meets none is shown for every
machine, reachable or not, so that the action before it does not matter.
-/

namespace ChipEight.Checked

def fetch (machine : Machine) : Except Trap (Except Fault Word) := do
  let counter := machine.cpu.counter.toNat
  match ← read machine.cpu.memory machine.config.addressPolicy counter with
  | .error fault => return .error fault
  | .ok high =>
      match ← read machine.cpu.memory machine.config.addressPolicy (← sum 64 counter 1) with
      | .error fault => return .error fault
      | .ok low => return .ok (← wordOfBytes high low)

def deliverKey (machine : Machine) (x : UInt8) : Except Trap Step := do
  match machine.keypad.pending with
  | some key =>
      return {
        machine :=
          { machine with
            cpu := { (← setRegister machine.cpu x key) with awaiting := none }
            keypad := machine.keypad.taken }
        notices := [.keyReceived x key] }
  | none => return { machine }

def perform (machine : Machine) (word : Word) : Except Trap Step := do
  match ← decode word with
  | .error fault => return { machine := machine.advanced, fault := some fault }
  | .ok instruction =>
      return (← execute machine.advanced instruction).announcing
        (.executing (machine.eventOf word instruction))

def cycle (machine : Machine) : Except Trap Step := do
  match machine.cpu.awaiting with
  | some x => deliverKey machine x
  | none =>
      match ← fetch machine with
      | .error fault => return { machine, fault := some fault }
      | .ok word => perform machine word

def extend (step : Machine → Except Trap Step) : Nat → Run → Except Trap Run
  | 0, run => return run
  | count + 1, run => do
      match run.fault with
      | some _ => return run
      | none => extend step count (run.push (← step run.machine))

def frame (machine : Machine) : Except Trap Step := do
  let counted := { machine with cpu := machine.cpu.advanceTimers }
  return (← extend cycle machine.config.cyclesPerFrame { machine := counted }).toStep

/-- Does one action. What a host does to the keypad needs no check: keys that do not exist are ignored. -/
def act (machine : Machine) : Action → Except Trap Step
  | .cycle => cycle machine
  | .frame => frame machine
  | .execute instruction => execute machine instruction
  | .flip x y => do
      return { machine := { machine with
        screen := (← flip (Drawing.start machine.screen) x y).screen } }
  | action => return machine.act action

def session (machine : Machine) : List Action → Except Trap (List Step)
  | [] => return []
  | action :: rest => do
      let step ← act machine action
      return step :: (← session step.machine rest)

def boot (config : Config) (image : List UInt8) (keypad : Keypad) (random : RandomSource) :
    Except Trap (Except Fault Machine) := do
  match ← withImage (← initialCpu) image with
  | .error fault => return .error fault
  | .ok cpu => return .ok { cpu, screen := .blank, keypad, random, config }

/-! ### Steps -/

theorem fetch_eq (machine : Machine) : fetch machine = .ok machine.fetch := by
  have bound := machine.cpu.counter.toNat_lt
  rw [fetch, read_eq, ok_bind, Machine.fetch, sum_of_lt (by omega)]
  cases machine.cpu.memory.read machine.config.addressPolicy machine.cpu.counter.toNat with
  | error fault => rfl
  | ok high =>
      simp only [ok_bind, read_eq]
      cases machine.cpu.memory.read machine.config.addressPolicy (machine.cpu.counter.toNat + 1) with
      | error fault => rfl
      | ok low =>
          simp only [wordOfBytes_eq, ok_bind]
          rfl

theorem deliverKey_eq (machine : Machine) (x : UInt8) :
    deliverKey machine x = .ok (machine.deliverKey x) := by
  rw [deliverKey, Machine.deliverKey]
  cases machine.keypad.pending with
  | none => rfl
  | some key =>
      simp only [setRegister_eq, ok_bind]
      rfl

theorem perform_eq (machine : Machine) (word : Word) :
    perform machine word = .ok (machine.perform word) := by
  rw [perform, decode_eq, ok_bind, Machine.perform]
  cases Instruction.decode word with
  | error fault => rfl
  | ok instruction =>
      simp only [execute_eq, ok_bind]
      rfl

theorem cycle_eq (machine : Machine) : cycle machine = .ok machine.cycle := by
  rw [cycle, Machine.cycle]
  cases machine.cpu.awaiting with
  | some x => exact deliverKey_eq machine x
  | none =>
      simp only [fetch_eq, ok_bind]
      cases machine.fetch with
      | error fault => rfl
      | ok word => exact perform_eq machine word

/-! ### Runs -/

theorem extend_eq (count : Nat) (run : Run) :
    extend cycle count run = .ok (run.extend Machine.cycle count) := by
  induction count generalizing run with
  | zero => rfl
  | succ count ih =>
      rw [extend, Run.extend]
      cases run.fault with
      | some fault => rfl
      | none =>
          simp only [cycle_eq, ok_bind]
          exact ih _

theorem frame_eq (machine : Machine) : frame machine = .ok machine.frame := by
  rw [frame, extend_eq]
  rfl

theorem act_eq (machine : Machine) (action : Action) :
    act machine action = .ok (machine.act action) := by
  cases action with
  | cycle => exact cycle_eq machine
  | frame => exact frame_eq machine
  | execute instruction => exact execute_eq machine instruction
  | flip x y =>
      rw [act, flip_eq]
      rfl
  | press key => rfl
  | release key => rfl
  | takeKey => rfl
  | clearScreen => rfl

theorem session_eq (machine : Machine) (actions : List Action) :
    session machine actions = .ok (machine.session actions) := by
  induction actions generalizing machine with
  | nil => rfl
  | cons action rest ih =>
      simp only [session, act_eq, ok_bind, ih]
      rfl

theorem boot_eq (config : Config) (image : List UInt8) (keypad : Keypad) (random : RandomSource) :
    boot config image keypad random = .ok (Machine.boot config image keypad random) := by
  rw [boot, initialCpu_eq, ok_bind, withImage_eq, ok_bind, Machine.boot]
  cases Cpu.initial.withImage image with
  | error fault => rfl
  | ok cpu => rfl

/-- No image, no machine and no host makes an index leave its array or a number its width: all comes out as
without checks, and so do the pixels that the host reads. An address stands for a place below `1000` or for
none. A loop over the registers up to one counts through them all, and completes a turn for each if no fault
ends it. -/
theorem boot_and_session_without_trap (config : Config) (image : List UInt8) (keypad : Keypad)
    (random : RandomSource) (machine : Machine) (actions : List Action) (x : UInt8) :
    boot config image keypad random = .ok (Machine.boot config image keypad random) ∧
      session machine actions = .ok (machine.session actions) ∧
        (∀ screen column row, pixel screen column row = .ok (screen.pixel column row)) ∧
          (∀ policy address place, locate policy address = .ok place → place < 4096) ∧
            countThrough 0 x = .ok ((List.range' 0 (x.toNat + 1)).map UInt8.ofNat) ∧
              Completes (x.toNat + 1) (storeRegisters machine x) ∧
                Completes (x.toNat + 1) (loadRegisters machine x) := by
  refine ⟨boot_eq config image keypad random, session_eq machine actions, pixel_eq, lt_of_locate,
    countThrough_zero x, ?_, ?_⟩
  · exact completes_storeRegisters machine x
  · exact completes_loadRegisters machine x

/-- The widest store and the widest sprite from the highest index, and the highest coordinates. -/
theorem boot_and_session_without_trap_at_limits :
    let machine : Machine := { Machine.fresh { addressPolicy := .wrap } with
      cpu := { Cpu.initial with index := 0xFFFF } }
    let actions : List Action :=
      [.execute (.storeRegisters 255), .execute (.draw 0 0 255), .frame,
        .flip 18446744073709551615 18446744073709551615]
    session machine actions = .ok (machine.session actions) ∧
      locate .wrap (0xFFFF + 255) = .ok 254 ∧ 254 < 4096 ∧
        ∃ loop, storeRegisters machine 255 = .ok loop ∧ loop.fault = none ∧ loop.completed = 256 := by
  intro machine actions
  obtain ⟨_boots, runs, _pixels, places, _counts, ⟨loop, stores, _upTo, all⟩, _loads⟩ :=
    boot_and_session_without_trap {} [] .idle (.cyclic #[]) machine actions 255
  have located : locate .wrap (0xFFFF + 255) = .ok 254 := rfl
  have unfailing : loop.fault = none := by
    rw [storeRegisters_eq] at stores
    rw [← Except.ok.inj stores]
    exact Memory.writeRun_fault machine.cpu.memory .wrap _ _
  exact ⟨runs, located, places _ _ _ located, loop, stores, unfailing, all.mpr unfailing⟩

end ChipEight.Checked
