import ChipEight.Proofs.Cpu.Registers
import ChipEight.Proofs.Machine.Histories

set_option autoImplicit false

/-!
What an instruction does to one part of the machine.

Memory changes by the bytes that an instruction stores, the stack by calls and returns, and the keypad
and the register that waits by waits for a key. A move that is no cycle and carries out no instruction
announces nothing and leaves memory and stack alone.
-/

namespace ChipEight

/-- The bytes that an instruction stores in memory, from the index on. -/
def Cpu.storedBytes (cpu : Cpu) : Instruction → List UInt8
  | .storeDecimal x => Cpu.decimalDigits (cpu.register x)
  | .storeRegisters x => cpu.registerRun (x.toNat + 1)
  | _ => []

theorem Cpu.skipIf_eq (cpu : Cpu) (condition : Bool) :
    cpu.skipIf condition =
      { cpu with counter := if condition then cpu.counter + 2 else cpu.counter } := by
  cases condition <;> rfl

theorem eventsOf_append (first second : List Moment) :
    eventsOf (first ++ second) = eventsOf first ++ eventsOf second :=
  List.flatMap_append

theorem eventsOf_singleton (moment : Moment) : eventsOf [moment] = moment.step.events :=
  List.flatMap_singleton _ _

namespace Machine

variable (machine : Machine) (instruction : Instruction)

/-- A return takes the address pushed last, if there is one, whatever else it does. -/
theorem machine_leave :
    machine.leave.machine =
      { machine with
        cpu :=
          { machine.cpu with
            counter := machine.cpu.stack.headD machine.cpu.counter
            stack := machine.cpu.stack.tail } } := by
  cases returns : machine.cpu.stack with
  | cons counter stack =>
      simp only [leave, returns]
      rfl
  | nil =>
      have same : machine.leave.machine = machine := by
        simp only [leave, returns]
        split <;> rfl
      rw [same, List.headD_nil, List.tail_nil, ← returns]

theorem memory_execute :
    (machine.execute instruction).machine.cpu.memory =
      (machine.cpu.memory.writeRun machine.config.addressPolicy machine.cpu.index.toNat
        (machine.cpu.storedBytes instruction)).1 := by
  cases instruction with
  | leave => rw [execute, machine_leave]; rfl
  | awaitKey x => rw [execute, awaitKey]; split <;> rfl
  | loadRegisters x => rw [execute, load, Cpu.setRegisterRun_eq]; rfl
  | skipEqualByte x byte | skipUnequalByte x byte | skipEqual x y | skipUnequal x y | skipHeld x
  | skipReleased x => rw [execute, Cpu.skipIf_eq]; rfl
  | _ => rfl

theorem stack_execute :
    (machine.execute instruction).machine.cpu.stack =
      match instruction with
      | .call _ => machine.cpu.counter :: machine.cpu.stack
      | .leave => machine.cpu.stack.tail
      | _ => machine.cpu.stack := by
  cases instruction with
  | leave => rw [execute, machine_leave]
  | awaitKey x => rw [execute, awaitKey]; split <;> rfl
  | loadRegisters x => rw [execute, load, Cpu.setRegisterRun_eq]
  | skipEqualByte x byte | skipUnequalByte x byte | skipEqual x y | skipUnequal x y | skipHeld x
  | skipReleased x => rw [execute, Cpu.skipIf_eq]; rfl
  | _ => rfl

theorem keypad_execute :
    (machine.execute instruction).machine.keypad =
      match instruction with
      | .awaitKey _ => machine.keypad.taken
      | _ => machine.keypad := by
  cases instruction with
  | leave => rw [execute, machine_leave]
  | awaitKey x =>
      rw [execute, awaitKey]
      split
      · rfl
      · rename_i idle
        rw [Keypad.taken, ← idle]
  | _ => rfl

theorem awaiting_execute :
    (machine.execute instruction).machine.cpu.awaiting =
      match instruction with
      | .awaitKey x => if machine.keypad.pending.isNone then some x else machine.cpu.awaiting
      | _ => machine.cpu.awaiting := by
  cases instruction with
  | leave => rw [execute, machine_leave]
  | awaitKey x => rw [execute, awaitKey]; split <;> simp_all [Cpu.setRegister]
  | loadRegisters x => rw [execute, load, Cpu.setRegisterRun_eq]
  | skipEqualByte x byte | skipUnequalByte x byte | skipEqual x y | skipUnequal x y | skipHeld x
  | skipReleased x => rw [execute, Cpu.skipIf_eq]; rfl
  | _ => rfl

def skips (machine : Machine) : Instruction → Bool
  | .skipEqualByte x byte => machine.cpu.register x == byte
  | .skipUnequalByte x byte => machine.cpu.register x != byte
  | .skipEqual x y => machine.cpu.register x == machine.cpu.register y
  | .skipUnequal x y => machine.cpu.register x != machine.cpu.register y
  | .skipHeld x => machine.keypad.isHeld (machine.cpu.register x)
  | .skipReleased x => !machine.keypad.isHeld (machine.cpu.register x)
  | _ => false

theorem counter_execute :
    (machine.execute instruction).machine.cpu.counter =
      match instruction with
      | .leave => machine.cpu.stack.headD machine.cpu.counter
      | .jump address | .call address => Cpu.target address
      | .jumpOffset address => Cpu.target address + (machine.cpu.register 0).toUInt16
      | _ =>
          if machine.skips instruction then machine.cpu.counter + 2 else machine.cpu.counter := by
  cases instruction with
  | leave => rw [execute, machine_leave]
  | awaitKey x => rw [execute, awaitKey]; split <;> rfl
  | loadRegisters x => rw [execute, load, Cpu.setRegisterRun_eq]; rfl
  | skipEqualByte x byte | skipUnequalByte x byte | skipEqual x y | skipUnequal x y | skipHeld x
  | skipReleased x => rw [execute, Cpu.skipIf_eq]; rfl
  | _ => rfl

structure Effects (before : Machine) (instruction : Instruction) (after : Machine) : Prop where
  index : after.cpu.index =
    match instruction with
    | .setIndex address => Cpu.target address
    | .addIndex x => before.cpu.index + (before.cpu.register x).toUInt16
    | .pointGlyph x => UInt16.ofNat (Memory.fontStart + 5 * ((before.cpu.register x).toNat % 16))
    | _ => before.cpu.index
  delay : after.cpu.delay =
    match instruction with
    | .setDelay x => before.cpu.register x
    | _ => before.cpu.delay
  sound : after.cpu.sound =
    match instruction with
    | .setSound x => before.cpu.register x
    | _ => before.cpu.sound
  random : after.random =
    match instruction with
    | .random _ _ => before.random.advance
    | _ => before.random
  screen : after.screen =
    match instruction with
    | .clear => .blank
    | .draw x y rows => (before.draw x y rows).machine.screen
    | _ => before.screen

theorem effects_execute : machine.Effects instruction (machine.execute instruction).machine := by
  cases instruction with
  | leave =>
      rw [execute, machine_leave]
      exact ⟨rfl, rfl, rfl, rfl, rfl⟩
  | awaitKey x =>
      rw [execute, awaitKey]
      split
      · exact ⟨rfl, rfl, rfl, rfl, rfl⟩
      · exact ⟨rfl, rfl, rfl, rfl, rfl⟩
  | loadRegisters x =>
      rw [execute, load, Cpu.setRegisterRun_eq]
      exact ⟨rfl, rfl, rfl, rfl, rfl⟩
  | skipEqualByte x byte | skipUnequalByte x byte | skipEqual x y | skipUnequal x y | skipHeld x
  | skipReleased x =>
      rw [execute, Cpu.skipIf_eq]
      exact ⟨rfl, rfl, rfl, rfl, rfl⟩
  | _ => exact ⟨rfl, rfl, rfl, rfl, rfl⟩

/-- Instructions are announced by cycles, not by themselves. -/
theorem events_execute : (machine.execute instruction).events = [] := by
  cases instruction with
  | leave =>
      rw [execute, leave]
      split
      · rfl
      · split <;> rfl
  | awaitKey x => rw [execute, awaitKey]; split <;> rfl
  | _ => rfl

theorem events_announcing (notice : Notice) (step : Step) :
    (step.announcing notice).events = notice.event?.toList ++ step.events := by
  cases notice <;> rfl

theorem events_known (word : Word) :
    ((machine.advanced.execute instruction).announcing
      (.executing (machine.eventOf word instruction))).events =
        [machine.eventOf word instruction] := by
  rw [events_announcing, events_execute]
  rfl

theorem events_deliverKey (x : UInt8) : (machine.deliverKey x).events = [] := by
  unfold deliverKey
  split <;> rfl

theorem config_move (move : Move) : (machine.move move).machine.config = machine.config := by
  cases move with
  | cycle => exact machine.config_cycle
  | execute instruction => exact machine.config_execute instruction
  | _ => rfl

end Machine

end ChipEight
