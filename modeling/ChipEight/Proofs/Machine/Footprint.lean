import ChipEight.Proofs.Fault.Conditions
import ChipEight.Proofs.Instruction.Codec
import ChipEight.Proofs.Machine.Components

set_option autoImplicit false

/-!
What an instruction leaves alone, and where the program goes on behind it.

`Component.isChangedBy` lists for each component of a machine the instructions that may change it.
Every other instruction keeps it, also one that fails halfway (`sameAt_execute`). The counter follows
one law (`nextCounter`): past the word, past the next one too for a skip, or to where a jump, a call or
a return leads.
-/

namespace ChipEight

inductive Component where
  | screen
  | stack
  | memory
  | delay
  | sound
  | random
  | held
  | pending
  | awaiting
  | index
  | counter
  | register (number : Fin 16)
  | config
deriving DecidableEq

def Instruction.writes (number : Nat) : Instruction → Bool
  | .setByte x _ | .addByte x _ | .copy x _ | .disjoin x _ | .conjoin x _ | .exclude x _
  | .random x _ | .readDelay x | .awaitKey x => decide (x.toNat % 16 = number)
  | .add x _ | .subtract x _ | .shiftRight x | .subtractFrom x _ | .shiftLeft x =>
      decide (x.toNat % 16 = number ∨ number = 15)
  | .draw _ _ _ => decide (number = 15)
  | .loadRegisters x => decide (number ≤ min x.toNat 15)
  | _ => false

def Component.isChangedBy : Component → Instruction → Bool
  | .screen, .clear | .screen, .draw _ _ _ => true
  | .stack, .call _ | .stack, .leave => true
  | .memory, .storeDecimal _ | .memory, .storeRegisters _ => true
  | .delay, .setDelay _ => true
  | .sound, .setSound _ => true
  | .random, .random _ _ => true
  | .pending, .awaitKey _ | .awaiting, .awaitKey _ => true
  | .index, .setIndex _ | .index, .addIndex _ | .index, .pointGlyph _ => true
  | .counter, .leave | .counter, .jump _ | .counter, .call _ | .counter, .jumpOffset _ => true
  | .counter, .skipEqualByte _ _ | .counter, .skipUnequalByte _ _ | .counter, .skipEqual _ _
  | .counter, .skipUnequal _ _ | .counter, .skipHeld _ | .counter, .skipReleased _ => true
  | .register number, instruction => instruction.writes number
  | _, _ => false

def Machine.SameAt (before after : Machine) : Component → Prop
  | .screen => after.screen = before.screen
  | .stack => after.cpu.stack = before.cpu.stack
  | .memory => after.cpu.memory = before.cpu.memory
  | .delay => after.cpu.delay = before.cpu.delay
  | .sound => after.cpu.sound = before.cpu.sound
  | .random => after.random = before.random
  | .held => after.keypad.held = before.keypad.held
  | .pending => after.keypad.pending = before.keypad.pending
  | .awaiting => after.cpu.awaiting = before.cpu.awaiting
  | .index => after.cpu.index = before.cpu.index
  | .counter => after.cpu.counter = before.cpu.counter
  | .register number => after.cpu.registers[number] = before.cpu.registers[number]
  | .config => after.config = before.config

/-- The components are all that there is to a machine. -/
theorem Machine.eq_of_sameAt (before after : Machine)
    (same : ∀ component, before.SameAt after component) : after = before := by
  have registers : after.cpu.registers = before.cpu.registers :=
    Vector.ext fun number bound => same (.register ⟨number, bound⟩)
  have cpu : after.cpu = before.cpu := by
    rw [Cpu.mk.injEq]
    exact ⟨registers, same .index, same .counter, same .stack, same .delay, same .sound,
      same .memory, same .awaiting⟩
  have keypad : after.keypad = before.keypad := by
    rw [Keypad.mk.injEq]
    exact ⟨same .held, same .pending⟩
  rw [Machine.mk.injEq]
  exact ⟨cpu, same .screen, keypad, same .random, same .config⟩

namespace Cpu

theorem target_eq_self (address : UInt16) (small : address.toNat < 4096) :
    target address = address := by
  apply UInt16.toNat_inj.mp
  have value : (target address).toNat = address.toNat % 4096 := UInt16.toNat_mod _ _
  rw [value, Nat.mod_eq_of_lt small]

end Cpu

namespace Machine

variable (machine : Machine) (instruction : Instruction)

/-! ### Components that an instruction keeps -/

theorem getElem_load_of_lt (count : Nat) (number : Fin 16) (behind : count ≤ number) :
    (machine.load count).machine.cpu.registers[number] = machine.cpu.registers[number] := by
  have short : (machine.cpu.memory.readRun machine.config.addressPolicy
      machine.cpu.index.toNat count).1.length ≤ count := by
    rw [Memory.readRun_eq, List.length_map, List.length_range]
    cases machine.config.addressPolicy with
    | wrap => exact Nat.le_refl count
    | strict => exact Nat.min_le_left _ _
  have bound := number.isLt
  simp only [load, Fin.getElem_fin]
  rw [Cpu.getElem_setRegisterRun _ _ _ (by omega) _ bound, dif_neg (by omega)]

theorem register_execute (number : Fin 16) (unwritten : instruction.writes number = false) :
    (machine.execute instruction).machine.cpu.registers[number] =
      machine.cpu.registers[number] := by
  have bound := number.isLt
  cases instruction with
  | leave => rw [execute, machine_leave]
  | skipEqualByte x byte | skipUnequalByte x byte | skipEqual x y | skipUnequal x y | skipHeld x
  | skipReleased x => rw [execute, Cpu.skipIf_eq]; rfl
  | setByte x _ | addByte x _ | copy x _ | disjoin x _ | conjoin x _ | exclude x _ | random x _
  | readDelay x => exact Cpu.getElem_setRegister_of_ne _ _ _ _ bound (of_decide_eq_false unwritten)
  | awaitKey x =>
      rw [execute, awaitKey]
      split
      · exact Cpu.getElem_setRegister_of_ne _ _ _ _ bound (of_decide_eq_false unwritten)
      · rfl
  | add x _ | subtract x _ | shiftRight x | subtractFrom x _ | shiftLeft x =>
      exact Cpu.getElem_setFlagged_of_ne _ _ _ _ _ bound (of_decide_eq_false unwritten)
  | draw x y rows => exact Cpu.getElem_setFlag_of_ne _ _ _ bound (of_decide_eq_false unwritten)
  | loadRegisters x =>
      have behind := of_decide_eq_false unwritten
      exact machine.getElem_load_of_lt _ number (by omega)
  | _ => rfl

/-- A component that an instruction cannot change is the same after it, whether it fails or not. -/
theorem sameAt_execute (component : Component)
    (kept : component.isChangedBy instruction = false) :
    machine.SameAt (machine.execute instruction).machine component := by
  have effects := machine.effects_execute instruction
  cases component with
  | screen =>
      rw [SameAt, effects.screen]
      cases instruction with
      | clear | draw _ _ _ => cases kept
      | _ => rfl
  | stack =>
      rw [SameAt, stack_execute]
      cases instruction with
      | call _ | leave => cases kept
      | _ => rfl
  | memory =>
      rw [SameAt, memory_execute]
      cases instruction with
      | storeDecimal _ | storeRegisters _ => cases kept
      | _ => rfl
  | delay =>
      rw [SameAt, effects.delay]
      cases instruction with
      | setDelay _ => cases kept
      | _ => rfl
  | sound =>
      rw [SameAt, effects.sound]
      cases instruction with
      | setSound _ => cases kept
      | _ => rfl
  | random =>
      rw [SameAt, effects.random]
      cases instruction with
      | random _ _ => cases kept
      | _ => rfl
  | held =>
      rw [SameAt, keypad_execute]
      cases instruction <;> rfl
  | pending =>
      rw [SameAt, keypad_execute]
      cases instruction with
      | awaitKey _ => cases kept
      | _ => rfl
  | awaiting =>
      rw [SameAt, awaiting_execute]
      cases instruction with
      | awaitKey _ => cases kept
      | _ => rfl
  | index =>
      rw [SameAt, effects.index]
      cases instruction with
      | setIndex _ | addIndex _ | pointGlyph _ => cases kept
      | _ => rfl
  | counter =>
      rw [SameAt, counter_execute]
      cases instruction with
      | leave | jump _ | call _ | jumpOffset _ => cases kept
      | skipEqualByte _ _ | skipUnequalByte _ _ | skipEqual _ _ | skipUnequal _ _ | skipHeld _
      | skipReleased _ => cases kept
      | _ => rfl
  | register number => exact machine.register_execute instruction number kept
  | config => exact machine.config_execute instruction

/-! ### The counter -/

/-- The address at which a program goes on behind an instruction at the counter. -/
def nextCounter (machine : Machine) : Instruction → UInt16
  | .jump address | .call address => address
  | .jumpOffset address => address + (machine.cpu.register 0).toUInt16
  | .leave => machine.cpu.stack.headD (machine.cpu.counter + 2)
  | instruction =>
      if machine.skips instruction then machine.cpu.counter + 4 else machine.cpu.counter + 2

theorem counter_execute_advanced (narrow : instruction.InRange) :
    (machine.advanced.execute instruction).machine.cpu.counter =
      machine.nextCounter instruction := by
  have past : machine.advanced.cpu.counter + 2 = machine.cpu.counter + 4 :=
    UInt16.add_assoc machine.cpu.counter 2 2
  rw [counter_execute, past]
  cases instruction with
  | jump address | call address => exact Cpu.target_eq_self address narrow
  | jumpOffset address =>
      exact congrArg (fun start => start + (machine.cpu.register 0).toUInt16)
        (Cpu.target_eq_self address narrow)
  | _ => rfl

theorem counter_cycle (free : machine.cpu.awaiting = none) (unfailing : machine.cycle.fault = none) :
    ∃ word instruction, machine.fetch = .ok word ∧ Instruction.decode word = .ok instruction ∧
      instruction.InRange ∧
        machine.cycle.machine.cpu.counter = machine.nextCounter instruction := by
  have course := machine.course_cycle
  generalize machine.cycle = step at unfailing course ⊢
  cases course with
  | waiting x waits =>
      rw [free] at waits
      cases waits
  | unfetched _fault _free _failed => cases unfailing
  | unknown _word _free _fetched _unknown => cases unfailing
  | known word instruction _free fetched known =>
      have narrow := Instruction.inRange_of_ofWord? word instruction known
      exact ⟨word, instruction, fetched, (Instruction.decode_eq_ok_iff word instruction).mpr known,
        narrow, machine.counter_execute_advanced instruction narrow⟩

/-- An instruction, also one that fails, changes no component but those listed for it, and takes exactly
one word from the random source if it takes any. After a cycle that does not fail, the counter is where
its instruction leads, whose address has twelve bits if it has one. -/
theorem footprint_and_nextCounter :
    (∀ component : Component, component.isChangedBy instruction = false →
        machine.SameAt (machine.execute instruction).machine component) ∧
      (∀ x mask, instruction = .random x mask →
        (machine.execute instruction).machine.random.word = machine.random.word ∧
          (machine.execute instruction).machine.random.drawn = machine.random.drawn + 1) ∧
        (machine.cpu.awaiting = none → machine.cycle.fault = none →
          ∃ word next, machine.fetch = .ok word ∧ Instruction.decode word = .ok next ∧
            next.InRange ∧ machine.cycle.machine.cpu.counter = machine.nextCounter next) := by
  refine ⟨machine.sameAt_execute instruction, ?_, machine.counter_cycle⟩
  rintro x mask rfl
  exact ⟨rfl, rfl⟩

/-- A load that stops at the end of memory, and a jump as far as the counter can get. -/
theorem footprint_and_nextCounter_of_failing_load :
    ∃ machine : Machine,
      (machine.execute (.loadRegisters 3)).fault = some (.addressOutOfRange 0x1000) ∧
        machine.SameAt (machine.execute (.loadRegisters 3)).machine (.register 4) ∧
          machine.cycle.machine.cpu.counter = 0x10FE := by
  obtain ⟨machine, same⟩ : ∃ machine : Machine, machine = { fresh {} with
      cpu :=
        { Cpu.initial.setRegister 0 0xFF with
          index := 0xFFF
          memory := Memory.initial.place 0x200 [0xBF, 0xFF] } } := ⟨_, rfl⟩
  have facts : machine.cpu.awaiting = none ∧ machine.cpu.counter.toNat < 4095 ∧
      machine.wordAtCounter = 0xBFFF ∧ machine.cycle.fault = none ∧
        machine.nextCounter (.jumpOffset 0xFFF) = 0x10FE ∧
          (machine.execute (.loadRegisters 3)).fault = some (.addressOutOfRange 0x1000) := by
    subst same
    decide +kernel
  obtain ⟨free, inside, word, unfailing, target, failed⟩ := facts
  obtain ⟨keeps, _random, follows⟩ := footprint_and_nextCounter machine (.loadRegisters 3)
  obtain ⟨found, next, fetched, decoded, _narrow, counter⟩ := follows free unfailing
  rw [machine.fetch_eq_ok fun _strict => inside, word] at fetched
  cases fetched
  cases decoded
  exact ⟨machine, failed, keeps (.register 4) (by decide), counter.trans target⟩

end Machine

end ChipEight
