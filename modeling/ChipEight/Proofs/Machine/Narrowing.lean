import ChipEight.Proofs.Instruction.Codec
import ChipEight.Proofs.Keypad.WaitingRegister
import ChipEight.Proofs.Machine.Drawing
import ChipEight.Proofs.Memory.Runs

set_option autoImplicit false

/-!
Operands that are wider than their fields in a word.

An instruction built by hand may hold such operands. Most of the machine looks at as much of them as a
word can hold, so the instruction does what its word denotes. A row count, the range of a store or a
load, and a wait for a key are taken as they are, and what they come to is said by `Machine.DoesWide`.
-/

namespace ChipEight

/-! ### What wide operands do -/

/-- Draws so many rows, all of which lie on the screen. If one of them cannot be read, the rows before
it are drawn and the flag is cleared. -/
structure Machine.DrawsRows (machine : Machine) (x y count : UInt8) (step : Step) : Prop where
  fault : step.fault =
    machine.config.addressPolicy.runFault machine.cpu.index.toNat count.toNat
  pixels : ∀ column < 64, ∀ row < 32,
    step.machine.screen.pixel column row =
      (machine.screen.pixel column row ^^ machine.spriteBit x y count column row)
  collision : step.fault = none → machine.SpriteCollides x y count →
    step.machine.cpu.register 0xF = 1
  noCollision : step.fault ≠ none ∨ ¬ machine.SpriteCollides x y count →
    step.machine.cpu.register 0xF = 0
  registers : ∀ register : UInt8, register.toNat % 16 ≠ 15 →
    step.machine.cpu.register register = machine.cpu.register register
  rest : step.machine =
    { machine with
      screen := step.machine.screen
      cpu := { machine.cpu with registers := step.machine.cpu.registers } }

/-- Stores the registers up to an operand, after register fifteen register zero again, as far as the
policy finds a place for them. -/
structure Machine.StoresRound (machine : Machine) (x : UInt8) (step : Step) : Prop where
  fault : step.fault =
    machine.config.addressPolicy.runFault machine.cpu.index.toNat (x.toNat + 1)
  complete : step.fault = none → ∀ offset ≤ x.toNat,
    ∃ place, machine.config.addressPolicy.resolve (machine.cpu.index.toNat + offset) = .ok place
  stored : ∀ offset ≤ x.toNat, ∀ place,
    machine.config.addressPolicy.resolve (machine.cpu.index.toNat + offset) = .ok place →
      step.machine.cpu.memory.bytes.get place = machine.cpu.registers[offset % 16]
  untouched : ∀ place : Fin 4096,
    (∀ offset ≤ x.toNat,
      machine.config.addressPolicy.resolve (machine.cpu.index.toNat + offset) ≠ .ok place) →
        step.machine.cpu.memory.bytes.get place = machine.cpu.memory.bytes.get place
  rest : step.machine =
    { machine with cpu := { machine.cpu with memory := step.machine.cpu.memory } }

/-- Every register is left with the last byte for it of those up to an operand. -/
structure Machine.LoadsRound (machine : Machine) (x : UInt8) (after : Machine) : Prop where
  loaded : ∀ register, (bound : register < 16) →
    ∃ offset ≤ x.toNat, offset % 16 = register ∧
      (∀ other ≤ x.toNat, other % 16 = register → other ≤ offset) ∧
        machine.cpu.memory.read machine.config.addressPolicy
          (machine.cpu.index.toNat + offset) = .ok after.cpu.registers[register]
  rest : after = { machine with cpu := { machine.cpu with registers := after.cpu.registers } }

/-- The machine takes more of an operand than a word can hold. -/
def Machine.HeedsWidth (machine : Machine) : Instruction → Prop
  | .draw _ _ rows => 15 < rows.toNat
  | .storeRegisters x | .loadRegisters x => 15 < x.toNat
  | .awaitKey x => 15 < x.toNat ∧ machine.keypad.pending = none
  | _ => False

def Machine.DoesWide (machine : Machine) (step : Step) : Instruction → Prop
  | .draw x y rows =>
      ∃ count : UInt8, count.toNat = min rows.toNat (32 - (machine.cpu.register y).toNat) ∧
        machine.DrawsRows x y count step
  | .storeRegisters x => machine.StoresRound x step
  | .loadRegisters x =>
      step.fault = machine.config.addressPolicy.runFault machine.cpu.index.toNat (x.toNat + 1) ∧
        (step.fault = none → machine.LoadsRound x step.machine)
  | .awaitKey x => machine.WaitsFor x step
  | _ => False

/-! ### Operands of which the low bits count -/

theorem Cpu.target_mod (address : UInt16) : target (address % 4096) = target address := by
  apply UInt16.toNat_inj.mp
  simp only [target, UInt16.toNat_mod]
  exact Nat.mod_mod _ _

namespace Machine

variable (machine : Machine)

theorem awaitKey_mod (x : UInt8) (pressed : machine.keypad.pending ≠ none) :
    machine.awaitKey (x % 16) = machine.awaitKey x := by
  obtain ⟨key, pending⟩ := Option.ne_none_iff_exists'.mp pressed
  simp only [awaitKey, pending, Cpu.setRegister_mod]

/-- Where no operand is taken as wide as it is, an instruction does what its word denotes. -/
theorem execute_of_not_heedsWidth (instruction : Instruction)
    (heedless : ¬ machine.HeedsWidth instruction) :
    machine.execute instruction = machine.execute instruction.narrowed := by
  have cut : ∀ operand : UInt8, ¬ 15 < operand.toNat → operand % 16 = operand := by
    intro operand narrow
    exact Instruction.mod_eq_self (by omega)
  cases instruction with
  | draw x y rows =>
      simp only [Instruction.narrowed, execute, draw, cut rows heedless, Cpu.register_mod]
  | storeRegisters x => rw [Instruction.narrowed, cut x heedless]
  | loadRegisters x => rw [Instruction.narrowed, cut x heedless]
  | awaitKey x =>
      by_cases wide : 15 < x.toNat
      · exact (machine.awaitKey_mod x fun nothing => heedless ⟨wide, nothing⟩).symm
      · rw [Instruction.narrowed, cut x wide]
  | _ =>
      -- All that is left of an operand here is a register that it names or the target of a jump.
      simp only [Instruction.narrowed, execute, Cpu.jump, Cpu.jumpOffset, Cpu.call, Cpu.setIndex,
        Cpu.addIndex, Cpu.pointGlyph, Cpu.addByte, Cpu.add, Cpu.subtract, Cpu.subtractFrom,
        Cpu.shiftLeft, Cpu.shiftRight, Cpu.setFlagged, Cpu.register_mod, Cpu.setRegister_mod,
        Cpu.target_mod]

/-! ### Operands that are taken as wide as they are -/

/-- Rows below the bottom edge make no difference. -/
theorem draw_of_min_eq (x y rows count : UInt8)
    (same : min count.toNat (32 - (machine.cpu.register y).toNat) =
      min rows.toNat (32 - (machine.cpu.register y).toNat)) :
    machine.draw x y rows = machine.draw x y count := by
  simp only [draw, same]

theorem drawsRows_draw (x y count : UInt8)
    (onScreen : count.toNat ≤ 32 - (machine.cpu.register y).toNat) :
    machine.DrawsRows x y count (machine.draw x y count) := by
  constructor
  case fault => rw [fault_draw, Nat.min_eq_left onScreen]
  case pixels =>
    intro column columnBound row rowBound
    exact machine.pixel_draw x y count column row columnBound rowBound
  case collision =>
    intro unfailing collides
    rcases machine.flag_draw x y count unfailing with ⟨_collides, one⟩ | ⟨misses, _zero⟩
    · exact one
    · exact absurd collides misses
  case noCollision =>
    intro failsOrMisses
    cases ended : (machine.draw x y count).fault with
    | some fault => exact machine.flag_draw_of_fault x y count fault ended
    | none =>
        rcases machine.flag_draw x y count ended with ⟨collides, _one⟩ | ⟨_misses, zero⟩
        · exact absurd failsOrMisses (not_or.mpr ⟨not_not.mpr ended, not_not.mpr collides⟩)
        · exact zero
  case registers =>
    intro register other
    exact (Cpu.register_setRegister _ _ _ _).trans (if_neg other.symm)
  case rest => rfl

theorem exists_drawsRows (x y rows : UInt8) :
    ∃ count : UInt8, count.toNat = min rows.toNat (32 - (machine.cpu.register y).toNat) ∧
      machine.DrawsRows x y count (machine.draw x y rows) := by
  obtain ⟨count, few⟩ : ∃ count : UInt8,
      count.toNat = min rows.toNat (32 - (machine.cpu.register y).toNat) := by
    refine ⟨UInt8.ofNat (min rows.toNat (32 - (machine.cpu.register y).toNat)), ?_⟩
    rw [UInt8.toNat_ofNat']
    omega
  refine ⟨count, few, ?_⟩
  rw [machine.draw_of_min_eq x y rows count (by omega)]
  exact machine.drawsRows_draw x y count (by omega)

theorem storesRound_storeRegisters (x : UInt8) :
    machine.StoresRound x (machine.execute (.storeRegisters x)) := by
  have narrow := x.toNat_lt
  have length := machine.cpu.length_registerRun (x.toNat + 1)
  have fault : (machine.execute (.storeRegisters x)).fault =
      machine.config.addressPolicy.runFault machine.cpu.index.toNat (x.toNat + 1) := by
    rw [execute, fault_store, length]
  constructor
  case fault => exact fault
  case complete =>
    intro unfailing offset upTo
    exact ⟨_, resolve_of_runFault_eq_none _ _ _ offset (fault.symm.trans unfailing)
      (Nat.lt_succ_of_le upTo)⟩
  case stored =>
    intro offset upTo place resolved
    have inside : offset < (machine.cpu.registerRun (x.toNat + 1)).length := by omega
    have written := machine.cpu.memory.getElem_writeRun_of_resolve _ _ _ (by omega) offset inside
      place resolved
    rw [Cpu.getElem_registerRun] at written
    simp only [Cpu.register, Cpu.toNat_ofNat_mod] at written
    exact written
  case untouched =>
    intro place elsewhere
    apply machine.cpu.memory.getElem_writeRun_of_unresolved _ _ _ (by omega) place
    intro offset inside
    exact elsewhere offset (by omega)
  case rest => rfl

theorem loadsRound_loadRegisters (x : UInt8) (wide : 15 < x.toNat)
    (unfailing : (machine.execute (.loadRegisters x)).fault = none) :
    machine.LoadsRound x (machine.execute (.loadRegisters x)).machine := by
  have safe := (machine.fault_load (x.toNat + 1)).symm.trans unfailing
  have length := machine.cpu.memory.length_readRun_of_safe _ _ _ safe
  constructor
  case loaded =>
    intro register bound
    -- So wide a run comes to every register, and the last byte for one is that which stays.
    obtain ⟨offset, upTo, named, last⟩ :=
      Cpu.exists_last_offset (x.toNat + 1) register (by omega) bound
    have inside := length.symm ▸ upTo
    refine ⟨offset, by omega, named, fun other otherUpTo => last other (by omega), ?_⟩
    rw [machine.cpu.memory.read_eq_getElem_readRun _ _ _ offset inside, Except.ok.injEq, execute, load]
    exact (machine.cpu.getElem_setRegisterRun_of_last 0 _ register bound offset inside
      (by omega) fun other otherInside same => last other (by omega) (by omega)).symm
  case rest =>
    simp only [execute, load]
    rw [Cpu.setRegisterRun_eq]

theorem doesWide_execute (instruction : Instruction) (heeds : machine.HeedsWidth instruction) :
    machine.DoesWide (machine.execute instruction) instruction := by
  cases instruction with
  | draw x y rows => exact machine.exists_drawsRows x y rows
  | storeRegisters x => exact machine.storesRound_storeRegisters x
  | loadRegisters x =>
      exact ⟨machine.fault_load (x.toNat + 1), machine.loadsRound_loadRegisters x heeds⟩
  | awaitKey x => exact machine.waitsFor_awaitKey x heeds.2
  | _ => exact heeds.elim

/-- The word of an instruction denotes it with its operands cut to their fields, calls into host code
aside that share the word of another. Cutting them makes no difference to what the machine does, unless
the machine takes one of them as wide as it is. -/
theorem execute_narrowed (instruction : Instruction) :
    (¬ instruction.Shadowed →
      Instruction.decode instruction.encode = .ok instruction.narrowed) ∧
      (¬ machine.HeedsWidth instruction →
        machine.execute instruction = machine.execute instruction.narrowed) ∧
        (machine.HeedsWidth instruction →
          machine.DoesWide (machine.execute instruction) instruction) := by
  refine ⟨?_, machine.execute_of_not_heedsWidth instruction, machine.doesWide_execute instruction⟩
  intro plain
  rw [Instruction.decode_eq_ok_iff]
  exact Instruction.ofWord?_encode instruction plain

/-- Wide operands at the end of memory, with the first bit of every byte set. The word of the drawing
denotes the first two rows of its sprite only. -/
theorem execute_narrowed_around_end :
    ∃ machine : Machine, machine.cpu.index = 0xFFE ∧ machine.cpu.register 1 = 20 ∧
      Instruction.decode (Instruction.encode (.setByte 0x2A 7)) = .ok (.setByte 0xA 7) ∧
        machine.execute (.setByte 0x2A 7) = machine.execute (.setByte 0xA 7) ∧
          (∃ count : UInt8, count.toNat = 12 ∧
            machine.DrawsRows 0 0x21 count (machine.execute (.draw 0 0x21 18))) ∧
            (machine.execute (.draw 0 0x21 18)).machine.screen ≠
                (machine.execute (.draw 0 1 2)).machine.screen ∧
              machine.StoresRound 0x13 (machine.execute (.storeRegisters 0x13)) ∧
                machine.LoadsRound 0x13 (machine.execute (.loadRegisters 0x13)).machine ∧
                  machine.WaitsFor 0x13 (machine.execute (.awaitKey 0x13)) := by
  let machine : Machine := { fresh { addressPolicy := .wrap } with
    cpu :=
      { Cpu.initial.setRegister 1 20 with
        index := 0xFFE
        memory := ⟨.replicate 4096 0x80⟩ } }
  obtain ⟨denoted, narrowed, _wide⟩ := machine.execute_narrowed (.setByte 0x2A 7)
  obtain ⟨_denoted, _narrowed, drawn⟩ := machine.execute_narrowed (.draw 0 0x21 18)
  obtain ⟨_denoted, _narrowed, stored⟩ := machine.execute_narrowed (.storeRegisters 0x13)
  obtain ⟨_denoted, _narrowed, loaded⟩ := machine.execute_narrowed (.loadRegisters 0x13)
  obtain ⟨_denoted, _narrowed, waiting⟩ := machine.execute_narrowed (.awaitKey 0x13)
  have lit : (machine.execute (.draw 0 0x21 18)).machine.screen.pixel 0 22 ≠
      (machine.execute (.draw 0 1 2)).machine.screen.pixel 0 22 := by
    rw [execute, execute, pixel_draw _ _ _ _ _ _ (by decide) (by decide),
      pixel_draw _ _ _ _ _ _ (by decide) (by decide)]
    decide +kernel
  have tall : 15 < (18 : UInt8).toNat := by decide
  have wide : 15 < (0x13 : UInt8).toNat := by decide
  exact ⟨machine, rfl, rfl, denoted not_false, narrowed not_false, drawn tall,
    fun same => lit (congrArg (fun screen => screen.pixel 0 22) same), stored wide,
    (loaded wide).2 ((loaded wide).1.trans (AddressPolicy.runFault_wrap _ _)), waiting ⟨wide, rfl⟩⟩

end Machine

end ChipEight
