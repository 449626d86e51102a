import ChipEight.Machine.Execution
import ChipEight.Proofs.Checked.Drawing
import ChipEight.Proofs.Checked.Transfers

set_option autoImplicit false

/-!
Instructions under check.

Whatever the counter, the index, the registers and the operands, an instruction meets no trap, and does what
it does without checks (`execute_eq`).
-/

namespace ChipEight.Checked

/-- What a machine comes to behind the rows; a loop that has failed leaves the flag alone. -/
def drawStep (machine : Machine) (loop : Loop Drawing) : Except Trap Step := do
  let drawn := { machine with screen := loop.state.screen }
  match loop.fault with
  | some fault => return { machine := drawn, fault := some fault }
  | none => return .ofCpu drawn (← setFlag machine.cpu loop.state.collided)

/-- Draws a sprite. The flag is cleared before the first row, and set behind the last. -/
def draw (machine : Machine) (x y rows : UInt8) : Except Trap Step := do
  let column ← register machine.cpu x
  let line ← register machine.cpu y
  let cleared := { machine with cpu := ← setFlag machine.cpu false }
  drawStep cleared (← drawRows cleared column line rows)

def awaitKey (machine : Machine) (x : UInt8) : Except Trap Step := do
  match machine.keypad.pending with
  | some key =>
      return { machine := { machine with
        cpu := ← setRegister machine.cpu x key, keypad := machine.keypad.taken } }
  | none =>
      return { machine := { machine with cpu := { machine.cpu with awaiting := some x } }
               notices := [.keyAwaited x] }

def combine (cpu : Cpu) (x y : UInt8) (operation : UInt8 → UInt8 → UInt8) : Except Trap Cpu := do
  let second ← register cpu y
  setRegister cpu x (operation (← register cpu x) second)

def pointGlyph (cpu : Cpu) (x : UInt8) : Except Trap Cpu := do
  let value ← register cpu x
  let offset ← product 16 5 (value.toNat &&& 0xF)
  return { cpu with index := UInt16.ofNat (← sum 16 Memory.fontStart offset) }

def storeStep (machine : Machine) (loop : Loop Memory) : Step where
  machine := { machine with cpu := { machine.cpu with memory := loop.state } }
  fault := loop.fault

def loadStep (machine : Machine) (loop : Loop Cpu) : Step where
  machine := { machine with cpu := loop.state }
  fault := loop.fault

def execute (machine : Machine) (instruction : Instruction) : Except Trap Step := do
  let cpu := machine.cpu
  match instruction with
  | .system _ => return { machine }
  | .clear => return { machine := { machine with screen := .blank } }
  | .leave => return machine.leave
  | .jump address => return .ofCpu machine (cpu.jump address)
  | .call address => return .ofCpu machine (cpu.call address)
  | .skipEqualByte x byte => return .ofCpu machine (cpu.skipIf ((← register cpu x) == byte))
  | .skipUnequalByte x byte => return .ofCpu machine (cpu.skipIf ((← register cpu x) != byte))
  | .skipEqual x y =>
      return .ofCpu machine (cpu.skipIf ((← register cpu x) == (← register cpu y)))
  | .setByte x byte => return .ofCpu machine (← setRegister cpu x byte)
  | .addByte x byte => return .ofCpu machine (← setRegister cpu x ((← register cpu x) + byte))
  | .copy x y => return .ofCpu machine (← setRegister cpu x (← register cpu y))
  | .disjoin x y => return .ofCpu machine (← combine cpu x y (· ||| ·))
  | .conjoin x y => return .ofCpu machine (← combine cpu x y (· &&& ·))
  | .exclude x y => return .ofCpu machine (← combine cpu x y (· ^^^ ·))
  | .add x y =>
      let first ← register cpu x
      let second ← register cpu y
      return .ofCpu machine
        (← setFlagged cpu (decide (255 < first.toNat + second.toNat)) x (first + second))
  | .subtract x y =>
      let first ← register cpu x
      let second ← register cpu y
      return .ofCpu machine (← setFlagged cpu (decide (second < first)) x (first - second))
  | .shiftRight x =>
      let value ← register cpu x
      let shifted ← shiftedRight 8 value.toNat 1
      return .ofCpu machine
        (← setFlagged cpu (decide (value.toNat % 2 = 1)) x (UInt8.ofNat shifted))
  | .subtractFrom x y =>
      let first ← register cpu x
      let second ← register cpu y
      return .ofCpu machine (← setFlagged cpu (decide (first < second)) x (second - first))
  | .shiftLeft x =>
      let value ← register cpu x
      let shifted ← shiftedLeft 8 value.toNat 1
      return .ofCpu machine
        (← setFlagged cpu (decide (128 ≤ value.toNat)) x (UInt8.ofNat shifted))
  | .skipUnequal x y =>
      return .ofCpu machine (cpu.skipIf ((← register cpu x) != (← register cpu y)))
  | .setIndex address => return .ofCpu machine (cpu.setIndex address)
  | .jumpOffset address =>
      return .ofCpu machine
        { cpu with counter := Cpu.target address + (← register cpu 0).toUInt16 }
  | .random x mask =>
      return { machine := { machine with
        cpu := ← setRegister cpu x (machine.random.byte &&& mask)
        random := machine.random.advance } }
  | .draw x y rows => draw machine x y rows
  | .skipHeld x =>
      return .ofCpu machine (cpu.skipIf (machine.keypad.isHeld (← register cpu x)))
  | .skipReleased x =>
      return .ofCpu machine (cpu.skipIf (!machine.keypad.isHeld (← register cpu x)))
  | .readDelay x => return .ofCpu machine (← setRegister cpu x cpu.delay)
  | .awaitKey x => awaitKey machine x
  | .setDelay x => return .ofCpu machine { cpu with delay := ← register cpu x }
  | .setSound x => return .ofCpu machine { cpu with sound := ← register cpu x }
  | .addIndex x =>
      return .ofCpu machine { cpu with index := cpu.index + (← register cpu x).toUInt16 }
  | .pointGlyph x => return .ofCpu machine (← pointGlyph cpu x)
  | .storeDecimal x => return storeStep machine (← storeDecimal machine x)
  | .storeRegisters x => return storeStep machine (← storeRegisters machine x)
  | .loadRegisters x => return loadStep machine (← loadRegisters machine x)

/-! ### Without a trap -/

theorem drawStep_eq (machine : Machine) (loop : Loop Drawing) :
    drawStep { machine with cpu := machine.cpu.setFlag false } loop =
      .ok
        { machine :=
            { machine with
              screen := loop.state.screen
              cpu := machine.cpu.setFlag (loop.state.collided && loop.fault.isNone) }
          fault := loop.fault } := by
  rcases loop with ⟨drawing, completed, fault⟩
  -- without a fault the flag is set a second time, over the zero
  cases fault with
  | some fault =>
      rw [Option.isNone_some, Bool.and_false]
      rfl
  | none =>
      simp only [drawStep, setFlag_eq, Cpu.setFlag_setFlag, ok_bind, Option.isNone_none, Bool.and_true]
      rfl

theorem draw_eq (machine : Machine) (x y rows : UInt8) :
    draw machine x y rows = .ok (machine.draw x y rows) := by
  rw [draw, register_eq, ok_bind, register_eq, ok_bind, setFlag_eq, ok_bind]
  dsimp only
  rw [drawRows_eq, ok_bind, drawStep_eq]
  rfl

theorem awaitKey_eq (machine : Machine) (x : UInt8) :
    awaitKey machine x = .ok (machine.awaitKey x) := by
  rw [awaitKey, Machine.awaitKey]
  cases machine.keypad.pending with
  | none => rfl
  | some key =>
      simp only [setRegister_eq, ok_bind]
      rfl

@[simp] theorem combine_eq (cpu : Cpu) (x y : UInt8) (operation : UInt8 → UInt8 → UInt8) :
    combine cpu x y operation =
      .ok (cpu.setRegister x (operation (cpu.register x) (cpu.register y))) := by
  rw [combine, register_eq, ok_bind, register_eq, ok_bind, setRegister_eq]

@[simp] theorem pointGlyph_eq (cpu : Cpu) (x : UInt8) :
    pointGlyph cpu x = .ok (cpu.pointGlyph x) := by
  have offset : 5 * ((cpu.register x).toNat % 16) < 2 ^ 16 := by omega
  have address : Memory.fontStart + 5 * ((cpu.register x).toNat % 16) < 2 ^ 16 := by
    simp only [Memory.fontStart]
    omega
  rw [pointGlyph, register_eq, ok_bind, and_15, product_of_lt offset, ok_bind, sum_of_lt address]
  rfl

theorem ofNat_shiftRight_one (value : UInt8) : UInt8.ofNat (value.toNat >>> 1) = value / 2 := by
  apply UInt8.toNat_inj.mp
  have bound := value.toNat_lt
  rw [UInt8.toNat_ofNat', UInt8.toNat_div, Nat.shiftRight_eq_div_pow]
  exact Nat.mod_eq_of_lt (by omega)

theorem ofNat_shiftLeft_one (value : UInt8) :
    UInt8.ofNat (value.toNat <<< 1 % 2 ^ 8) = value + value := by
  apply UInt8.toNat_inj.mp
  rw [UInt8.toNat_ofNat', UInt8.toNat_add, Nat.shiftLeft_eq]
  omega

/-- An instruction meets no trap, and does what it does without checks. -/
theorem execute_eq (machine : Machine) (instruction : Instruction) :
    execute machine instruction = .ok (machine.execute instruction) := by
  cases instruction with
  | shiftRight x =>
      simp only [execute, register_eq, ok_bind, shiftedRight_of_lt _ (show 1 < 8 by decide),
        setFlagged_eq, ofNat_shiftRight_one]
      rfl
  | shiftLeft x =>
      simp only [execute, register_eq, ok_bind, shiftedLeft_of_lt _ (show 1 < 8 by decide),
        setFlagged_eq, ofNat_shiftLeft_one]
      rfl
  | draw x y rows => exact draw_eq machine x y rows
  | awaitKey x => exact awaitKey_eq machine x
  | storeDecimal x =>
      simp only [execute, storeDecimal_eq, ok_bind]
      rfl
  | storeRegisters x =>
      simp only [execute, storeRegisters_eq, ok_bind]
      rfl
  | loadRegisters x =>
      simp only [execute, loadRegisters_eq, ok_bind]
      rfl
  | _ =>
      simp only [execute, register_eq, setRegister_eq, setFlagged_eq, combine_eq, pointGlyph_eq,
        ok_bind]
      rfl

end ChipEight.Checked
