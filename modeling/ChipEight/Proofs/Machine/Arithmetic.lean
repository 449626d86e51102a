import ChipEight.Machine.Execution
import ChipEight.Proofs.Cpu.Registers

set_option autoImplicit false

/-!
Arithmetic that sets the flag.

An arithmetic instruction computes a byte and a flag from the values of its registers as they were before.
The flag is written first, so where the result goes to the flag register the flag is lost
(`flag_setFlagged`); whichever registers the operands name, nothing else changes (`computed_execute`).
-/

namespace ChipEight

/-- The operations that set the flag by what they compute. -/
inductive Arithmetic where
  | add
  | subtract
  | subtractFrom
  | shiftRight
  | shiftLeft
deriving DecidableEq

namespace Arithmetic

/-- The instruction of an operation on two registers; a shift has no use for the second. -/
def instruction : Arithmetic → UInt8 → UInt8 → Instruction
  | .add, x, y => .add x y
  | .subtract, x, y => .subtract x y
  | .subtractFrom, x, y => .subtractFrom x y
  | .shiftRight, x, _ => .shiftRight x
  | .shiftLeft, x, _ => .shiftLeft x

def result : Arithmetic → Int → Int → Int
  | .add, a, b => (a + b) % 256
  | .subtract, a, b => (a - b) % 256
  | .subtractFrom, a, b => (b - a) % 256
  | .shiftRight, a, _ => a / 2
  | .shiftLeft, a, _ => 2 * a % 256

def Flags : Arithmetic → Int → Int → Prop
  | .add, a, b => 255 < a + b
  | .subtract, a, b => b < a
  | .subtractFrom, a, b => a < b
  | .shiftRight, a, _ => a % 2 = 1
  | .shiftLeft, a, _ => 128 ≤ a

instance (operation : Arithmetic) (a b : Int) : Decidable (operation.Flags a b) :=
  match operation with
  | .add => inferInstanceAs (Decidable (255 < a + b))
  | .subtract => inferInstanceAs (Decidable (b < a))
  | .subtractFrom => inferInstanceAs (Decidable (a < b))
  | .shiftRight => inferInstanceAs (Decidable (a % 2 = 1))
  | .shiftLeft => inferInstanceAs (Decidable (128 ≤ a))

end Arithmetic

structure Arithmetic.Computed (operation : Arithmetic) (machine : Machine) (x y : UInt8)
    (step : Step) : Prop where
  unfailing : step.fault = none
  result : ((step.machine.cpu.register x).toNat : Int) =
    operation.result (machine.cpu.register x).toNat (machine.cpu.register y).toNat
  flag : x.toNat % 16 ≠ 15 → step.machine.cpu.register 0xF =
    if operation.Flags (machine.cpu.register x).toNat (machine.cpu.register y).toNat then 1 else 0
  flagLost : x.toNat % 16 = 15 → ((step.machine.cpu.register 0xF).toNat : Int) =
    operation.result (machine.cpu.register x).toNat (machine.cpu.register y).toNat
  others : ∀ number : Fin 16, (number : Nat) ≠ x.toNat % 16 → (number : Nat) ≠ 15 →
    step.machine.cpu.registers[number] = machine.cpu.registers[number]
  rest : step.machine =
    { machine with cpu := { machine.cpu with registers := step.machine.cpu.registers } }

namespace Machine

variable (machine : Machine)

/-- The byte and the flag that an arithmetic instruction computes. -/
theorem exists_setFlagged (operation : Arithmetic) (x y : UInt8) :
    ∃ flag value,
      machine.execute (operation.instruction x y) =
        .ofCpu machine (machine.cpu.setFlagged flag x value) ∧
        (value.toNat : Int) =
          operation.result (machine.cpu.register x).toNat (machine.cpu.register y).toNat ∧
          (flag = true ↔
            operation.Flags (machine.cpu.register x).toNat (machine.cpu.register y).toNat) := by
  have a := (machine.cpu.register x).toNat_lt
  have b := (machine.cpu.register y).toNat_lt
  cases operation with
  | add =>
      refine ⟨_, _, rfl, ?_, ?_⟩
      · rw [UInt8.toNat_add, Arithmetic.result]
        omega
      · rw [decide_eq_true_eq, Arithmetic.Flags]
        omega
  | subtract =>
      refine ⟨_, _, rfl, ?_, ?_⟩
      · rw [UInt8.toNat_sub, Arithmetic.result]
        omega
      · rw [decide_eq_true_eq, Arithmetic.Flags, UInt8.lt_iff_toNat_lt]
        omega
  | subtractFrom =>
      refine ⟨_, _, rfl, ?_, ?_⟩
      · rw [UInt8.toNat_sub, Arithmetic.result]
        omega
      · rw [decide_eq_true_eq, Arithmetic.Flags, UInt8.lt_iff_toNat_lt]
        omega
  | shiftRight =>
      refine ⟨_, _, rfl, ?_, ?_⟩
      · rw [UInt8.toNat_div, Arithmetic.result]
        rfl
      · rw [decide_eq_true_eq, Arithmetic.Flags]
        omega
  | shiftLeft =>
      refine ⟨_, _, rfl, ?_, ?_⟩
      · rw [UInt8.toNat_add, Arithmetic.result]
        omega
      · rw [decide_eq_true_eq, Arithmetic.Flags]
        omega

/-- Arithmetic leaves its result in the first register and its flag in the flag register, where the result
comes last; both are those of the registers before, and nothing else changes. -/
theorem computed_execute (operation : Arithmetic) (x y : UInt8) :
    operation.Computed machine x y (machine.execute (operation.instruction x y)) := by
  obtain ⟨flag, value, executed, result, flags⟩ := machine.exists_setFlagged operation x y
  have target := machine.cpu.register_setFlagged flag x value
  have flagRegister := machine.cpu.flag_setFlagged flag x value
  rw [executed]
  exact {
    unfailing := rfl
    result := (congrArg (fun byte : UInt8 => (byte.toNat : Int)) target).trans result
    flag := by
      intro other
      refine flagRegister.trans ?_
      simp only [if_neg other, flags]
    flagLost := by
      intro same
      rw [if_pos same] at flagRegister
      exact (congrArg (fun byte : UInt8 => (byte.toNat : Int)) flagRegister).trans result
    others := by
      intro number notTarget notFlag
      apply Cpu.getElem_setFlagged_of_ne
      rintro (same | same)
      · exact notTarget same.symm
      · exact notFlag same
    rest := rfl }

end Machine

end ChipEight
