import ChipEight.Proofs.Machine.Drawing
import ChipEight.Proofs.Machine.Histories
import Mathlib.Data.List.Count

set_option autoImplicit false

/-!
Drawings one after the other.

A drawing changes screen and flag only, and neither decides what it paints unless its place is read from
the flag. So each pixel changes by the number of drawings that cover it, whatever their order, and the
same drawing done twice leaves the screen as it was.
-/

namespace ChipEight

/-- A drawing whose place is not read from the flag. -/
def Instruction.DrawsAside : Instruction → Prop
  | .draw x y _ => x.toNat % 16 ≠ 15 ∧ y.toNat % 16 ≠ 15
  | _ => False

namespace Machine

def drawnOver (machine : Machine) (screen : Screen) (flag : UInt8) : Machine :=
  { machine with screen, cpu := machine.cpu.setRegister 0xF flag }

/-- Whether an instruction, if it draws, paints a pixel. -/
def covers (machine : Machine) (column row : Nat) : Instruction → Bool
  | .draw x y rows => machine.spriteBit x y rows column row
  | _ => false

def coversOddly (machine : Machine) (column row : Nat) (draws : List Instruction) : Bool :=
  decide (draws.countP (machine.covers column row) % 2 = 1)

variable (machine : Machine)

/-! ### One drawing over others -/

theorem drawnOver_self : machine.drawnOver machine.screen (machine.cpu.register 0xF) = machine := by
  rw [drawnOver, Cpu.setRegister_register]

theorem register_drawnOver (screen : Screen) (flag x : UInt8) (aside : x.toNat % 16 ≠ 15) :
    (machine.drawnOver screen flag).cpu.register x = machine.cpu.register x := by
  rw [drawnOver, Cpu.register_setRegister, if_neg fun same => aside same.symm]

theorem spriteBit_drawnOver (screen : Screen) (flag x y rows : UInt8)
    (aside : x.toNat % 16 ≠ 15 ∧ y.toNat % 16 ≠ 15) (column row : Nat) :
    (machine.drawnOver screen flag).spriteBit x y rows column row =
      machine.spriteBit x y rows column row := by
  rw [spriteBit, register_drawnOver _ _ _ _ aside.1, register_drawnOver _ _ _ _ aside.2, spriteBit]
  rfl

theorem fault_execute_drawnOver (screen : Screen) (flag : UInt8) (instruction : Instruction)
    (aside : instruction.DrawsAside) :
    ((machine.drawnOver screen flag).execute instruction).fault =
      (machine.execute instruction).fault := by
  cases instruction with
  | draw x y rows =>
      rw [execute, execute, fault_draw, fault_draw, register_drawnOver _ _ _ _ aside.2]
      rfl
  | _ => exact aside.elim

theorem drawnOver_drawnOver (screen newScreen : Screen) (flag newFlag : UInt8) :
    (machine.drawnOver screen flag).drawnOver newScreen newFlag =
      machine.drawnOver newScreen newFlag := by
  simp only [drawnOver, Cpu.setRegister, Vector.set_set]

theorem machine_draw (x y rows : UInt8) :
    ∃ flag, (machine.draw x y rows).machine =
      machine.drawnOver (machine.draw x y rows).machine.screen flag :=
  ⟨_, rfl⟩

/-- A drawing over others paints the same pixels. -/
theorem execute_drawnOver (screen : Screen) (flag : UInt8) (instruction : Instruction)
    (aside : instruction.DrawsAside) :
    ∃ newScreen newFlag,
      ((machine.drawnOver screen flag).execute instruction).machine =
          machine.drawnOver newScreen newFlag ∧
        ∀ column < 64, ∀ row < 32,
          newScreen.pixel column row =
            (screen.pixel column row ^^ machine.covers column row instruction) := by
  cases instruction with
  | draw x y rows =>
      obtain ⟨newFlag, same⟩ := (machine.drawnOver screen flag).machine_draw x y rows
      rw [drawnOver_drawnOver] at same
      refine ⟨_, newFlag, same, ?_⟩
      intro column columnBound row rowBound
      rw [pixel_draw _ _ _ _ _ _ columnBound rowBound,
        spriteBit_drawnOver _ _ _ _ _ _ aside]
      rfl
  | _ => exact aside.elim

/-! ### Many drawings -/

theorem coversOddly_nil (column row : Nat) : machine.coversOddly column row [] = false := rfl

theorem coversOddly_cons (column row : Nat) (first : Instruction) (rest : List Instruction) :
    machine.coversOddly column row (first :: rest) =
      (machine.covers column row first ^^ machine.coversOddly column row rest) := by
  unfold coversOddly
  rw [List.countP_cons]
  cases machine.covers column row first with
  | false => simp only [Bool.false_eq_true, if_false, Nat.add_zero, Bool.false_xor]
  | true =>
      rw [if_pos rfl, Bool.true_xor, ← decide_not, decide_eq_decide]
      omega

theorem coversOddly_perm (column row : Nat) {draws others : List Instruction}
    (perm : draws.Perm others) :
    machine.coversOddly column row draws = machine.coversOddly column row others := by
  rw [coversOddly, perm.countP_eq, coversOddly]

theorem afterSession_drawnOver (draws : List Instruction)
    (aside : ∀ draw ∈ draws, draw.DrawsAside) (screen : Screen) (flag : UInt8) :
    ∃ newScreen newFlag,
      (machine.drawnOver screen flag).afterSession (draws.map .execute) =
          machine.drawnOver newScreen newFlag ∧
        ∀ column < 64, ∀ row < 32,
          newScreen.pixel column row =
            (screen.pixel column row ^^ machine.coversOddly column row draws) := by
  induction draws generalizing screen flag with
  | nil =>
      refine ⟨screen, flag, rfl, ?_⟩
      intro column _columnBound row _rowBound
      rw [coversOddly_nil, Bool.xor_false]
  | cons first rest ih =>
      obtain ⟨between, betweenFlag, executed, painted⟩ :=
        machine.execute_drawnOver screen flag first (aside first List.mem_cons_self)
      obtain ⟨newScreen, newFlag, after, paintedAfter⟩ :=
        ih (fun draw member => aside draw (List.mem_cons_of_mem _ member)) between betweenFlag
      refine ⟨newScreen, newFlag, ?_, ?_⟩
      · rw [List.map_cons, afterSession, act, executed, after]
      · intro column columnBound row rowBound
        rw [paintedAfter column columnBound row rowBound, painted column columnBound row rowBound,
          coversOddly_cons, Bool.xor_assoc]

/-- Each of some drawings fails as it would alone. -/
theorem faults_session_drawnOver (draws : List Instruction)
    (aside : ∀ draw ∈ draws, draw.DrawsAside) (screen : Screen) (flag : UInt8) :
    ((machine.drawnOver screen flag).session (draws.map .execute)).map Step.fault =
      draws.map fun draw => (machine.execute draw).fault := by
  induction draws generalizing screen flag with
  | nil => rfl
  | cons first rest ih =>
      have here := aside first List.mem_cons_self
      obtain ⟨between, betweenFlag, executed, _painted⟩ :=
        machine.execute_drawnOver screen flag first here
      simp only [List.map_cons, session, act, executed, List.cons.injEq]
      exact ⟨machine.fault_execute_drawnOver screen flag first here,
        ih (fun draw member => aside draw (List.mem_cons_of_mem _ member)) between betweenFlag⟩

theorem unfailing_session_iff (draws : List Instruction)
    (aside : ∀ draw ∈ draws, draw.DrawsAside) :
    (∀ step ∈ machine.session (draws.map .execute), step.fault = none) ↔
      ∀ draw ∈ draws, (machine.execute draw).fault = none := by
  have faults := machine.faults_session_drawnOver draws aside machine.screen
    (machine.cpu.register 0xF)
  rw [drawnOver_self] at faults
  rw [← List.forall_mem_map (P := fun fault => fault = none) (f := Step.fault), faults,
    List.forall_mem_map]

/-- The machines that two orders of the same drawings lead to differ in the flag only. -/
theorem afterSession_perm (draws others : List Instruction)
    (aside : ∀ draw ∈ draws, draw.DrawsAside) (perm : draws.Perm others) :
    ∃ flag, machine.afterSession (others.map .execute) =
      (machine.afterSession (draws.map .execute)).drawnOver
        (machine.afterSession (draws.map .execute)).screen flag := by
  have othersAside : ∀ draw ∈ others, draw.DrawsAside := fun draw member =>
    aside draw (perm.mem_iff.mpr member)
  obtain ⟨screen, flag, after, painted⟩ :=
    machine.afterSession_drawnOver draws aside machine.screen (machine.cpu.register 0xF)
  obtain ⟨otherScreen, otherFlag, otherAfter, otherPainted⟩ :=
    machine.afterSession_drawnOver others othersAside machine.screen (machine.cpu.register 0xF)
  rw [drawnOver_self] at after otherAfter
  have sameScreen : otherScreen = screen := by
    apply Screen.ext_pixel
    intro column row columnBound rowBound
    rw [painted column columnBound row rowBound, otherPainted column columnBound row rowBound,
      machine.coversOddly_perm column row perm]
  refine ⟨otherFlag, ?_⟩
  rw [after, otherAfter, drawnOver_drawnOver, sameScreen]
  rfl

theorem screen_draw_draw (x y rows : UInt8) (aside : x.toNat % 16 ≠ 15 ∧ y.toNat % 16 ≠ 15) :
    ((machine.draw x y rows).machine.draw x y rows).machine.screen = machine.screen := by
  obtain ⟨flag, first⟩ := machine.machine_draw x y rows
  apply Screen.ext_pixel
  intro column row columnBound rowBound
  rw [pixel_draw _ _ _ _ _ _ columnBound rowBound, pixel_draw _ _ _ _ _ _ columnBound rowBound,
    first, spriteBit_drawnOver _ _ _ _ _ _ aside, Bool.xor_assoc, Bool.xor_self, Bool.xor_false]

/-- A sprite meets a pixel that it lit itself where it covers one that was dark. -/
theorem spriteCollides_draw_iff (x y rows : UInt8)
    (aside : x.toNat % 16 ≠ 15 ∧ y.toNat % 16 ≠ 15) :
    (machine.draw x y rows).machine.SpriteCollides x y rows ↔
      ∃ column < 64, ∃ row < 32, machine.spriteBit x y rows column row = true ∧
        machine.screen.pixel column row = false := by
  obtain ⟨flag, first⟩ := machine.machine_draw x y rows
  have sameBit : ∀ column row, (machine.draw x y rows).machine.spriteBit x y rows column row =
      machine.spriteBit x y rows column row := by
    intro column row
    rw [first, spriteBit_drawnOver _ _ _ _ _ _ aside]
  constructor
  · rintro ⟨column, columnBound, row, rowBound, covered, lit⟩
    rw [sameBit] at covered
    rw [pixel_draw _ _ _ _ _ _ columnBound rowBound, covered, Bool.xor_true,
      Bool.not_eq_true'] at lit
    exact ⟨column, columnBound, row, rowBound, covered, lit⟩
  · rintro ⟨column, columnBound, row, rowBound, covered, dark⟩
    refine ⟨column, columnBound, row, rowBound, (sameBit column row).trans covered, ?_⟩
    rw [pixel_draw _ _ _ _ _ _ columnBound rowBound, covered, dark]
    rfl

/-- Drawings that succeed on a machine succeed one after the other, in every order, and every order
leads to the same screen and the same state but for the flag. The same drawing once more restores the
screen, and tells in the flag whether it covered a dark pixel at first. -/
theorem draws_reordered_and_redrawn :
    (∀ draws others : List Instruction, (∀ draw ∈ draws, draw.DrawsAside) →
      ((∀ step ∈ machine.session (draws.map .execute), step.fault = none) ↔
        ∀ draw ∈ draws, (machine.execute draw).fault = none) ∧
        ((∀ step ∈ machine.session (draws.map .execute), step.fault = none) →
          draws.Perm others →
            (∀ step ∈ machine.session (others.map .execute), step.fault = none) ∧
              (machine.afterSession (others.map .execute)).screen =
                (machine.afterSession (draws.map .execute)).screen ∧
                ∃ flag, machine.afterSession (others.map .execute) =
                  { machine.afterSession (draws.map .execute) with
                    cpu :=
                      (machine.afterSession (draws.map .execute)).cpu.setRegister 0xF flag })) ∧
      ∀ x y rows : UInt8, x.toNat % 16 ≠ 15 → y.toNat % 16 ≠ 15 →
        (machine.execute (.draw x y rows)).fault = none →
          let first := machine.execute (.draw x y rows)
          let second := first.machine.execute (.draw x y rows)
          second.fault = none ∧ second.machine.screen = machine.screen ∧
            (second.machine.cpu.register 0xF = 1 ↔
              ∃ column < 64, ∃ row < 32, machine.spriteBit x y rows column row = true ∧
                machine.screen.pixel column row = false) := by
  constructor
  · intro draws others aside
    have alone := machine.unfailing_session_iff draws aside
    refine ⟨alone, ?_⟩
    intro unfailing perm
    have othersAside : ∀ draw ∈ others, draw.DrawsAside := fun draw member =>
      aside draw (perm.mem_iff.mpr member)
    have othersUnfailing : ∀ draw ∈ others, (machine.execute draw).fault = none :=
      fun draw member => alone.mp unfailing draw (perm.mem_iff.mpr member)
    obtain ⟨flag, after⟩ := machine.afterSession_perm draws others aside perm
    refine ⟨(machine.unfailing_session_iff others othersAside).mpr othersUnfailing, ?_, flag, after⟩
    rw [after]
    rfl
  · intro x y rows xAside yAside unfailing first second
    have aside : x.toNat % 16 ≠ 15 ∧ y.toNat % 16 ≠ 15 := ⟨xAside, yAside⟩
    have succeeds : second.fault = none := by
      obtain ⟨flag, same⟩ := machine.machine_draw x y rows
      simp only [second, first, execute] at unfailing ⊢
      rw [same]
      exact (machine.fault_execute_drawnOver _ flag (.draw x y rows) aside).trans unfailing
    refine ⟨succeeds, machine.screen_draw_draw x y rows aside, ?_⟩
    rw [← machine.spriteCollides_draw_iff x y rows aside]
    rcases first.machine.flag_draw x y rows succeeds with ⟨collides, one⟩ | ⟨misses, zero⟩
    · exact iff_of_true one collides
    · refine iff_of_false ?_ misses
      intro one
      exact absurd (zero.symm.trans one) (by decide)

/-- Two overlapping sprites in the lower right corner, one of them drawn twice in one of the orders. -/
theorem draws_reordered_and_redrawn_in_corner :
    let draws : List Instruction := [.draw 0 1 5, .draw 2 3 4, .draw 0 1 5]
    let others : List Instruction := [.draw 0 1 5, .draw 0 1 5, .draw 2 3 4]
    ∃ machine : Machine, machine.cpu.register 0 = 60 ∧ machine.cpu.register 3 = 28 ∧
      (machine.afterSession (others.map .execute)).screen =
        (machine.afterSession (draws.map .execute)).screen ∧
        ((machine.execute (.draw 0 1 5)).machine.execute (.draw 0 1 5)).machine.screen =
            machine.screen ∧
          ((machine.execute (.draw 0 1 5)).machine.execute (.draw 0 1 5)).machine.cpu.register
            0xF = 1 := by
  intro draws others
  let machine : Machine := { fresh {} with
    cpu :=
      { (((Cpu.initial.setRegister 0 60).setRegister 1 30).setRegister 2 61).setRegister 3 28 with
        index := 0x50 } }
  have aside : ∀ draw ∈ draws, draw.DrawsAside := by
    intro draw member
    simp only [draws, List.mem_cons, List.not_mem_nil, or_false] at member
    rcases member with rfl | rfl | rfl <;> exact ⟨by decide, by decide⟩
  have unfailing : ∀ step ∈ machine.session (draws.map .execute), step.fault = none := by
    decide +kernel
  have perm : draws.Perm others := List.Perm.cons _ (List.Perm.swap _ _ _)
  obtain ⟨reordered, redrawn⟩ := machine.draws_reordered_and_redrawn
  obtain ⟨_others, sameScreen, _flag⟩ := (reordered draws others aside).2 unfailing perm
  obtain ⟨_unfailing, restored, flag⟩ := redrawn 0 1 5 (by decide) (by decide) (by decide +kernel)
  refine ⟨machine, rfl, rfl, sameScreen, restored, flag.mpr ?_⟩
  exact ⟨60, by decide, 30, by decide, by decide +kernel, by decide +kernel⟩

end Machine

end ChipEight
