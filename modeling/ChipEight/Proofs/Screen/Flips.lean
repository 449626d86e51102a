import ChipEight.Screen
import Mathlib.Data.Fintype.Fin
import Mathlib.Data.Fintype.Prod
import Mathlib.Data.List.Induction
import Mathlib.Logic.Equiv.Fin.Basic

set_option autoImplicit false

/-!
What a screen has been through, flip by flip.

A pixel is lit when it has been flipped an odd number of times since the screen was last blank, whatever
coordinates named it. A flip tells whether the pixel was lit before, and by that it makes one pixel fewer
or one more.
-/

namespace ChipEight.Screen

inductive Call where
  | flip (x y : Nat)
  | clear
deriving DecidableEq

def Call.isFlip : Call → Bool
  | .flip _ _ => true
  | .clear => false

/-- The call flips a pixel, which its coordinates name modulo the size of the screen. -/
def Call.meets (column row : Nat) : Call → Bool
  | .flip x y => decide (x % 64 = column % 64 ∧ y % 32 = row % 32)
  | .clear => false

def call (screen : Screen) : Call → Screen × Option Bool
  | .flip x y =>
      let drawing := (Drawing.start screen).flip x y
      (drawing.screen, some drawing.collided)
  | .clear => (.blank, none)

def afterCalls (screen : Screen) : List Call → Screen
  | [] => screen
  | first :: rest => (screen.call first).1.afterCalls rest

def answers (screen : Screen) : List Call → List (Option Bool)
  | [] => []
  | first :: rest => (screen.call first).2 :: (screen.call first).1.answers rest

/-- How often a pixel has been flipped since the screen was last cleared. -/
def flipsOf (calls : List Call) (column row : Nat) : Nat :=
  (calls.reverse.takeWhile Call.isFlip).countP (Call.meets column row)

/-! ### Pixels -/

theorem afterCalls_append (screen : Screen) (first second : List Call) :
    screen.afterCalls (first ++ second) = (screen.afterCalls first).afterCalls second := by
  induction first generalizing screen with
  | nil => rfl
  | cons call rest ih => exact ih (screen.call call).1

theorem flipsOf_flip (calls : List Call) (x y column row : Nat) :
    flipsOf (calls ++ [.flip x y]) column row =
      flipsOf calls column row + if x % 64 = column % 64 ∧ y % 32 = row % 32 then 1 else 0 := by
  simp only [flipsOf, List.reverse_append, List.reverse_singleton, List.singleton_append,
    List.takeWhile_cons, Call.isFlip, if_true, List.countP_cons, Call.meets, decide_eq_true_eq]

theorem flipsOf_clear (calls : List Call) (column row : Nat) :
    flipsOf (calls ++ [.clear]) column row = 0 := by
  simp only [flipsOf, List.reverse_append, List.reverse_singleton, List.singleton_append,
    List.takeWhile_cons, Call.isFlip, Bool.false_eq_true, if_false, List.countP_nil]

/-- A pixel is lit after an odd number of flips. -/
theorem pixel_afterCalls_iff (calls : List Call) (column row : Nat) :
    (blank.afterCalls calls).pixel column row = true ↔ flipsOf calls column row % 2 = 1 := by
  induction calls using List.reverseRecOn with
  | nil =>
      rw [afterCalls, pixel_blank]
      simp only [Bool.false_eq_true, flipsOf, List.reverse_nil, List.takeWhile_nil,
        List.countP_nil, Nat.zero_mod, Nat.zero_ne_one]
  | append_singleton calls last ih =>
      rw [afterCalls_append, afterCalls, afterCalls]
      cases last with
      | clear =>
          rw [flipsOf_clear, call, pixel_blank]
          simp only [Bool.false_eq_true, Nat.zero_mod, Nat.zero_ne_one]
      | flip x y =>
          rw [flipsOf_flip, call, Drawing.flip, Drawing.start, pixel_flip]
          by_cases here : x % 64 = column % 64 ∧ y % 32 = row % 32
          · rw [decide_eq_true here, if_pos here, Bool.xor_true, Bool.not_eq_true',
              ← Bool.not_eq_true, ih]
            omega
          · rw [decide_eq_false here, if_neg here, Bool.xor_false, Nat.add_zero, ih]

theorem answer_call_flip (screen : Screen) (x y : Nat) :
    (screen.call (.flip x y)).2 = some (screen.pixel x y) := by
  rw [call, Drawing.flip, Drawing.start, Bool.false_or]

theorem getElem?_answers (screen : Screen) (calls : List Call) (place : Nat) :
    (screen.answers calls)[place]? =
      calls[place]?.map fun call => ((screen.afterCalls (calls.take place)).call call).2 := by
  induction calls generalizing screen place with
  | nil => rfl
  | cons first rest ih =>
      cases place with
      | zero => rfl
      | succ place =>
          simp only [answers, List.getElem?_cons_succ, List.take_succ_cons, afterCalls, ih]

/-! ### Counting the lit pixels -/

def cellOf : Fin 64 × Fin 32 ≃ Fin 2048 :=
  (Equiv.prodComm (Fin 64) (Fin 32)).trans finProdFinEquiv

theorem cellOf_eq_place (column : Fin 64) (row : Fin 32) :
    cellOf (column, row) = place column row := by
  apply Fin.ext
  change column.val + 64 * row.val = row.val % 32 * 64 + column.val % 64
  omega

theorem lit_eq_card_cells (screen : Screen) :
    screen.lit = (Finset.univ.filter fun cell : Fin 2048 => screen.cells[cell] = true).card := by
  have counted := Fin.card_filter_univ_eq_vector_get_eq_count true
    (⟨screen.cells.toList, Vector.length_toList⟩ : List.Vector Bool 2048)
  rw [lit, ← Vector.count_toList]
  exact counted.symm

theorem lit_eq_card (screen : Screen) :
    screen.lit =
      (Finset.univ.filter fun pixel : Fin 64 × Fin 32 =>
        screen.pixel pixel.1 pixel.2 = true).card := by
  rw [lit_eq_card_cells]
  symm
  apply Finset.card_equiv cellOf
  rintro ⟨column, row⟩
  rw [Finset.mem_filter_univ, Finset.mem_filter_univ, cellOf_eq_place]
  rfl

theorem lit_flip_of_dark (screen : Screen) (x y : Nat) (dark : screen.pixel x y = false) :
    (screen.flip x y).lit = screen.lit + 1 := by
  have cell : screen.cells[(place x y).val] = false := dark
  simp only [lit, flip, Fin.getElem_fin, Vector.count_set, cell, Bool.not_false]
  rfl

theorem lit_flip_of_lit (screen : Screen) (x y : Nat) (lit : screen.pixel x y = true) :
    (screen.flip x y).lit + 1 = screen.lit := by
  have cell : screen.cells[(place x y).val] = true := lit
  have positive : 0 < screen.cells.count true :=
    Vector.count_pos_iff.mpr (cell ▸ Vector.getElem_mem _)
  simp only [Screen.lit, flip, Fin.getElem_fin, Vector.count_set, cell, Bool.not_true]
  exact Nat.sub_add_cancel positive

/-! ### Whole histories -/

/-- The pixels of a screen are lit by the parity of their flips, a flip is answered by the pixel as it
was, and by that one pixel more or one fewer is lit. -/
theorem afterCalls_of_blank (calls : List Call) :
    (∀ column row,
      (blank.afterCalls calls).pixel column row = true ↔ flipsOf calls column row % 2 = 1) ∧
      (blank.afterCalls calls).lit =
        (Finset.univ.filter fun pixel : Fin 64 × Fin 32 =>
          flipsOf calls pixel.1 pixel.2 % 2 = 1).card ∧
        ∀ place x y, calls[place]? = some (.flip x y) →
          ∃ lit, (blank.answers calls)[place]? = some (some lit) ∧
            lit = (blank.afterCalls (calls.take place)).pixel x y ∧
              (lit = false → (blank.afterCalls (calls.take (place + 1))).lit =
                (blank.afterCalls (calls.take place)).lit + 1) ∧
                (lit = true → (blank.afterCalls (calls.take (place + 1))).lit + 1 =
                  (blank.afterCalls (calls.take place)).lit) := by
  refine ⟨pixel_afterCalls_iff calls, ?_, ?_⟩
  · rw [lit_eq_card]
    exact congrArg Finset.card
      (Finset.filter_congr fun pixel _ => pixel_afterCalls_iff calls pixel.1 pixel.2)
  · intro place x y flips
    have next : blank.afterCalls (calls.take (place + 1)) =
        (blank.afterCalls (calls.take place)).flip x y := by
      rw [List.take_add_one, flips, Option.toList_some, afterCalls_append, afterCalls, afterCalls,
        call, Drawing.flip, Drawing.start]
    have answered : (blank.answers calls)[place]? =
        some (some ((blank.afterCalls (calls.take place)).pixel x y)) := by
      rw [getElem?_answers, flips, Option.map_some, answer_call_flip]
    rw [next]
    exact ⟨_, answered, rfl, lit_flip_of_dark _ x y, lit_flip_of_lit _ x y⟩

/-- A pixel that is named by two pairs of coordinates, on a screen that has been cleared. -/
theorem afterCalls_of_blank_after_clear :
    let calls : List Call :=
      [.flip 63 31, .clear, .flip 63 31, .flip 18446744073709551615 18446744073709551615, .flip 3 4]
    calls[3]? = some (.flip 18446744073709551615 18446744073709551615) ∧
      (blank.answers calls)[3]? = some (some true) ∧
        (blank.afterCalls (calls.take 4)).lit + 1 = (blank.afterCalls (calls.take 3)).lit ∧
          (blank.afterCalls calls).pixel 63 31 = false := by
  intro calls
  obtain ⟨pixels, _count, flips⟩ := afterCalls_of_blank calls
  obtain ⟨lit, answered, same, _grows, shrinks⟩ := flips 3 _ _ rfl
  have before : lit = true :=
    same.trans ((pixel_afterCalls_iff (calls.take 3) _ _).mpr (by decide))
  rw [before] at answered
  have even : flipsOf calls 63 31 % 2 ≠ 1 := by decide
  exact ⟨rfl, answered, shrinks before, Bool.eq_false_iff.mpr (mt (pixels 63 31).mp even)⟩

end ChipEight.Screen
