import ChipEight.Proofs.Screen.Sprite

set_option autoImplicit false

/-!
The collision of a drawing.

The bits of a byte lie in different columns and the bytes of a sprite on different rows, so a drawing
flips a pixel at most once. It therefore turns a pixel dark exactly when the sprite has a set bit there
and the pixel was lit before the first flip.
-/

namespace ChipEight.Drawing

theorem collided_flip (drawing : Drawing) (x y : Nat) :
    (drawing.flip x y).collided = true ↔
      drawing.collided = true ∨ drawing.screen.pixel x y = true := by
  simp only [flip, Bool.or_eq_true]

theorem collided_foldl_columns (drawing : Drawing) (x y : Nat) (bits : UInt8) (count : Nat)
    (narrow : x + count ≤ 64) (short : y < 32) :
    ((List.range count).foldl
        (fun drawing offset => if covers bits offset then drawing.flip (x + offset) y else drawing)
        drawing).collided = true ↔
      drawing.collided = true ∨
        ∃ column, (x ≤ column ∧ column < x + count) ∧ covers bits (column - x) = true ∧
          drawing.screen.pixel column y = true := by
  induction count with
  | zero =>
      constructor
      · exact Or.inl
      · rintro (collided | ⟨column, inside, _⟩)
        · exact collided
        · omega
  | succ count ih =>
      have before := ih (by omega)
      -- The column that comes next has not been reached yet, so its pixel is still the old one.
      have untouched := pixel_foldl_columns drawing x y bits count (by omega) short (x + count) y
        (by omega) short
      have ahead : ¬ (x ≤ x + count ∧ x + count < x + count ∧ y = y) := by omega
      rw [decide_eq_false ahead, Bool.false_and, Bool.xor_false] at untouched
      rw [List.range_succ, List.foldl_append, List.foldl_cons, List.foldl_nil]
      generalize (List.range count).foldl _ drawing = earlier at before untouched ⊢
      have last :
          (if covers bits count then earlier.flip (x + count) y else earlier).collided = true ↔
            earlier.collided = true ∨
              covers bits count = true ∧ drawing.screen.pixel (x + count) y = true := by
        cases covers bits count with
        | false => simp only [Bool.false_eq_true, if_false, false_and, or_false]
        | true => rw [if_pos rfl, collided_flip, untouched, and_iff_right rfl]
      rw [last, before]
      constructor
      · rintro ((collided | ⟨column, inside, painted⟩) | ⟨covered, lit⟩)
        · exact Or.inl collided
        · exact Or.inr ⟨column, by omega, painted⟩
        · refine Or.inr ⟨x + count, by omega, ?_, lit⟩
          rwa [Nat.add_sub_cancel_left]
      · rintro (collided | ⟨column, inside, covered, lit⟩)
        · exact Or.inl (Or.inl collided)
        · rcases Nat.lt_or_ge column (x + count) with earlier | here
          · exact Or.inl (Or.inr ⟨column, by omega, covered, lit⟩)
          · obtain rfl : column = x + count := by omega
            rw [Nat.add_sub_cancel_left] at covered
            exact Or.inr ⟨covered, lit⟩

theorem collided_byte (drawing : Drawing) (x y : Nat) (bits : UInt8) (short : y < 32) :
    (drawing.byte x y bits).collided = true ↔
      drawing.collided = true ∨
        ∃ column < 64, (x ≤ column ∧ column < x + 8) ∧ covers bits (column - x) = true ∧
          drawing.screen.pixel column y = true := by
  by_cases onScreen : x < 64
  · rw [byte, collided_foldl_columns drawing x y bits _ (by omega) short]
    apply or_congr_right
    constructor
    · rintro ⟨column, inside, painted⟩
      exact ⟨column, by omega, by omega, painted⟩
    · rintro ⟨column, bound, inside, painted⟩
      exact ⟨column, by omega, painted⟩
  · have empty : min 8 (64 - x) = 0 := by omega
    simp only [byte, empty, List.range_zero, List.foldl_nil]
    constructor
    · exact Or.inl
    · rintro (collided | ⟨column, bound, inside, _⟩)
      · exact collided
      · omega

theorem paints_of_lt (x y : Nat) (rows : List UInt8) (column row : Nat) (above : row < y) :
    paints x y rows column row = false := by
  have outside : ¬ (x ≤ column ∧ column < x + 8 ∧ y ≤ row) := by omega
  rw [paints, decide_eq_false outside, Bool.false_and]

theorem le_of_paints {x y : Nat} {rows : List UInt8} {column row : Nat}
    (painted : paints x y rows column row = true) : y ≤ row := by
  apply Nat.le_of_not_lt
  intro above
  rw [paints_of_lt x y rows column row above] at painted
  cases painted

/-- Drawing a sprite turns a lit pixel dark exactly when one of its set bits lies on a pixel that was
lit before the drawing. -/
theorem collided_sprite (drawing : Drawing) (x y : Nat) (rows : List UInt8)
    (short : rows.length ≤ 32 - y) :
    (drawing.sprite x y rows).collided = true ↔
      drawing.collided = true ∨
        ∃ column < 64, ∃ row < 32, paints x y rows column row = true ∧
          drawing.screen.pixel column row = true := by
  induction rows generalizing drawing y with
  | nil =>
      constructor
      · exact Or.inl
      · rintro (collided | ⟨column, _, row, _, painted, _⟩)
        · exact collided
        · simp [paints] at painted
  | cons bits rest ih =>
      simp only [List.length_cons] at short
      have onScreen : y < 32 := by omega
      rw [sprite, ih _ _ (by omega), collided_byte drawing x y bits onScreen, or_assoc]
      apply or_congr_right
      -- The rows below are painted on pixels that the byte on row `y` has not touched.
      have untouched : ∀ column < 64, ∀ row < 32, y < row →
          (drawing.byte x y bits).screen.pixel column row = drawing.screen.pixel column row := by
        intro column columnBound row rowBound below
        have elsewhere : ¬ (x ≤ column ∧ column < x + 8 ∧ y = row) := by omega
        rw [pixel_byte drawing x y bits onScreen column row columnBound rowBound,
          decide_eq_false elsewhere, Bool.false_and, Bool.xor_false]
      constructor
      · rintro (⟨column, columnBound, inside, covered, lit⟩ |
          ⟨column, columnBound, row, rowBound, painted, lit⟩)
        · refine ⟨column, columnBound, y, onScreen, ?_, lit⟩
          have here : x ≤ column ∧ column < x + 8 ∧ y = y := by omega
          rw [paints_cons, paints_of_lt _ _ _ _ _ (Nat.lt_succ_self y), decide_eq_true here,
            covered]
          rfl
        · have below : y < row := le_of_paints painted
          have elsewhere : ¬ (x ≤ column ∧ column < x + 8 ∧ y = row) := by omega
          refine ⟨column, columnBound, row, rowBound, ?_, ?_⟩
          · rw [paints_cons, decide_eq_false elsewhere, Bool.false_and, Bool.false_xor, painted]
          · rw [← untouched column columnBound row rowBound below, lit]
      · rintro ⟨column, columnBound, row, rowBound, painted, lit⟩
        rw [paints_cons] at painted
        by_cases here : x ≤ column ∧ column < x + 8 ∧ y = row
        · obtain ⟨left, right, rfl⟩ := here
          rw [paints_of_lt _ _ _ _ _ (Nat.lt_succ_self y), Bool.xor_false,
            Bool.and_eq_true] at painted
          exact Or.inl ⟨column, columnBound, ⟨left, right⟩, painted.2, lit⟩
        · rw [decide_eq_false here, Bool.false_and, Bool.false_xor] at painted
          have below : y < row := le_of_paints painted
          refine Or.inr ⟨column, columnBound, row, rowBound, painted, ?_⟩
          rw [untouched column columnBound row rowBound below, lit]

end ChipEight.Drawing
