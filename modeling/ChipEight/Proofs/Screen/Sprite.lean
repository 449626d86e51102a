import ChipEight.Screen

set_option autoImplicit false

/-!
The pixels of a drawing.

Drawing a sprite flips a pixel exactly when the sprite has a set bit there. Columns past the right
edge are clipped by the drawing itself; the rows are taken to end at the bottom edge.
-/

namespace ChipEight.Drawing

/-- Whether a sprite with its upper left corner at a place has a set bit at a pixel. -/
def paints (x y : Nat) (rows : List UInt8) (column row : Nat) : Bool :=
  decide (x ≤ column ∧ column < x + 8 ∧ y ≤ row) &&
    rows[row - y]?.any fun bits => covers bits (column - x)

theorem pixel_flip (drawing : Drawing) (x y column row : Nat) (xBound : x < 64) (yBound : y < 32)
    (columnBound : column < 64) (rowBound : row < 32) :
    (drawing.flip x y).screen.pixel column row =
      (drawing.screen.pixel column row ^^ decide (x = column ∧ y = row)) := by
  simp only [flip, Screen.pixel_flip, Nat.mod_eq_of_lt xBound, Nat.mod_eq_of_lt yBound,
    Nat.mod_eq_of_lt columnBound, Nat.mod_eq_of_lt rowBound]

/-- The columns of a byte up to a number of them, drawn one after the other from the left. -/
theorem pixel_foldl_columns (drawing : Drawing) (x y : Nat) (bits : UInt8) (count : Nat)
    (narrow : x + count ≤ 64) (short : y < 32) (column row : Nat) (columnBound : column < 64)
    (rowBound : row < 32) :
    ((List.range count).foldl
        (fun drawing offset => if covers bits offset then drawing.flip (x + offset) y else drawing)
        drawing).screen.pixel column row =
      (drawing.screen.pixel column row ^^
        (decide (x ≤ column ∧ column < x + count ∧ y = row) && covers bits (column - x))) := by
  induction count with
  | zero =>
      have none : ¬ (x ≤ column ∧ column < x + 0 ∧ y = row) := by omega
      simp only [List.range_zero, List.foldl_nil, none, decide_false, Bool.false_and,
        Bool.xor_false]
  | succ count ih =>
      rw [List.range_succ, List.foldl_append, List.foldl_cons, List.foldl_nil]
      have before := ih (by omega)
      generalize (List.range count).foldl _ drawing = earlier at before ⊢
      have last :
          (if covers bits count then earlier.flip (x + count) y else earlier).screen.pixel column
              row =
            (earlier.screen.pixel column row ^^
              (decide (x + count = column ∧ y = row) && covers bits count)) := by
        cases covers bits count with
        | false => simp only [Bool.false_eq_true, if_false, Bool.and_false, Bool.xor_false]
        | true =>
            rw [if_pos rfl, pixel_flip earlier _ _ _ _ (by omega) short columnBound rowBound,
              Bool.and_true]
      rw [last, before]
      by_cases here : x + count = column ∧ y = row
      · have first : ¬ (x ≤ column ∧ column < x + count ∧ y = row) := by omega
        have reached : x ≤ column ∧ column < x + (count + 1) ∧ y = row := by omega
        have offset : column - x = count := by omega
        rw [decide_eq_true here, decide_eq_false first, decide_eq_true reached, offset,
          Bool.false_and, Bool.xor_false]
      · have same : (x ≤ column ∧ column < x + count ∧ y = row) ↔
            (x ≤ column ∧ column < x + (count + 1) ∧ y = row) := by omega
        rw [decide_eq_false here, decide_eq_decide.mpr same, Bool.false_and, Bool.xor_false]

theorem pixel_byte (drawing : Drawing) (x y : Nat) (bits : UInt8) (short : y < 32)
    (column row : Nat) (columnBound : column < 64) (rowBound : row < 32) :
    (drawing.byte x y bits).screen.pixel column row =
      (drawing.screen.pixel column row ^^
        (decide (x ≤ column ∧ column < x + 8 ∧ y = row) && covers bits (column - x))) := by
  by_cases onScreen : x < 64
  · have clipped : (x ≤ column ∧ column < x + min 8 (64 - x) ∧ y = row) ↔
        (x ≤ column ∧ column < x + 8 ∧ y = row) := by omega
    rw [byte, pixel_foldl_columns drawing x y bits _ (by omega) short column row columnBound
      rowBound, decide_eq_decide.mpr clipped]
  · have outside : ¬ (x ≤ column ∧ column < x + 8 ∧ y = row) := by omega
    have empty : min 8 (64 - x) = 0 := by omega
    simp only [byte, empty, List.range_zero, List.foldl_nil, outside, decide_false,
      Bool.false_and, Bool.xor_false]

theorem paints_cons (x y : Nat) (bits : UInt8) (rest : List UInt8) (column row : Nat) :
    paints x y (bits :: rest) column row =
      ((decide (x ≤ column ∧ column < x + 8 ∧ y = row) && covers bits (column - x)) ^^
        paints x (y + 1) rest column row) := by
  unfold paints
  rcases Nat.lt_trichotomy row y with above | rfl | below
  · have first : ¬ y ≤ row := by omega
    have here : ¬ y = row := by omega
    have later : ¬ y + 1 ≤ row := by omega
    simp only [first, here, later, and_false, decide_false, Bool.false_and, Bool.xor_false]
  · have later : ¬ row + 1 ≤ row := by omega
    simp only [Nat.le_refl, later, and_true, and_false, decide_false, Bool.false_and,
      Bool.xor_false, Nat.sub_self, List.getElem?_cons_zero, Option.any_some]
  · have first : y ≤ row := by omega
    have here : ¬ y = row := by omega
    have later : y + 1 ≤ row := by omega
    have next : row - y = row - (y + 1) + 1 := by omega
    simp only [first, here, later, and_true, and_false, decide_false, Bool.false_and,
      Bool.false_xor, next, List.getElem?_cons_succ]

theorem paints_map_range (x y count : Nat) (byteOf : Nat → UInt8) (column row : Nat) :
    paints x y ((List.range count).map byteOf) column row =
      decide (x ≤ column ∧ column < x + 8 ∧ y ≤ row ∧ row < y + count ∧
        covers (byteOf (row - y)) (column - x)) := by
  unfold paints
  by_cases inside : row - y < count
  · rw [List.getElem?_map, List.getElem?_range inside, Option.map_some, Option.any_some,
      Bool.eq_iff_iff, Bool.and_eq_true, decide_eq_true_eq, decide_eq_true_eq]
    constructor
    · intro painted
      obtain ⟨⟨left, right, top⟩, covered⟩ := painted
      exact ⟨left, right, top, by omega, covered⟩
    · intro painted
      obtain ⟨left, right, top, _bottom, covered⟩ := painted
      exact ⟨⟨left, right, top⟩, covered⟩
  · have past : ((List.range count).map byteOf)[row - y]? = none := by
      rw [List.getElem?_eq_none_iff, List.length_map, List.length_range]
      omega
    have below : ¬ (x ≤ column ∧ column < x + 8 ∧ y ≤ row ∧ row < y + count ∧
        covers (byteOf (row - y)) (column - x)) := by
      intro painted
      obtain ⟨_left, _right, top, bottom, _covered⟩ := painted
      omega
    rw [past, Option.any_none, Bool.and_false, decide_eq_false below]

/-- Drawing a sprite flips exactly the pixels at which it has a set bit. -/
theorem pixel_sprite (drawing : Drawing) (x y : Nat) (rows : List UInt8)
    (short : rows.length ≤ 32 - y) (column row : Nat) (columnBound : column < 64)
    (rowBound : row < 32) :
    (drawing.sprite x y rows).screen.pixel column row =
      (drawing.screen.pixel column row ^^ paints x y rows column row) := by
  induction rows generalizing drawing y with
  | nil => simp [sprite, paints]
  | cons bits rest ih =>
      simp only [List.length_cons] at short
      rw [sprite, ih _ _ (by omega),
        pixel_byte drawing x y bits (by omega) column row columnBound rowBound, paints_cons,
        Bool.xor_assoc]

end ChipEight.Drawing
