import ChipEight.Screen
import Mathlib.Data.List.DropRight
import Mathlib.Order.Bounds.Basic

set_option autoImplicit false

/-!
The text of a screen, read back.

A text is read line by line. The line of a row ends at the last lit pixel of the row
(`lineOf_rowMarks`), so blanks up to the right edge complete it, and the completed lines are the marks
of all pixels, row after row. Nothing of a screen is lost in its text (`text_lossless`).
-/

namespace ChipEight.Screen

/-- The lines of a text. What stands behind the last line break is no line. -/
def linesOf (text : String) : List (List Char) :=
  (text.toList.splitOn '\n').dropLast

/-- The screen that marks show, row after row; it takes a mark for every pixel. -/
def ofMarks? (marks : List Char) : Option Screen :=
  if size : marks.length = 2048 then
    some ⟨⟨(marks.map fun mark => mark == '#').toArray, by
      rw [List.size_toArray, List.length_map, size]⟩⟩
  else none

structure LineOf (screen : Screen) (y : Nat) (shown : List Char) : Prop where
  dark : shown.length = 0 ↔ ∀ x < 64, screen.pixel x y = false
  lit : ∀ last, shown.length = last + 1 ↔ IsGreatest {x | x < 64 ∧ screen.pixel x y = true} last
  marks : ∀ x < shown.length, shown[x]? = some (if screen.pixel x y then '#' else ' ')

/-! ### Rows without the dark pixels at their end -/

theorem trimmed_eq_rdropWhile (pixels : List Bool) :
    trimmed pixels = pixels.rdropWhile fun lit => !lit := rfl

/-- Dark pixels complete what is left of a row. -/
theorem rightpad_trimmed (pixels : List Bool) :
    (trimmed pixels).rightpad pixels.length false = pixels := by
  have parts : trimmed pixels ++ pixels.rtakeWhile (fun lit => !lit) = pixels :=
    List.rdropWhile_append_rtakeWhile
  have dark : pixels.rtakeWhile (fun lit => !lit) =
      List.replicate (pixels.length - (trimmed pixels).length) false := by
    have lengths := congrArg List.length parts
    rw [List.length_append] at lengths
    refine List.eq_replicate_iff.mpr ⟨by omega, ?_⟩
    intro lit member
    have unlit : (!lit) = true := List.mem_rtakeWhile_imp member
    rwa [Bool.not_eq_true'] at unlit
  rw [List.rightpad, ← dark, parts]

theorem length_trimmed_le (pixels : List Bool) : (trimmed pixels).length ≤ pixels.length :=
  (List.rdropWhile_prefix _ _).length_le

theorem getElem?_trimmed (pixels : List Bool) (x : Nat) (inside : x < (trimmed pixels).length) :
    (trimmed pixels)[x]? = pixels[x]? :=
  (List.prefix_iff_getElem?.mp (List.rdropWhile_prefix _ pixels) x inside).symm ▸
    List.getElem?_eq_getElem inside

theorem lt_length_trimmed_of_lit (pixels : List Bool) (x : Nat) (lit : pixels[x]? = some true) :
    x < (trimmed pixels).length := by
  by_contra outside
  rw [← rightpad_trimmed pixels, List.rightpad,
    List.getElem?_append_right (Nat.not_lt.mp outside)] at lit
  have dark := List.eq_of_mem_replicate (List.mem_of_getElem? lit)
  cases dark

theorem lit_of_length_trimmed (pixels : List Bool) (last : Nat)
    (length : (trimmed pixels).length = last + 1) : pixels[last]? = some true := by
  have nonempty : trimmed pixels ≠ [] := List.ne_nil_of_length_eq_add_one length
  have lit : ¬ (!(trimmed pixels).getLast nonempty) = true :=
    List.rdropWhile_last_not (fun lit => !lit) pixels nonempty
  have place : (trimmed pixels)[last]? = some ((trimmed pixels).getLast nonempty) := by
    rw [← List.getLast?_eq_some_getLast, List.getLast?_eq_getElem?, length, Nat.add_sub_cancel]
  rw [← getElem?_trimmed pixels last (by omega), place]
  simpa using lit

theorem length_trimmed_eq_zero_iff (pixels : List Bool) :
    (trimmed pixels).length = 0 ↔ ∀ lit ∈ pixels, lit = false := by
  rw [List.length_eq_zero_iff, trimmed_eq_rdropWhile, List.rdropWhile_eq_nil_iff]
  simp only [Bool.not_eq_true']

/-! ### The line of a row -/

def rowMarks (screen : Screen) (y : Nat) : List Char :=
  (trimmed (screen.row y)).map mark

theorem getElem?_row (screen : Screen) (x y : Nat) (inside : x < 64) :
    (screen.row y)[x]? = some (screen.pixel x y) := by
  rw [row, List.getElem?_map, List.getElem?_range inside, Option.map_some]

theorem length_row (screen : Screen) (y : Nat) : (screen.row y).length = 64 := by
  rw [row, List.length_map, List.length_range]

theorem getElem?_row_eq_true_iff (screen : Screen) (x y : Nat) :
    (screen.row y)[x]? = some true ↔ x < 64 ∧ screen.pixel x y = true := by
  constructor
  · intro lit
    have inside := (List.getElem?_eq_some_iff.mp lit).1
    rw [length_row] at inside
    rw [screen.getElem?_row x y inside] at lit
    exact ⟨inside, Option.some.inj lit⟩
  · rintro ⟨inside, lit⟩
    rw [screen.getElem?_row x y inside, lit]

/-- A line ends at the greatest column that is lit in its row. -/
theorem isGreatest_of_length_rowMarks (screen : Screen) (y last : Nat)
    (length : (screen.rowMarks y).length = last + 1) :
    IsGreatest {x | x < 64 ∧ screen.pixel x y = true} last := by
  rw [rowMarks, List.length_map] at length
  constructor
  · exact (screen.getElem?_row_eq_true_iff last y).mp (lit_of_length_trimmed _ last length)
  · intro x lit
    have inside := lt_length_trimmed_of_lit _ x ((screen.getElem?_row_eq_true_iff x y).mpr lit)
    omega

theorem length_rowMarks_eq_zero_iff (screen : Screen) (y : Nat) :
    (screen.rowMarks y).length = 0 ↔ ∀ x < 64, screen.pixel x y = false := by
  rw [rowMarks, List.length_map, length_trimmed_eq_zero_iff, row]
  simp only [List.forall_mem_map, List.mem_range]

theorem lineOf_rowMarks (screen : Screen) (y : Nat) : screen.LineOf y (screen.rowMarks y) where
  dark := screen.length_rowMarks_eq_zero_iff y
  lit := by
    intro last
    refine ⟨screen.isGreatest_of_length_rowMarks y last, ?_⟩
    intro greatest
    -- The line is not empty, so it ends at a greatest lit column, and there is one only.
    cases length : (screen.rowMarks y).length with
    | zero =>
        have dark := (screen.length_rowMarks_eq_zero_iff y).mp length last greatest.1.1
        cases greatest.1.2.symm.trans dark
    | succ other =>
        rw [(screen.isGreatest_of_length_rowMarks y other length).unique greatest]
  marks := by
    intro x inside
    rw [rowMarks, List.length_map] at inside
    have short := length_trimmed_le (screen.row y)
    rw [length_row] at short
    rw [rowMarks, List.getElem?_map, getElem?_trimmed _ x inside,
      screen.getElem?_row x y (by omega)]
    rfl

/-- Blanks up to the right edge complete a line. -/
theorem rightpad_rowMarks (screen : Screen) (y : Nat) :
    (screen.rowMarks y).rightpad 64 ' ' = (screen.row y).map mark := by
  have completed := congrArg (List.map mark) (rightpad_trimmed (screen.row y))
  rw [List.rightpad, List.map_append, List.map_replicate, length_row] at completed
  rw [List.rightpad, rowMarks, List.length_map]
  exact completed

theorem lineBreak_not_mem_rowMarks (screen : Screen) (y : Nat) : '\n' ∉ screen.rowMarks y := by
  intro member
  obtain ⟨lit, _present, same⟩ := List.mem_map.mp member
  cases lit <;> cases same

/-! ### The lines of a text -/

theorem flatMap_lineBreak (lines : List (List Char)) :
    lines.flatMap (fun line => line ++ ['\n']) = ['\n'].intercalate (lines ++ [[]]) := by
  induction lines with
  | nil => rfl
  | cons line rest ih =>
      have more : rest ++ [[]] ≠ [] := List.append_ne_nil_of_right_ne_nil _ (List.cons_ne_nil _ _)
      rw [List.flatMap_cons, ih, List.cons_append, List.intercalate_cons_of_ne_nil more]

/-- Lines that are ended by line breaks are found again. -/
theorem linesOf_ofList (lines : List (List Char)) (unbroken : ∀ line ∈ lines, '\n' ∉ line) :
    linesOf (String.ofList (lines.flatMap fun line => line ++ ['\n'])) = lines := by
  have unbrokenToo : ∀ line ∈ lines ++ [[]], '\n' ∉ line := by
    intro line member
    rcases List.mem_append.mp member with among | last
    · exact unbroken line among
    · rw [List.mem_singleton.mp last]
      exact List.not_mem_nil
  have nonempty : lines ++ [[]] ≠ [] :=
    List.append_ne_nil_of_right_ne_nil _ (List.cons_ne_nil _ _)
  rw [linesOf, String.toList_ofList, flatMap_lineBreak,
    List.splitOn_intercalate '\n' unbrokenToo nonempty, List.dropLast_concat]

theorem text_eq (screen : Screen) :
    screen.text =
      String.ofList (((List.range 32).map screen.rowMarks).flatMap fun line => line ++ ['\n']) := by
  rw [text, List.flatMap_map]
  rfl

theorem linesOf_text (screen : Screen) :
    linesOf screen.text = (List.range 32).map screen.rowMarks := by
  rw [text_eq, linesOf_ofList]
  intro line member
  obtain ⟨y, _inside, rfl⟩ := List.mem_map.mp member
  exact screen.lineBreak_not_mem_rowMarks y

/-! ### Reading a screen back -/

theorem getElem?_flatten_of_length {α : Type} (rows : List (List α)) (width : Nat)
    (uniform : ∀ row ∈ rows, row.length = width) (x y : Nat) (inside : x < width) :
    rows.flatten[y * width + x]? = rows[y]?.bind fun row => row[x]? := by
  induction rows generalizing y with
  | nil => rfl
  | cons row rest ih =>
      have length := uniform row List.mem_cons_self
      cases y with
      | zero =>
          rw [List.flatten_cons, Nat.zero_mul, Nat.zero_add,
            List.getElem?_append_left (length ▸ inside)]
          rfl
      | succ y =>
          have behind : (y + 1) * width + x - row.length = y * width + x := by
            rw [length, Nat.succ_mul]
            omega
          have reached : row.length ≤ (y + 1) * width + x := by
            rw [length, Nat.succ_mul]
            omega
          rw [List.flatten_cons, List.getElem?_append_right reached, behind,
            List.getElem?_cons_succ]
          exact ih (fun other member => uniform other (List.mem_cons_of_mem row member)) y

/-- The marks of all pixels, row after row, are those of the cells. -/
theorem flatten_rows (screen : Screen) :
    ((List.range 32).map fun y => (screen.row y).map mark).flatten =
      screen.cells.toList.map mark := by
  apply List.ext_getElem?
  intro place
  have split : place / 64 * 64 + place % 64 = place := by omega
  have found := getElem?_flatten_of_length
    ((List.range 32).map fun y => (screen.row y).map mark) 64 (by
      intro line member
      obtain ⟨y, _inside, rfl⟩ := List.mem_map.mp member
      rw [List.length_map, length_row]) (place % 64) (place / 64) (Nat.mod_lt _ (by decide))
  rw [split] at found
  rw [found, List.getElem?_map, List.getElem?_map]
  by_cases inside : place < 2048
  · have row : place / 64 < 32 := by omega
    have cell : screen.pixel (place % 64) (place / 64) = screen.cells[place] := by
      have here : place / 64 % 32 * 64 + place % 64 % 64 = place := by omega
      simp only [pixel, Screen.place, Fin.getElem_fin, here]
    rw [List.getElem?_range row, Option.map_some, Option.bind_some, List.getElem?_map,
      screen.getElem?_row _ _ (Nat.mod_lt _ (by decide)), cell,
      List.getElem?_eq_getElem (by rwa [Vector.length_toList]), Vector.getElem_toList]
  · have beyond : ¬ place / 64 < 32 := by omega
    rw [List.getElem?_eq_none (by rw [List.length_range]; omega),
      List.getElem?_eq_none (by rw [Vector.length_toList]; omega)]
    rfl

theorem ofMarks?_map_mark (screen : Screen) :
    ofMarks? (screen.cells.toList.map mark) = some screen := by
  have size : (screen.cells.toList.map mark).length = 2048 := by
    rw [List.length_map, Vector.length_toList]
  have read : (screen.cells.toList.map mark).map (fun mark => mark == '#') =
      screen.cells.toList := by
    rw [List.map_map]
    refine (List.map_congr_left ?_).trans (List.map_id _)
    intro lit _member
    cases lit <;> rfl
  rw [ofMarks?, dif_pos size]
  simp only [read]
  rfl

/-- The text of a screen has a line for each of the thirty-two rows, which ends at the last lit pixel.
With its lines completed by blanks, a text gives back its screen, so no other screen has it. -/
theorem text_lossless (screen : Screen) :
    screen.text = String.ofList ((linesOf screen.text).flatMap fun line => line ++ ['\n']) ∧
      (linesOf screen.text).length = 32 ∧
        (∀ y < 32, ∃ line, (linesOf screen.text)[y]? = some line ∧ screen.LineOf y line) ∧
          (∀ line ∈ linesOf screen.text, (line.rightpad 64 ' ').length = 64) ∧
            ofMarks? ((linesOf screen.text).map (List.rightpad 64 ' ')).flatten = some screen ∧
              ∀ other : Screen, other.text = screen.text → other = screen := by
  have reads : ∀ any : Screen,
      ofMarks? ((linesOf any.text).map (List.rightpad 64 ' ')).flatten = some any := by
    intro any
    have completed : (linesOf any.text).map (List.rightpad 64 ' ') =
        (List.range 32).map fun y => (any.row y).map mark := by
      rw [linesOf_text, List.map_map]
      exact List.map_congr_left fun y _member => any.rightpad_rowMarks y
    rw [completed, flatten_rows, ofMarks?_map_mark]
  refine ⟨?_, ?_, ?_, ?_, reads screen, ?_⟩
  · rw [linesOf_text]
    exact screen.text_eq
  · rw [linesOf_text, List.length_map, List.length_range]
  · intro y inside
    refine ⟨screen.rowMarks y, ?_, screen.lineOf_rowMarks y⟩
    rw [linesOf_text, List.getElem?_map, List.getElem?_range inside, Option.map_some]
  · intro line member
    rw [linesOf_text] at member
    obtain ⟨y, _inside, rfl⟩ := List.mem_map.mp member
    rw [rightpad_rowMarks, List.length_map, length_row]
  · intro other same
    have read := reads other
    rw [same, reads screen] at read
    exact (Option.some.inj read).symm

/-- A row with a gap, a row that reaches the right edge, and dark rows between them, drawn in two
orders. -/
theorem text_lossless_at_edges :
    let screen := ((blank.flip 0 0).flip 2 0).flip 63 31
    let other := ((blank.flip 63 31).flip 2 0).flip 0 0
    other.text = screen.text ∧ other = screen ∧
      (∃ gap, (linesOf screen.text)[0]? = some gap ∧ gap.length = 3 ∧ gap[1]? = some ' ') ∧
        (∃ dark, (linesOf screen.text)[30]? = some dark ∧ dark.length = 0) ∧
          ∃ wide, (linesOf screen.text)[31]? = some wide ∧ wide.length = 64 := by
  intro screen other
  have pixels : ∀ x y, screen.pixel x y =
      (decide (0 = x % 64 ∧ 0 = y % 32) ^^ decide (2 = x % 64 ∧ 0 = y % 32) ^^
        decide (63 = x % 64 ∧ 31 = y % 32)) := by
    intro x y
    simp only [screen, pixel_flip, pixel_blank, Bool.false_xor, Nat.reduceMod]
  have otherPixels : ∀ x y, other.pixel x y = screen.pixel x y := by
    intro x y
    rw [pixels]
    simp only [other, pixel_flip, pixel_blank, Bool.false_xor, Nat.reduceMod]
    exact (by decide : ∀ a b c : Bool, ((c ^^ b) ^^ a) = ((a ^^ b) ^^ c)) _ _ _
  have same : other.text = screen.text := by
    have rows : ∀ y, other.row y = screen.row y := fun y =>
      List.map_congr_left fun x _member => otherPixels x y
    have lines : other.line = screen.line := funext fun y => by rw [line, line, rows]
    rw [text, text, lines]
  obtain ⟨_joined, _count, lines, _completed, _read, unique⟩ := text_lossless screen
  obtain ⟨gap, atGap, gapLine⟩ := lines 0 (by decide)
  obtain ⟨dark, atDark, darkLine⟩ := lines 30 (by decide)
  obtain ⟨wide, atWide, wideLine⟩ := lines 31 (by decide)
  have gapEnd : screen.pixel 2 0 = true ∧ ∀ x < 64, screen.pixel x 0 = true → x ≤ 2 := by
    simp only [pixels]
    decide
  have darkRow : ∀ x < 64, screen.pixel x 30 = false := by
    simp only [pixels]
    decide
  have wideEnd : screen.pixel 63 31 = true := by
    rw [pixels]
    decide
  have gapLength := (gapLine.lit 2).mpr
    ⟨⟨by decide, gapEnd.1⟩, fun x lit => gapEnd.2 x lit.1 lit.2⟩
  have gapBlank := gapLine.marks 1 (by omega)
  rw [pixels] at gapBlank
  have darkLength := darkLine.dark.mpr darkRow
  have wideLength := (wideLine.lit 63).mpr
    ⟨⟨by decide, wideEnd⟩, fun x lit => Nat.le_of_lt_succ lit.1⟩
  exact ⟨same, unique other same, ⟨gap, atGap, gapLength, gapBlank⟩, ⟨dark, atDark, darkLength⟩,
    ⟨wide, atWide, wideLength⟩⟩

end ChipEight.Screen
