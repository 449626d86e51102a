set_option autoImplicit false

/-!
The screen: sixty-four columns and thirty-two rows of pixels that are lit or dark.

Coordinates may be any numbers and wrap around at the edges. `pixel` is the view of a screen: two
screens with the same pixels are equal (`ext_pixel`), and `pixel_flip` and `pixel_blank` say what the
operations do to it. As text, a screen is a line for each row, `#` for a lit pixel and a space for a dark
one, without the dark pixels after the last lit one.

A sprite is a list of bytes, one for each row, with the leftmost pixel in the highest bit. Drawing it
flips the pixels of the set bits; bits past the right edge are not drawn.
-/

namespace ChipEight

structure Screen where
  cells : Vector Bool 2048
deriving DecidableEq

namespace Screen

def place (x y : Nat) : Fin 2048 :=
  ⟨y % 32 * 64 + x % 64, by omega⟩

def blank : Screen :=
  ⟨.replicate 2048 false⟩

def pixel (screen : Screen) (x y : Nat) : Bool :=
  screen.cells[place x y]

def flip (screen : Screen) (x y : Nat) : Screen :=
  ⟨screen.cells.set (place x y) (!screen.cells[place x y])⟩

def lit (screen : Screen) : Nat :=
  screen.cells.count true

def row (screen : Screen) (y : Nat) : List Bool :=
  (List.range 64).map fun x => screen.pixel x y

/-! ### Pixels after each operation -/

theorem place_eq_iff (x y column row : Nat) :
    place x y = place column row ↔ x % 64 = column % 64 ∧ y % 32 = row % 32 := by
  simp only [place, Fin.mk.injEq]
  omega

@[simp] theorem pixel_blank (x y : Nat) : blank.pixel x y = false := by
  simp [pixel, blank]

/-- Flipping changes the pixels at the place, modulo the size of the screen, and no other. -/
theorem pixel_flip (screen : Screen) (x y column row : Nat) :
    (screen.flip x y).pixel column row =
      (screen.pixel column row ^^ decide (x % 64 = column % 64 ∧ y % 32 = row % 32)) := by
  have here := place_eq_iff x y column row
  rw [Fin.ext_iff] at here
  simp only [pixel, flip, Fin.getElem_fin, Vector.getElem_set]
  by_cases same : (place x y).val = (place column row).val
  · simp [same, here.mp same]
  · simp [same, mt here.mpr same]

theorem pixel_mod (screen : Screen) (x y : Nat) :
    screen.pixel (x % 64) (y % 32) = screen.pixel x y := by
  simp [pixel, place]

/-- Screens are told apart by their pixels. -/
theorem ext_pixel {left right : Screen}
    (same : ∀ x y, x < 64 → y < 32 → left.pixel x y = right.pixel x y) : left = right := by
  rcases left with ⟨left⟩
  rcases right with ⟨right⟩
  congr
  ext index bound
  have agree := same (index % 64) (index / 64) (by omega) (by omega)
  have inside : index / 64 % 32 * 64 + index % 64 = index := by omega
  simpa [pixel, place, inside] using agree

/-! ### Text -/

def mark (lit : Bool) : Char :=
  if lit then '#' else ' '

def trimmed (pixels : List Bool) : List Bool :=
  (pixels.reverse.dropWhile fun lit => !lit).reverse

def line (screen : Screen) (y : Nat) : List Char :=
  (trimmed (screen.row y)).map mark ++ ['\n']

def text (screen : Screen) : String :=
  String.ofList ((List.range 32).flatMap screen.line)

def summary (screen : Screen) : String :=
  "FrameBuffer \x7b lit_pixels: " ++ toString screen.lit ++ " \x7d"

end Screen

/-! ### Drawing -/

/-- A screen that is being drawn on, and whether a lit pixel has been turned dark so far. -/
structure Drawing where
  screen : Screen
  collided : Bool
deriving DecidableEq

namespace Drawing

def start (screen : Screen) : Drawing :=
  ⟨screen, false⟩

def flip (drawing : Drawing) (x y : Nat) : Drawing :=
  ⟨drawing.screen.flip x y, drawing.collided || drawing.screen.pixel x y⟩

/-- Whether a byte of a sprite has its bit of a column set, column zero being the leftmost. -/
def covers (bits : UInt8) (column : Nat) : Bool :=
  bits.toNat.testBit (7 - column)

/-- Draws the columns of a byte that lie left of the right edge. -/
def byte (drawing : Drawing) (x y : Nat) (bits : UInt8) : Drawing :=
  (List.range (min 8 (64 - x))).foldl
    (fun drawing column =>
      if covers bits column then drawing.flip (x + column) y else drawing)
    drawing

/-- Draws the bytes of a sprite on one row after the other, from row `y` on. -/
def sprite (drawing : Drawing) (x y : Nat) : List UInt8 → Drawing
  | [] => drawing
  | bits :: rest => (drawing.byte x y bits).sprite x (y + 1) rest

end Drawing

end ChipEight
