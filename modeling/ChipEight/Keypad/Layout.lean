set_option autoImplicit false

/-!
The keypad: sixteen keys, each held or not, and a press that nobody has taken yet.

Only the last press is kept. Letting go of a key drops its own press if that is the one kept, and
leaves the press of another key alone. Keys above fifteen do not exist and are ignored.

The left four columns of the upper four rows of the host's keyboard are laid out as the keypad, row
after row.
-/

namespace ChipEight

structure Keypad where
  held : Vector Bool 16
  pending : Option UInt8
deriving DecidableEq

namespace Keypad

def idle : Keypad :=
  ⟨.replicate 16 false, none⟩

def isHeld (keypad : Keypad) (key : UInt8) : Bool :=
  if bound : key.toNat < 16 then keypad.held[key.toNat] else false

/-- Holds a key down, and keeps the press for whoever waits for a key. -/
def press (keypad : Keypad) (key : UInt8) : Keypad :=
  if bound : key.toNat < 16 then
    ⟨keypad.held.set key.toNat true, some key⟩
  else keypad

def release (keypad : Keypad) (key : UInt8) : Keypad :=
  if bound : key.toNat < 16 then
    ⟨keypad.held.set key.toNat false,
      if keypad.pending = some key then none else keypad.pending⟩
  else keypad

def taken (keypad : Keypad) : Keypad :=
  { keypad with pending := none }

def heldKeys (keypad : Keypad) : List UInt8 :=
  ((List.range 16).map UInt8.ofNat).filter keypad.isHeld

/-! ### Held keys and the press after each operation -/

@[simp] theorem isHeld_idle (key : UInt8) : idle.isHeld key = false := by
  simp [isHeld, idle]

@[simp] theorem isHeld_taken (keypad : Keypad) (key : UInt8) :
    keypad.taken.isHeld key = keypad.isHeld key := rfl

private theorem isHeld_of_outside (keypad : Keypad) (key : UInt8) (outside : ¬ key.toNat < 16) :
    keypad.isHeld key = false :=
  dif_neg outside

theorem isHeld_press (keypad : Keypad) (key other : UInt8) :
    (keypad.press key).isHeld other =
      (keypad.isHeld other || decide (key = other ∧ key.toNat < 16)) := by
  by_cases bound : key.toNat < 16
  · by_cases otherBound : other.toNat < 16
    · by_cases same : key = other
      · subst same
        simp [isHeld, press, bound]
      · have different : key.toNat ≠ other.toNat := fun equal => same (UInt8.toNat_inj.mp equal)
        simp [isHeld, press, bound, otherBound, same, different]
    · have different : key ≠ other := fun same => otherBound (same ▸ bound)
      simp [isHeld_of_outside _ other otherBound, different]
  · rw [press, dif_neg bound]
    simp only [bound, and_false, decide_false, Bool.or_false]

theorem isHeld_release (keypad : Keypad) (key other : UInt8) :
    (keypad.release key).isHeld other =
      (keypad.isHeld other && !decide (key = other)) := by
  by_cases bound : key.toNat < 16
  · by_cases otherBound : other.toNat < 16
    · by_cases same : key = other
      · subst same
        simp [isHeld, release, bound]
      · have different : key.toNat ≠ other.toNat := fun equal => same (UInt8.toNat_inj.mp equal)
        simp [isHeld, release, bound, otherBound, same, different]
    · simp [isHeld_of_outside _ other otherBound]
  · rw [release, dif_neg bound]
    by_cases same : key = other
    · subst same
      simp [isHeld_of_outside _ key bound]
    · simp [same]

theorem pending_press (keypad : Keypad) (key : UInt8) :
    (keypad.press key).pending = if key.toNat < 16 then some key else keypad.pending := by
  by_cases bound : key.toNat < 16
  · simp only [press, dif_pos bound, if_pos bound]
  · simp only [press, dif_neg bound, if_neg bound]

theorem pending_release (keypad : Keypad) (key : UInt8) :
    (keypad.release key).pending =
      if key.toNat < 16 ∧ keypad.pending = some key then none else keypad.pending := by
  by_cases bound : key.toNat < 16
  · rw [release, dif_pos bound]
    simp only [bound, true_and]
  · rw [release, dif_neg bound, if_neg fun both => bound both.1]

@[simp] theorem pending_taken (keypad : Keypad) : keypad.taken.pending = none := rfl

/-! ### The keyboard of the host -/

/-- The names of the host's keys, in the order of the keys that they stand for. -/
def layout : List String :=
  ["Num1", "Num2", "Num3", "Num4",
    "Q", "W", "E", "R",
    "A", "S", "D", "F",
    "Z", "X", "C", "V"]

def ofHostKey? (name : String) : Option UInt8 :=
  (layout.idxOf? name).map UInt8.ofNat

end Keypad

end ChipEight
