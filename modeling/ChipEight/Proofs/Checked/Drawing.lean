import ChipEight.Machine.Basic
import ChipEight.Proofs.Checked.Storage
import Mathlib.Data.Nat.Bitwise

set_option autoImplicit false

/-!
Drawing under check.

A sprite is drawn by a loop over its rows, and a row by a loop over its bits; both are left at the edge of
the screen, so they draw what lies on it (`repeated_rowTurn`). A bit is looked at through a mask, which is
shifted by fewer than eight bits.
-/

namespace ChipEight.Checked

/-! ### Bits of a row -/

def bitTurn (x y : Nat) (bits : UInt8) (drawing : Drawing) (bit : Nat) :
    Except Trap (Turn Drawing) := do
  let column ← sum 64 x bit
  if 64 ≤ column then return .leave
  else if bits.toNat &&& (← shiftedRight 8 0x80 bit) = 0 then return .next drawing
  else return .next (← flip drawing column y)

/-- A mask finds the bit of a column. -/
theorem and_mask_eq_zero_iff (bits : UInt8) (bit : Nat) (narrow : bit < 8) :
    bits.toNat &&& 0x80 >>> bit = 0 ↔ Drawing.covers bits bit = false := by
  have mask : 0x80 >>> bit = 2 ^ (7 - bit) := by
    rw [Nat.shiftRight_eq_div_pow]
    exact Nat.pow_div (Nat.le_of_lt_succ narrow) Nat.two_pos
  rw [mask, Nat.and_two_pow, Nat.mul_eq_zero, Bool.toNat_eq_zero, Drawing.covers]
  exact or_iff_left (Nat.two_pow_pos _).ne'

theorem bitTurn_of_lt (x y : Nat) (bits : UInt8) (drawing : Drawing) (bit : Nat) (narrow : bit < 8)
    (inside : x + bit < 64) :
    bitTurn x y bits drawing bit =
      .ok (.next (if Drawing.covers bits bit then drawing.flip (x + bit) y else drawing)) := by
  rw [bitTurn, sum_of_lt (by omega), ok_bind, if_neg (Nat.not_le.mpr inside),
    shiftedRight_of_lt _ narrow]
  simp only [ok_bind, and_mask_eq_zero_iff bits bit narrow]
  cases Drawing.covers bits bit with
  | false => rfl
  | true =>
      simp only [flip_eq, ok_bind]
      rfl

theorem bitTurn_of_le (x y : Nat) (bits : UInt8) (drawing : Drawing) (bit : Nat)
    (xBound : x < 256) (narrow : bit < 8) (outside : 64 ≤ x + bit) :
    bitTurn x y bits drawing bit = .ok .leave := by
  rw [bitTurn, sum_of_lt (by omega), ok_bind, if_pos outside]
  rfl

/-- The columns from one on, up to the right edge. -/
theorem repeated_bitTurn (x y : Nat) (bits : UInt8) (xBound : x < 256) (first count : Nat)
    (narrow : first + count ≤ 8) (drawing : Drawing) :
    repeated (bitTurn x y bits) (List.range' first count) drawing =
      .ok
        { state := (List.range' first (min count (64 - (x + first)))).foldl
            (fun drawing column =>
              if Drawing.covers bits column then drawing.flip (x + column) y else drawing)
            drawing
          completed := min count (64 - (x + first)) } := by
  induction count generalizing first drawing with
  | zero => rw [Nat.zero_min]; rfl
  | succ count ih =>
      rw [List.range'_succ]
      by_cases inside : x + first < 64
      · have turn := bitTurn_of_lt x y bits drawing first (by omega) inside
        have more : min (count + 1) (64 - (x + first)) =
            min count (64 - (x + (first + 1))) + 1 := by omega
        rw [repeated_of_next _ _ _ _ _ _ turn (ih (first + 1) (by omega) _), more,
          List.range'_succ]
        rfl
      · have outside := Nat.not_lt.mp inside
        have turn := bitTurn_of_le x y bits drawing first xBound (by omega) outside
        rw [repeated_of_leave _ _ _ _ turn, Nat.sub_eq_zero_of_le outside, Nat.min_zero]
        rfl

/-- A loop over the bits of a byte draws the byte. -/
theorem repeated_bitTurn_range (x y : Nat) (bits : UInt8) (xBound : x < 256) (drawing : Drawing) :
    repeated (bitTurn x y bits) (List.range 8) drawing =
      .ok { state := drawing.byte x y bits, completed := min 8 (64 - x) } := by
  rw [List.range_eq_range', repeated_bitTurn x y bits xBound 0 8 (by decide), ← List.range_eq_range']
  rfl

/-! ### Rows of a sprite -/

def rowTurn (memory : Memory) (policy : AddressPolicy) (index : UInt16) (x y : Nat)
    (drawing : Drawing) (row : Nat) : Except Trap (Turn Drawing) := do
  let line ← sum 64 y row
  if 32 ≤ line then return .leave
  else
    let address ← sum 64 index.toNat row
    match ← read memory policy address with
    | .error fault => return .fail fault
    | .ok bits => return .next (← repeated (bitTurn x line bits) (List.range 8) drawing).state

theorem rowTurn_of_lt (memory : Memory) (policy : AddressPolicy) (index : UInt16) (x y : Nat)
    (drawing : Drawing) (row : Nat) (xBound : x < 256) (inside : y + row < 32) :
    rowTurn memory policy index x y drawing row =
      .ok (.ofResult ((memory.read policy (index.toNat + row)).map (drawing.byte x (y + row)))) := by
  have bound := index.toNat_lt
  rw [rowTurn, sum_of_lt (by omega), ok_bind, if_neg (Nat.not_le.mpr inside), sum_of_lt (by omega),
    ok_bind, read_eq, ok_bind]
  cases memory.read policy (index.toNat + row) with
  | error fault => rfl
  | ok bits =>
      simp only [repeated_bitTurn_range x _ bits xBound, ok_bind]
      rfl

theorem rowTurn_of_le (memory : Memory) (policy : AddressPolicy) (index : UInt16) (x y : Nat)
    (drawing : Drawing) (row : Nat) (yBound : y < 256) (narrow : row < 256)
    (outside : 32 ≤ y + row) :
    rowTurn memory policy index x y drawing row = .ok .leave := by
  rw [rowTurn, sum_of_lt (by omega), ok_bind, if_pos outside]
  rfl

/-- The rows from one on, up to the bottom edge or the first that cannot be read. -/
theorem repeated_rowTurn (memory : Memory) (policy : AddressPolicy) (index : UInt16) (x y : Nat)
    (xBound : x < 256) (yBound : y < 256) (first count : Nat) (narrow : first + count ≤ 256)
    (drawing : Drawing) :
    repeated (rowTurn memory policy index x y) (List.range' first count) drawing =
      let sprite := memory.readRun policy (index.toNat + first) (min count (32 - (y + first)))
      .ok
        { state := drawing.sprite x (y + first) sprite.1
          completed := sprite.1.length
          fault := sprite.2 } := by
  induction count generalizing first drawing with
  | zero => rw [Nat.zero_min]; rfl
  | succ count ih =>
      -- a row on the screen is the first that the run of reads comes to, and it has none below the edge
      rw [List.range'_succ]
      by_cases inside : y + first < 32
      · have turn := rowTurn_of_lt memory policy index x y drawing first xBound inside
        have more : min (count + 1) (32 - (y + first)) =
            min count (32 - (y + (first + 1))) + 1 := by omega
        rw [more, Memory.readRun]
        cases found : memory.read policy (index.toNat + first) with
        | error fault =>
            rw [found] at turn
            rw [repeated_of_fail _ _ _ _ _ turn]
            rfl
        | ok bits =>
            rw [found] at turn
            rw [repeated_of_next _ _ _ _ _ _ turn (ih (first + 1) (by omega) _)]
            rfl
      · have outside := Nat.not_lt.mp inside
        have turn := rowTurn_of_le memory policy index x y drawing first yBound (by omega) outside
        rw [repeated_of_leave _ _ _ _ turn, Nat.sub_eq_zero_of_le outside, Nat.min_zero]
        rfl

def drawRows (machine : Machine) (x y rows : UInt8) : Except Trap (Loop Drawing) :=
  repeated
    (rowTurn machine.cpu.memory machine.config.addressPolicy machine.cpu.index x.toNat y.toNat)
    (List.range rows.toNat) (Drawing.start machine.screen)

theorem drawRows_eq (machine : Machine) (x y rows : UInt8) :
    drawRows machine x y rows =
      let sprite := machine.cpu.memory.readRun machine.config.addressPolicy
        machine.cpu.index.toNat (min rows.toNat (32 - y.toNat))
      .ok
        { state := (Drawing.start machine.screen).sprite x.toNat y.toNat sprite.1
          completed := sprite.1.length
          fault := sprite.2 } := by
  have bound := rows.toNat_lt
  rw [drawRows, List.range_eq_range']
  exact repeated_rowTurn _ _ _ _ _ x.toNat_lt y.toNat_lt 0 rows.toNat (by omega) _

end ChipEight.Checked
