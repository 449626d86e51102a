import ChipEight.Config
import Mathlib.Algebra.Group.Nat.Defs

set_option autoImplicit false

/-!
Arrays, numbers and loops under check.

An operation ends in a trap where an index leaves its array or a result leaves its width, and each has a
lemma that says when it has a result. A loop goes over a list of counters, may be left early, and keeps how
many turns it has completed. Counters below an end fit where the end does; only counting through a last one
takes care not to go on from there (`countThrough_eq`).
-/

namespace ChipEight

/-- What stops a program that leaves an array or the width of a number. -/
inductive Trap where
  | index (place length : Nat)
  | slice (start stop length : Nat)
  /-- A block that goes to a part of another length. -/
  | copy (length size : Nat)
  | sum (bits left right : Nat)
  | product (bits left right : Nat)
  /-- A shift by as many bits as there are, or more. -/
  | shift (bits amount : Nat)
  | division
deriving DecidableEq, Repr

namespace Checked

@[simp] theorem ok_bind {Value Result : Type} (value : Value) (next : Value → Except Trap Result) :
    (Except.ok value >>= next) = next value := rfl

@[simp] theorem pure_eq_ok {Value : Type} (value : Value) :
    (pure value : Except Trap Value) = .ok value := rfl

/-! ### Arrays -/

section Arrays

variable {Content : Type} {length : Nat}

def within (length place : Nat) : Except Trap Nat :=
  if place < length then .ok place else .error (.index place length)

def entry (array : Vector Content length) (place : Nat) : Except Trap Content :=
  if inside : place < length then .ok array[place] else .error (.index place length)

def withEntry (array : Vector Content length) (place : Nat) (content : Content) :
    Except Trap (Vector Content length) :=
  if inside : place < length then .ok (array.set place content) else .error (.index place length)

theorem within_of_lt {length place : Nat} (inside : place < length) :
    within length place = .ok place :=
  if_pos inside

theorem entry_of_lt (array : Vector Content length) {place : Nat} (inside : place < length) :
    entry array place = .ok array[place] :=
  dif_pos inside

theorem withEntry_of_lt (array : Vector Content length) {place : Nat} (content : Content)
    (inside : place < length) : withEntry array place content = .ok (array.set place content) :=
  dif_pos inside

end Arrays

/-! ### Numbers -/

def sum (bits left right : Nat) : Except Trap Nat :=
  if left + right < 2 ^ bits then .ok (left + right) else .error (.sum bits left right)

def product (bits left right : Nat) : Except Trap Nat :=
  if left * right < 2 ^ bits then .ok (left * right) else .error (.product bits left right)

def shiftedRight (bits number amount : Nat) : Except Trap Nat :=
  if amount < bits then .ok (number >>> amount) else .error (.shift bits amount)

def shiftedLeft (bits number amount : Nat) : Except Trap Nat :=
  if amount < bits then .ok (number <<< amount % 2 ^ bits) else .error (.shift bits amount)

theorem sum_of_lt {bits left right : Nat} (fits : left + right < 2 ^ bits) :
    sum bits left right = .ok (left + right) :=
  if_pos fits

theorem product_of_lt {bits left right : Nat} (fits : left * right < 2 ^ bits) :
    product bits left right = .ok (left * right) :=
  if_pos fits

theorem shiftedRight_of_lt {bits amount : Nat} (number : Nat) (inside : amount < bits) :
    shiftedRight bits number amount = .ok (number >>> amount) :=
  if_pos inside

theorem shiftedLeft_of_lt {bits amount : Nat} (number : Nat) (inside : amount < bits) :
    shiftedLeft bits number amount = .ok (number <<< amount % 2 ^ bits) :=
  if_pos inside

section Division

variable {Number : Type} [OfNat Number 0] [DecidableEq Number]

def quotient [Div Number] (number divisor : Number) : Except Trap Number :=
  if divisor = 0 then .error .division else .ok (number / divisor)

def remainder [Mod Number] (number divisor : Number) : Except Trap Number :=
  if divisor = 0 then .error .division else .ok (number % divisor)

theorem remainder_of_ne [Mod Number] {divisor : Number} (number : Number)
    (nonzero : divisor ≠ 0) : remainder number divisor = .ok (number % divisor) :=
  if_neg nonzero

end Division

/-! ### Loops -/

inductive Turn (State : Type) where
  | next (state : State)
  | leave
  | fail (fault : Fault)

def Turn.ofResult {State : Type} : Except Fault State → Turn State
  | .error fault => .fail fault
  | .ok state => .next state

structure Loop (State : Type) where
  state : State
  completed : Nat := 0
  fault : Option Fault := none

section Loops

variable {State Counter : Type}

def Loop.behindTurn (loop : Loop State) : Loop State :=
  { loop with completed := loop.completed + 1 }

/-- Takes a turn for each counter, up to the first that leaves the loop or fails. -/
def repeated (turn : State → Counter → Except Trap (Turn State)) :
    List Counter → State → Except Trap (Loop State)
  | [], state => return { state }
  | counter :: rest, state => do
      match ← turn state counter with
      | .next state => return (← repeated turn rest state).behindTurn
      | .leave => return { state }
      | .fail fault => return { state, fault := some fault }

variable (turn : State → Counter → Except Trap (Turn State)) (counter : Counter)
  (rest : List Counter) (state : State)

theorem repeated_of_next (after : State) (loop : Loop State)
    (goesOn : turn state counter = .ok (.next after)) (remains : repeated turn rest after = .ok loop) :
    repeated turn (counter :: rest) state = .ok loop.behindTurn := by
  rw [repeated, goesOn, ok_bind]
  simp only [remains, ok_bind, pure_eq_ok]

theorem repeated_of_leave (left : turn state counter = .ok .leave) :
    repeated turn (counter :: rest) state = .ok { state } := by
  rw [repeated, left]
  rfl

theorem repeated_of_fail (fault : Fault) (failed : turn state counter = .ok (.fail fault)) :
    repeated turn (counter :: rest) state = .ok { state, fault := some fault } := by
  rw [repeated, failed]
  rfl

/-- The loop meets no trap, and it completes so many turns if no fault ends it. -/
def Completes (turns : Nat) (loop : Except Trap (Loop State)) : Prop :=
  ∃ outcome, loop = .ok outcome ∧ outcome.completed ≤ turns ∧
    (outcome.completed = turns ↔ outcome.fault = none)

end Loops

/-! ### A counter of eight bits -/

theorem sum_one_of_lt (first last : UInt8) (below : first < last) :
    sum 8 first.toNat 1 = .ok (first.toNat + 1) ∧
      (UInt8.ofNat (first.toNat + 1)).toNat = first.toNat + 1 := by
  have bound := last.toNat_lt
  have order : first.toNat < last.toNat := UInt8.lt_iff_toNat_lt.mp below
  exact ⟨sum_of_lt (by omega), UInt8.toNat_ofNat_of_lt' (by rw [UInt8.size]; omega)⟩

/-- The counters of a loop from `first` through `last`. The counter goes up while it is below `last` only:
one past the last need not be a byte. -/
def countThrough (first last : UInt8) : Except Trap (List UInt8) :=
  if last < first then .ok []
  else if first < last then
    match _ : sum 8 first.toNat 1 with
    | .error trap => .error trap
    | .ok next => (countThrough (UInt8.ofNat next) last).map fun rest => first :: rest
  else .ok [first]
termination_by last.toNat - first.toNat
decreasing_by
  -- the sum of a byte below the last and one is the next byte, so the distance to the last shrinks
  have below : first < last := by assumption
  have fits : sum 8 first.toNat 1 = .ok next := by assumption
  obtain ⟨sum, value⟩ := sum_one_of_lt first last below
  have same : next = first.toNat + 1 := Except.ok.inj (fits.symm.trans sum)
  have order : first.toNat < last.toNat := UInt8.lt_iff_toNat_lt.mp below
  rw [same, value]
  omega

/-- The counter takes every value once, and never leaves its eight bits. -/
theorem countThrough_eq (first last : UInt8) :
    countThrough first last =
      .ok ((List.range' first.toNat (last.toNat + 1 - first.toNat)).map UInt8.ofNat) := by
  fun_induction countThrough first last with
  | case1 first above =>
      have order : last.toNat < first.toNat := UInt8.lt_iff_toNat_lt.mp above
      have none : last.toNat + 1 - first.toNat = 0 := by omega
      rw [none]
      rfl
  | case2 first _ below trap failed =>
      rw [(sum_one_of_lt first last below).1] at failed
      cases failed
  | case3 first _ below next fits ih =>
      obtain ⟨sum, value⟩ := sum_one_of_lt first last below
      have order : first.toNat < last.toNat := UInt8.lt_iff_toNat_lt.mp below
      obtain rfl : next = first.toNat + 1 := Except.ok.inj (fits.symm.trans sum)
      have more : last.toNat + 1 - first.toNat = last.toNat + 1 - (first.toNat + 1) + 1 := by omega
      rw [ih, value, more, List.range'_succ, List.map_cons, UInt8.ofNat_toNat]
      rfl
  | case4 first notAbove notBelow =>
      have upper : ¬ last.toNat < first.toNat := mt UInt8.lt_iff_toNat_lt.mpr notAbove
      have lower : ¬ first.toNat < last.toNat := mt UInt8.lt_iff_toNat_lt.mpr notBelow
      have one : last.toNat + 1 - first.toNat = 1 := by omega
      rw [one, List.range'_one, List.map_singleton, UInt8.ofNat_toNat]

/-- There is nothing to count on to from the highest byte. -/
example : sum 8 255 1 = .error (.sum 8 255 1) := rfl

end Checked

end ChipEight
