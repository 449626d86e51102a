import ChipEight.Proofs.Machine.Components
import ChipEight.Proofs.Machine.Loading

set_option autoImplicit false

/-!
The press that a keypad keeps.

A pending key is held, and it comes from the latest press of an existing key: no such press has come
after it, and at every moment since then the key has been pending (`kept_move`).
-/

namespace ChipEight

def Move.key? : Move → Option UInt8
  | .press key => if key.toNat < 16 then some key else none
  | _ => none

def Since (holds : Moment → Prop) (moments : List Moment) (start : Nat) : Prop :=
  ∀ place moment, start ≤ place → moments[place]? = some moment → holds moment

/-- The place of the latest press of a key, no other key having been pressed since. -/
structure LatestPress (moments : List Moment) (press : Nat) (key : UInt8) : Prop where
  pressed : ∃ moment, moments[press]? = some moment ∧ moment.move.key? = some key
  latest : Since (fun moment => moment.move.key? = none) moments (press + 1)

theorem getElem?_concat_of_some {earlier : List Moment} {place : Nat} {found : Moment}
    (moment : Moment) (there : earlier[place]? = some found) :
    (earlier ++ [moment])[place]? = some found := by
  have inside := (List.getElem?_eq_some_iff.mp there).1
  rw [List.getElem?_append_left inside, there]

namespace Since

variable {holds : Moment → Prop} {earlier : List Moment} {start : Nat}

theorem concat (moment : Moment) (since : Since holds earlier start) (now : holds moment) :
    Since holds (earlier ++ [moment]) start := by
  intro place found reached there
  rcases Nat.lt_or_ge place earlier.length with before | behind
  · rw [List.getElem?_append_left before] at there
    exact since place found reached there
  · rw [List.getElem?_append_right behind] at there
    obtain rfl := List.mem_singleton.mp (List.mem_of_getElem? there)
    exact now

theorem past_end (moments : List Moment) : Since holds moments moments.length := by
  intro place found reached there
  have inside := (List.getElem?_eq_some_iff.mp there).1
  exact absurd reached (Nat.not_le.mpr inside)

theorem past_concat (earlier : List Moment) (moment : Moment) :
    Since holds (earlier ++ [moment]) (earlier.length + 1) := by
  have past : Since holds (earlier ++ [moment]) (earlier ++ [moment]).length := past_end _
  rw [List.length_append, List.length_singleton] at past
  exact past

theorem now (earlier : List Moment) (moment : Moment) (now : holds moment) :
    Since holds (earlier ++ [moment]) earlier.length :=
  (past_end earlier).concat moment now

end Since

namespace LatestPress

variable {earlier : List Moment} {press : Nat} {key : UInt8}

theorem concat (moment : Moment) (latestPress : LatestPress earlier press key)
    (noPress : moment.move.key? = none) : LatestPress (earlier ++ [moment]) press key := by
  obtain ⟨⟨found, there, presses⟩, latest⟩ := latestPress
  exact ⟨⟨found, getElem?_concat_of_some moment there, presses⟩, latest.concat moment noPress⟩

theorem now (earlier : List Moment) (moment : Moment) (presses : moment.move.key? = some key) :
    LatestPress (earlier ++ [moment]) earlier.length key :=
  ⟨⟨moment, List.getElem?_concat_length, presses⟩, Since.past_concat earlier moment⟩

theorem lt_length (latestPress : LatestPress earlier press key) : press < earlier.length := by
  obtain ⟨found, there, _presses⟩ := latestPress.pressed
  exact (List.getElem?_eq_some_iff.mp there).1

theorem not_lt {other : Nat} {otherKey : UInt8} (latestPress : LatestPress earlier press key)
    (otherPress : LatestPress earlier other otherKey) : ¬ press < other := by
  intro before
  obtain ⟨found, there, presses⟩ := otherPress.pressed
  have impossible := presses.symm.trans (latestPress.latest other found before there)
  cases impossible

theorem unique {other : Nat} {otherKey : UInt8} (latestPress : LatestPress earlier press key)
    (otherPress : LatestPress earlier other otherKey) : press = other :=
  Nat.le_antisymm (Nat.not_lt.mp (otherPress.not_lt latestPress))
    (Nat.not_lt.mp (latestPress.not_lt otherPress))

end LatestPress

/-! ### What moves do to the keypad -/

namespace Keypad

theorem lt_of_isHeld (keypad : Keypad) (key : UInt8) (held : keypad.isHeld key = true) :
    key.toNat < 16 := by
  by_contra outside
  rw [isHeld, dif_neg outside] at held
  cases held

/-- A key is still pending and as much held as before. -/
def Keeps (before after : Keypad) (key : UInt8) : Prop :=
  before.pending = some key ∧ (before.isHeld key = true → after.isHeld key = true)

theorem keeps_of_pending (keypad : Keypad) (key : UInt8) (pending : keypad.pending = some key) :
    keypad.Keeps keypad key :=
  ⟨pending, id⟩

theorem keeps_release (keypad : Keypad) (released key : UInt8)
    (pending : (keypad.release released).pending = some key) :
    keypad.Keeps (keypad.release released) key := by
  rw [pending_release] at pending
  split at pending
  · cases pending
  · rename_i otherwise
    refine ⟨pending, ?_⟩
    intro held
    have different : released ≠ key := by
      intro same
      subst same
      exact otherwise ⟨keypad.lt_of_isHeld released held, pending⟩
    rw [isHeld_release, held, decide_eq_false different]
    rfl

end Keypad

namespace Machine

theorem keypad_deliverKey (machine : Machine) (x : UInt8) :
    (machine.deliverKey x).machine.keypad = machine.keypad.taken := by
  unfold deliverKey
  split
  · rfl
  · rename_i idle
    rw [Keypad.taken, ← idle]

theorem keeps_cycle (machine : Machine) (key : UInt8)
    (pending : machine.cycle.machine.keypad.pending = some key) :
    machine.keypad.Keeps machine.cycle.machine.keypad key := by
  have course := machine.course_cycle
  generalize machine.cycle = step at course pending ⊢
  cases course with
  | waiting x _waits =>
      rw [keypad_deliverKey] at pending
      cases pending
  | unfetched _fault _free _failed => exact machine.keypad.keeps_of_pending key pending
  | unknown _word _free _fetched _unknown => exact machine.keypad.keeps_of_pending key pending
  | known word instruction _free _fetched _known =>
      simp only [Step.announcing, keypad_execute] at pending ⊢
      cases instruction with
      | awaitKey x => cases pending
      | _ => exact machine.keypad.keeps_of_pending key pending

/-- A key that is pending after a move has just been pressed, or it was pending before and is as much
held as it was. -/
theorem pending_move (machine : Machine) (move : Move) (undirected : move.Undirected) (key : UInt8)
    (pending : (machine.move move).machine.keypad.pending = some key) :
    (move.key? = some key ∧ (machine.move move).machine.keypad.isHeld key = true) ∨
      (move.key? = none ∧ machine.keypad.Keeps (machine.move move).machine.keypad key) := by
  cases move with
  | cycle => exact Or.inr ⟨rfl, machine.keeps_cycle key pending⟩
  | execute instruction => exact undirected.elim
  | press pressed =>
      have after : (machine.move (.press pressed)).machine.keypad = machine.keypad.press pressed := rfl
      rw [after] at pending ⊢
      by_cases real : pressed.toNat < 16
      · rw [Keypad.pending_press, if_pos real] at pending
        cases pending
        refine Or.inl ⟨if_pos real, ?_⟩
        simp [Keypad.isHeld_press, real]
      · have same : machine.keypad.press pressed = machine.keypad := dif_neg real
        rw [same] at pending ⊢
        exact Or.inr ⟨if_neg real, machine.keypad.keeps_of_pending key pending⟩
  | release released => exact Or.inr ⟨rfl, machine.keypad.keeps_release released key pending⟩
  | takeKey => cases pending
  | countDown | clearScreen | flip x y =>
      exact Or.inr ⟨rfl, machine.keypad.keeps_of_pending key pending⟩

/-! ### Sessions -/

/-- A pending key is held, and it has been pending since the latest press. -/
def Kept (earlier : List Moment) (machine : Machine) : Prop :=
  ∀ key, machine.keypad.pending = some key →
    machine.keypad.isHeld key = true ∧
      ∃ press, LatestPress earlier press key ∧
        Since (fun moment => moment.after.keypad.pending = some key) earlier press

/-- The pending press came after every moment that left no press pending. -/
theorem lt_press_of_kept {earlier : List Moment} {machine : Machine} {place press : Nat}
    {moment : Moment} {key other : UInt8} (kept : Kept earlier machine)
    (pending : machine.keypad.pending = some key) (there : earlier[place]? = some moment)
    (taken : moment.after.keypad.pending = none) (latestPress : LatestPress earlier press other) :
    place < press := by
  obtain ⟨_held, start, latestStart, since⟩ := kept key pending
  rw [latestPress.unique latestStart]
  by_contra early
  have still := since place moment (Nat.not_lt.mp early) there
  exact absurd (taken.symm.trans still) (Option.some_ne_none key).symm

theorem kept_booted (config : Config) (image : List UInt8) (random : RandomSource) :
    Kept [] (booted config image .idle random) := by
  intro key pending
  cases pending

theorem kept_move (earlier : List Moment) (before : Machine) (move : Move)
    (undirected : move.Undirected) (kept : Kept earlier before) :
    Kept (earlier ++ [⟨before, move⟩]) (before.move move).machine := by
  intro key pending
  rcases before.pending_move move undirected key pending with
    ⟨presses, held⟩ | ⟨noPress, same, holds⟩
  · exact ⟨held, earlier.length, LatestPress.now earlier _ presses, Since.now earlier _ pending⟩
  · obtain ⟨held, press, latestPress, since⟩ := kept key same
    exact ⟨holds held, press, latestPress.concat _ noPress, since.concat _ pending⟩

end Machine

end ChipEight
