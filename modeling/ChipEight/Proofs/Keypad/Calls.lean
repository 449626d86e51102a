import ChipEight.Keypad.Layout
import Mathlib.Data.List.Induction

set_option autoImplicit false

/-!
What a keypad has been through, press by press.

A key is held from a press of it to its next release. The press that can be taken is the latest one of
an existing key, and it lasts until its key is released or it is taken; an older press never comes back
(`afterCalls_of_idle`).
-/

namespace ChipEight.Keypad

inductive Call where
  | press (key : UInt8)
  | release (key : UInt8)
  /-- Take the press that nobody has taken. -/
  | take
deriving DecidableEq

def Call.isReal : Call → Bool
  | .press key | .release key => decide (key ≤ 0xF)
  | .take => true

def call (keypad : Keypad) : Call → Keypad × Option UInt8
  | .press key => (keypad.press key, none)
  | .release key => (keypad.release key, none)
  | .take => (keypad.taken, keypad.pending)

def afterCalls (keypad : Keypad) : List Call → Keypad
  | [] => keypad
  | first :: rest => (keypad.call first).1.afterCalls rest

/-- A key has been pressed, and all calls since then spare it. -/
def PressedSince (calls : List Call) (key : UInt8) (spares : Call → Prop) : Prop :=
  ∃ earlier later, calls = earlier ++ .press key :: later ∧ ∀ call ∈ later, spares call

/-- The call leaves the press of a key to be taken: it is no release of that key, takes no press and
presses no key that exists. -/
def Call.Leaves (key : UInt8) (call : Call) : Prop :=
  call ≠ .release key ∧ call ≠ .take ∧ ∀ other ≤ 0xF, call ≠ .press other

theorem le_iff_toNat_lt (key : UInt8) : key ≤ 0xF ↔ key.toNat < 16 := by
  rw [UInt8.le_iff_toNat_le]
  exact Nat.lt_succ_iff.symm

theorem afterCalls_append (keypad : Keypad) (first second : List Call) :
    keypad.afterCalls (first ++ second) = (keypad.afterCalls first).afterCalls second := by
  induction first generalizing keypad with
  | nil => rfl
  | cons call rest ih => exact ih (keypad.call call).1

/-! ### Presses and what comes after them -/

theorem not_pressedSince_nil (key : UInt8) (spares : Call → Prop) :
    ¬ PressedSince [] key spares := by
  rintro ⟨earlier, later, same, _spared⟩
  exact absurd same.symm (List.append_ne_nil_of_right_ne_nil _ (List.cons_ne_nil _ _))

theorem pressedSince_concat_iff (calls : List Call) (last : Call) (key : UInt8)
    (spares : Call → Prop) :
    PressedSince (calls ++ [last]) key spares ↔
      last = .press key ∨ PressedSince calls key spares ∧ spares last := by
  constructor
  · rintro ⟨earlier, later, same, spared⟩
    -- Either the press is the last call, or the last call comes after it.
    rcases List.eq_nil_or_concat later with rfl | ⟨between, final, rfl⟩
    · exact Or.inl (List.cons.inj (List.append_inj' same rfl).2).1
    · have split : calls ++ [last] = (earlier ++ .press key :: between) ++ [final] := by
        rw [same, List.concat_eq_append, List.append_assoc, List.cons_append]
      rw [List.concat_eq_append] at spared
      obtain ⟨before, atEnd⟩ := List.append_inj' split rfl
      rw [(List.cons.inj atEnd).1]
      refine Or.inr ⟨⟨earlier, between, before, ?_⟩, ?_⟩
      · exact fun call member => spared call (List.mem_append_left _ member)
      · exact spared final (List.mem_append_right _ List.mem_cons_self)
  · rintro (rfl | ⟨⟨earlier, later, rfl, spared⟩, now⟩)
    · exact ⟨calls, [], rfl, fun call member => absurd member List.not_mem_nil⟩
    · refine ⟨earlier, later ++ [last], by rw [List.append_assoc, List.cons_append], ?_⟩
      intro call member
      rcases List.mem_append.mp member with among | atEnd
      · exact spared call among
      · rw [List.mem_singleton.mp atEnd]
        exact now

/-! ### Keys and the press to be taken -/

/-- A key that exists is held from its press to its next release. -/
theorem isHeld_afterCalls_iff (calls : List Call) (key : UInt8) :
    (idle.afterCalls calls).isHeld key = true ↔
      key ≤ 0xF ∧ PressedSince calls key fun call => call ≠ .release key := by
  rw [le_iff_toNat_lt]
  induction calls using List.reverseRecOn with
  | nil =>
      rw [afterCalls, isHeld_idle]
      simp only [Bool.false_eq_true, not_pressedSince_nil, and_false]
  | append_singleton calls last ih =>
      rw [afterCalls_append, pressedSince_concat_iff, and_or_left, ← and_assoc, ← ih]
      cases last with
      | press pressed =>
          simp only [afterCalls, call, isHeld_press, Bool.or_eq_true, decide_eq_true_eq,
            Call.press.injEq, ne_eq, reduceCtorEq, not_false_eq_true, and_true]
          rw [or_comm]
          refine or_congr ?_ Iff.rfl
          constructor
          · rintro ⟨rfl, real⟩
            exact ⟨real, rfl⟩
          · rintro ⟨real, rfl⟩
            exact ⟨rfl, real⟩
      | release released =>
          simp only [afterCalls, call, isHeld_release, Bool.and_eq_true, Bool.not_eq_true',
            decide_eq_false_iff_not, reduceCtorEq, and_false, false_or, ne_eq,
            Call.release.injEq]
      | take =>
          simp only [afterCalls, call, isHeld_taken, reduceCtorEq, and_false, false_or, ne_eq,
            not_false_eq_true, and_true]

theorem leaves_press_iff (key pressed : UInt8) :
    Call.Leaves key (.press pressed) ↔ ¬ pressed.toNat < 16 := by
  rw [← le_iff_toNat_lt]
  constructor
  · exact fun leaves real => leaves.2.2 pressed real rfl
  · refine fun unreal => ⟨Call.noConfusion, Call.noConfusion, ?_⟩
    rintro other real same
    cases same
    exact unreal real

theorem leaves_release_iff (key released : UInt8) :
    Call.Leaves key (.release released) ↔ released ≠ key := by
  simp only [Call.Leaves, ne_eq, Call.release.injEq, reduceCtorEq, not_false_eq_true,
    implies_true, and_true]

theorem not_leaves_take (key : UInt8) : ¬ Call.Leaves key .take :=
  fun leaves => leaves.2.1 rfl

/-- The press to be taken is the latest one of a key that exists, if nothing has undone it. -/
theorem pending_afterCalls_iff (calls : List Call) (key : UInt8) :
    (idle.afterCalls calls).pending = some key ↔
      key ≤ 0xF ∧ PressedSince calls key (Call.Leaves key) := by
  rw [le_iff_toNat_lt]
  induction calls using List.reverseRecOn with
  | nil => simp only [afterCalls, idle, reduceCtorEq, not_pressedSince_nil, and_false]
  | append_singleton calls last ih =>
      have real : (idle.afterCalls calls).pending = some key → key.toNat < 16 :=
        fun pending => (ih.mp pending).1
      rw [afterCalls_append, pressedSince_concat_iff, and_or_left, ← and_assoc, ← ih]
      generalize idle.afterCalls calls = keypad at real ⊢
      cases last with
      | press pressed =>
          rw [afterCalls, afterCalls, call, pending_press, leaves_press_iff, Call.press.injEq]
          by_cases bound : pressed.toNat < 16
          · rw [if_pos bound, Option.some.injEq]
            constructor
            · rintro rfl
              exact Or.inl ⟨bound, rfl⟩
            · rintro (⟨_real, same⟩ | ⟨_pending, absent⟩)
              · exact same
              · exact absurd bound absent
          · rw [if_neg bound]
            constructor
            · exact fun pending => Or.inr ⟨pending, bound⟩
            · rintro (⟨keyBound, rfl⟩ | ⟨pending, _absent⟩)
              · exact absurd keyBound bound
              · exact pending
      | release released =>
          rw [afterCalls, afterCalls, call, pending_release, leaves_release_iff]
          simp only [reduceCtorEq, and_false, false_or]
          constructor
          · intro pending
            split at pending
            · cases pending
            · rename_i otherwise
              refine ⟨pending, ?_⟩
              rintro rfl
              exact otherwise ⟨real pending, pending⟩
          · rintro ⟨pending, different⟩
            rw [if_neg, pending]
            rintro ⟨_real, same⟩
            exact different (Option.some.inj (same.symm.trans pending))
      | take =>
          simp only [afterCalls, call, pending_taken, reduceCtorEq, and_false, false_or,
            not_leaves_take]

theorem isHeld_of_pending (calls : List Call) (key : UInt8)
    (pending : (idle.afterCalls calls).pending = some key) :
    (idle.afterCalls calls).isHeld key = true := by
  obtain ⟨real, earlier, later, same, spared⟩ := (pending_afterCalls_iff calls key).mp pending
  exact (isHeld_afterCalls_iff calls key).mpr
    ⟨real, earlier, later, same, fun call member => (spared call member).1⟩

/-- After a press of a key that exists, an older press is not taken any more. -/
theorem mem_of_pending (earlier later : List Call) (newer key : UInt8) (real : newer ≤ 0xF)
    (pending : (idle.afterCalls (earlier ++ .press newer :: later)).pending = some key) :
    .press key ∈ Call.press newer :: later := by
  obtain ⟨_real, before, behind, same, spared⟩ := (pending_afterCalls_iff _ key).mp pending
  rcases List.append_eq_append_iff.mp same with ⟨between, _first, rest⟩ | ⟨between, _first, rest⟩
  · rw [rest]
    exact List.mem_append_right between List.mem_cons_self
  · cases between with
    | nil =>
        rw [List.nil_append] at rest
        rw [← (List.cons.inj rest).1]
        exact List.mem_cons_self
    | cons _head between =>
        -- The newer press would come after the one that nothing has undone.
        have member : .press newer ∈ behind :=
          (List.cons.inj rest).2 ▸ List.mem_append_right between List.mem_cons_self
        exact absurd rfl ((spared _ member).2.2 newer real)

theorem call_of_unreal (keypad : Keypad) (call : Call) (unreal : call.isReal = false) :
    keypad.call call = (keypad, none) := by
  cases call with
  | press key | release key =>
      have outside : ¬ key.toNat < 16 :=
        mt (le_iff_toNat_lt key).mpr (of_decide_eq_false unreal)
      simp only [Keypad.call, press, release, dif_neg outside]
  | take => cases unreal

theorem afterCalls_filter_isReal (keypad : Keypad) (calls : List Call) :
    keypad.afterCalls (calls.filter Call.isReal) = keypad.afterCalls calls := by
  induction calls generalizing keypad with
  | nil => rfl
  | cons call rest ih =>
      cases real : call.isReal with
      | true =>
          rw [List.filter_cons_of_pos real]
          exact ih _
      | false =>
          rw [List.filter_cons_of_neg (Bool.eq_false_iff.mp real), ih, afterCalls,
            keypad.call_of_unreal call real]

/-- A key that exists is held from a press of it to its next release. The press that a further call
takes is the latest of such a key, if nothing has undone it: its key is held, and it is no older than
any other. Calls that name other keys might as well not have been made. -/
theorem afterCalls_of_idle (calls : List Call) :
    (∀ key, (idle.afterCalls calls).isHeld key = true ↔
      key ≤ 0xF ∧ PressedSince calls key fun call => call ≠ .release key) ∧
      (∀ key, ((idle.afterCalls calls).call .take).2 = some key ↔
        key ≤ 0xF ∧ PressedSince calls key (Call.Leaves key)) ∧
        (∀ key, ((idle.afterCalls calls).call .take).2 = some key →
          (idle.afterCalls calls).isHeld key = true) ∧
          (∀ earlier newer later key, calls = earlier ++ .press newer :: later → newer ≤ 0xF →
            ((idle.afterCalls calls).call .take).2 = some key →
              .press key ∈ Call.press newer :: later) ∧
            idle.afterCalls (calls.filter Call.isReal) = idle.afterCalls calls := by
  refine ⟨isHeld_afterCalls_iff calls, pending_afterCalls_iff calls, isHeld_of_pending calls, ?_,
    idle.afterCalls_filter_isReal calls⟩
  rintro earlier newer later key rfl real pending
  exact mem_of_pending earlier later newer key real pending

/-- The second of two presses is taken, also after the first key has been released and pressed keys that
do not exist have been ignored; the first press is gone. -/
theorem afterCalls_of_idle_after_two_presses :
    let calls : List Call := [.press 2, .press 7, .press 0x17, .release 2, .release 0x27]
    ((idle.afterCalls calls).call .take).2 = some 7 ∧ (idle.afterCalls calls).isHeld 7 = true ∧
      (idle.afterCalls calls).isHeld 2 = false ∧
        .press 7 ∈ Call.press 7 :: [.press 0x17, .release 2, .release 0x27] ∧
          ((idle.afterCalls calls).call .take).2 ≠ some 2 := by
  intro calls
  obtain ⟨_held, _taken, holds, newest, _real⟩ := afterCalls_of_idle calls
  have taken : ((idle.afterCalls calls).call .take).2 = some 7 := by decide
  refine ⟨taken, holds 7 taken, by decide, newest [.press 2] 7 _ 7 rfl (by decide) taken, ?_⟩
  intro older
  exact absurd (newest [.press 2] 7 _ 2 rfl (by decide) older) (by decide)

end ChipEight.Keypad
