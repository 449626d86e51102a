import ChipEight.Notice
import Mathlib.Data.List.Basic

set_option autoImplicit false

/-!
Calls and returns as brackets.

A return answers a call if what lies between them is balanced; a return that finds no call to answer
is skipped. One number tells what a trace asks of the calls before it: how many of its returns answer
none of its own. It is positive exactly if a call right before the trace is answered (`answered_iff`),
and the call that is answered next is the open one that came last (`getLast?_openCalls`).
-/

namespace ChipEight

inductive Bracket where
  | call
  | back
  | other
deriving DecidableEq

def TraceEvent.bracket (event : TraceEvent) : Bracket :=
  match event.instruction with
  | .call _ => .call
  | .leave => .back
  | _ => .other

namespace Calls

inductive Balanced : List TraceEvent → Prop
  | nil : Balanced []
  | other (event : TraceEvent) (rest : List TraceEvent) (kind : event.bracket = .other)
      (balanced : Balanced rest) : Balanced (event :: rest)
  | pair (call back : TraceEvent) (body rest : List TraceEvent) (calls : call.bracket = .call)
      (returns : back.bracket = .back) (inner : Balanced body) (balanced : Balanced rest) :
      Balanced (call :: (body ++ back :: rest))

/-- A call right before these events is answered by one of them. -/
def Answered (later : List TraceEvent) : Prop :=
  ∃ body back rest, later = body ++ back :: rest ∧ back.bracket = .back ∧ Balanced body

/-- A return right after these events answers a call among them. -/
def ReturnsTo (earlier : List TraceEvent) (call : TraceEvent) : Prop :=
  ∃ first body, earlier = first ++ call :: body ∧ call.bracket = .call ∧ Balanced body

def loneReturns : List TraceEvent → Nat
  | [] => 0
  | event :: later =>
      match event.bracket with
      | .call => loneReturns later - 1
      | .back => loneReturns later + 1
      | .other => loneReturns later

section Kinds

variable (event : TraceEvent) (later : List TraceEvent)

theorem loneReturns_call (kind : event.bracket = .call) :
    loneReturns (event :: later) = loneReturns later - 1 := by
  simp only [loneReturns, kind]

theorem loneReturns_back (kind : event.bracket = .back) :
    loneReturns (event :: later) = loneReturns later + 1 := by
  simp only [loneReturns, kind]

theorem loneReturns_other (kind : event.bracket = .other) :
    loneReturns (event :: later) = loneReturns later := by
  simp only [loneReturns, kind]

end Kinds

theorem loneReturns_append_of_balanced (body rest : List TraceEvent) (balanced : Balanced body) :
    loneReturns (body ++ rest) = loneReturns rest := by
  induction balanced generalizing rest with
  | nil => rfl
  | other event _later kind _balanced ih => rw [List.cons_append, loneReturns_other _ _ kind, ih]
  | pair call back _inner _outer calls returns _balanced _rest ihInner ihOuter =>
      rw [List.cons_append, loneReturns_call _ _ calls, List.append_assoc, ihInner,
        List.cons_append, loneReturns_back _ _ returns, ihOuter, Nat.add_sub_cancel]

theorem loneReturns_of_balanced (body : List TraceEvent) (balanced : Balanced body) :
    loneReturns body = 0 := by
  have passed := loneReturns_append_of_balanced body [] balanced
  rw [List.append_nil] at passed
  exact passed

/-- The first lone return stands behind a balanced part. -/
theorem answered_of_loneReturns_pos (later : List TraceEvent) (lone : 0 < loneReturns later) :
    Answered later := by
  match later with
  | [] => exact absurd lone (Nat.lt_irrefl 0)
  | event :: rest =>
      cases kind : event.bracket with
      | back => exact ⟨[], event, rest, rfl, kind, Balanced.nil⟩
      | other =>
          rw [loneReturns_other _ _ kind] at lone
          obtain ⟨body, back, after, rfl, returns, balanced⟩ := answered_of_loneReturns_pos rest lone
          exact ⟨event :: body, back, after, rfl, returns, Balanced.other event body kind balanced⟩
      | call =>
          -- The call takes the first lone return of the rest, so there is a second one behind it.
          rw [loneReturns_call _ _ kind] at lone
          obtain ⟨body, back, after, rfl, returns, inner⟩ :=
            answered_of_loneReturns_pos rest (by omega)
          rw [loneReturns_append_of_balanced _ _ inner, loneReturns_back _ _ returns] at lone
          obtain ⟨outer, second, last, rfl, closes, balanced⟩ :=
            answered_of_loneReturns_pos after lone
          refine ⟨event :: (body ++ back :: outer), second, last, ?_, closes,
            Balanced.pair event back body outer kind returns inner balanced⟩
          simp only [List.cons_append, List.append_assoc]
termination_by later.length

theorem answered_iff (later : List TraceEvent) : Answered later ↔ 0 < loneReturns later := by
  constructor
  · intro answered
    obtain ⟨body, back, rest, rfl, returns, balanced⟩ := answered
    rw [loneReturns_append_of_balanced _ _ balanced, loneReturns_back _ _ returns]
    exact Nat.succ_pos _
  · exact answered_of_loneReturns_pos later

instance : DecidablePred Answered :=
  fun later => decidable_of_iff _ (answered_iff later).symm

/-! ### Open calls -/

/-- The calls that no return answers, in the order in which they were made. -/
def openCalls : List TraceEvent → List TraceEvent
  | [] => []
  | event :: later =>
      if event.bracket = .call ∧ ¬ Answered later then event :: openCalls later
      else openCalls later

section Kinds

variable (event : TraceEvent) (later : List TraceEvent)

theorem openCalls_of_ne (kind : event.bracket ≠ .call) :
    openCalls (event :: later) = openCalls later := by
  rw [openCalls, if_neg fun both => kind both.1]

theorem openCalls_of_answered (answered : Answered later) :
    openCalls (event :: later) = openCalls later := by
  rw [openCalls, if_neg fun both => both.2 answered]

theorem openCalls_of_not_answered (kind : event.bracket = .call) (unanswered : ¬ Answered later) :
    openCalls (event :: later) = event :: openCalls later := by
  rw [openCalls, if_pos ⟨kind, unanswered⟩]

end Kinds

theorem openCalls_append_of_balanced (body rest : List TraceEvent) (balanced : Balanced body) :
    openCalls (body ++ rest) = openCalls rest := by
  induction balanced generalizing rest with
  | nil => rfl
  | other event _later kind _balanced ih =>
      rw [List.cons_append, openCalls_of_ne _ _ (by rw [kind]; decide), ih]
  | pair call back inner outer _calls returns balancedInner _balancedOuter ihInner ihOuter =>
      have answered : Answered (inner ++ back :: (outer ++ rest)) :=
        ⟨inner, back, outer ++ rest, rfl, returns, balancedInner⟩
      rw [List.cons_append, List.append_assoc, List.cons_append, openCalls_of_answered _ _ answered,
        ihInner, openCalls_of_ne _ _ (by rw [returns]; decide), ihOuter]

/-- Events without open calls and lone returns are balanced. -/
theorem balanced_of_openCalls_eq_nil (events : List TraceEvent) (closed : openCalls events = [])
    (noLone : loneReturns events = 0) : Balanced events := by
  match events with
  | [] => exact Balanced.nil
  | event :: rest =>
      cases kind : event.bracket with
      | back =>
          rw [loneReturns_back _ _ kind] at noLone
          exact absurd noLone (Nat.succ_ne_zero _)
      | other =>
          rw [loneReturns_other _ _ kind] at noLone
          rw [openCalls_of_ne _ _ (by rw [kind]; decide)] at closed
          exact Balanced.other event rest kind (balanced_of_openCalls_eq_nil rest closed noLone)
      | call =>
          have answered : Answered rest := by
            by_contra unanswered
            rw [openCalls_of_not_answered _ _ kind unanswered] at closed
            cases closed
          rw [openCalls_of_answered _ _ answered] at closed
          rw [loneReturns_call _ _ kind] at noLone
          obtain ⟨body, back, after, rfl, returns, inner⟩ := answered
          rw [openCalls_append_of_balanced _ _ inner,
            openCalls_of_ne _ _ (by rw [returns]; decide)] at closed
          rw [loneReturns_append_of_balanced _ _ inner, loneReturns_back _ _ returns,
            Nat.add_sub_cancel] at noLone
          exact Balanced.pair event back body after kind returns inner
            (balanced_of_openCalls_eq_nil after closed noLone)
termination_by events.length

theorem openCalls_append (first second : List TraceEvent) :
    ∃ kept, openCalls (first ++ second) = kept ++ openCalls second := by
  induction first with
  | nil => exact ⟨[], rfl⟩
  | cons event later ih =>
      obtain ⟨kept, same⟩ := ih
      by_cases stays : event.bracket = .call ∧ ¬ Answered (later ++ second)
      · refine ⟨event :: kept, ?_⟩
        rw [List.cons_append, openCalls_of_not_answered _ _ stays.1 stays.2, same, List.cons_append]
      · refine ⟨kept, ?_⟩
        rw [List.cons_append, openCalls, if_neg stays, same]

theorem returnsTo_of_getLast? (events : List TraceEvent) (call : TraceEvent)
    (last : (openCalls events).getLast? = some call) : ReturnsTo events call := by
  induction events with
  | nil => cases last
  | cons event later ih =>
      have behind : (openCalls later).getLast? = some call → ReturnsTo (event :: later) call := by
        intro found
        obtain ⟨first, body, rfl, rest⟩ := ih found
        exact ⟨event :: first, body, rfl, rest⟩
      by_cases stays : event.bracket = .call ∧ ¬ Answered later
      · rw [openCalls_of_not_answered _ _ stays.1 stays.2] at last
        cases others : openCalls later with
        | nil =>
            have noLone : loneReturns later = 0 :=
              Nat.eq_zero_of_not_pos fun lone => stays.2 ((answered_iff later).mpr lone)
            rw [others] at last
            cases last
            exact ⟨[], later, rfl, stays.1, balanced_of_openCalls_eq_nil later others noLone⟩
        | cons other open' =>
            rw [others, List.getLast?_cons_cons, ← others] at last
            exact behind last
      · rw [openCalls, if_neg stays] at last
        exact behind last

/-- The call that a return answers is the open one that came last. -/
theorem getLast?_openCalls (events : List TraceEvent) (call : TraceEvent) :
    (openCalls events).getLast? = some call ↔ ReturnsTo events call := by
  constructor
  · exact returnsTo_of_getLast? events call
  · intro returns
    obtain ⟨first, body, rfl, kind, balanced⟩ := returns
    obtain ⟨kept, same⟩ := openCalls_append first (call :: body)
    have unanswered : ¬ Answered body := by
      rw [answered_iff, loneReturns_of_balanced body balanced]
      exact Nat.lt_irrefl 0
    have closed := openCalls_append_of_balanced body [] balanced
    rw [List.append_nil] at closed
    rw [same, openCalls_of_not_answered _ _ kind unanswered, closed, openCalls,
      List.getLast?_concat]

/-! ### One more event -/

theorem loneReturns_concat (events : List TraceEvent) (event : TraceEvent)
    (kind : event.bracket ≠ .back) : loneReturns (events ++ [event]) = loneReturns events := by
  induction events with
  | nil =>
      cases other : event.bracket with
      | call => exact loneReturns_call event [] other
      | back => exact absurd other kind
      | other => exact loneReturns_other event [] other
  | cons first later ih => simp only [List.cons_append, loneReturns, ih]

theorem openCalls_concat (events : List TraceEvent) (event : TraceEvent)
    (kind : event.bracket ≠ .back) :
    openCalls (events ++ [event]) = openCalls events ++ openCalls [event] := by
  induction events with
  | nil => rfl
  | cons first later ih =>
      have same : Answered (later ++ [event]) ↔ Answered later := by
        rw [answered_iff, answered_iff, loneReturns_concat later event kind]
      simp only [List.cons_append, openCalls, same, ih]
      split
      · rfl
      · rfl

theorem openCalls_singleton (event : TraceEvent) (kind : event.bracket = .call) :
    openCalls [event] = [event] := by
  refine openCalls_of_not_answered event [] kind ?_
  rw [answered_iff]
  exact Nat.lt_irrefl 0

/-- A return is a lone one if no call is open. -/
theorem loneReturns_concat_back (events : List TraceEvent) (event : TraceEvent)
    (kind : event.bracket = .back) :
    loneReturns (events ++ [event]) =
      loneReturns events + if openCalls events = [] then 1 else 0 := by
  induction events with
  | nil => exact loneReturns_back event [] kind
  | cons first later ih =>
      rw [List.cons_append]
      cases firstKind : first.bracket with
      | back =>
          rw [openCalls_of_ne _ _ (by rw [firstKind]; decide), loneReturns_back _ _ firstKind,
            loneReturns_back _ _ firstKind, ih, Nat.add_right_comm]
      | other =>
          rw [openCalls_of_ne _ _ (by rw [firstKind]; decide), loneReturns_other _ _ firstKind,
            loneReturns_other _ _ firstKind, ih]
      | call =>
          rw [loneReturns_call _ _ firstKind, loneReturns_call _ _ firstKind, ih]
          by_cases answered : Answered later
          · rw [openCalls_of_answered _ _ answered]
            rw [answered_iff] at answered
            omega
          · rw [openCalls_of_not_answered _ _ firstKind answered, if_neg (List.cons_ne_nil _ _)]
            rw [answered_iff] at answered
            split
            · omega
            · omega

/-- A return closes the call that was opened last. -/
theorem openCalls_concat_back (events : List TraceEvent) (event : TraceEvent)
    (kind : event.bracket = .back) :
    openCalls (events ++ [event]) = (openCalls events).dropLast := by
  induction events with
  | nil => exact openCalls_of_ne event [] (by rw [kind]; decide)
  | cons first later ih =>
      have lone := loneReturns_concat_back later event kind
      rw [List.cons_append]
      by_cases calls : first.bracket = .call
      · by_cases answered : Answered later
        · have still : Answered (later ++ [event]) := by
            rw [answered_iff] at answered ⊢
            omega
          rw [openCalls_of_answered _ _ answered, openCalls_of_answered _ _ still, ih]
        · rw [openCalls_of_not_answered _ _ calls answered]
          rw [answered_iff, Nat.not_lt, Nat.le_zero] at answered
          -- The return reaches the first call only if no call is open behind it.
          by_cases others : openCalls later = []
          · have now : Answered (later ++ [event]) := by
              rw [answered_iff, lone, answered, if_pos others]
              exact Nat.one_pos
            rw [openCalls_of_answered _ _ now, ih, others]
            rfl
          · have still : ¬ Answered (later ++ [event]) := by
              rw [answered_iff, lone, answered, if_neg others]
              exact Nat.lt_irrefl 0
            rw [openCalls_of_not_answered _ _ calls still, ih, List.dropLast_cons_of_ne_nil others]
      · rw [openCalls_of_ne _ _ calls, openCalls_of_ne _ _ calls, ih]

end Calls

end ChipEight
