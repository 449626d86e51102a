import ChipEight.Machine.Headless
import ChipEight.Proofs.Machine.Histories
import ChipEight.Proofs.Machine.Loading

set_option autoImplicit false

/-!
Runs without a window, one after the other.

A run that is interrupted after a frame and taken up again ends as if it had not been interrupted, but
for the frames that a stop counts (`headless_add`). What a stop tells is compared with a session of
frames, each of them run whatever the fault of the one before.
-/

namespace ChipEight

/-- The same stop in a run that had so many frames behind it. -/
def Stop.delayed (frames : Nat) (stop : Stop) : Stop :=
  { stop with frame := frames + stop.frame }

namespace Machine

variable (machine : Machine)

/-! ### Frames in a session -/

theorem session_frames_succ (count : Nat) :
    machine.session (List.replicate (count + 1) .frame) =
      machine.session (List.replicate count .frame) ++
        [(machine.afterSession (List.replicate count .frame)).frame] := by
  rw [List.replicate_succ', session_append]
  rfl

theorem afterSession_frames_succ (count : Nat) :
    machine.afterSession (List.replicate (count + 1) .frame) =
      (machine.afterSession (List.replicate count .frame)).frame.machine := by
  rw [List.replicate_succ', afterSession_append]
  rfl

theorem frames_succ_of_going (count : Nat) (going : (machine.frames count).fault = none) :
    machine.frames (count + 1) =
      (machine.frames count).push (machine.frames count).machine.frame :=
  Run.extend_succ_of_going frame count { machine } going

theorem frames_of_going (count : Nat) (going : (machine.frames count).fault = none) :
    (machine.frames count).machine = machine.afterSession (List.replicate count .frame) ∧
      (machine.frames count).notices.toList =
          (machine.session (List.replicate count .frame)).flatMap Step.notices ∧
        ∀ step ∈ machine.session (List.replicate count .frame), step.fault = none := by
  induction count with
  | zero =>
      refine ⟨rfl, rfl, ?_⟩
      intro step member
      cases member
  | succ count ih =>
      have before := Run.going_of_extend_succ frame count { machine } going
      obtain ⟨reached, notices, whole⟩ := ih before
      rw [machine.frames_succ_of_going count before, reached] at going ⊢
      rw [session_frames_succ, afterSession_frames_succ]
      refine ⟨rfl, ?_, ?_⟩
      · rw [List.flatMap_append, ← notices, List.flatMap_singleton]
        exact Array.toList_appendList
      · intro step member
        rcases List.mem_append.mp member with earlier | new
        · exact whole step earlier
        · rw [List.mem_singleton.mp new]
          exact going

theorem exists_last_frame (count : Nat) (fault : Fault)
    (stopped : (machine.frames count).fault = some fault) :
    ∃ done < count, (machine.frames done).fault = none ∧
      (machine.frames done).machine.frame.fault = some fault ∧
        machine.frames count = (machine.frames done).push (machine.frames done).machine.frame :=
  Run.exists_last_step frame count { machine } rfl fault stopped

theorem completed_frames (count : Nat) (going : (machine.frames count).fault = none) :
    (machine.frames count).completed = count :=
  (Run.completed_extend frame count { machine } going).trans (Nat.zero_add count)

/-! ### Stops -/

/-- What a stop tells about the run of so many frames that it has ended: which of them failed, and that
none was run after it. -/
structure EndsIn (machine : Machine) (count : Nat) (stop : Stop) : Prop where
  within : stop.frame < count
  whole : ∀ step ∈ machine.session (List.replicate stop.frame .frame), step.fault = none
  failed : (machine.afterSession (List.replicate stop.frame .frame)).frame.fault = some stop.fault
  last : (machine.headless count).machine =
    (machine.afterSession (List.replicate stop.frame .frame)).frame.machine
  counter : stop.counter = (machine.headless count).machine.cpu.counter
  notices : (machine.headless count).notices.toList =
    (machine.session (List.replicate (stop.frame + 1) .frame)).flatMap Step.notices

theorem headless_of_fault (count : Nat) (fault : Fault)
    (stopped : (machine.frames count).fault = some fault) :
    machine.headless count =
      ⟨(machine.frames count).machine, (machine.frames count).notices,
        .error ⟨(machine.frames count).machine.cpu.counter, (machine.frames count).completed,
          fault⟩⟩ := by
  simp only [headless, stopped]

theorem headless_of_going (count : Nat) (going : (machine.frames count).fault = none) :
    (machine.headless count).machine = (machine.frames count).machine ∧
      (machine.headless count).result = .ok (machine.frames count).machine.screen.text := by
  simp only [headless, going, and_self]

theorem frames_of_headless_ok (count : Nat) (text : String)
    (ended : (machine.headless count).result = .ok text) : (machine.frames count).fault = none := by
  cases stopped : (machine.frames count).fault with
  | none => rfl
  | some fault =>
      rw [machine.headless_of_fault count fault stopped] at ended
      cases ended

theorem frames_of_headless_error (count : Nat) (stop : Stop)
    (ended : (machine.headless count).result = .error stop) :
    (machine.frames count).fault = some stop.fault := by
  cases stopped : (machine.frames count).fault with
  | none =>
      rw [(machine.headless_of_going count stopped).2] at ended
      cases ended
  | some fault =>
      rw [machine.headless_of_fault count fault stopped] at ended
      cases ended
      rfl

theorem endsIn_of_headless_error (count : Nat) (stop : Stop)
    (ended : (machine.headless count).result = .error stop) : machine.EndsIn count stop := by
  have stopped := machine.frames_of_headless_error count stop ended
  have run := machine.headless_of_fault count stop.fault stopped
  rw [run] at ended
  have told := Except.error.inj ended
  have counter : stop.counter = (machine.headless count).machine.cpu.counter := by rw [run, ← told]
  obtain ⟨done, within, going, failed, last⟩ := machine.exists_last_frame count stop.fault stopped
  obtain ⟨reached, notices, whole⟩ := machine.frames_of_going done going
  -- The failing frame is not counted, so the number of the stop is that of the frames before it.
  have counted : done = stop.frame := by
    rw [← told, last]
    simp only [Run.push, failed, Option.isNone_some, Bool.false_eq_true, if_false]
    exact (machine.completed_frames done going).symm
  subst counted
  rw [reached] at last failed
  rw [last] at run
  refine ⟨within, whole, failed, ?_, counter, ?_⟩
  · rw [run]
    rfl
  · rw [run, session_frames_succ, List.flatMap_append, ← notices, List.flatMap_singleton]
    exact Array.toList_appendList

/-! ### Going on -/

theorem frames_add (first second : Nat) (going : (machine.frames first).fault = none) :
    machine.frames (first + second) =
      (machine.frames first).append ((machine.frames first).machine.frames second) := by
  rw [frames, Run.extend_add]
  exact Run.extend_of_going frame second _ going

theorem headless_add_of_going (first second : Nat) (going : (machine.frames first).fault = none) :
    (machine.headless (first + second)).machine =
        ((machine.frames first).machine.headless second).machine ∧
      (machine.headless (first + second)).result =
        ((machine.frames first).machine.headless second).result.mapError (Stop.delayed first) := by
  have joined := machine.frames_add first second going
  have counted := machine.completed_frames first going
  cases ended : ((machine.frames first).machine.frames second).fault with
  | none =>
      have whole : (machine.frames (first + second)).fault = none := by rw [joined]; exact ended
      obtain ⟨reached, text⟩ := machine.headless_of_going _ whole
      obtain ⟨restReached, restText⟩ := (machine.frames first).machine.headless_of_going second ended
      rw [reached, text, restReached, restText, joined]
      exact ⟨rfl, rfl⟩
  | some fault =>
      have stopped : (machine.frames (first + second)).fault = some fault := by
        rw [joined]
        exact ended
      rw [machine.headless_of_fault _ fault stopped, headless_of_fault _ second fault ended, joined]
      refine ⟨rfl, ?_⟩
      simp only [Run.append, Except.mapError, Stop.delayed, counted]

theorem headless_add_of_fault (first second : Nat) (fault : Fault)
    (stopped : (machine.frames first).fault = some fault) :
    machine.headless (first + second) = machine.headless first := by
  have same : machine.frames (first + second) = machine.frames first := by
    rw [frames, Run.extend_add]
    exact Run.extend_of_fault frame second _ fault stopped
  rw [headless_of_fault _ first fault stopped, headless_of_fault _ (first + second) fault, same]
  rw [same]
  exact stopped

/-- If the first frames of a run end well, the others run as they do from the machine that the first
have left, but a stop counts the first frames as well. If the first frames are stopped, so is the whole
run, in the same way. A stop tells how many frames were run to their end, and where the counter is after
the failing frame, which is the last that was run. -/
theorem headless_add (first second : Nat) :
    (∀ text, (machine.headless first).result = .ok text →
      (machine.headless (first + second)).machine =
          ((machine.headless first).machine.headless second).machine ∧
        (machine.headless (first + second)).result =
          ((machine.headless first).machine.headless second).result.mapError
            (Stop.delayed first)) ∧
      ∀ stop, (machine.headless first).result = .error stop →
        machine.headless (first + second) = machine.headless first ∧ machine.EndsIn first stop := by
  constructor
  · intro text ended
    have going := machine.frames_of_headless_ok first text ended
    rw [(machine.headless_of_going first going).1]
    exact machine.headless_add_of_going first second going
  · intro stop ended
    have stopped := machine.frames_of_headless_error first stop ended
    exact ⟨machine.headless_add_of_fault first second stop.fault stopped,
      machine.endsIn_of_headless_error first stop ended⟩

/-- A program that stops in its third frame, two frames after an interruption. -/
theorem headless_add_of_late_fault :
    ∃ machine : Machine,
      (∃ text, (machine.headless 1).result = .ok text) ∧
        ((machine.headless 1).machine.headless 5).result =
            .error ⟨0x206, 1, .unknownOpcode 0xFFFF⟩ ∧
          (machine.headless 6).result = .error ⟨0x206, 2, .unknownOpcode 0xFFFF⟩ ∧
            machine.headless 10 = machine.headless 6 ∧
              ∀ step ∈ machine.session [.frame, .frame], step.fault = none := by
  obtain ⟨machine, same⟩ : ∃ machine, machine = booted { cyclesPerFrame := 1 }
    [0x60, 0x01, 0x61, 0x02, 0xFF, 0xFF] .idle (.cyclic #[]) := ⟨_, rfl⟩
  have facts : (machine.frames 1).fault = none ∧
      ((machine.headless 1).machine.headless 5).result =
        .error ⟨0x206, 1, .unknownOpcode 0xFFFF⟩ := by
    subst same
    decide +kernel
  obtain ⟨going, rest⟩ := facts
  have ended := (machine.headless_of_going 1 going).2
  have delayed := ((headless_add machine 1 5).1 _ ended).2
  rw [rest] at delayed
  obtain ⟨same, tells⟩ := (headless_add machine 6 4).2 _ delayed
  exact ⟨machine, ⟨_, ended⟩, rest, delayed, same, tells.whole⟩

end Machine

end ChipEight
