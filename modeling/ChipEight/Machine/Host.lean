import ChipEight.Machine.Headless

set_option autoImplicit false

/-!
What a host does to a machine: it runs cycles and frames, has single instructions carried out, works
the keypad and draws on the screen. A session is a list of such actions; each is done whatever the
fault of the one before it.
-/

namespace ChipEight

inductive Action where
  | cycle
  | frame
  | execute (instruction : Instruction)
  | press (key : UInt8)
  | release (key : UInt8)
  /-- Take the press that nobody has taken. -/
  | takeKey
  | clearScreen
  | flip (x y : Nat)
deriving DecidableEq, Repr

namespace Machine

def act (machine : Machine) : Action → Step
  | .cycle => machine.cycle
  | .frame => machine.frame
  | .execute instruction => machine.execute instruction
  | .press key => { machine := { machine with keypad := machine.keypad.press key } }
  | .release key => { machine := { machine with keypad := machine.keypad.release key } }
  | .takeKey => { machine := { machine with keypad := machine.keypad.taken } }
  | .clearScreen => { machine := { machine with screen := .blank } }
  | .flip x y => { machine := { machine with screen := machine.screen.flip x y } }

def session (machine : Machine) : List Action → List Step
  | [] => []
  | action :: rest =>
      let step := machine.act action
      step :: step.machine.session rest

def afterSession (machine : Machine) : List Action → Machine
  | [] => machine
  | action :: rest => (machine.act action).machine.afterSession rest

theorem length_session (machine : Machine) (actions : List Action) :
    (machine.session actions).length = actions.length := by
  induction actions generalizing machine with
  | nil => rfl
  | cons action rest ih => simp only [session, List.length_cons, ih]

theorem afterSession_append (machine : Machine) (first second : List Action) :
    machine.afterSession (first ++ second) = (machine.afterSession first).afterSession second := by
  induction first generalizing machine with
  | nil => rfl
  | cons action rest ih => exact ih (machine.act action).machine

/-- A session that is interrupted goes on from where it was. -/
theorem session_append (machine : Machine) (first second : List Action) :
    machine.session (first ++ second) =
      machine.session first ++ (machine.afterSession first).session second := by
  induction first generalizing machine with
  | nil => rfl
  | cons action rest ih => exact congrArg _ (ih (machine.act action).machine)

end Machine

end ChipEight
