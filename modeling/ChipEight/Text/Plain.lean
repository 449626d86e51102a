set_option autoImplicit false

/-!
Plain text: text without what would steer a terminal.

Escape sequences are left out as a whole, and so are single controls other than white space. White
space that stands in a sequence without a text of its own is shown, and so is what follows it: the
sequence is interrupted, and goes on at the next character that is not shown. A sequence that is not
finished goes on to the end of the text. `shown_eq_self` says that nothing else is left out.
-/

namespace ChipEight.Text

/-- How far into an escape sequence the text is. -/
inductive Escape where
  /-- Outside every sequence. -/
  | outside
  /-- After the escape character. -/
  | begun
  /-- After the escape character and further intermediate characters. -/
  | intermediate
  /-- Among the parameters of a control sequence. -/
  | parameters
  /-- In an operating system command, which a bell ends. -/
  | command
  /-- At the start of a device control string. -/
  | device
  /-- Among the parameters of a device control string. -/
  | deviceParameters
  /-- Among the intermediate characters of a device control string. -/
  | deviceIntermediate
  /-- In a string of another kind, or past the parameters of a device control string. -/
  | string
deriving DecidableEq, Repr

namespace Escape

def isBlank (code : Nat) : Bool :=
  code == 0x20 || code == 0x09 || code == 0x0A || code == 0x0C || code == 0x0D

def afterBegun (code : Nat) : Escape :=
  if code == 0x5B then .parameters
  else if code == 0x5D then .command
  else if code == 0x50 then .device
  else if code == 0x58 || code == 0x5E || code == 0x5F then .string
  else if 0x20 ≤ code ∧ code ≤ 0x2F then .intermediate
  else if 0x30 ≤ code ∧ code ≤ 0x7E then .outside
  else .begun

/-- The state after a character in the head of a device control string. The head is over with its
final character, and also with a parameter in the wrong place: a private one anywhere but at the
start, or any one after an intermediate character. -/
def afterDevice (state : Escape) (code : Nat) : Escape :=
  if 0x20 ≤ code ∧ code ≤ 0x2F then .deviceIntermediate
  else if 0x30 ≤ code ∧ code ≤ 0x3F then
    if state = .deviceIntermediate ∨ (state = .deviceParameters ∧ 0x3C ≤ code) then .string
    else .deviceParameters
  else if 0x40 ≤ code ∧ code ≤ 0x7E then .string
  else state

/-- Whether a character ends a string: one that has the byte 9C, the string terminator, in its
encoding. -/
def endsString (character : Char) : Bool :=
  (String.utf8EncodeChar character).contains 0x9C

def next (state : Escape) (character : Char) : Escape :=
  let code := character.toNat
  if code == 0x18 || code == 0x1A then .outside
  else if code == 0x1B then .begun
  else
    match state with
    | .outside => .outside
    | .begun => afterBegun code
    | .intermediate => if 0x30 ≤ code ∧ code ≤ 0x7E then .outside else .intermediate
    | .parameters => if 0x40 ≤ code ∧ code ≤ 0x7E then .outside else .parameters
    | .command => if code == 0x07 then .outside else .command
    | .device | .deviceParameters | .deviceIntermediate => afterDevice state code
    | .string => if endsString character then .outside else .string

/-- Whether a character is shown. Outside a sequence these are all but the controls that are not
white space; inside one it is white space only, where the sequence has no text of its own. -/
def shows (state : Escape) (code : Nat) : Bool :=
  match state with
  | .outside => (decide (0x20 ≤ code) && code != 0x7F) || isBlank code
  | .begun | .intermediate | .parameters => isBlank code && code != 0x20
  | .command | .device | .deviceParameters | .deviceIntermediate | .string => false

/-- The sequence that is still open after a character that is shown: one beyond ASCII closes it. -/
def afterShown (state : Escape) (code : Nat) : Escape :=
  if code < 0x80 then state else .outside

/-- The characters that are shown. `state` is the sequence that is open, and `interrupted` says
whether white space has interrupted it. -/
def shown (state : Escape) (interrupted : Bool) : List Char → List Char
  | [] => []
  | character :: rest =>
      let code := character.toNat
      if (if interrupted then Escape.outside else state).shows code then
        character :: shown (state.afterShown code) true rest
      else shown (state.next character) false rest

theorem shown_eq_self (interrupted : Bool) (text : List Char)
    (visible : ∀ character ∈ text, Escape.outside.shows character.toNat = true) :
    shown .outside interrupted text = text := by
  induction text generalizing interrupted with
  | nil => rfl
  | cons character rest same =>
      have first := visible character List.mem_cons_self
      have others := fun other member => visible other (List.mem_cons_of_mem character member)
      have closed : afterShown .outside character.toNat = .outside := ite_self Escape.outside
      rw [shown, ite_self, if_pos first, closed, same true others]

end Escape

/-- A text without what would steer a terminal. -/
def plain (text : String) : String :=
  String.ofList (Escape.shown .outside false text.toList)

end ChipEight.Text
