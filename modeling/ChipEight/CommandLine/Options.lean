import ChipEight.Config
import ChipEight.Keypad.Layout
import ChipEight.Text.Numeral
import ChipEight.Text.Quoted

set_option autoImplicit false

/-!
The options of the command line.

A flag is given or not; a setting has a value, and only that for keys may be given more than once. A key
is a hexadecimal numeral of a number up to fifteen; a text that is no numeral of a byte and a byte that
is no key fail in different ways.
-/

namespace ChipEight.CommandLine

/-! ### Keys -/

inductive KeyFailure where
  /-- The text is no hexadecimal numeral of a byte. -/
  | malformed (text : String)
  | outside (number : Nat)
deriving DecidableEq, Repr

def KeyFailure.message : KeyFailure → String
  | .malformed text => Text.quoted text ++ " is not a hex key"
  | .outside number => "key " ++ Hex.text 1 number ++ " is outside of 0-F"

def readKey (text : String) : Except KeyFailure UInt8 :=
  match Numeral.read 16 255 text with
  | .error _ => .error (.malformed text)
  | .ok number =>
      if number ≤ 15 then .ok (UInt8.ofNat number) else .error (.outside number)

/-! ### Options -/

inductive Flag where
  | trace
  | disassemble
  | haltOnEmptyReturn
  | strictAddresses
  | wrapAddresses
deriving DecidableEq, Repr

inductive Setting where
  | cyclesPerFrame
  | frames
  | seed
  | key
deriving DecidableEq, Repr

def Flag.option : Flag → String
  | .trace => "--trace"
  | .disassemble => "--disassemble"
  | .haltOnEmptyReturn => "--halt-on-empty-return"
  | .strictAddresses => "--strict-addresses"
  | .wrapAddresses => "--wrap-addresses"

def Setting.option : Setting → String
  | .cyclesPerFrame => "--ipt"
  | .frames => "--frames"
  | .seed => "--seed"
  | .key => "--key"

structure Options where
  cyclesPerFrame : Nat := 16
  frames : Option Nat := none
  seed : Option Nat := none
  /-- The keys to hold down, in the order in which they were given. -/
  keys : List UInt8 := []
  trace : Bool := false
  disassemble : Bool := false
  haltOnEmptyReturn : Bool := false
  strictAddresses : Bool := false
  wrapAddresses : Bool := false
deriving DecidableEq, Repr

namespace Options

def config (options : Options) (profile : Profile) : Config :=
  let standard := Config.standard profile
  { cyclesPerFrame := options.cyclesPerFrame
    returnPolicy := if options.haltOnEmptyReturn then .fault else standard.returnPolicy
    addressPolicy :=
      if options.wrapAddresses then .wrap
      else if options.strictAddresses then .strict
      else standard.addressPolicy }

/-- The keypad on which the keys of the options have been pressed, one after the other. -/
def keypad (options : Options) : Keypad :=
  options.keys.foldl Keypad.press .idle

end Options

end ChipEight.CommandLine
