import ChipEight.Text.Numeral
import ChipEight.Word

set_option autoImplicit false

/-!
Configuration and faults: the points on which machines of this kind disagree, and the causes that stop a
program or keep an image from being loaded.

What an access outside memory does unless the configuration says otherwise depends on how the program
is built. A fault carries what its message has to name, and nothing else.
-/

namespace ChipEight

/-! ### Configuration -/

/-- What a return does when there is no address to return to. -/
inductive ReturnPolicy where
  /-- Leave the counter alone and carry on. -/
  | ignore
  /-- Stop the program. -/
  | fault
deriving DecidableEq, Repr

/-- What an access to an address outside memory does. -/
inductive AddressPolicy where
  /-- Stop the program. -/
  | strict
  /-- Wrap the address into memory. -/
  | wrap
deriving DecidableEq, Repr

inductive Profile where
  | debug
  | release
deriving DecidableEq, Repr

def Profile.addressPolicy : Profile → AddressPolicy
  | .debug => .strict
  | .release => .wrap

/-- The configuration of a machine; what is not given is as in a debug build. -/
structure Config where
  /-- How many cycles a frame runs. -/
  cyclesPerFrame : Nat := 16
  returnPolicy : ReturnPolicy := .ignore
  addressPolicy : AddressPolicy := Profile.debug.addressPolicy
deriving DecidableEq, Repr

def Config.standard (profile : Profile) : Config where
  addressPolicy := profile.addressPolicy

def ReturnPolicy.name : ReturnPolicy → String
  | .ignore => "Ignore"
  | .fault => "Fault"

def AddressPolicy.name : AddressPolicy → String
  | .strict => "Strict"
  | .wrap => "Wrap"

def Config.text (config : Config) : String :=
  "Config \x7b instructions_per_tick: " ++ toString config.cyclesPerFrame ++
    ", return_policy: " ++ config.returnPolicy.name ++
    ", address_policy: " ++ config.addressPolicy.name ++ " \x7d"

/-! ### Faults -/

inductive Fault where
  /-- The word names no instruction. -/
  | unknownOpcode (word : Word)
  /-- The address lies outside memory and is not wrapped into it. -/
  | addressOutOfRange (address : Nat)
  /-- A return found no address to return to; the counter points past it. -/
  | stackUnderflow (counter : UInt16)
  /-- The image has more bytes than memory has room for. -/
  | imageTooLarge (size capacity : Nat)
deriving DecidableEq, Repr

def Fault.message : Fault → String
  | .unknownOpcode word => "unknown opcode " ++ Hex.marked 4 word.toNat
  | .addressOutOfRange address =>
      "address " ++ Hex.marked 4 address ++ " is outside of memory"
  | .stackUnderflow counter =>
      "return with an empty call stack at " ++ Hex.marked 3 counter.toNat
  | .imageTooLarge size capacity =>
      "ROM of " ++ toString size ++ " bytes does not fit in " ++ toString capacity ++
        " bytes of program memory"

end ChipEight
