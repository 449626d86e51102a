import ChipEight.Keypad.Layout
import ChipEight.Notice
import ChipEight.Screen

set_option autoImplicit false

/-!
The machine, and what one step of it leaves behind.

A machine has a source of random bytes: a sequence of thirty-two-bit words, and the number of words that
have been drawn from it. A random byte is the low byte of the next word.

A step always has a machine as its result, also when it ends in a fault: what had been done by then
stays done.
-/

namespace ChipEight

/-- A sequence of words, and how many of them have been drawn. -/
structure RandomSource where
  word : Nat → UInt32
  drawn : Nat

namespace RandomSource

def byte (source : RandomSource) : UInt8 :=
  UInt8.ofNat ((source.word source.drawn).toNat % 256)

def advance (source : RandomSource) : RandomSource :=
  { source with drawn := source.drawn + 1 }

/-- The source that hands out words in a cycle; without words it hands out zeros. -/
def cyclic (words : Array UInt32) : RandomSource where
  word index := words.getD (index % words.size) 0
  drawn := 0

end RandomSource

structure Machine where
  cpu : Cpu
  screen : Screen
  keypad : Keypad
  random : RandomSource
  config : Config

/-- The machine after a step, the fault that ended the step if one did, and the notices given. -/
structure Step where
  machine : Machine
  fault : Option Fault := none
  notices : List Notice := []

def Step.ofCpu (machine : Machine) (cpu : Cpu) : Step where
  machine := { machine with cpu }

/-- The step that gives one more notice before those of a step. -/
def Step.announcing (notice : Notice) (step : Step) : Step :=
  { step with notices := notice :: step.notices }

namespace Machine

def boot (config : Config) (image : List UInt8) (keypad : Keypad) (random : RandomSource) :
    Except Fault Machine :=
  (Cpu.initial.withImage image).map fun cpu =>
    { cpu, screen := .blank, keypad, random, config }

def isSounding (machine : Machine) : Bool :=
  decide (0 < machine.cpu.sound)

def isAwaitingKey (machine : Machine) : Bool :=
  machine.cpu.awaiting.isSome

end Machine

end ChipEight
