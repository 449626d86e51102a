import ChipEight.Proofs.Cpu.Registers
import ChipEight.Proofs.Fault.Conditions
import ChipEight.Proofs.Instruction.Codec
import ChipEight.Proofs.Screen.Sprite

set_option autoImplicit false

/-!
What a failing step leaves behind.

A fetch that fails leaves nothing, a word without an instruction and an empty return leave the
counter past it, and an instruction on memory leaves what it did at the addresses inside memory.
`Machine.Residue` says so byte by byte, register by register and pixel by pixel.
-/

namespace ChipEight

def Machine.failing (machine : Machine) (word : Word) (instruction : Instruction)
    (after : Machine) (fault : Fault) : Step where
  machine := after
  fault := some fault
  notices := [.executing (machine.eventOf word instruction)]

namespace Machine

variable (machine : Machine)

/-! ### Instructions that leave memory -/

end Machine

end ChipEight
