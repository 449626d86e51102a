import ChipEight.Instruction.Encoding
import ChipEight.Keypad.Layout
import ChipEight.Machine.Host
import ChipEight.Main
import ChipEight.Proofs.Calls.Bounds
import ChipEight.Proofs.Checked.Sessions
import ChipEight.Proofs.CommandLine.Keys
import ChipEight.Proofs.CommandLine.Reports
import ChipEight.Proofs.Fault.Residue
import ChipEight.Proofs.Instruction.Mnemonics
import ChipEight.Proofs.Keypad.Calls
import ChipEight.Proofs.Keypad.Stalling
import ChipEight.Proofs.Listing.Execution
import ChipEight.Proofs.Listing.Images
import ChipEight.Proofs.Machine.Arithmetic
import ChipEight.Proofs.Machine.Decimals
import ChipEight.Proofs.Machine.Footprint
import ChipEight.Proofs.Machine.Narrowing
import ChipEight.Proofs.Machine.RandomWords
import ChipEight.Proofs.Machine.Redrawing
import ChipEight.Proofs.Machine.Replay
import ChipEight.Proofs.Parts.Pacing
import ChipEight.Proofs.Policy.Leniency
import ChipEight.Proofs.Policy.Wrapping
import ChipEight.Proofs.Screen.Flips
import ChipEight.Proofs.Screen.Lines
