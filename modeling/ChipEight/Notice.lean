import ChipEight.Cpu
import ChipEight.Instruction.Basic

set_option autoImplicit false

/-!
The log, and the notices of a machine.

The log has records with a level, the part of the program that they come from and a message, and a filter
admits the records of a level and of all graver ones.

A notice is what a machine tells its host besides its state. It is data; `record` gives the log record of
each. The machine announces every instruction it is about to carry out, and it is for the host to keep
those notices or to drop them.
-/

namespace ChipEight

/-! ### The log -/

namespace Log

inductive Level where
  | error
  | warn
  | info
  | debug
  | trace
deriving DecidableEq, Repr

def Level.rank : Level → Nat
  | .error => 1
  | .warn => 2
  | .info => 3
  | .debug => 4
  | .trace => 5

def Level.name : Level → String
  | .error => "ERROR"
  | .warn => "WARN"
  | .info => "INFO"
  | .debug => "DEBUG"
  | .trace => "TRACE"

structure Record where
  level : Level
  /-- The part of the program that the record comes from. -/
  source : String
  message : String
deriving DecidableEq, Repr

def Record.text (record : Record) : String :=
  record.level.name ++ " " ++ record.message

/-- The record as a line, the level padded to five columns. -/
def Record.line (record : Record) : String :=
  let name := record.level.name
  "[" ++ name ++ String.ofList (List.replicate (5 - name.length) ' ') ++ " " ++ record.source ++
    "] " ++ record.message

/-- The least grave level that is admitted; with none, nothing is. -/
structure Filter where
  threshold : Option Level
deriving DecidableEq, Repr

/-- The filter of a level's name in any case, or of `off`, which admits nothing. -/
def Filter.ofName? (name : String) : Option Filter :=
  match name.toLower with
  | "off" => some ⟨none⟩
  | "error" => some ⟨some .error⟩
  | "warn" => some ⟨some .warn⟩
  | "info" => some ⟨some .info⟩
  | "debug" => some ⟨some .debug⟩
  | "trace" => some ⟨some .trace⟩
  | _ => none

def Filter.admits (filter : Filter) (level : Level) : Bool :=
  match filter.threshold with
  | none => false
  | some threshold => decide (level.rank ≤ threshold.rank)

end Log

/-! ### Notices -/

/-- An instruction that is about to be carried out, and the machine just before it was fetched. -/
structure TraceEvent where
  /-- The address that the instruction was fetched from. -/
  counter : UInt16
  word : Word
  instruction : Instruction
  registers : Vector UInt8 16
  index : UInt16
deriving DecidableEq

/-- An event on one line: counter, word, the mnemonic in sixteen columns, registers and index. -/
def TraceEvent.text (event : TraceEvent) : String :=
  let mnemonic := event.instruction.text
  let registers := event.registers.toList.map fun value => Hex.text 2 value.toNat
  "pc" ++ Hex.text 4 event.counter.toNat ++ " " ++ Hex.text 4 event.word.toNat ++ " " ++
    mnemonic ++ String.ofList (List.replicate (16 - mnemonic.length) ' ') ++
    " v[" ++ ", ".intercalate registers ++ "] i" ++ Hex.text 4 event.index.toNat

inductive Notice where
  /-- An image of so many bytes was loaded. -/
  | loaded (size : Nat) (config : Config)
  /-- A return found no address to return to, and was ignored. -/
  | returnIgnored (counter : UInt16)
  /-- A register operand waits for a key. -/
  | keyAwaited (x : UInt8)
  /-- A register operand that waited has received a key. -/
  | keyReceived (x key : UInt8)
  /-- An instruction is about to be carried out. -/
  | executing (event : TraceEvent)
  /-- So many frames were run. -/
  | framesRun (count : Nat) (counter : UInt16) (sounding : Bool)
deriving DecidableEq

namespace Notice

def event? : Notice → Option TraceEvent
  | .executing event => some event
  | _ => none

def record : Notice → Log.Record
  | .loaded size config =>
      ⟨.debug, "chip8_core::chip8",
        "loaded " ++ toString size ++ " byte ROM with " ++ config.text⟩
  | .returnIgnored counter =>
      ⟨.warn, "chip8_core::operations",
        "ignoring return with an empty stack at " ++ Hex.marked 3 counter.toNat⟩
  | .keyAwaited x =>
      ⟨.debug, "chip8_core::operations", "V" ++ Hex.text 1 x.toNat ++ " waiting for a key"⟩
  | .keyReceived x key =>
      ⟨.debug, "chip8_core::chip8",
        "V" ++ Hex.text 1 x.toNat ++ " received key " ++ Hex.text 1 key.toNat⟩
  | .executing event => ⟨.trace, "chip8_core::trace", event.text⟩
  | .framesRun count counter sounding =>
      ⟨.info, "chip8::run",
        "ran " ++ toString count ++ " frames; pc " ++ Hex.marked 3 counter.toNat ++
          ", sound " ++ if sounding then "on" else "off"⟩

end Notice

end ChipEight
