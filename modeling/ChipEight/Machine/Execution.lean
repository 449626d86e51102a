import ChipEight.Instruction.Encoding
import ChipEight.Machine.Basic

set_option autoImplicit false

/-!
Instructions at work, and cycles.

`execute` carries out one instruction, with the counter already past it. Only a return, a drawing and
the instructions on memory can fail. An instruction on memory that fails has read or written what
lies before the first address outside memory; a drawing that fails has drawn the rows that it could
read, with the flag cleared.

While an instruction waits for a key, a cycle only looks for a press. Otherwise it fetches a word,
moves the counter past it, decodes it, announces the instruction and carries it out; each of these
can fail, and what comes before the failure stays done.
-/

namespace ChipEight.Machine

def leave (machine : Machine) : Step :=
  match machine.cpu.stack with
  | counter :: stack => .ofCpu machine { machine.cpu with counter, stack }
  | [] =>
      match machine.config.returnPolicy with
      | .ignore => { machine, notices := [.returnIgnored machine.cpu.counter] }
      | .fault => { machine, fault := some (.stackUnderflow machine.cpu.counter) }

/-- Draws the sprite at the index, `rows` high, at the place that two registers give. Rows below the
bottom edge are not read. The flag says whether a lit pixel was turned dark. -/
def draw (machine : Machine) (x y rows : UInt8) : Step :=
  let column := (machine.cpu.register x).toNat
  let row := (machine.cpu.register y).toNat
  let sprite := machine.cpu.memory.readRun machine.config.addressPolicy machine.cpu.index.toNat
    (min rows.toNat (32 - row))
  let drawing := (Drawing.start machine.screen).sprite column row sprite.1
  { machine :=
      { machine with
        screen := drawing.screen
        cpu := machine.cpu.setFlag (drawing.collided && sprite.2.isNone) }
    fault := sprite.2 }

def store (machine : Machine) (bytes : List UInt8) : Step :=
  let written :=
    machine.cpu.memory.writeRun machine.config.addressPolicy machine.cpu.index.toNat bytes
  { machine := { machine with cpu := { machine.cpu with memory := written.1 } }
    fault := written.2 }

def load (machine : Machine) (count : Nat) : Step :=
  let bytes :=
    machine.cpu.memory.readRun machine.config.addressPolicy machine.cpu.index.toNat count
  { machine := { machine with cpu := machine.cpu.setRegisterRun 0 bytes.1 }
    fault := bytes.2 }

def awaitKey (machine : Machine) (x : UInt8) : Step :=
  match machine.keypad.pending with
  | some key =>
      { machine :=
          { machine with cpu := machine.cpu.setRegister x key, keypad := machine.keypad.taken } }
  | none =>
      { machine := { machine with cpu := { machine.cpu with awaiting := some x } }
        notices := [.keyAwaited x] }

def execute (machine : Machine) (instruction : Instruction) : Step :=
  let cpu := machine.cpu
  match instruction with
  | .system _ => { machine }
  | .clear => { machine := { machine with screen := .blank } }
  | .leave => machine.leave
  | .jump address => .ofCpu machine (cpu.jump address)
  | .call address => .ofCpu machine (cpu.call address)
  | .skipEqualByte x byte => .ofCpu machine (cpu.skipIf (cpu.register x == byte))
  | .skipUnequalByte x byte => .ofCpu machine (cpu.skipIf (cpu.register x != byte))
  | .skipEqual x y => .ofCpu machine (cpu.skipIf (cpu.register x == cpu.register y))
  | .setByte x byte => .ofCpu machine (cpu.setRegister x byte)
  | .addByte x byte => .ofCpu machine (cpu.addByte x byte)
  | .copy x y => .ofCpu machine (cpu.setRegister x (cpu.register y))
  | .disjoin x y => .ofCpu machine (cpu.setRegister x (cpu.register x ||| cpu.register y))
  | .conjoin x y => .ofCpu machine (cpu.setRegister x (cpu.register x &&& cpu.register y))
  | .exclude x y => .ofCpu machine (cpu.setRegister x (cpu.register x ^^^ cpu.register y))
  | .add x y => .ofCpu machine (cpu.add x y)
  | .subtract x y => .ofCpu machine (cpu.subtract x y)
  | .shiftRight x => .ofCpu machine (cpu.shiftRight x)
  | .subtractFrom x y => .ofCpu machine (cpu.subtractFrom x y)
  | .shiftLeft x => .ofCpu machine (cpu.shiftLeft x)
  | .skipUnequal x y => .ofCpu machine (cpu.skipIf (cpu.register x != cpu.register y))
  | .setIndex address => .ofCpu machine (cpu.setIndex address)
  | .jumpOffset address => .ofCpu machine (cpu.jumpOffset address)
  | .random x mask =>
      { machine :=
          { machine with
            cpu := cpu.setRegister x (machine.random.byte &&& mask)
            random := machine.random.advance } }
  | .draw x y rows => machine.draw x y rows
  | .skipHeld x => .ofCpu machine (cpu.skipIf (machine.keypad.isHeld (cpu.register x)))
  | .skipReleased x => .ofCpu machine (cpu.skipIf (!machine.keypad.isHeld (cpu.register x)))
  | .readDelay x => .ofCpu machine (cpu.setRegister x cpu.delay)
  | .awaitKey x => machine.awaitKey x
  | .setDelay x => .ofCpu machine { cpu with delay := cpu.register x }
  | .setSound x => .ofCpu machine { cpu with sound := cpu.register x }
  | .addIndex x => .ofCpu machine (cpu.addIndex x)
  | .pointGlyph x => .ofCpu machine (cpu.pointGlyph x)
  | .storeDecimal x => machine.store (Cpu.decimalDigits (cpu.register x))
  | .storeRegisters x => machine.store (cpu.registerRun (x.toNat + 1))
  | .loadRegisters x => machine.load (x.toNat + 1)

/-! ### Cycles -/

def fetch (machine : Machine) : Except Fault Word := do
  let address := machine.cpu.counter.toNat
  let high ← machine.cpu.memory.read machine.config.addressPolicy address
  let low ← machine.cpu.memory.read machine.config.addressPolicy (address + 1)
  return .ofBytes high low

/-- Gives the register that waits a key, if there is a press that nobody has taken. -/
def deliverKey (machine : Machine) (x : UInt8) : Step :=
  match machine.keypad.pending with
  | some key =>
      { machine :=
          { machine with
            cpu := { machine.cpu.setRegister x key with awaiting := none }
            keypad := machine.keypad.taken }
        notices := [.keyReceived x key] }
  | none => { machine }

/-- Carries out the instruction of a fetched word; `machine` is the machine before the fetch. -/
def perform (machine : Machine) (word : Word) : Step :=
  let advanced := { machine with cpu := machine.cpu.advance }
  match Instruction.decode word with
  | .error fault => { machine := advanced, fault := some fault }
  | .ok instruction =>
      (advanced.execute instruction).announcing (.executing {
        counter := machine.cpu.counter
        word
        instruction
        registers := machine.cpu.registers
        index := machine.cpu.index })

def cycle (machine : Machine) : Step :=
  match machine.cpu.awaiting with
  | some x => machine.deliverKey x
  | none =>
      match machine.fetch with
      | .error fault => { machine, fault := some fault }
      | .ok word => machine.perform word

end ChipEight.Machine
