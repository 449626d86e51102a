import ChipEight.Text.Numeral

set_option autoImplicit false

/-!
The instruction set, and instructions as assembly text.

An instruction is data: an operation and its operands. A register operand and a row count are bytes
and an address is a sixteen-bit number, so an instruction built by hand may hold an operand wider
than its field in a word; the machine gives such instructions a meaning too.

A mnemonic is the name of an operation and a list of operands, and an operand says what it names: a
numbered register, a byte, an address, a row count, or one of the fixed places of the machine. Many
operations share a name, so it is the operands that tell them apart.
-/

namespace ChipEight

/-- One operation of the machine with its operands. The comments give the word of each. -/
inductive Instruction where
  /-- The word `0nnn`: a call into host machine code, which does nothing here. -/
  | system (address : UInt16)
  /-- The word `00E0`: blank the screen. -/
  | clear
  /-- The word `00EE`: return to the address pushed last. -/
  | leave
  /-- The word `1nnn`: go to an address. -/
  | jump (address : UInt16)
  /-- The word `2nnn`: push the counter and go to an address. -/
  | call (address : UInt16)
  /-- The word `3xnn`: skip the next instruction if a register equals a byte. -/
  | skipEqualByte (x byte : UInt8)
  /-- The word `4xnn`: skip the next instruction if a register differs from a byte. -/
  | skipUnequalByte (x byte : UInt8)
  /-- The word `5xy0`: skip the next instruction if two registers are equal. -/
  | skipEqual (x y : UInt8)
  /-- The word `6xnn`: set a register to a byte. -/
  | setByte (x byte : UInt8)
  /-- The word `7xnn`: add a byte to a register, without a flag. -/
  | addByte (x byte : UInt8)
  /-- The word `8xy0`: copy the second register to the first. -/
  | copy (x y : UInt8)
  /-- The word `8xy1`: bitwise disjunction. -/
  | disjoin (x y : UInt8)
  /-- The word `8xy2`: bitwise conjunction. -/
  | conjoin (x y : UInt8)
  /-- The word `8xy3`: bitwise exclusive disjunction. -/
  | exclude (x y : UInt8)
  /-- The word `8xy4`: add the second register to the first; the flag is the carry. -/
  | add (x y : UInt8)
  /-- The word `8xy5`: subtract the second register from the first. -/
  | subtract (x y : UInt8)
  /-- The word `8xy6`: halve a register; the flag is the bit that falls out. -/
  | shiftRight (x : UInt8)
  /-- The word `8xy7`: subtract the first register from the second, into the first. -/
  | subtractFrom (x y : UInt8)
  /-- The word `8xyE`: double a register; the flag is the bit that falls out. -/
  | shiftLeft (x : UInt8)
  /-- The word `9xy0`: skip the next instruction if two registers differ. -/
  | skipUnequal (x y : UInt8)
  /-- The word `Annn`: set the index. -/
  | setIndex (address : UInt16)
  /-- The word `Bnnn`: go to an address plus register zero. -/
  | jumpOffset (address : UInt16)
  /-- The word `Cxnn`: set a register to a random byte under a mask. -/
  | random (x mask : UInt8)
  /-- The word `Dxyn`: draw a sprite of `rows` rows. -/
  | draw (x y rows : UInt8)
  /-- The word `Ex9E`: skip the next instruction if a key is held. -/
  | skipHeld (x : UInt8)
  /-- The word `ExA1`: skip the next instruction if a key is not held. -/
  | skipReleased (x : UInt8)
  /-- The word `Fx07`: read the delay timer. -/
  | readDelay (x : UInt8)
  /-- The word `Fx0A`: wait for a key press. -/
  | awaitKey (x : UInt8)
  /-- The word `Fx15`: set the delay timer. -/
  | setDelay (x : UInt8)
  /-- The word `Fx18`: set the sound timer. -/
  | setSound (x : UInt8)
  /-- The word `Fx1E`: add a register to the index. -/
  | addIndex (x : UInt8)
  /-- The word `Fx29`: point the index at the glyph of a digit. -/
  | pointGlyph (x : UInt8)
  /-- The word `Fx33`: store the three decimal digits of a register. -/
  | storeDecimal (x : UInt8)
  /-- The word `Fx55`: store the registers up to one. -/
  | storeRegisters (x : UInt8)
  /-- The word `Fx65`: load the registers up to one. -/
  | loadRegisters (x : UInt8)
deriving DecidableEq, Repr

/-! ### Assembly text -/

inductive Operand where
  | register (number : UInt8)
  | byte (value : UInt8)
  | address (value : UInt16)
  | rows (count : UInt8)
  | index
  | memoryAtIndex
  | delayTimer
  | soundTimer
  | key
  | glyph
  | decimal
deriving DecidableEq, Repr

/-- The text of an operand: register numbers have no padding, bytes two digits, addresses at least
three, and row counts are decimal. -/
def Operand.text : Operand → String
  | .register number => "V" ++ Hex.text 1 number.toNat
  | .byte value => Hex.marked 2 value.toNat
  | .address value => Hex.marked 3 value.toNat
  | .rows count => toString count.toNat
  | .index => "I"
  | .memoryAtIndex => "[I]"
  | .delayTimer => "DT"
  | .soundTimer => "ST"
  | .key => "K"
  | .glyph => "F"
  | .decimal => "B"

structure Mnemonic where
  operation : String
  operands : List Operand
deriving DecidableEq, Repr

namespace Mnemonic

def operandText : List Operand → String
  | [] => ""
  | [last] => last.text
  | first :: rest => first.text ++ ", " ++ operandText rest

def text (mnemonic : Mnemonic) : String :=
  match mnemonic.operands with
  | [] => mnemonic.operation
  | operands => mnemonic.operation ++ " " ++ operandText operands

end Mnemonic

namespace Instruction

def mnemonic : Instruction → Mnemonic
  | .system address => ⟨"SYS", [.address address]⟩
  | .clear => ⟨"CLS", []⟩
  | .leave => ⟨"RET", []⟩
  | .jump address => ⟨"JP", [.address address]⟩
  | .call address => ⟨"CALL", [.address address]⟩
  | .skipEqualByte x byte => ⟨"SE", [.register x, .byte byte]⟩
  | .skipUnequalByte x byte => ⟨"SNE", [.register x, .byte byte]⟩
  | .skipEqual x y => ⟨"SE", [.register x, .register y]⟩
  | .setByte x byte => ⟨"LD", [.register x, .byte byte]⟩
  | .addByte x byte => ⟨"ADD", [.register x, .byte byte]⟩
  | .copy x y => ⟨"LD", [.register x, .register y]⟩
  | .disjoin x y => ⟨"OR", [.register x, .register y]⟩
  | .conjoin x y => ⟨"AND", [.register x, .register y]⟩
  | .exclude x y => ⟨"XOR", [.register x, .register y]⟩
  | .add x y => ⟨"ADD", [.register x, .register y]⟩
  | .subtract x y => ⟨"SUB", [.register x, .register y]⟩
  | .shiftRight x => ⟨"SHR", [.register x]⟩
  | .subtractFrom x y => ⟨"SUBN", [.register x, .register y]⟩
  | .shiftLeft x => ⟨"SHL", [.register x]⟩
  | .skipUnequal x y => ⟨"SNE", [.register x, .register y]⟩
  | .setIndex address => ⟨"LD", [.index, .address address]⟩
  | .jumpOffset address => ⟨"JP", [.register 0, .address address]⟩
  | .random x mask => ⟨"RND", [.register x, .byte mask]⟩
  | .draw x y rows => ⟨"DRW", [.register x, .register y, .rows rows]⟩
  | .skipHeld x => ⟨"SKP", [.register x]⟩
  | .skipReleased x => ⟨"SKNP", [.register x]⟩
  | .readDelay x => ⟨"LD", [.register x, .delayTimer]⟩
  | .awaitKey x => ⟨"LD", [.register x, .key]⟩
  | .setDelay x => ⟨"LD", [.delayTimer, .register x]⟩
  | .setSound x => ⟨"LD", [.soundTimer, .register x]⟩
  | .addIndex x => ⟨"ADD", [.index, .register x]⟩
  | .pointGlyph x => ⟨"LD", [.glyph, .register x]⟩
  | .storeDecimal x => ⟨"LD", [.decimal, .register x]⟩
  | .storeRegisters x => ⟨"LD", [.memoryAtIndex, .register x]⟩
  | .loadRegisters x => ⟨"LD", [.register x, .memoryAtIndex]⟩

def text (instruction : Instruction) : String :=
  instruction.mnemonic.text

end Instruction

end ChipEight
