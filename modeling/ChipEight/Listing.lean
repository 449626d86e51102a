import ChipEight.Instruction.Basic
import ChipEight.Instruction.Encoding

set_option autoImplicit false

/-!
Listings of program images.

An image is cut into words of two bytes, each with the address it would be loaded at; addresses wrap
around after `FFFF`. A last byte that stands alone is the high byte of a word that was cut off.
Bytes that are data rather than program are listed as whatever they happen to decode to.
-/

namespace ChipEight

inductive Listing.Content where
  | decoded (instruction : Instruction)
  /-- The word denotes no instruction. -/
  | unknown
  /-- The image ends halfway through the word, whose low byte is given as zero. -/
  | truncated
deriving DecidableEq, Repr

structure Listing.Line where
  address : UInt16
  word : Word
  content : Listing.Content
deriving DecidableEq, Repr

namespace Listing

def Content.ofWord (word : Word) : Content :=
  match Instruction.ofWord? word with
  | some instruction => .decoded instruction
  | none => .unknown

def extend (listed : Array Line) (address : UInt16) : List UInt8 → Array Line
  | [] => listed
  | [high] => listed.push ⟨address, .ofBytes high 0, .truncated⟩
  | high :: low :: rest =>
      extend (listed.push ⟨address, .ofBytes high low, .ofWord (.ofBytes high low)⟩)
        (address + 2) rest

def ofImage (origin : UInt16) (image : List UInt8) : List Line :=
  (extend #[] origin image).toList

private theorem toList_extend : ∀ (image : List UInt8) (listed : Array Line) (address : UInt16),
    (extend listed address image).toList = listed.toList ++ (extend #[] address image).toList
  | [], listed, address => by simp [extend]
  | [high], listed, address => by simp [extend]
  | high :: low :: rest, listed, address => by
      rw [extend, extend, toList_extend rest (listed.push _), toList_extend rest (#[].push _)]
      simp

@[simp] theorem ofImage_nil (origin : UInt16) : ofImage origin [] = [] := rfl

@[simp] theorem ofImage_singleton (origin : UInt16) (high : UInt8) :
    ofImage origin [high] = [⟨origin, .ofBytes high 0, .truncated⟩] := rfl

@[simp] theorem ofImage_cons_cons (origin : UInt16) (high low : UInt8) (rest : List UInt8) :
    ofImage origin (high :: low :: rest) =
      ⟨origin, .ofBytes high low, .ofWord (.ofBytes high low)⟩ :: ofImage (origin + 2) rest := by
  rw [ofImage, extend, toList_extend]
  simp [ofImage]

/-- The text of a line: address, word and mnemonic; a word without an instruction is marked `??`,
and of a word that was cut off only the high byte is shown. -/
def Line.text (line : Line) : String :=
  let place := Hex.text 3 line.address.toNat
  match line.content with
  | .decoded instruction =>
      place ++ "  " ++ Hex.text 4 line.word.toNat ++ "  " ++ instruction.text
  | .unknown => place ++ "  " ++ Hex.text 4 line.word.toNat ++ "  ??"
  | .truncated => place ++ "  " ++ Hex.text 2 line.word.high.toNat ++ "    (truncated)"

def text (lines : List Line) : String :=
  String.join (lines.map fun line => line.text ++ "\n")

end Listing

end ChipEight
