import ChipEight.Listing
import ChipEight.Proofs.Instruction.Codec
import ChipEight.Proofs.Text.Numerals

set_option autoImplicit false

/-!
Listings and images.

A line starts with its address and the numeral of its word, each ended by a blank. The numeral of a
whole word has four digits and that of a word cut off has two, so the text gives away the address and
the bytes that the line stands for. The mnemonic is not needed for this.

A listing keeps its image: the bytes of its lines make up the image again, so an image is told by its
listing, also by the printed one. The address of a line can be computed from its index, and for images
of up to 65536 bytes the offset fits in sixteen bits. The image of a program is listed as this program.
-/

namespace ChipEight

/-! ### What the text of a line tells -/

namespace Listing

def Line.bytes (line : Line) : List UInt8 :=
  match line.content with
  | .truncated => [line.word.high]
  | _ => [line.word.high, line.word.byte]

def Line.numeral (line : Line) : List Char :=
  match line.content with
  | .truncated => Hex.padded 2 line.word.high.toNat
  | _ => Hex.padded 4 line.word.toNat

namespace Line

theorem toList_text (line : Line) :
    ∃ rest, line.text.toList =
      Hex.padded 3 line.address.toNat ++ ' ' :: ' ' :: (line.numeral ++ ' ' :: rest) := by
  rcases line with ⟨address, word, content⟩
  cases content with
  | decoded instruction =>
      exact ⟨' ' :: instruction.text.toList, by simp [text, numeral, Hex.text]⟩
  | unknown => exact ⟨" ??".toList, by simp [text, numeral, Hex.text]⟩
  | truncated => exact ⟨"   (truncated)".toList, by simp [text, numeral, Hex.text]⟩

theorem numeral_eq (line : Line) :
    ∃ width number, line.numeral = Hex.padded width number := by
  unfold numeral
  split
  · exact ⟨_, _, rfl⟩
  · exact ⟨_, _, rfl⟩

theorem blank_not_mem_numeral (line : Line) : ' ' ∉ line.numeral := by
  obtain ⟨width, number, same⟩ := line.numeral_eq
  rw [same]
  exact Hex.not_mem_padded (by decide) width number

/-- The bytes are those that the numeral denotes, by its length a byte or a word. -/
theorem bytes_eq (line : Line) :
    line.bytes =
      if line.numeral.length = 2 then [UInt8.ofNat (Hex.value line.numeral)]
      else
        [Word.high (UInt16.ofNat (Hex.value line.numeral)),
          Word.byte (UInt16.ofNat (Hex.value line.numeral))] := by
  unfold numeral bytes
  split
  · have two : (Hex.padded 2 line.word.high.toNat).length = 2 :=
      Hex.length_padded (by decide) line.word.high.toNat_lt
    rw [if_pos two, Hex.value_padded, UInt8.ofNat_toNat]
  · have four : (Hex.padded 4 line.word.toNat).length = 4 :=
      Hex.length_padded (by decide) line.word.toNat_lt
    rw [if_neg (by omega), Hex.value_padded, UInt16.ofNat_toNat]

/-- Lines with the same text have the same address and stand for the same bytes. -/
theorem parts_eq_of_text_eq {left right : Line} (same : left.text = right.text) :
    left.address = right.address ∧ left.bytes = right.bytes := by
  obtain ⟨leftRest, leftText⟩ := left.toList_text
  obtain ⟨rightRest, rightText⟩ := right.toList_text
  have sameCharacters := congrArg String.toList same
  rw [leftText, rightText] at sameCharacters
  have foreign : ' ' ∉ Hex.alphabet := by decide
  obtain ⟨sameAddress, sameBack⟩ := Text.append_inj_of_separator (Hex.not_mem_padded foreign _ _)
    (Hex.not_mem_padded foreign _ _) (by simp) (by simp) sameCharacters
  simp only [List.cons.injEq, true_and] at sameBack
  obtain ⟨sameNumeral, _sameRest⟩ := Text.append_inj_of_separator left.blank_not_mem_numeral
    right.blank_not_mem_numeral (by simp) (by simp) sameBack
  refine ⟨UInt16.toNat_inj.mp (Hex.padded_injective 3 sameAddress), ?_⟩
  rw [left.bytes_eq, right.bytes_eq, sameNumeral]

end Line

end Listing

def Word.bytes (word : Word) : List UInt8 :=
  [word.high, word.byte]

namespace Listing

/-! ### Lines by index -/

/-- The address of the word with an index in an image. The index is taken as a sixteen-bit number, and
there is no address if twice this number is none. -/
def address? (origin : UInt16) (index : Nat) : Option UInt16 :=
  let number := UInt16.ofNat index
  if 2 * number.toNat < 65536 then some (origin + 2 * number) else none

def indexed? (origin : UInt16) (index : Nat) : List UInt8 → Option (List Line)
  | [] => some []
  | [high] => do
      let address ← address? origin index
      return [⟨address, .ofBytes high 0, .truncated⟩]
  | high :: low :: rest => do
      let address ← address? origin index
      let lines ← indexed? origin (index + 1) rest
      return ⟨address, .ofBytes high low, .ofWord (.ofBytes high low)⟩ :: lines

theorem address?_eq_some (origin : UInt16) {index : Nat} (small : index < 32768) :
    address? origin index = some (origin + UInt16.ofNat (2 * index)) := by
  have number : (UInt16.ofNat index).toNat = index := by
    rw [UInt16.toNat_ofNat']
    omega
  have double : 2 * UInt16.ofNat index = UInt16.ofNat (2 * index) := by
    rw [UInt16.ofNat_mul]
    rfl
  rw [address?, number, if_pos (by omega), double]

/-- The address of the first index that has no place. -/
theorem address?_eq_none (origin : UInt16) : address? origin 32768 = none := rfl

/-- Computing the addresses from the indices gives the same lines as long as the indices are below
32768, and otherwise overflows. -/
theorem indexed?_eq (origin : UInt16) : ∀ (index : Nat) (image : List UInt8), index ≤ 32768 →
    indexed? origin index image =
      if 2 * index + image.length ≤ 65536 then
        some (ofImage (origin + UInt16.ofNat (2 * index)) image)
      else none
  | index, [], start => by
      rw [if_pos (by simp only [List.length_nil]; omega), ofImage_nil, indexed?]
  | index, [high], start => by
      rw [indexed?, List.length_singleton]
      rcases Nat.lt_or_eq_of_le start with small | rfl
      · rw [if_pos (by omega), address?_eq_some origin small, ofImage_singleton]
        rfl
      -- Index 32768 is let in for the sake of the rest of an image of full length, which is empty.
      · rw [if_neg (by decide), address?_eq_none]
        rfl
  | index, high :: low :: rest, start => by
      rw [indexed?, List.length_cons, List.length_cons]
      rcases Nat.lt_or_eq_of_le start with small | rfl
      · have next : origin + UInt16.ofNat (2 * (index + 1)) =
            origin + UInt16.ofNat (2 * index) + 2 := by
          rw [Nat.mul_succ, UInt16.ofNat_add, UInt16.add_assoc]
          rfl
        have fits : 2 * (index + 1) + rest.length ≤ 65536 ↔
            2 * index + (rest.length + 1 + 1) ≤ 65536 := by omega
        rw [address?_eq_some origin small, indexed?_eq origin (index + 1) rest (by omega),
          ofImage_cons_cons, next]
        simp only [fits]
        split <;> rfl
      · rw [if_neg (by omega), address?_eq_none]
        rfl

theorem indexed?_of_small (origin : UInt16) (image : List UInt8) (small : image.length ≤ 65536) :
    indexed? origin 0 image = some (ofImage origin image) := by
  rw [indexed?_eq origin 0 image (Nat.zero_le _), if_pos (by omega)]
  exact congrArg (fun start => some (ofImage start image)) (UInt16.add_zero origin)

/-! ### What the lines of an image are -/

structure Lists (origin : UInt16) (image : List UInt8) (lines : List Line) : Prop where
  length : lines.length = (image.length + 1) / 2
  address : ∀ index, (inside : index < lines.length) →
    lines[index].address.toNat = (origin.toNat + 2 * index) % 65536
  truncated : ∀ index, (inside : index < lines.length) →
    (lines[index].content = .truncated ↔ image.length % 2 = 1 ∧ index + 1 = lines.length)
  zeroLow : ∀ line ∈ lines, line.content = .truncated → line.word.byte = 0
  whole : ∀ line ∈ lines, line.content ≠ .truncated → line.content = .ofWord line.word
  bytes : lines.flatMap Line.bytes = image

theorem Content.ofWord_ne_truncated (word : Word) : Content.ofWord word ≠ .truncated := by
  unfold Content.ofWord
  split
  · intro impossible
    cases impossible
  · intro impossible
    cases impossible

theorem Line.bytes_of_whole (line : Line) (whole : line.content ≠ .truncated) :
    line.bytes = line.word.bytes := by
  unfold Line.bytes
  split
  · rename_i cutOff
    exact absurd cutOff whole
  · rfl

theorem lists_nil (origin : UInt16) : Lists origin [] [] where
  length := rfl
  address := by
    intro index inside
    cases inside
  truncated := by
    intro index inside
    cases inside
  zeroLow := by
    intro line member
    cases member
  whole := by
    intro line member
    cases member
  bytes := rfl

theorem lists_singleton (origin : UInt16) (high : UInt8) :
    Lists origin [high] [⟨origin, .ofBytes high 0, .truncated⟩] where
  length := by
    simp only [List.length_singleton]
  address := by
    intro index inside
    obtain rfl : index = 0 := Nat.lt_one_iff.mp inside
    exact (Nat.mod_eq_of_lt origin.toNat_lt).symm
  truncated := by
    intro index inside
    obtain rfl : index = 0 := Nat.lt_one_iff.mp inside
    simp
  zeroLow := by
    intro line member _cutOff
    rw [List.mem_singleton.mp member]
    exact Word.byte_ofBytes high 0
  whole := by
    intro line member whole
    rw [List.mem_singleton.mp member] at whole
    exact absurd rfl whole
  bytes := by
    rw [List.flatMap_singleton, Line.bytes, Word.high_ofBytes]

theorem lists_cons_cons (origin : UInt16) (high low : UInt8) (rest : List UInt8)
    (lines : List Line) (listed : Lists (origin + 2) rest lines) :
    Lists origin (high :: low :: rest)
      (⟨origin, .ofBytes high low, .ofWord (.ofBytes high low)⟩ :: lines) where
  length := by
    have before := listed.length
    simp only [List.length_cons]
    omega
  address := by
    intro index inside
    cases index with
    | zero => exact (Nat.mod_eq_of_lt origin.toNat_lt).symm
    | succ index =>
        have before := listed.address index (Nat.lt_of_succ_lt_succ inside)
        rw [UInt16.toNat_add] at before
        rw [List.getElem_cons_succ, before]
        change ((origin.toNat + 2) % 65536 + 2 * index) % 65536 = _
        omega
  truncated := by
    intro index inside
    have before := listed.length
    cases index with
    | zero =>
        simp only [List.getElem_cons_zero, Content.ofWord_ne_truncated, List.length_cons,
          false_iff]
        omega
    | succ index =>
        have later := listed.truncated index (Nat.lt_of_succ_lt_succ inside)
        rw [List.getElem_cons_succ, later]
        simp only [List.length_cons]
        omega
  zeroLow := by
    intro line member cutOff
    rcases List.mem_cons.mp member with rfl | member
    · exact absurd cutOff (Content.ofWord_ne_truncated _)
    · exact listed.zeroLow line member cutOff
  whole := by
    intro line member whole
    rcases List.mem_cons.mp member with rfl | member
    · rfl
    · exact listed.whole line member whole
  bytes := by
    rw [List.flatMap_cons, listed.bytes, Line.bytes_of_whole _ (Content.ofWord_ne_truncated _),
      Word.bytes, Word.high_ofBytes, Word.byte_ofBytes]
    rfl

theorem lists_ofImage : ∀ (origin : UInt16) (image : List UInt8),
    Lists origin image (ofImage origin image)
  | origin, [] => lists_nil origin
  | origin, [high] => lists_singleton origin high
  | origin, high :: low :: rest => by
      rw [ofImage_cons_cons]
      exact lists_cons_cons origin high low rest _ (lists_ofImage (origin + 2) rest)

/-! ### Images of programs -/

def assembled (instructions : List Instruction) : List UInt8 :=
  instructions.flatMap fun instruction => instruction.encode.bytes

theorem Content.ofWord_encode (instruction : Instruction) (inRange : instruction.InRange)
    (plain : ¬ instruction.Shadowed) :
    Content.ofWord instruction.encode = .decoded instruction := by
  rw [Content.ofWord, Instruction.ofWord?_encode instruction plain,
    instruction.narrowed_of_inRange inRange]

theorem content_ofImage_assembled (origin : UInt16) (instructions : List Instruction)
    (canonical : ∀ instruction ∈ instructions, instruction.InRange ∧ ¬ instruction.Shadowed) :
    (ofImage origin (assembled instructions)).map Line.content =
      instructions.map .decoded := by
  induction instructions generalizing origin with
  | nil => rfl
  | cons instruction rest ih =>
      obtain ⟨inRange, plain⟩ := canonical instruction List.mem_cons_self
      have later := ih (origin + 2)
        (fun other member => canonical other (List.mem_cons_of_mem _ member))
      rw [assembled] at later
      simp only [assembled, List.flatMap_cons, Word.bytes, List.cons_append, List.nil_append,
        ofImage_cons_cons, List.map_cons, Word.ofBytes_high_byte,
        Content.ofWord_encode instruction inRange plain]
      exact congrArg _ later

/-! ### Printed listings -/

theorem map_parts_eq_of_map_text_eq {left right : List Line}
    (same : left.map Line.text = right.map Line.text) :
    left.map (fun line => (line.address, line.bytes)) =
      right.map (fun line => (line.address, line.bytes)) := by
  induction left generalizing right with
  | nil =>
      cases right with
      | nil => rfl
      | cons line rest => cases same
  | cons line rest ih =>
      cases right with
      | nil => cases same
      | cons otherLine otherRest =>
          rw [List.map_cons, List.map_cons, List.cons.injEq] at same
          obtain ⟨sameText, sameRest⟩ := same
          obtain ⟨sameAddress, sameBytes⟩ := Line.parts_eq_of_text_eq sameText
          rw [List.map_cons, List.map_cons, sameAddress, sameBytes, ih sameRest]

theorem address_head_ofImage (origin : UInt16) (image : List UInt8) (nonempty : image ≠ []) :
    (ofImage origin image).head?.map Line.address = some origin := by
  cases image with
  | nil => exact absurd rfl nonempty
  | cons high rest =>
      cases rest with
      | nil => rw [ofImage_singleton]; rfl
      | cons low rest => rw [ofImage_cons_cons]; rfl

theorem eq_of_map_text_eq {origin otherOrigin : UInt16} {image otherImage : List UInt8}
    (nonempty : image ≠ []) (otherNonempty : otherImage ≠ [])
    (same : (ofImage origin image).map Line.text = (ofImage otherOrigin otherImage).map Line.text) :
    image = otherImage ∧ origin = otherOrigin := by
  have sameParts := map_parts_eq_of_map_text_eq same
  constructor
  · have sameBytes := congrArg (List.flatMap Prod.snd) sameParts
    rw [List.flatMap_map, List.flatMap_map] at sameBytes
    calc
      image = (ofImage origin image).flatMap Line.bytes := (lists_ofImage origin image).bytes.symm
      _ = (ofImage otherOrigin otherImage).flatMap Line.bytes := sameBytes
      _ = otherImage := (lists_ofImage otherOrigin otherImage).bytes
  · have sameHead := congrArg (fun parts => parts.head?.map Prod.fst) sameParts
    simp only [List.head?_map, Option.map_map] at sameHead
    have first := address_head_ofImage origin image nonempty
    have otherFirst := address_head_ofImage otherOrigin otherImage otherNonempty
    exact Option.some.inj (first.symm.trans (sameHead.trans otherFirst))

/-- The listing of an image that can be addressed keeps the image, and its addresses are computed
without overflow; that of a program gives the program back; and the printed lines of two images differ
if the images or their origins do. -/
theorem listing_lossless :
    (∀ (origin : UInt16) (image : List UInt8), image.length ≤ 65536 →
      indexed? origin 0 image = some (ofImage origin image) ∧
        Lists origin image (ofImage origin image)) ∧
      (∀ (origin : UInt16) (instructions : List Instruction), instructions.length ≤ 32768 →
        (∀ instruction ∈ instructions, instruction.InRange ∧ ¬ instruction.Shadowed) →
          (ofImage origin (assembled instructions)).map Line.content =
            instructions.map .decoded) ∧
        ∀ (origin otherOrigin : UInt16) (image otherImage : List UInt8), image ≠ [] →
          otherImage ≠ [] → image.length ≤ 65536 → otherImage.length ≤ 65536 →
            (ofImage origin image).map Line.text =
              (ofImage otherOrigin otherImage).map Line.text →
                image = otherImage ∧ origin = otherOrigin := by
  refine ⟨?_, ?_, ?_⟩
  · intro origin image small
    exact ⟨indexed?_of_small origin image small, lists_ofImage origin image⟩
  · intro origin instructions _small canonical
    exact content_ofImage_assembled origin instructions canonical
  · intro origin otherOrigin image otherImage nonempty otherNonempty _small _otherSmall same
    exact eq_of_map_text_eq nonempty otherNonempty same

/-- An image around the last address that ends halfway through a word, and a program that is listed
like its bytes. -/
theorem listing_lossless_at_last_address :
    indexed? 0xFFFE 0 [0x60, 0x0A, 0x12] = some (ofImage 0xFFFE [0x60, 0x0A, 0x12]) ∧
      Lists 0xFFFE [0x60, 0x0A, 0x12] (ofImage 0xFFFE [0x60, 0x0A, 0x12]) ∧
        (ofImage 0x200 (assembled [.clear, .jump 0x200])).map Line.content =
          [.decoded .clear, .decoded (.jump 0x200)] ∧
          assembled [.clear, .jump 0x200] = [0x00, 0xE0, 0x12, 0x00] := by
  have kept := listing_lossless.1 0xFFFE [0x60, 0x0A, 0x12] (by decide)
  have program := listing_lossless.2.1 0x200 [.clear, .jump 0x200] (by decide) (by
    intro instruction member
    rcases List.mem_cons.mp member with rfl | member
    · exact ⟨trivial, not_false⟩
    · rw [List.mem_singleton.mp member]
      exact ⟨(by decide : (0x200 : UInt16).toNat < 4096), not_false⟩)
  have printed := listing_lossless.2.2 0x200 0x200 (assembled [.clear, .jump 0x200])
    [0x00, 0xE0, 0x12, 0x00] (by decide) (by decide) (by decide) (by decide) rfl
  exact ⟨kept.1, kept.2, program, printed.1⟩

end Listing

end ChipEight
