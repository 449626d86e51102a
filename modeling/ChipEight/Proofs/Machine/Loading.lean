import ChipEight.Cpu
import ChipEight.Machine.Basic
import Mathlib.Data.List.GetD
import Mathlib.Data.List.Induction

set_option autoImplicit false

/-!
Images loaded one after the other, and a machine before its first cycle.

An image is loaded whole or refused whole, and what a shorter image does not reach stays as an earlier
one left it. So a byte of program memory comes from the last loaded image that reaches it, and nothing
else ever changes (`images_loaded`). A machine starts with the image at `200`, the font at `50`, and
nothing else.
-/

namespace ChipEight

namespace Cpu

def afterImage (cpu : Cpu) (image : List UInt8) : Cpu :=
  match cpu.withImage image with
  | .ok loaded => loaded
  | .error _ => cpu

def afterImages (cpu : Cpu) (images : List (List UInt8)) : Cpu :=
  images.foldl afterImage cpu

/-- The last image that is loaded and has a byte at an offset. -/
def lastReaching (images : List (List UInt8)) (offset : Nat) : Option (List UInt8) :=
  (images.filter fun image => decide (image.length ≤ 3584 ∧ offset < image.length)).getLast?

variable (cpu : Cpu)

/-! ### One image -/

theorem withImage_of_fits (image : List UInt8) (fits : image.length ≤ 3584) :
    cpu.withImage image = .ok { cpu with memory := cpu.memory.place 0x200 image } := by
  have loaded : cpu.memory.withImage image = .ok (cpu.memory.place 0x200 image) := if_pos fits
  rw [withImage, loaded]
  rfl

theorem withImage_of_tooLarge (image : List UInt8) (tooLarge : ¬ image.length ≤ 3584) :
    cpu.withImage image = .error (.imageTooLarge image.length 3584) := by
  have refused : cpu.memory.withImage image = .error (.imageTooLarge image.length 3584) :=
    if_neg tooLarge
  rw [withImage, refused]
  rfl

theorem afterImage_eq (image : List UInt8) :
    cpu.afterImage image =
      { cpu with
        memory := if image.length ≤ 3584 then cpu.memory.place 0x200 image else cpu.memory } := by
  by_cases fits : image.length ≤ 3584
  · rw [afterImage, cpu.withImage_of_fits image fits, if_pos fits]
  · rw [afterImage, cpu.withImage_of_tooLarge image fits, if_neg fits]

theorem getElem_afterImage (image : List UInt8) (offset : Nat) (bound : offset < 3584) :
    (cpu.afterImage image).memory.bytes[0x200 + offset] =
      if reached : image.length ≤ 3584 ∧ offset < image.length then image[offset]
      else cpu.memory.bytes[0x200 + offset] := by
  have start : 0x200 ≤ 0x200 + offset := Nat.le_add_right _ _
  by_cases fits : image.length ≤ 3584
  · simp only [afterImage_eq, fits, if_true, true_and, Memory.getElem_place, start,
      Nat.add_sub_cancel_left]
  · simp only [afterImage_eq, fits, if_false, false_and, dite_false]

theorem getElem_afterImage_of_lt (image : List UInt8) (address : Nat) (low : address < 0x200) :
    (cpu.afterImage image).memory.bytes[address] = cpu.memory.bytes[address] := by
  have before : ¬ 0x200 ≤ address := Nat.not_le.mpr low
  by_cases fits : image.length ≤ 3584
  · simp only [afterImage_eq, fits, if_true, Memory.getElem_place, before, false_and, dite_false]
  · simp only [afterImage_eq, fits, if_false]

/-! ### Many images -/

theorem afterImages_concat (images : List (List UInt8)) (image : List UInt8) :
    cpu.afterImages (images ++ [image]) = (cpu.afterImages images).afterImage image := by
  rw [afterImages, List.foldl_append]
  rfl

theorem afterImages_eq (images : List (List UInt8)) :
    cpu.afterImages images = { cpu with memory := (cpu.afterImages images).memory } := by
  induction images using List.reverseRecOn with
  | nil => rfl
  | append_singleton images image ih =>
      rw [afterImages_concat, afterImage_eq, ih]

theorem lastReaching_concat (images : List (List UInt8)) (image : List UInt8) (offset : Nat) :
    lastReaching (images ++ [image]) offset =
      if image.length ≤ 3584 ∧ offset < image.length then some image
      else lastReaching images offset := by
  rw [lastReaching, List.filter_append]
  by_cases reached : image.length ≤ 3584 ∧ offset < image.length
  · rw [if_pos reached, List.filter_cons, decide_eq_true reached]
    exact List.getLast?_concat
  · rw [if_neg reached, List.filter_cons, decide_eq_false reached]
    exact congrArg List.getLast? (List.append_nil _)

theorem getElem_afterImages (images : List (List UInt8)) (offset : Nat) (bound : offset < 3584) :
    (cpu.afterImages images).memory.bytes[0x200 + offset] =
      ((lastReaching images offset).bind fun image => image[offset]?).getD
        cpu.memory.bytes[0x200 + offset] := by
  induction images using List.reverseRecOn with
  | nil => rfl
  | append_singleton images image ih =>
      rw [lastReaching_concat]
      simp only [afterImages_concat, getElem_afterImage _ _ _ bound]
      by_cases reached : image.length ≤ 3584 ∧ offset < image.length
      · rw [dif_pos reached, if_pos reached, Option.bind_some,
          List.getElem?_eq_getElem reached.2, Option.getD_some]
      · rw [dif_neg reached, if_neg reached, ih]

theorem getElem_afterImages_of_lt (images : List (List UInt8)) (address : Nat)
    (low : address < 0x200) :
    (cpu.afterImages images).memory.bytes[address] = cpu.memory.bytes[address] := by
  induction images using List.reverseRecOn with
  | nil => rfl
  | append_singleton images image ih =>
      simp only [afterImages_concat, getElem_afterImage_of_lt _ _ _ low, ih]

/-- Whatever images came before, an image is loaded if and only if it has at most 3584 bytes, and is
refused with its size otherwise, when everything stays as it was. Program memory holds byte for byte the
last loaded image that reaches there, or what it held at the start; lower memory, with the font, and all
that is not memory are as at the start. -/
theorem images_loaded (images : List (List UInt8)) :
    (∀ image, let before := cpu.afterImages images
      let after := cpu.afterImages (images ++ [image])
      (image.length ≤ 3584 → before.withImage image = .ok after) ∧
        (3584 < image.length →
          before.withImage image = .error (.imageTooLarge image.length 3584) ∧ after = before)) ∧
      (∀ offset, (bound : offset < 3584) →
        (cpu.afterImages images).memory.bytes[0x200 + offset] =
          ((lastReaching images offset).bind fun image => image[offset]?).getD
            cpu.memory.bytes[0x200 + offset]) ∧
        (∀ address, (low : address < 0x200) →
          (cpu.afterImages images).memory.bytes[address] = cpu.memory.bytes[address]) ∧
          cpu.afterImages images = { cpu with memory := (cpu.afterImages images).memory } := by
  refine ⟨?_, cpu.getElem_afterImages images, cpu.getElem_afterImages_of_lt images,
    cpu.afterImages_eq images⟩
  intro image before after
  have next : after = before.afterImage image := cpu.afterImages_concat images image
  constructor
  · intro fits
    rw [next, afterImage, before.withImage_of_fits image fits]
  · intro tooLarge
    have refused := before.withImage_of_tooLarge image (Nat.not_le.mpr tooLarge)
    refine ⟨refused, ?_⟩
    rw [next, afterImage, refused]

/-- An image that fills program memory, one that is a byte too long, and a short one. -/
theorem images_loaded_at_capacity :
    let full : List UInt8 := List.replicate 3584 0x11
    let tooLong : List UInt8 := List.replicate 3585 0x22
    let cpu := initial.setRegister 4 0x44
    cpu.withImage full = .ok (cpu.afterImages [full]) ∧
      (cpu.afterImages [full]).withImage tooLong = .error (.imageTooLarge 3585 3584) ∧
        cpu.afterImages [full, tooLong] = cpu.afterImages [full] ∧
          (cpu.afterImages [full, tooLong, [1, 2, 3]]).memory.bytes[0x202] = 3 ∧
            (cpu.afterImages [full, tooLong, [1, 2, 3]]).memory.bytes[0xFFF] = 0x11 ∧
              (cpu.afterImages [full, tooLong, [1, 2, 3]]).memory.bytes[0x50] = 0xF0 := by
  intro full tooLong cpu
  have fullLength : full.length = 3584 := List.length_replicate
  have longLength : tooLong.length = 3585 := List.length_replicate
  have short : lastReaching [full, tooLong, [1, 2, 3]] 2 = some [1, 2, 3] := by
    simp only [lastReaching, List.filter_cons, fullLength, longLength]
    rfl
  have behind : lastReaching [full, tooLong, [1, 2, 3]] 3583 = some full := by
    simp only [lastReaching, List.filter_cons, fullLength, longLength]
    rfl
  have last : full[3583]? = some 0x11 := List.getElem?_replicate_of_lt (by decide)
  obtain ⟨_calls, program, low, _rest⟩ := cpu.images_loaded [full, tooLong, [1, 2, 3]]
  have second := ((cpu.images_loaded [full]).1 tooLong).2 (by rw [longLength]; decide)
  rw [longLength] at second
  refine ⟨((cpu.images_loaded []).1 full).1 (Nat.le_of_eq fullLength), second.1, second.2, ?_, ?_, ?_⟩
  · rw [program 2 (by decide), short]
    rfl
  · rw [program 3583 (by decide), behind, Option.bind_some, last]
    rfl
  · rw [low 0x50 (by decide)]
    decide +kernel

end Cpu

/-! ### A machine before its first cycle -/

def Memory.startByte (image : List UInt8) (address : Nat) : UInt8 :=
  if 0x200 ≤ address ∧ address < 0x200 + image.length then image.getD (address - 0x200) 0
  else if 0x50 ≤ address ∧ address < 0xA0 then Memory.font.getD (address - 0x50) 0
  else 0

theorem Memory.getElem_initial (address : Nat) (bound : address < 4096) :
    Memory.initial.bytes[address] =
      if 0x50 ≤ address ∧ address < 0xA0 then Memory.font.getD (address - 0x50) 0 else 0 := by
  have length : Memory.font.length = 80 := by decide
  rw [Memory.initial, Memory.getElem_place _ _ _ address bound, Memory.fontStart]
  by_cases inside : 0x50 ≤ address ∧ address < 0xA0
  · have within : 0x50 ≤ address ∧ address - 0x50 < Memory.font.length := by omega
    rw [dif_pos within, if_pos inside, List.getD_eq_getElem _ _ within.2]
  · have without : ¬ (0x50 ≤ address ∧ address - 0x50 < Memory.font.length) := by omega
    rw [dif_neg without, if_neg inside, Vector.getElem_replicate]

/-- The start bytes of an image are those of memory with the image in its place. -/
theorem Memory.getElem_place_image (image : List UInt8) (address : Nat) (bound : address < 4096) :
    (Memory.initial.place 0x200 image).bytes[address] = Memory.startByte image address := by
  rw [Memory.getElem_place _ _ _ address bound, Memory.getElem_initial address bound,
    Memory.startByte]
  by_cases inside : 0x200 ≤ address ∧ address < 0x200 + image.length
  · have within : 0x200 ≤ address ∧ address - 0x200 < image.length := by omega
    rw [dif_pos within, if_pos inside, List.getD_eq_getElem _ _ within.2]
  · have without : ¬ (0x200 ≤ address ∧ address - 0x200 < image.length) := by omega
    rw [dif_neg without, if_neg inside]

def Machine.booted (config : Config) (image : List UInt8) (keypad : Keypad)
    (random : RandomSource) : Machine where
  cpu := { Cpu.initial with memory := Memory.initial.place 0x200 image }
  screen := .blank
  keypad
  random
  config

theorem Machine.boot_eq_ok (config : Config) (image : List UInt8) (keypad : Keypad)
    (random : RandomSource) (fits : image.length ≤ 3584) :
    Machine.boot config image keypad random =
      .ok (Machine.booted config image keypad random) := by
  rw [Machine.boot, Cpu.withImage_of_fits _ image fits]
  rfl

theorem Machine.boot_eq_error (config : Config) (image : List UInt8) (keypad : Keypad)
    (random : RandomSource) (tooLarge : ¬ image.length ≤ 3584) :
    Machine.boot config image keypad random = .error (.imageTooLarge image.length 3584) := by
  rw [Machine.boot, Cpu.withImage_of_tooLarge _ image tooLarge]
  rfl

theorem Machine.booted_eq_of_boot (config : Config) (image : List UInt8) (keypad : Keypad)
    (random : RandomSource) (machine : Machine)
    (loaded : Machine.boot config image keypad random = .ok machine) :
    Machine.booted config image keypad random = machine := by
  by_cases fits : image.length ≤ 3584
  · exact Except.ok.inj ((boot_eq_ok config image keypad random fits).symm.trans loaded)
  · rw [boot_eq_error config image keypad random fits] at loaded
    cases loaded

end ChipEight
