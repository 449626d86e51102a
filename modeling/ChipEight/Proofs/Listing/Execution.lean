import ChipEight.Listing
import ChipEight.Proofs.Memory.Stores

set_option autoImplicit false

/-!
Listings and execution.

As long as nothing has been stored over the listed words, a cycle that fetches from the address of a
line fetches the word of this line and does with it what the line says. A word cut off is in memory
with a zero byte as its end, and is carried out as what it then denotes.
-/

namespace ChipEight

theorem Memory.startByte_add (image : List UInt8) (offset : Nat) :
    startByte image (0x200 + offset) = image.getD offset 0 := by
  have aboveFont : ¬ (0x50 ≤ 0x200 + offset ∧ 0x200 + offset < 0xA0) := by omega
  rw [startByte, if_neg aboveFont, Nat.add_sub_cancel_left]
  by_cases inside : offset < image.length
  · rw [if_pos ⟨Nat.le_add_right _ _, Nat.add_lt_add_left inside _⟩]
  · rw [if_neg (by omega), List.getD_eq_default _ _ (Nat.not_lt.mp inside)]

namespace Listing

/-- The line of an image with an index; a byte that the image does not have is zero. -/
def lineAt (origin : UInt16) (image : List UInt8) (index : Nat) : Line :=
  let word := Word.ofBytes (image.getD (2 * index) 0) (image.getD (2 * index + 1) 0)
  { address := origin + UInt16.ofNat (2 * index)
    word
    content := if 2 * index + 1 < image.length then .ofWord word else .truncated }

theorem getElem?_ofImage : ∀ (origin : UInt16) (image : List UInt8) (index : Nat),
    2 * index < image.length → (ofImage origin image)[index]? = some (lineAt origin image index)
  | origin, [high], index, inside => by
      have first : index = 0 := by
        simp only [List.length_singleton] at inside
        omega
      subst first
      simp [lineAt]
  | origin, high :: low :: rest, 0, _inside => by simp [lineAt]
  | origin, high :: low :: rest, index + 1, inside => by
      have later : 2 * index < rest.length := by
        simp only [List.length_cons] at inside
        omega
      have address : origin + 2 + UInt16.ofNat (2 * index) =
          origin + UInt16.ofNat (2 * (index + 1)) := by
        rw [Nat.mul_succ, UInt16.ofNat_add, UInt16.add_assoc, UInt16.add_comm 2]
        rfl
      rw [ofImage_cons_cons, List.getElem?_cons_succ, getElem?_ofImage (origin + 2) rest index later,
        lineAt, address]
      have whole : 2 * (index + 1) + 1 < (high :: low :: rest).length ↔
          2 * index + 1 < rest.length := by
        simp only [List.length_cons]
        omega
      simp only [lineAt, whole]
      rfl

end Listing

/-! ### What a cycle does with a word -/

/-- A step announces the instruction of a word, or else fails for want of one. -/
def Step.Performs (step : Step) (machine : Machine) (word : Word) : Prop :=
  match Instruction.ofWord? word with
  | some instruction => step.events = [machine.eventOf word instruction]
  | none => step.events = [] ∧ step.fault = some (.unknownOpcode word)

theorem Machine.performs_cycle (machine : Machine) (word : Word)
    (free : machine.cpu.awaiting = none) (fetched : machine.fetch = .ok word) :
    machine.cycle.Performs machine word := by
  rw [machine.cycle_of_fetch_ok word free fetched, Step.Performs]
  cases denoted : Instruction.ofWord? word with
  | none =>
      rw [machine.perform_of_unknown word denoted]
      exact ⟨rfl, rfl⟩
  | some instruction =>
      rw [machine.perform_of_known word instruction denoted]
      exact machine.events_known instruction word

/-- A moment fetches the word of a line and does what the line says of it. -/
def Listing.Line.CarriedOut (line : Listing.Line) (moment : Moment) : Prop :=
  moment.before.fetch = .ok line.word ∧
    match line.content with
    | .decoded instruction => moment.step.events = [moment.before.eventOf line.word instruction]
    | .unknown => moment.step.events = [] ∧ moment.step.fault = some (.unknownOpcode line.word)
    | .truncated => line.word.byte = 0 ∧ moment.step.Performs moment.before line.word

namespace Listing

theorem carriedOut_lineAt (origin : UInt16) (image : List UInt8) (index : Nat) (moment : Moment)
    (cycles : moment.move = .cycle) (free : moment.before.cpu.awaiting = none)
    (fetched : moment.before.fetch = .ok (lineAt origin image index).word) :
    (lineAt origin image index).CarriedOut moment := by
  have performs : moment.step.Performs moment.before (lineAt origin image index).word := by
    rw [Moment.step, cycles]
    exact moment.before.performs_cycle _ free fetched
  refine ⟨fetched, ?_⟩
  by_cases whole : 2 * index + 1 < image.length
  · have content : (lineAt origin image index).content =
        .ofWord (lineAt origin image index).word := if_pos whole
    rw [Step.Performs] at performs
    rw [content, Content.ofWord]
    cases denoted : Instruction.ofWord? (lineAt origin image index).word with
    | none =>
        rw [denoted] at performs
        exact performs
    | some instruction =>
        rw [denoted] at performs
        exact performs
  · have content : (lineAt origin image index).content = .truncated := if_neg whole
    have zero : image.getD (2 * index + 1) 0 = 0 :=
      List.getD_eq_default _ _ (Nat.not_lt.mp whole)
    rw [content]
    exact ⟨by rw [lineAt, Word.byte_ofBytes, zero], performs⟩

/-! ### Unwritten words -/

theorem wordAtCounter_of_unwritten (config : Config) (image : List UInt8) (earlier : List Moment)
    (machine : Machine) (overlaid : machine.Overlaid config image earlier)
    (unwritten : ∀ store ∈ storesOf config.addressPolicy (eventsOf earlier),
      store.1 < 0x200 ∨ 0x200 + 2 * ((image.length + 1) / 2) ≤ store.1)
    (index : Nat)
    (place : machine.cpu.counter.toNat % 0x1000 = 0x200 + 2 * index)
    (inside : 2 * index < image.length) :
    machine.wordAtCounter = (lineAt 0x200 image index).word := by
  have byte : ∀ offset, offset < 2 →
      machine.cpu.memory.byteAt (machine.cpu.counter.toNat + offset) =
        image.getD (2 * index + offset) 0 := by
    intro offset half
    have bound : 0x200 + (2 * index + offset) < 4096 := by omega
    have same : (machine.cpu.counter.toNat + offset) % 4096 =
        (0x200 + (2 * index + offset)) % 4096 := by omega
    have notStored : lastStored (storesOf config.addressPolicy (eventsOf earlier))
        (0x200 + (2 * index + offset)) = none := by
      apply lastStored_eq_none
      intro store member
      have elsewhere := unwritten store member
      omega
    have found := overlaid.2 (0x200 + (2 * index + offset)) bound
    rw [notStored, Option.getD_none, Memory.startByte_add] at found
    rw [Memory.byteAt_congr _ same, ← found, Memory.byteAt]
    simp only [Fin.ofNat, Nat.mod_eq_of_lt bound]
    rfl
  rw [Machine.wordAtCounter, byte 1 (by decide), ← Nat.add_zero machine.cpu.counter.toNat,
    byte 0 (by decide)]
  rfl

/-- A cycle that fetches from the address of a line carries out the line, as long as nothing has been
stored over listed words. With strict addresses, counters past memory fetch nothing. -/
theorem carriedOut_of_unwritten (config : Config) (image : List UInt8) (keypad : Keypad)
    (random : RandomSource) (fits : image.length ≤ 3584) :
    ∃ machine, Machine.boot config image keypad random = .ok machine ∧
      ∀ actions : List Action, (∀ action ∈ actions, action.Undirected) →
        ∀ place moment, (machine.trail actions)[place]? = some moment →
          (∀ store ∈ storesOf config.addressPolicy
              (eventsOf ((machine.trail actions).take place)),
            store.1 < 0x200 ∨ 0x200 + 2 * ((image.length + 1) / 2) ≤ store.1) →
          moment.move = .cycle → moment.before.cpu.awaiting = none →
            ∀ index, moment.before.cpu.counter.toNat % 0x1000 = 0x200 + 2 * index →
              2 * index < image.length →
                ∃ line, (ofImage 0x200 image)[index]? = some line ∧
                  line.address.toNat = 0x200 + 2 * index ∧
                    (line.CarriedOut moment ∨
                      config.addressPolicy = .strict ∧
                        0x1000 ≤ moment.before.cpu.counter.toNat ∧
                          moment.before.fetch =
                            .error (.addressOutOfRange moment.before.cpu.counter.toNat)) := by
  refine ⟨_, Machine.boot_eq_ok config image keypad random fits, ?_⟩
  intro actions undirected place moment found unwritten cycles free index counter inside
  have overlaid := ((Machine.holds_trail _ (Machine.overlaid_booted config image keypad random)
    (Machine.overlaid_move config image) actions undirected).2 place moment found).2
  have word := wordAtCounter_of_unwritten config image _ moment.before overlaid unwritten index counter
    inside
  refine ⟨lineAt 0x200 image index, getElem?_ofImage 0x200 image index inside, ?_, ?_⟩
  · rw [lineAt, UInt16.toNat_add, UInt16.toNat_ofNat']
    change (0x200 + _) % _ = _
    omega
  · by_cases leaves : config.addressPolicy = .strict ∧ 0x1000 ≤ moment.before.cpu.counter.toNat
    · obtain ⟨strict, outside⟩ := leaves
      have failed := moment.before.fetch_eq_error (by rw [overlaid.1, strict]) (by omega)
      rw [Nat.max_eq_left outside] at failed
      exact Or.inr ⟨strict, outside, failed⟩
    · have fetched := moment.before.fetch_eq_ok (by
        rw [overlaid.1]
        intro strict
        have bound := not_and.mp leaves strict
        omega)
      rw [word] at fetched
      exact Or.inl (carriedOut_lineAt 0x200 image index moment cycles free fetched)

/-- A program that stores right behind its last word, which is cut off, and then runs it. -/
theorem carriedOut_of_unwritten_behind_store :
    ∃ machine,
      Machine.boot { cyclesPerFrame := 3 } [0xA2, 0x06, 0xF0, 0x33, 0xA3] .idle (.cyclic #[]) =
        .ok machine ∧
      ∃ moment, (machine.trail [.frame])[3]? = some moment ∧
        moment.before.cpu.counter = 0x204 ∧
          Line.CarriedOut ⟨0x204, 0xA300, .truncated⟩ moment := by
  have fits : [0xA2, 0x06, 0xF0, 0x33, 0xA3].length ≤ 3584 := by decide
  obtain ⟨machine, loaded, lines⟩ := carriedOut_of_unwritten { cyclesPerFrame := 3 }
    [0xA2, 0x06, 0xF0, 0x33, 0xA3] .idle (.cyclic #[]) fits
  have same := Machine.booted_eq_of_boot _ _ _ _ machine loaded
  let before := machine.afterMoves [.countDown, .cycle, .cycle]
  -- One evaluation for all, since each would run the machine again.
  have facts : machine.moves [.frame] = [.countDown, .cycle, .cycle, .cycle] ∧
      before.cpu.counter = 0x204 ∧ before.cpu.awaiting = none ∧
        storesOf ({ cyclesPerFrame := 3 } : Config).addressPolicy
            (eventsOf ((machine.trail [.frame]).take 3)) =
          [(0x206, 0), (0x207, 0), (0x208, 0)] := by
    simp only [before, ← same]
    decide +kernel
  obtain ⟨moves, counter, free, stores⟩ := facts
  have found : (machine.trail [.frame])[3]? = some ⟨before, .cycle⟩ := by
    rw [Machine.trail, moves]
    rfl
  obtain ⟨line, listed, _address, carriedOut | strict⟩ := lines [.frame] (by decide) 3 _ found
    (by rw [stores]; decide) rfl free 2 (by rw [counter]; decide) (by decide)
  · cases listed
    exact ⟨machine, loaded, _, found, counter, carriedOut⟩
  · have impossible := strict.2.1
    rw [counter] at impossible
    exact absurd impossible (by decide)

end Listing

end ChipEight
