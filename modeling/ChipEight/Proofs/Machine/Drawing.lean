import ChipEight.Proofs.Cpu.Registers
import ChipEight.Proofs.Machine.Steps
import ChipEight.Proofs.Screen.Collision

set_option autoImplicit false

/-!
Drawing as an exclusive disjunction.

A drawing that does not fail changes the screen by the bits of its sprite, clipped at the right and
bottom edges, and the flag by whether a set bit met a lit pixel. `Machine.Drawn` says so of every pixel
and register, with the place of the sprite taken from the registers as they were before.
-/

namespace ChipEight

/-- Whether the sprite at the index has a set bit at a pixel. The sprite has eight columns and `rows`
rows, two registers give its upper left corner, and each row is the byte that the policy finds at the
address of that row. -/
def Machine.spriteBit (machine : Machine) (x y rows : UInt8) (column row : Nat) : Bool :=
  let left := (machine.cpu.register x).toNat
  let top := (machine.cpu.register y).toNat
  decide (left ≤ column ∧ column < left + 8 ∧ top ≤ row ∧ row < top + rows.toNat) &&
    (machine.config.addressPolicy.resolve (machine.cpu.index.toNat + (row - top))).toOption.any
      fun place => (machine.cpu.memory.bytes.get place).toNat.testBit (7 - (column - left))

def Machine.SpriteCollides (machine : Machine) (x y rows : UInt8) : Prop :=
  ∃ column < 64, ∃ row < 32, machine.spriteBit x y rows column row = true ∧
    machine.screen.pixel column row = true

structure Machine.Drawn (machine : Machine) (x y rows : UInt8) (after : Machine) : Prop where
  resolved : ∀ row < 32, (machine.cpu.register y).toNat ≤ row →
    row < (machine.cpu.register y).toNat + rows.toNat →
      ∃ place, machine.config.addressPolicy.resolve
        (machine.cpu.index.toNat + (row - (machine.cpu.register y).toNat)) = .ok place
  pixels : ∀ column < 64, ∀ row < 32,
    after.screen.pixel column row =
      (machine.screen.pixel column row ^^ machine.spriteBit x y rows column row)
  offScreen : 64 ≤ (machine.cpu.register x).toNat ∨ 32 ≤ (machine.cpu.register y).toNat →
    after.screen = machine.screen
  collision : machine.SpriteCollides x y rows → after.cpu.register 0xF = 1
  noCollision : ¬ machine.SpriteCollides x y rows → after.cpu.register 0xF = 0
  registers : ∀ register, (bound : register < 15) →
    after.cpu.registers[register] = machine.cpu.registers[register]
  rest : after =
    { machine with
      screen := after.screen
      cpu := { machine.cpu with registers := after.cpu.registers } }

namespace Machine

theorem resolve_of_runFault_eq_none (policy : AddressPolicy) (address count offset : Nat)
    (safe : policy.runFault address count = none) (inside : offset < count) :
    policy.resolve (address + offset) = .ok (Fin.ofNat 4096 (address + offset)) := by
  apply Memory.resolve_eq_ok
  rintro rfl
  have reached := AddressPolicy.reach_of_runFault_eq_none _ _ _ safe
  simp only [AddressPolicy.reach] at reached
  omega

variable (machine : Machine) (x y rows : UInt8)

/-- The rows of the sprite at the index, as far as the bottom edge of the screen. -/
def spriteRows : List UInt8 :=
  (List.range (min rows.toNat (32 - (machine.cpu.register y).toNat))).map fun offset =>
    machine.cpu.memory.byteAt (machine.cpu.index.toNat + offset)

theorem length_spriteRows_le :
    (machine.spriteRows y rows).length ≤ 32 - (machine.cpu.register y).toNat := by
  simp only [spriteRows, List.length_map, List.length_range]
  exact Nat.min_le_right _ _

theorem draw_of_runFault_eq_none
    (safe : machine.config.addressPolicy.runFault machine.cpu.index.toNat
      (min rows.toNat (32 - (machine.cpu.register y).toNat)) = none) :
    machine.draw x y rows =
      let drawing := (Drawing.start machine.screen).sprite (machine.cpu.register x).toNat
        (machine.cpu.register y).toNat (machine.spriteRows y rows)
      { machine :=
          { machine with
            screen := drawing.screen
            cpu := machine.cpu.setFlag drawing.collided } } := by
  simp only [draw, Memory.readRun_eq, safe, AddressPolicy.reach_of_runFault_eq_none _ _ _ safe,
    Option.isNone_none, Bool.and_true, spriteRows]

/-- The bits that a drawing paints are those of the sprite. -/
theorem paints_spriteRows
    (safe : machine.config.addressPolicy.runFault machine.cpu.index.toNat
      (min rows.toNat (32 - (machine.cpu.register y).toNat)) = none)
    (column row : Nat) (rowBound : row < 32) :
    Drawing.paints (machine.cpu.register x).toNat (machine.cpu.register y).toNat
      (machine.spriteRows y rows) column row = machine.spriteBit x y rows column row := by
  rw [spriteRows, Drawing.paints_map_range, spriteBit]
  by_cases inside : (machine.cpu.register x).toNat ≤ column ∧
      column < (machine.cpu.register x).toNat + 8 ∧ (machine.cpu.register y).toNat ≤ row ∧
        row < (machine.cpu.register y).toNat + rows.toNat
  · obtain ⟨left, right, top, bottom⟩ := inside
    have clipped : row < (machine.cpu.register y).toNat +
        min rows.toNat (32 - (machine.cpu.register y).toNat) := by omega
    -- The rows that were read end at the bottom edge, and so does the pixel.
    have found := resolve_of_runFault_eq_none _ _ _ (row - (machine.cpu.register y).toNat) safe
      (by omega)
    simp only [found, left, right, top, bottom, clipped, true_and, decide_true, Bool.true_and,
      Bool.decide_eq_true]
    rfl
  · have outside : ¬ ((machine.cpu.register x).toNat ≤ column ∧
        column < (machine.cpu.register x).toNat + 8 ∧ (machine.cpu.register y).toNat ≤ row ∧
          row < (machine.cpu.register y).toNat +
            min rows.toNat (32 - (machine.cpu.register y).toNat) ∧
            Drawing.covers (machine.cpu.memory.byteAt
              (machine.cpu.index.toNat + (row - (machine.cpu.register y).toNat)))
                (column - (machine.cpu.register x).toNat) = true) := by
      omega
    rw [decide_eq_false outside, decide_eq_false inside, Bool.false_and]

/-- A drawing paints the set bits of the rows that it can read, also if it fails. -/
theorem pixel_draw (column row : Nat) (columnBound : column < 64) (rowBound : row < 32) :
    (machine.draw x y rows).machine.screen.pixel column row =
      (machine.screen.pixel column row ^^ machine.spriteBit x y rows column row) := by
  have reached := machine.config.addressPolicy.lt_reach_iff machine.cpu.index.toNat
    (min rows.toNat (32 - (machine.cpu.register y).toNat))
  have short : machine.config.addressPolicy.reach machine.cpu.index.toNat
      (min rows.toNat (32 - (machine.cpu.register y).toNat)) ≤
        32 - (machine.cpu.register y).toNat := by
    apply Nat.le_of_not_lt
    intro beyond
    have inside := (reached _).mp beyond
    omega
  simp only [draw, Memory.readRun_eq]
  rw [Drawing.pixel_sprite _ _ _ _ (by rwa [List.length_map, List.length_range]) column row
    columnBound rowBound, Drawing.paints_map_range, spriteBit]
  have found := machine.cpu.memory.any_resolve machine.config.addressPolicy
    (machine.cpu.index.toNat + (row - (machine.cpu.register y).toNat))
    fun bits => Drawing.covers bits (column - (machine.cpu.register x).toNat)
  refine congrArg (Bool.xor _) (Eq.trans ?_ (congrArg (Bool.and _) found.symm))
  rw [Bool.eq_iff_iff, Bool.and_eq_true, Bool.and_eq_true, decide_eq_true_eq, decide_eq_true_eq,
    decide_eq_true_eq]
  constructor
  · intro painted
    obtain ⟨left, right, top, bottom, covered⟩ := painted
    obtain ⟨inside, within⟩ := (reached (row - (machine.cpu.register y).toNat)).mp (by omega)
    exact ⟨⟨left, right, top, by omega⟩, within, covered⟩
  · intro painted
    obtain ⟨⟨left, right, top, bottom⟩, within, covered⟩ := painted
    have inside := (reached (row - (machine.cpu.register y).toNat)).mpr ⟨by omega, within⟩
    exact ⟨left, right, top, by omega, covered⟩

theorem spriteBit_of_offScreen (offScreen : 64 ≤ (machine.cpu.register x).toNat ∨
      32 ≤ (machine.cpu.register y).toNat) (column row : Nat) (columnBound : column < 64)
    (rowBound : row < 32) : machine.spriteBit x y rows column row = false := by
  have outside : ¬ ((machine.cpu.register x).toNat ≤ column ∧
      column < (machine.cpu.register x).toNat + 8 ∧ (machine.cpu.register y).toNat ≤ row ∧
        row < (machine.cpu.register y).toNat + rows.toNat) := by
    omega
  rw [spriteBit, decide_eq_false outside, Bool.false_and]

theorem collided_sprite_spriteRows
    (safe : machine.config.addressPolicy.runFault machine.cpu.index.toNat
      (min rows.toNat (32 - (machine.cpu.register y).toNat)) = none) :
    ((Drawing.start machine.screen).sprite (machine.cpu.register x).toNat
        (machine.cpu.register y).toNat (machine.spriteRows y rows)).collided = true ↔
      machine.SpriteCollides x y rows := by
  rw [Drawing.collided_sprite _ _ _ _ (machine.length_spriteRows_le y rows)]
  constructor
  · rintro (impossible | ⟨column, columnBound, row, rowBound, painted, lit⟩)
    · cases impossible
    · rw [machine.paints_spriteRows x y rows safe column row rowBound] at painted
      exact ⟨column, columnBound, row, rowBound, painted, lit⟩
  · rintro ⟨column, columnBound, row, rowBound, painted, lit⟩
    rw [← machine.paints_spriteRows x y rows safe column row rowBound] at painted
    exact Or.inr ⟨column, columnBound, row, rowBound, painted, lit⟩

theorem flag_draw (unfailing : (machine.draw x y rows).fault = none) :
    machine.SpriteCollides x y rows ∧ (machine.draw x y rows).machine.cpu.register 0xF = 1 ∨
      ¬ machine.SpriteCollides x y rows ∧
        (machine.draw x y rows).machine.cpu.register 0xF = 0 := by
  have safe := (machine.fault_draw x y rows).symm.trans unfailing
  rw [← machine.collided_sprite_spriteRows x y rows safe,
    machine.draw_of_runFault_eq_none x y rows safe, Cpu.register_setFlag]
  split
  · rename_i collided
    exact Or.inl ⟨collided, rfl⟩
  · rename_i clear
    exact Or.inr ⟨clear, rfl⟩

theorem flag_draw_of_fault (fault : Fault) (failed : (machine.draw x y rows).fault = some fault) :
    (machine.draw x y rows).machine.cpu.register 0xF = 0 := by
  simp only [draw] at failed ⊢
  rw [failed, Option.isNone_some, Bool.and_false, Cpu.register_setFlag]
  rfl

/-- A drawing that does not fail flips the pixels of the set bits that lie on the screen, tells in the
flag whether one of them was lit, and changes nothing else. -/
theorem drawn_of_fault_eq_none
    (unfailing : (machine.execute (.draw x y rows)).fault = none) :
    machine.Drawn x y rows (machine.execute (.draw x y rows)).machine := by
  have safe := (machine.fault_draw x y rows).symm.trans unfailing
  have pixels : ∀ column < 64, ∀ row < 32,
      (machine.draw x y rows).machine.screen.pixel column row =
        (machine.screen.pixel column row ^^ machine.spriteBit x y rows column row) := by
    intro column columnBound row rowBound
    rw [machine.draw_of_runFault_eq_none x y rows safe,
      ← machine.paints_spriteRows x y rows safe column row rowBound]
    exact Drawing.pixel_sprite _ _ _ _ (machine.length_spriteRows_le y rows) column row
      columnBound rowBound
  -- The corner is that of the registers before, also if the flag is one of them.
  have flag : (machine.draw x y rows).machine.cpu.register 0xF =
      if ((Drawing.start machine.screen).sprite (machine.cpu.register x).toNat
        (machine.cpu.register y).toNat (machine.spriteRows y rows)).collided then 1 else 0 := by
    rw [machine.draw_of_runFault_eq_none x y rows safe]
    exact Cpu.register_setFlag _ _
  rw [execute]
  exact {
    resolved := by
      intro row rowBound top bottom
      exact ⟨_, resolve_of_runFault_eq_none _ _ _ _ safe (by omega)⟩
    pixels
    offScreen := by
      intro offScreen
      apply Screen.ext_pixel
      intro column row columnBound rowBound
      rw [pixels column columnBound row rowBound,
        machine.spriteBit_of_offScreen x y rows offScreen column row columnBound rowBound,
        Bool.xor_false]
    collision := by
      intro collides
      rw [flag, if_pos ((machine.collided_sprite_spriteRows x y rows safe).mpr collides)]
    noCollision := by
      intro misses
      rw [flag, if_neg (mt (machine.collided_sprite_spriteRows x y rows safe).mp misses)]
    registers := by
      intro register bound
      rw [machine.draw_of_runFault_eq_none x y rows safe]
      exact Cpu.getElem_setFlag_of_ne _ _ register (Nat.lt_succ_of_lt bound) (Nat.ne_of_lt bound)
    rest := by
      rw [machine.draw_of_runFault_eq_none x y rows safe]
      rfl }

/-- A sprite that leaves the screen to the right and at the bottom, with its rows around the end of
memory and its column in the flag register. -/
theorem drawn_of_fault_eq_none_in_corner :
    ∃ machine : Machine, machine.cpu.index = 0xFFF ∧ machine.cpu.register 0xF = 60 ∧
      machine.cpu.register 0 = 30 ∧ machine.SpriteCollides 0xF 0 3 ∧
        (machine.execute (.draw 0xF 0 3)).fault = none ∧
          machine.Drawn 0xF 0 3 (machine.execute (.draw 0xF 0 3)).machine := by
  refine ⟨{ fresh { addressPolicy := .wrap } with
    cpu :=
      { (Cpu.initial.setRegister 0xF 60).setRegister 0 30 with
        index := 0xFFF
        memory := (Memory.initial.place 0xFFF [0x9F]).place 0 [0x80] }
    screen := Screen.blank.flip 60 31 }, rfl, by decide, by decide, ?_, ?_, ?_⟩
  · exact ⟨60, by decide, 31, by decide, by decide +kernel, by decide +kernel⟩
  · decide +kernel
  · exact drawn_of_fault_eq_none _ _ _ _ (by decide +kernel)

end Machine

end ChipEight
