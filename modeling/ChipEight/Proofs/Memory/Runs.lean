import ChipEight.Memory

set_option autoImplicit false

/-!
Runs of memory accesses under a policy.

Wrapped access never fails. Strict access reaches the addresses below `1000`, so a run fails exactly
when it has an address past them, it fails at the first such address, and it has by then read or
written every address before it.

A run of no more bytes than memory has writes each of them in a place of its own, also around the end of
memory. So reading the run gives the bytes back, and writing a run back that has been read changes
nothing.
-/

namespace ChipEight

/-- How many of the `count` addresses from `address` on a policy gives access to. -/
def AddressPolicy.reach (policy : AddressPolicy) (address count : Nat) : Nat :=
  match policy with
  | .wrap => count
  | .strict => min count (4096 - address)

def AddressPolicy.runFault (policy : AddressPolicy) (address count : Nat) : Option Fault :=
  if policy = .strict ∧ 0 < count ∧ 4096 < address + count then
    some (.addressOutOfRange (max address 4096))
  else none

theorem AddressPolicy.runFault_eq_some_iff (policy : AddressPolicy) (address count : Nat)
    (fault : Fault) :
    policy.runFault address count = some fault ↔
      policy = .strict ∧ 0 < count ∧ 4096 < address + count ∧
        fault = .addressOutOfRange (max address 4096) := by
  unfold runFault
  split
  · rename_i leaves
    simp [leaves, eq_comm]
  · rename_i stays
    constructor
    · intro impossible
      cases impossible
    · intro failed
      obtain ⟨strict, nonempty, leaves, _same⟩ := failed
      exact absurd ⟨strict, nonempty, leaves⟩ stays

@[simp] theorem AddressPolicy.runFault_wrap (address count : Nat) :
    AddressPolicy.wrap.runFault address count = none := by
  simp [runFault]

/-- A run that stays inside memory does not depend on the policy. -/
theorem AddressPolicy.reach_of_runFault_eq_none (policy : AddressPolicy) (address count : Nat)
    (safe : policy.runFault address count = none) : policy.reach address count = count := by
  cases policy with
  | wrap => rfl
  | strict =>
      simp only [runFault, true_and, ite_eq_right_iff, reduceCtorEq, imp_false, not_and] at safe
      simp only [reach]
      omega

/-- A run that reaches all its addresses is one that does not fail. -/
theorem AddressPolicy.reach_eq_iff (policy : AddressPolicy) (address count : Nat) :
    policy.reach address count = count ↔ policy.runFault address count = none := by
  refine ⟨?_, reach_of_runFault_eq_none policy address count⟩
  intro all
  cases policy with
  | wrap => exact runFault_wrap address count
  | strict =>
      simp only [reach] at all
      simp only [runFault, true_and, ite_eq_right_iff, reduceCtorEq, imp_false]
      omega

theorem AddressPolicy.reach_le (policy : AddressPolicy) (address count : Nat) :
    policy.reach address count ≤ count := by
  cases policy with
  | wrap => exact Nat.le_refl count
  | strict => exact Nat.min_le_left _ _

theorem AddressPolicy.lt_reach_iff (policy : AddressPolicy) (address count offset : Nat) :
    offset < policy.reach address count ↔
      offset < count ∧ (policy = .strict → address + offset < 4096) := by
  cases policy with
  | wrap => simp only [reach, reduceCtorEq, false_imp_iff, and_true]
  | strict =>
      simp only [reach, true_imp_iff]
      omega

theorem AddressPolicy.reach_succ (policy : AddressPolicy) (address count : Nat)
    (inside : policy = .strict → address < 4096) :
    policy.reach address (count + 1) = policy.reach (address + 1) count + 1 := by
  cases policy with
  | wrap => rfl
  | strict =>
      have bound := inside rfl
      simp only [reach]
      omega

theorem AddressPolicy.reach_of_le (address count : Nat) (outside : 4096 ≤ address) :
    AddressPolicy.strict.reach address count = 0 := by
  rw [reach, Nat.sub_eq_zero_of_le outside, Nat.min_zero]

namespace Memory

/-- Memories are told apart by their bytes. -/
theorem ext_bytes {left right : Memory}
    (same : ∀ address (bound : address < 4096), left.bytes[address] = right.bytes[address]) :
    left = right := by
  rcases left with ⟨left⟩
  rcases right with ⟨right⟩
  congr
  ext address bound
  rw [same address bound]

def byteAt (memory : Memory) (address : Nat) : UInt8 :=
  memory.bytes[Fin.ofNat 4096 address]

theorem byteAt_congr (memory : Memory) {left right : Nat} (same : left % 4096 = right % 4096) :
    memory.byteAt left = memory.byteAt right := by
  have samePlace : Fin.ofNat 4096 left = Fin.ofNat 4096 right := Fin.ext same
  simp only [byteAt, samePlace]

theorem resolve_eq_ok (policy : AddressPolicy) (address : Nat)
    (inside : policy = .strict → address < 4096) :
    policy.resolve address = .ok ⟨address % 4096, Nat.mod_lt address (by decide)⟩ := by
  cases policy with
  | wrap => rfl
  | strict =>
      have bound := inside rfl
      simp only [AddressPolicy.resolve, dif_pos bound, Nat.mod_eq_of_lt bound]

theorem resolve_eq_error (address : Nat) (outside : 4096 ≤ address) :
    AddressPolicy.strict.resolve address = .error (.addressOutOfRange address) := by
  simp only [AddressPolicy.resolve, dif_neg (Nat.not_lt.mpr outside)]

theorem resolve_eq_ok_iff (policy : AddressPolicy) (address : Nat) (place : Fin 4096) :
    policy.resolve address = .ok place ↔
      (policy = .strict → address < 4096) ∧ place.val = address % 4096 := by
  by_cases inside : policy = .strict → address < 4096
  · rw [resolve_eq_ok policy address inside, and_iff_right inside, Except.ok.injEq, Fin.ext_iff,
      eq_comm]
  · obtain ⟨rfl, outside⟩ := Classical.not_imp.mp inside
    rw [resolve_eq_error address (Nat.not_lt.mp outside)]
    constructor
    · intro impossible
      cases impossible
    · intro both
      exact absurd both.1 inside

/-- A test of the byte at an address, which fails where there is none. -/
theorem any_resolve (memory : Memory) (policy : AddressPolicy) (address : Nat)
    (test : UInt8 → Bool) :
    ((policy.resolve address).toOption.any fun place => test (memory.bytes.get place)) =
      (decide (policy = .strict → address < 4096) && test (memory.byteAt address)) := by
  by_cases inside : policy = .strict → address < 4096
  · rw [resolve_eq_ok policy address inside, decide_eq_true inside, Bool.true_and]
    rfl
  · obtain ⟨rfl, outside⟩ := Classical.not_imp.mp inside
    rw [resolve_eq_error address (Nat.not_lt.mp outside), decide_eq_false inside, Bool.false_and]
    rfl

theorem read_eq_ok (memory : Memory) (policy : AddressPolicy) (address : Nat)
    (inside : policy = .strict → address < 4096) :
    memory.read policy address = .ok (memory.byteAt address) := by
  rw [read, resolve_eq_ok policy address inside]
  rfl

theorem read_wrap (memory : Memory) (address : Nat) :
    memory.read .wrap address = .ok (memory.byteAt address) := by
  apply memory.read_eq_ok
  intro impossible
  cases impossible

theorem read_eq_error (memory : Memory) (address : Nat) (outside : 4096 ≤ address) :
    memory.read .strict address = .error (.addressOutOfRange address) := by
  rw [read, resolve_eq_error address outside]
  rfl

theorem write_eq_ok (memory : Memory) (policy : AddressPolicy) (address : Nat) (byte : UInt8)
    (inside : policy = .strict → address < 4096) :
    memory.write policy address byte = .ok ⟨memory.bytes.set (address % 4096) byte⟩ := by
  rw [write, resolve_eq_ok policy address inside]
  rfl

theorem write_wrap (memory : Memory) (address : Nat) (byte : UInt8) :
    memory.write .wrap address byte = .ok ⟨memory.bytes.set (address % 4096) byte⟩ := by
  apply memory.write_eq_ok
  intro impossible
  cases impossible

theorem write_eq_error (memory : Memory) (address : Nat) (byte : UInt8)
    (outside : 4096 ≤ address) :
    memory.write .strict address byte = .error (.addressOutOfRange address) := by
  rw [write, resolve_eq_error address outside]
  rfl

/-! ### What a run reads and writes -/

theorem readRun_wrap (memory : Memory) (address count : Nat) :
    memory.readRun .wrap address count =
      ((List.range count).map fun offset => memory.byteAt (address + offset), none) := by
  induction count generalizing address with
  | zero => rfl
  | succ count ih =>
      rw [readRun, read_wrap]
      simp only [ih, List.range_succ_eq_map, List.map_cons, List.map_map, Nat.add_zero,
        Prod.mk.injEq, List.cons.injEq, true_and, and_true]
      apply List.map_congr_left
      intro offset _member
      exact congrArg memory.byteAt (by simp only [Nat.succ_eq_add_one]; omega)

theorem readRun_strict (memory : Memory) (address count : Nat) :
    memory.readRun .strict address count =
      ((memory.readRun .wrap address (min count (4096 - address))).1,
        AddressPolicy.strict.runFault address count) := by
  induction count generalizing address with
  | zero => simp [readRun, AddressPolicy.runFault]
  | succ count ih =>
      by_cases bound : address < 4096
      · have reached : min (count + 1) (4096 - address) =
            min count (4096 - (address + 1)) + 1 := by omega
        rw [readRun, read_eq_ok memory .strict address (fun _ => bound), reached, readRun, read_wrap]
        simp only [ih, Prod.mk.injEq, true_and]
        simp only [AddressPolicy.runFault, true_and]
        grind
      · have outside : 4096 ≤ address := Nat.not_lt.mp bound
        have reached : min (count + 1) (4096 - address) = 0 := by omega
        rw [readRun, read_eq_error memory address outside, reached]
        simp only [readRun, AddressPolicy.runFault, true_and, Prod.mk.injEq]
        grind

/-- A run of reads gives the bytes that the policy reaches, and the fault of the run. -/
theorem readRun_eq (memory : Memory) (policy : AddressPolicy) (address count : Nat) :
    memory.readRun policy address count =
      ((List.range (policy.reach address count)).map fun offset => memory.byteAt (address + offset),
        policy.runFault address count) := by
  cases policy with
  | wrap => rw [readRun_wrap, AddressPolicy.runFault_wrap]; rfl
  | strict => rw [readRun_strict, readRun_wrap]; rfl

theorem length_readRun (memory : Memory) (policy : AddressPolicy) (address count : Nat) :
    (memory.readRun policy address count).1.length = policy.reach address count := by
  rw [readRun_eq, List.length_map, List.length_range]

theorem length_readRun_of_safe (memory : Memory) (policy : AddressPolicy) (address count : Nat)
    (safe : policy.runFault address count = none) :
    (memory.readRun policy address count).1.length = count := by
  rw [length_readRun, AddressPolicy.reach_of_runFault_eq_none _ _ _ safe]

theorem read_eq_getElem_readRun (memory : Memory) (policy : AddressPolicy) (address count offset : Nat)
    (inside : offset < (memory.readRun policy address count).1.length) :
    memory.read policy (address + offset) =
      .ok (memory.readRun policy address count).1[offset] := by
  have reached := inside
  rw [length_readRun, AddressPolicy.lt_reach_iff] at reached
  rw [read_eq_ok memory policy _ reached.2]
  simp only [readRun_eq, List.getElem_map, List.getElem_range]

theorem place_of_le (memory : Memory) (start : Nat) (block : List UInt8) (outside : 4096 ≤ start) :
    memory.place start block = memory := by
  apply ext_bytes
  intro address bound
  rw [getElem_place memory start block address bound, dif_neg]
  intro inside
  omega

/-- A strict run of writes puts the block in place as far as memory goes. -/
theorem writeRun_strict (memory : Memory) (address : Nat) (block : List UInt8) :
    memory.writeRun .strict address block =
      (memory.place address block, AddressPolicy.strict.runFault address block.length) := by
  induction block generalizing memory address with
  | nil => simp [writeRun, place, AddressPolicy.runFault]
  | cons byte rest ih =>
      by_cases bound : address < 4096
      · rw [writeRun, write_eq_ok memory .strict address byte (fun _ => bound), place]
        simp only [ih, Nat.mod_eq_of_lt bound, Prod.mk.injEq]
        constructor
        · congr 2
          ext other otherBound
          simp only [Vector.getElem_set, Vector.getElem_setIfInBounds]
        · simp only [AddressPolicy.runFault, true_and, List.length_cons]
          grind
      · have outside : 4096 ≤ address := Nat.not_lt.mp bound
        rw [writeRun, write_eq_error memory address byte outside,
          place_of_le memory address _ outside]
        simp only [AddressPolicy.runFault, true_and, List.length_cons, Prod.mk.injEq]
        grind

theorem writeRun_fault (memory : Memory) (policy : AddressPolicy) (address : Nat)
    (block : List UInt8) :
    (memory.writeRun policy address block).2 = policy.runFault address block.length := by
  cases policy with
  | strict => rw [writeRun_strict]
  | wrap =>
      rw [AddressPolicy.runFault_wrap]
      induction block generalizing memory address with
      | nil => rfl
      | cons byte rest ih =>
          rw [writeRun, write_wrap]
          exact ih _ _

/-- Strict writing that does not fail is wrapped writing. -/
theorem writeRun_wrap_of_strict (memory : Memory) (address : Nat) (block : List UInt8)
    (safe : AddressPolicy.strict.runFault address block.length = none) :
    memory.writeRun .wrap address block = memory.writeRun .strict address block := by
  have reached := AddressPolicy.reach_of_runFault_eq_none _ _ _ safe
  simp only [AddressPolicy.reach] at reached
  clear safe
  induction block generalizing memory address with
  | nil => rfl
  | cons byte rest ih =>
      simp only [List.length_cons] at reached
      have bound : address < 4096 := by omega
      rw [writeRun, writeRun, write_eq_ok memory .strict address byte (fun _ => bound), write_wrap]
      exact ih _ _ (by omega)

/-- Wrapped writing does not tell apart addresses that are equal modulo the size of memory. -/
theorem writeRun_wrap_congr (memory : Memory) {left right : Nat} (block : List UInt8)
    (same : left % 4096 = right % 4096) :
    memory.writeRun .wrap left block = memory.writeRun .wrap right block := by
  induction block generalizing memory left right with
  | nil => rfl
  | cons byte rest ih =>
      rw [writeRun, writeRun, write_wrap, write_wrap]
      simp only [same]
      exact ih _ (by omega)

/-- Wrapped reading does not tell apart addresses that are equal modulo the size of memory. -/
theorem readRun_wrap_congr (memory : Memory) {left right : Nat} (count : Nat)
    (same : left % 4096 = right % 4096) :
    memory.readRun .wrap left count = memory.readRun .wrap right count := by
  rw [readRun_wrap, readRun_wrap, Prod.mk.injEq]
  refine ⟨List.map_congr_left ?_, rfl⟩
  intro offset _member
  exact memory.byteAt_congr (by omega)

end Memory

/-! ### Reading what has been written -/

namespace Memory

/-- How far a place lies behind an address, around the end of memory if need be. -/
def distance (address place : Nat) : Nat :=
  (place + 4096 - address % 4096) % 4096

theorem getElem_writeRun_wrap (memory : Memory) (address : Nat) (block : List UInt8)
    (short : block.length ≤ 4096) (place : Nat) (bound : place < 4096) :
    (memory.writeRun .wrap address block).1.bytes[place] =
      if inside : distance address place < block.length then block[distance address place]
      else memory.bytes[place] := by
  induction block generalizing memory address with
  | nil => rfl
  | cons byte rest ih =>
      simp only [List.length_cons] at short
      rw [writeRun, write_wrap]
      simp only [ih _ _ (by omega : rest.length ≤ 4096), Vector.getElem_set, List.length_cons]
      unfold distance
      by_cases here : address % 4096 = place
      · -- The rest is too short to come around to the first place again.
        have first : (place + 4096 - address % 4096) % 4096 = 0 := by omega
        have far : ¬ (place + 4096 - (address + 1) % 4096) % 4096 < rest.length := by omega
        simp only [first, far, if_pos here, dite_false, Nat.zero_lt_succ, dite_true,
          List.getElem_cons_zero]
      · have next : (place + 4096 - address % 4096) % 4096 =
            (place + 4096 - (address + 1) % 4096) % 4096 + 1 := by omega
        simp only [next, if_neg here, Nat.add_lt_add_iff_right, List.getElem_cons_succ]

/-- A place that a run of writes comes to holds the byte for it, whether the run is completed or not. -/
theorem getElem_writeRun_of_resolve (memory : Memory) (policy : AddressPolicy) (address : Nat)
    (block : List UInt8) (short : block.length ≤ 4096) (offset : Nat)
    (inside : offset < block.length) (place : Fin 4096)
    (resolved : policy.resolve (address + offset) = .ok place) :
    (memory.writeRun policy address block).1.bytes[place] = block[offset] := by
  obtain ⟨within, same⟩ := (resolve_eq_ok_iff _ _ _).mp resolved
  cases policy with
  | strict =>
      have bound := within rfl
      have reached : address ≤ place.val ∧ place.val - address < block.length := by omega
      have there : place.val - address = offset := by omega
      rw [writeRun_strict, Fin.getElem_fin, getElem_place _ _ _ _ place.isLt, dif_pos reached]
      simp only [there]
  | wrap =>
      have there : distance address place = offset := by
        unfold distance
        omega
      rw [Fin.getElem_fin, getElem_writeRun_wrap memory address block short _ place.isLt,
        dif_pos (there ▸ inside)]
      simp only [there]

/-- A place that a run of writes does not come to holds what it did. -/
theorem getElem_writeRun_of_unresolved (memory : Memory) (policy : AddressPolicy) (address : Nat)
    (block : List UInt8) (short : block.length ≤ 4096) (place : Fin 4096)
    (elsewhere : ∀ offset < block.length, policy.resolve (address + offset) ≠ .ok place) :
    (memory.writeRun policy address block).1.bytes[place] = memory.bytes[place] := by
  have missed : ∀ offset < block.length, (policy = .strict → address + offset < 4096) →
      place.val ≠ (address + offset) % 4096 := by
    intro offset inside within same
    exact elsewhere offset inside ((resolve_eq_ok_iff _ _ _).mpr ⟨within, same⟩)
  have bound := place.isLt
  cases policy with
  | strict =>
      have outside : ¬ (address ≤ place.val ∧ place.val - address < block.length) := by
        intro inside
        have reached := missed _ inside.2 fun _strict => by omega
        omega
      rw [writeRun_strict, Fin.getElem_fin, getElem_place _ _ _ _ place.isLt, dif_neg outside]
      rfl
  | wrap =>
      have outside : ¬ distance address place < block.length := by
        intro inside
        have reached := missed _ inside fun impossible => by cases impossible
        unfold distance at reached
        omega
      rw [Fin.getElem_fin, getElem_writeRun_wrap memory address block short _ place.isLt,
        dif_neg outside]
      rfl

theorem byteAt_writeRun (memory : Memory) (policy : AddressPolicy) (address : Nat)
    (block : List UInt8) (short : block.length ≤ 4096)
    (safe : policy.runFault address block.length = none) (offset : Nat)
    (inside : offset < block.length) :
    (memory.writeRun policy address block).1.byteAt (address + offset) = block[offset] := by
  have reached := AddressPolicy.reach_of_runFault_eq_none _ _ _ safe
  apply getElem_writeRun_of_resolve memory policy address block short offset inside
  rw [resolve_eq_ok_iff]
  refine ⟨?_, rfl⟩
  rintro rfl
  simp only [AddressPolicy.reach] at reached
  omega

/-- Reading back a block that has been written gives the block. -/
theorem readRun_writeRun (memory : Memory) (policy : AddressPolicy) (address : Nat)
    (block : List UInt8) (short : block.length ≤ 4096)
    (safe : policy.runFault address block.length = none) :
    (memory.writeRun policy address block).1.readRun policy address block.length =
      (block, none) := by
  rw [readRun_eq, safe, AddressPolicy.reach_of_runFault_eq_none _ _ _ safe, Prod.mk.injEq]
  refine ⟨?_, rfl⟩
  apply List.ext_getElem
  · rw [List.length_map, List.length_range]
  · intro offset _inside inside
    rw [List.getElem_map, List.getElem_range]
    exact byteAt_writeRun memory policy address block short safe offset inside

/-- Writing back what has been read changes nothing. -/
theorem writeRun_readRun (memory : Memory) (policy : AddressPolicy) (address count : Nat) :
    (memory.writeRun policy address (memory.readRun policy address count).1).1 = memory := by
  induction count generalizing address with
  | zero => rfl
  | succ count ih =>
      by_cases inside : policy = .strict → address < 4096
      · have same : (⟨memory.bytes.set (address % 4096) (memory.byteAt address)⟩ : Memory) =
            memory := by
          apply ext_bytes
          intro place bound
          rw [Vector.getElem_set]
          split
          · rename_i here
            subst here
            rfl
          · rfl
        rw [readRun, read_eq_ok memory policy address inside]
        simp only [writeRun, write_eq_ok memory policy address _ inside, same, ih]
      · obtain ⟨rfl, outside⟩ := Classical.not_imp.mp inside
        rw [readRun, read_eq_error memory address (Nat.not_lt.mp outside)]
        rfl

end Memory

end ChipEight
