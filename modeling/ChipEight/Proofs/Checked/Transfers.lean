import ChipEight.Machine.Basic
import ChipEight.Proofs.Checked.Storage
import ChipEight.Proofs.Cpu.Registers
import ChipEight.Proofs.Memory.Runs

set_option autoImplicit false

/-!
Loops between registers and memory, under check.

The instructions on memory are loops over offsets from the index. A turn either finds a place and the loop
goes on, or it fails and ends the loop; so a loop does what a run of accesses does, and it completes a turn
for each offset that has a place (`repeated_storeTurn`, `repeated_loadTurn`). An index and an offset are
numbers of sixteen and of eight bits, and their sum is far from the sixty-four that it may have.
-/

namespace ChipEight.Checked

/-- A loop over addresses completes all its turns exactly if it does not fail. -/
theorem completes_reach {State : Type} (state : State) (policy : AddressPolicy)
    (address count : Nat) :
    Completes count (.ok
      { state
        completed := policy.reach address count
        fault := policy.runFault address count }) :=
  ⟨_, rfl, policy.reach_le address count, policy.reach_eq_iff address count⟩

/-! ### Storing -/

def storeTurn (policy : AddressPolicy) (index : UInt16) (value : UInt8 → Except Trap UInt8)
    (memory : Memory) (offset : UInt8) : Except Trap (Turn Memory) := do
  let address ← sum 64 index.toNat offset.toNat
  return .ofResult (← write memory policy address (← value offset))

theorem storeTurn_eq (policy : AddressPolicy) (index : UInt16) (value : UInt8 → Except Trap UInt8)
    (memory : Memory) (offset : Nat) (narrow : offset < 256) (content : UInt8)
    (valued : value (UInt8.ofNat offset) = .ok content) :
    storeTurn policy index value memory (UInt8.ofNat offset) =
      .ok (.ofResult (memory.write policy (index.toNat + offset) content)) := by
  have bound := index.toNat_lt
  rw [storeTurn, UInt8.toNat_ofNat_of_lt' narrow, sum_of_lt (by omega), ok_bind, valued, ok_bind,
    write_eq]
  rfl

/-- A loop that stores bytes writes a run of them. -/
theorem repeated_storeTurn (policy : AddressPolicy) (index : UInt16)
    (value : UInt8 → Except Trap UInt8) (content : Nat → UInt8) (first count : Nat)
    (narrow : first + count ≤ 256)
    (valued : ∀ offset < first + count, value (UInt8.ofNat offset) = .ok (content offset))
    (memory : Memory) :
    repeated (storeTurn policy index value) ((List.range' first count).map UInt8.ofNat) memory =
      let written := memory.writeRun policy (index.toNat + first)
        ((List.range' first count).map content)
      .ok
        { state := written.1
          completed := policy.reach (index.toNat + first) count
          fault := written.2 } := by
  induction count generalizing first memory with
  | zero => cases policy <;> rfl
  | succ count ih =>
      -- the turn does what the first write of the run does, and the run goes on exactly if the loop does
      have turn := storeTurn_eq policy index value memory first (by omega) _
        (valued first (by omega))
      rw [List.range'_succ, List.map_cons, List.map_cons, Memory.writeRun]
      by_cases inside : policy = .strict → index.toNat + first < 4096
      · have written := memory.write_eq_ok policy _ (content first) inside
        have remains := ih (first + 1) (by omega) fun offset below => valued offset (by omega)
        rw [written] at turn ⊢
        rw [repeated_of_next _ _ _ _ _ _ turn (remains _), AddressPolicy.reach_succ _ _ _ inside]
        rfl
      · obtain ⟨rfl, outside⟩ := Classical.not_imp.mp inside
        have beyond := Nat.not_lt.mp outside
        have failed := memory.write_eq_error _ (content first) beyond
        rw [failed] at turn ⊢
        rw [repeated_of_fail _ _ _ _ _ turn, AddressPolicy.reach_of_le _ _ beyond]

def decimalDigit (byte offset : UInt8) : Except Trap UInt8 :=
  match offset.toNat with
  | 0 => quotient byte 100
  | 1 => do remainder (← quotient byte 10) 10
  | _ => remainder byte 10

theorem decimalDigit_eq (byte : UInt8) (offset : Nat) (below : offset < 3) :
    decimalDigit byte (UInt8.ofNat offset) = .ok ((Cpu.decimalDigits byte).getD offset 0) := by
  match offset, below with
  | 0, _ => rfl
  | 1, _ => rfl
  | 2, _ => rfl

variable (machine : Machine) (x : UInt8)

def storeDecimal : Except Trap (Loop Memory) := do
  let byte ← register machine.cpu x
  repeated (storeTurn machine.config.addressPolicy machine.cpu.index (decimalDigit byte)) [0, 1, 2]
    machine.cpu.memory

def storeRegisters : Except Trap (Loop Memory) := do
  repeated (storeTurn machine.config.addressPolicy machine.cpu.index (register machine.cpu))
    (← countThrough 0 x) machine.cpu.memory

theorem storeDecimal_eq :
    storeDecimal machine x =
      let written := machine.cpu.memory.writeRun machine.config.addressPolicy
        machine.cpu.index.toNat (Cpu.decimalDigits (machine.cpu.register x))
      .ok
        { state := written.1
          completed := machine.config.addressPolicy.reach machine.cpu.index.toNat 3
          fault := written.2 } := by
  rw [storeDecimal, register_eq, ok_bind]
  exact repeated_storeTurn machine.config.addressPolicy machine.cpu.index _ _ 0 3 (by decide)
    (decimalDigit_eq (machine.cpu.register x)) machine.cpu.memory

theorem countThrough_zero :
    countThrough 0 x = .ok ((List.range' 0 (x.toNat + 1)).map UInt8.ofNat) :=
  countThrough_eq 0 x

theorem storeRegisters_eq :
    storeRegisters machine x =
      let written := machine.cpu.memory.writeRun machine.config.addressPolicy
        machine.cpu.index.toNat (machine.cpu.registerRun (x.toNat + 1))
      .ok
        { state := written.1
          completed := machine.config.addressPolicy.reach machine.cpu.index.toNat (x.toNat + 1)
          fault := written.2 } := by
  have bound := x.toNat_lt
  rw [storeRegisters, countThrough_zero, ok_bind, Cpu.registerRun, List.range_eq_range']
  exact repeated_storeTurn machine.config.addressPolicy machine.cpu.index _ _ 0 (x.toNat + 1)
    (by omega) (fun _ _ => register_eq _ _) machine.cpu.memory

theorem completes_storeRegisters : Completes (x.toNat + 1) (storeRegisters machine x) := by
  simp only [storeRegisters_eq, Memory.writeRun_fault, Cpu.length_registerRun]
  exact completes_reach _ _ _ _

/-! ### Loading -/

def loadTurn (policy : AddressPolicy) (index : UInt16) (cpu : Cpu) (offset : UInt8) :
    Except Trap (Turn Cpu) := do
  let address ← sum 64 index.toNat offset.toNat
  match ← read cpu.memory policy address with
  | .error fault => return .fail fault
  | .ok byte => return .next (← setRegister cpu offset byte)

theorem loadTurn_eq (policy : AddressPolicy) (index : UInt16) (cpu : Cpu) (offset : Nat)
    (narrow : offset < 256) :
    loadTurn policy index cpu (UInt8.ofNat offset) =
      .ok (.ofResult ((cpu.memory.read policy (index.toNat + offset)).map
        (cpu.setRegister (UInt8.ofNat offset)))) := by
  have bound := index.toNat_lt
  rw [loadTurn, UInt8.toNat_ofNat_of_lt' narrow, sum_of_lt (by omega), ok_bind, read_eq, ok_bind]
  cases cpu.memory.read policy (index.toNat + offset) with
  | error fault => rfl
  | ok byte =>
      simp only [setRegister_eq, ok_bind]
      rfl

/-- A loop that loads registers sets a run of them. -/
theorem repeated_loadTurn (policy : AddressPolicy) (index : UInt16) (first count : Nat)
    (narrow : first + count ≤ 256) (cpu : Cpu) :
    repeated (loadTurn policy index) ((List.range' first count).map UInt8.ofNat) cpu =
      let bytes := cpu.memory.readRun policy (index.toNat + first) count
      .ok
        { state := cpu.setRegisterRun first bytes.1
          completed := policy.reach (index.toNat + first) count
          fault := bytes.2 } := by
  induction count generalizing first cpu with
  | zero => cases policy <;> rfl
  | succ count ih =>
      have turn := loadTurn_eq policy index cpu first (by omega)
      rw [List.range'_succ, List.map_cons, Memory.readRun]
      by_cases inside : policy = .strict → index.toNat + first < 4096
      · have found := cpu.memory.read_eq_ok policy _ inside
        rw [found] at turn ⊢
        rw [repeated_of_next _ _ _ _ _ _ turn (ih (first + 1) (by omega) _),
          AddressPolicy.reach_succ _ _ _ inside]
        rfl
      · obtain ⟨rfl, outside⟩ := Classical.not_imp.mp inside
        have beyond := Nat.not_lt.mp outside
        have failed := cpu.memory.read_eq_error _ beyond
        rw [failed] at turn ⊢
        rw [repeated_of_fail _ _ _ _ _ turn, AddressPolicy.reach_of_le _ _ beyond]
        rfl

def loadRegisters : Except Trap (Loop Cpu) := do
  repeated (loadTurn machine.config.addressPolicy machine.cpu.index) (← countThrough 0 x) machine.cpu

theorem loadRegisters_eq :
    loadRegisters machine x =
      let bytes := machine.cpu.memory.readRun machine.config.addressPolicy
        machine.cpu.index.toNat (x.toNat + 1)
      .ok
        { state := machine.cpu.setRegisterRun 0 bytes.1
          completed := machine.config.addressPolicy.reach machine.cpu.index.toNat (x.toNat + 1)
          fault := bytes.2 } := by
  have bound := x.toNat_lt
  rw [loadRegisters, countThrough_zero, ok_bind]
  exact repeated_loadTurn machine.config.addressPolicy machine.cpu.index 0 (x.toNat + 1)
    (by omega) machine.cpu

theorem completes_loadRegisters : Completes (x.toNat + 1) (loadRegisters machine x) := by
  simp only [loadRegisters_eq, Memory.readRun_eq]
  exact completes_reach _ _ _ _

end ChipEight.Checked
