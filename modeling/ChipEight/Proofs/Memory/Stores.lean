import ChipEight.Proofs.Machine.Components
import ChipEight.Proofs.Machine.Loading

set_option autoImplicit false

/-!
Memory as the record of its stores.

An announced instruction says which bytes it stores and where, so memory can be told from the start
image and the instructions announced so far: every byte is the one that was stored at its address last
(`memory_eq_lastStored`).
-/

namespace ChipEight

def TraceEvent.register (event : TraceEvent) (number : Nat) : UInt8 :=
  event.registers.get (Fin.ofNat 16 number)

def TraceEvent.bytes (event : TraceEvent) : List UInt8 :=
  match event.instruction with
  | .storeDecimal x =>
      let value := event.register x.toNat
      [value / 100, value / 10 % 10, value % 10]
  | .storeRegisters x => (List.range (x.toNat + 1)).map event.register
  | _ => []

def AddressPolicy.place? : AddressPolicy → Nat → Option Nat
  | .wrap, address => some (address % 0x1000)
  | .strict, address => if address < 0x1000 then some address else none

/-- The stores of bytes from an address on, each with its place; a byte without a place is not
stored. -/
def AddressPolicy.stores (policy : AddressPolicy) (address : Nat) (bytes : List UInt8) :
    List (Nat × UInt8) :=
  (bytes.zipIdx address).filterMap fun store =>
    (policy.place? store.2).map fun place => (place, store.1)

/-- The stores of announced instructions, the latest at the end. -/
def storesOf (policy : AddressPolicy) (events : List TraceEvent) : List (Nat × UInt8) :=
  events.flatMap fun event => policy.stores event.index.toNat event.bytes

def lastStored (stores : List (Nat × UInt8)) (place : Nat) : Option UInt8 :=
  stores.reverse.lookup place

/-! ### One run of writes -/

theorem lastStored_append (first second : List (Nat × UInt8)) (place : Nat) :
    lastStored (first ++ second) place =
      (lastStored second place).or (lastStored first place) := by
  rw [lastStored, List.reverse_append, List.lookup_append]
  rfl

theorem lastStored_singleton (stored place : Nat) (byte : UInt8) :
    lastStored [(stored, byte)] place = if stored = place then some byte else none := by
  by_cases same : stored = place
  · simp [lastStored, same]
  · have different : (place == stored) = false := beq_false_of_ne (Ne.symm same)
    simp [lastStored, List.lookup_cons, same, different]

theorem lastStored_eq_none (stores : List (Nat × UInt8)) (place : Nat)
    (elsewhere : ∀ store ∈ stores, store.1 ≠ place) : lastStored stores place = none := by
  rw [lastStored, List.lookup_eq_none_iff]
  intro store member
  rw [bne_iff_ne]
  exact (elsewhere store (List.mem_reverse.mp member)).symm

theorem storesOf_append (policy : AddressPolicy) (first second : List TraceEvent) :
    storesOf policy (first ++ second) = storesOf policy first ++ storesOf policy second :=
  List.flatMap_append

theorem AddressPolicy.stores_of_outside (address : Nat) (bytes : List UInt8)
    (outside : 0x1000 ≤ address) : AddressPolicy.strict.stores address bytes = [] := by
  rw [stores, List.filterMap_eq_nil_iff]
  intro store member
  have beyond := List.le_snd_of_mem_zipIdx member
  have nowhere : AddressPolicy.strict.place? store.2 = none := if_neg (by omega)
  rw [nowhere, Option.map_none]

theorem Memory.getElem_writeRun (memory : Memory) (policy : AddressPolicy) (address : Nat)
    (bytes : List UInt8) (place : Nat) (bound : place < 4096) :
    (memory.writeRun policy address bytes).1.bytes[place] =
      (lastStored (policy.stores address bytes) place).getD memory.bytes[place] := by
  induction bytes generalizing memory address with
  | nil => rfl
  | cons byte rest ih =>
      -- The run goes on as long as its addresses stand for places.
      by_cases inside : policy = .strict → address < 4096
      · have target : policy.place? address = some (address % 4096) := by
          cases policy with
          | wrap => rfl
          | strict => rw [AddressPolicy.place?, if_pos (inside rfl), Nat.mod_eq_of_lt (inside rfl)]
        have first : policy.stores address (byte :: rest) =
            [(address % 4096, byte)] ++ policy.stores (address + 1) rest := by
          rw [AddressPolicy.stores, List.zipIdx_cons, List.filterMap_cons, target]
          rfl
        rw [writeRun, write_eq_ok memory policy address byte inside, first, lastStored_append,
          Option.getD_or, lastStored_singleton]
        simp only [ih, Vector.getElem_set]
        split <;> rfl
      · obtain ⟨rfl, outside⟩ := Classical.not_imp.mp inside
        rw [writeRun, write_eq_error memory address byte (Nat.not_lt.mp outside),
          AddressPolicy.stores_of_outside address _ (Nat.not_lt.mp outside)]
        rfl

namespace Machine

/-! ### Moves and sessions -/

theorem bytes_eventOf (machine : Machine) (word : Word) (instruction : Instruction) :
    (machine.eventOf word instruction).bytes = machine.cpu.storedBytes instruction := by
  cases instruction with
  | storeRegisters x =>
      apply List.map_congr_left
      intro register _member
      have same : (UInt8.ofNat register).toNat % 16 = register % 16 := by
        rw [UInt8.toNat_ofNat']
        omega
      simp only [Cpu.register, same]
      rfl
  | _ => rfl

theorem getElem_memory_deliverKey (machine : Machine) (x : UInt8) (place : Nat)
    (bound : place < 4096) :
    (machine.deliverKey x).machine.cpu.memory.bytes[place] =
      (lastStored (storesOf machine.config.addressPolicy (machine.deliverKey x).events) place).getD
        machine.cpu.memory.bytes[place] := by
  unfold deliverKey
  split <;> rfl

/-- A cycle changes memory by the stores that it announces, also if it fails. -/
theorem getElem_memory_cycle (machine : Machine) (place : Nat) (bound : place < 4096) :
    machine.cycle.machine.cpu.memory.bytes[place] =
      (lastStored (storesOf machine.config.addressPolicy machine.cycle.events) place).getD
        machine.cpu.memory.bytes[place] := by
  have course := machine.course_cycle
  generalize machine.cycle = step at course ⊢
  cases course with
  | waiting x _waits => exact machine.getElem_memory_deliverKey x place bound
  | unfetched _fault _free _failed => rfl
  | unknown _word _free _fetched _unknown => rfl
  | known word instruction _free _fetched _known =>
      have stored : storesOf machine.config.addressPolicy [machine.eventOf word instruction] =
          machine.config.addressPolicy.stores machine.cpu.index.toNat
            (machine.cpu.storedBytes instruction) := by
        rw [← bytes_eventOf machine word instruction]
        exact List.flatMap_singleton _ _
      rw [events_known, stored, ← Memory.getElem_writeRun]
      simp only [Step.announcing, memory_execute]
      rfl

theorem getElem_memory_move (machine : Machine) (move : Move) (undirected : move.Undirected)
    (place : Nat) (bound : place < 4096) :
    (machine.move move).machine.cpu.memory.bytes[place] =
      (lastStored (storesOf machine.config.addressPolicy (machine.move move).events) place).getD
        machine.cpu.memory.bytes[place] := by
  cases move with
  | cycle => exact machine.getElem_memory_cycle place bound
  | execute instruction => exact undirected.elim
  | _ => rfl

/-- Every byte is the one that announced instructions have stored last in its place. -/
def Overlaid (config : Config) (image : List UInt8) (earlier : List Moment)
    (machine : Machine) : Prop :=
  machine.config = config ∧ ∀ place, (bound : place < 4096) →
    machine.cpu.memory.bytes[place] =
      (lastStored (storesOf config.addressPolicy (eventsOf earlier)) place).getD
        (Memory.startByte image place)

theorem overlaid_booted (config : Config) (image : List UInt8) (keypad : Keypad)
    (random : RandomSource) : Overlaid config image [] (booted config image keypad random) :=
  ⟨rfl, fun place bound => Memory.getElem_place_image image place bound⟩

theorem overlaid_move (config : Config) (image : List UInt8) (earlier : List Moment)
    (before : Machine) (move : Move) (undirected : move.Undirected)
    (overlaid : Overlaid config image earlier before) :
    Overlaid config image (earlier ++ [⟨before, move⟩]) (before.move move).machine := by
  obtain ⟨rfl, bytes⟩ := overlaid
  refine ⟨before.config_move move, ?_⟩
  intro place bound
  rw [before.getElem_memory_move move undirected place bound, bytes place bound, eventsOf_append,
    eventsOf_singleton, storesOf_append, lastStored_append, Option.getD_or]
  rfl

/-- Memory after any session is the image over the font over zeros, overlaid by the announced
stores, of which the last one counts. -/
theorem memory_eq_lastStored (config : Config) (image : List UInt8) (keypad : Keypad)
    (random : RandomSource) (fits : image.length ≤ 3584) :
    ∃ machine, boot config image keypad random = .ok machine ∧
      ∀ actions : List Action, (∀ action ∈ actions, action.Undirected) →
        ∀ place, (bound : place < 4096) →
          (machine.afterSession actions).cpu.memory.bytes[place] =
            (lastStored (storesOf config.addressPolicy
              ((machine.session actions).flatMap Step.events)) place).getD
                (Memory.startByte image place) := by
  refine ⟨_, boot_eq_ok config image keypad random fits, ?_⟩
  intro actions undirected place bound
  have overlaid := (holds_trail _ (overlaid_booted config image keypad random)
    (overlaid_move config image) actions undirected).1
  rw [← eventsOf_trail]
  exact overlaid.2 place bound

/-- Two registers are stored over what was left of three digits at the end of memory. -/
theorem memory_eq_lastStored_at_end :
    [0x60, 0x7B, 0xAF, 0xFE, 0xF0, 0x33, 0xF1, 0x55].length ≤ 3584 ∧
      (∀ action ∈ [Action.frame, .cycle], action.Undirected) ∧
        ∃ machine,
          boot { cyclesPerFrame := 3 } [0x60, 0x7B, 0xAF, 0xFE, 0xF0, 0x33, 0xF1, 0x55] .idle
            (.cyclic #[]) = .ok machine ∧
          ∀ place, (bound : place < 4096) →
            (machine.afterSession [.frame, .cycle]).cpu.memory.bytes[place] =
              (lastStored [(0xFFE, 1), (0xFFF, 2), (0xFFE, 0x7B), (0xFFF, 0)] place).getD
                (Memory.startByte [0x60, 0x7B, 0xAF, 0xFE, 0xF0, 0x33, 0xF1, 0x55] place) := by
  have fits : [0x60, 0x7B, 0xAF, 0xFE, 0xF0, 0x33, 0xF1, 0x55].length ≤ 3584 := by decide
  have undirected : ∀ action ∈ [Action.frame, .cycle], action.Undirected := by decide
  obtain ⟨machine, loaded, bytes⟩ := memory_eq_lastStored { cyclesPerFrame := 3 }
    [0x60, 0x7B, 0xAF, 0xFE, 0xF0, 0x33, 0xF1, 0x55] .idle (.cyclic #[]) fits
  have stored :
      storesOf ({ cyclesPerFrame := 3 } : Config).addressPolicy
          ((machine.session [.frame, .cycle]).flatMap Step.events) =
        [(0xFFE, 1), (0xFFF, 2), (0xFFE, 0x7B), (0xFFF, 0)] := by
    rw [← booted_eq_of_boot _ _ _ _ machine loaded]
    decide +kernel
  refine ⟨fits, undirected, machine, loaded, ?_⟩
  intro place bound
  rw [bytes _ undirected place bound, stored]

end Machine

end ChipEight
