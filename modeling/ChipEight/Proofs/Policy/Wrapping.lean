import ChipEight.Proofs.Machine.Simulation
import ChipEight.Proofs.Machine.Steps

set_option autoImplicit false

/-!
Under wrapped access only the low twelve bits of an address count.

Counter, index and stacked addresses are kept with sixteen bits. Machines that differ in the upper
four bits of these only cannot be told apart: they stay so in every step, and the steps end alike.
-/

namespace ChipEight

def SamePlace (left right : UInt16) : Prop :=
  left.toNat % 4096 = right.toNat % 4096

instance (left right : UInt16) : Decidable (SamePlace left right) :=
  inferInstanceAs (Decidable (left.toNat % 4096 = right.toNat % 4096))

theorem SamePlace.refl (address : UInt16) : SamePlace address address := rfl

/-- Sixteen-bit addition is compatible with the twelve bits that count, also where it overflows. -/
theorem SamePlace.add {left right : UInt16} (same : SamePlace left right) (offset : UInt16) :
    SamePlace (left + offset) (right + offset) := by
  unfold SamePlace at same ⊢
  rw [UInt16.toNat_add, UInt16.toNat_add]
  omega

/-! ### Processors -/

structure Cpu.Congruent (left right : Cpu) : Prop where
  registers : left.registers = right.registers
  index : SamePlace left.index right.index
  counter : SamePlace left.counter right.counter
  stack : List.Forall₂ SamePlace left.stack right.stack
  delay : left.delay = right.delay
  sound : left.sound = right.sound
  memory : left.memory = right.memory
  awaiting : left.awaiting = right.awaiting

namespace Cpu.Congruent

variable {left right : Cpu}

theorem register (related : left.Congruent right) (x : UInt8) :
    left.register x = right.register x := by
  unfold Cpu.register
  rw [related.registers]

theorem setRegister (related : left.Congruent right) (x : UInt8) {leftValue rightValue : UInt8}
    (same : leftValue = rightValue) :
    (left.setRegister x leftValue).Congruent (right.setRegister x rightValue) := by
  refine { related with registers := ?_ }
  simp only [Cpu.setRegister, related.registers, same]

theorem setFlagged (related : left.Congruent right) (x : UInt8) {leftFlag rightFlag : Bool}
    {leftValue rightValue : UInt8} (sameFlag : leftFlag = rightFlag)
    (same : leftValue = rightValue) :
    (left.setFlagged leftFlag x leftValue).Congruent
      (right.setFlagged rightFlag x rightValue) := by
  subst sameFlag
  exact (related.setRegister 0xF rfl).setRegister x same

theorem setRegisterRun (related : left.Congruent right) (x : Nat) (bytes : List UInt8) :
    (left.setRegisterRun x bytes).Congruent (right.setRegisterRun x bytes) := by
  induction bytes generalizing left right x with
  | nil => exact related
  | cons byte rest ih => exact ih (related.setRegister _ rfl) (x + 1)

theorem registerRun (related : left.Congruent right) (count : Nat) :
    left.registerRun count = right.registerRun count := by
  unfold Cpu.registerRun
  exact List.map_congr_left fun x _member => related.register _

theorem advance (related : left.Congruent right) : left.advance.Congruent right.advance :=
  { related with counter := related.counter.add 2 }

theorem skipIf (related : left.Congruent right) {leftCondition rightCondition : Bool}
    (same : leftCondition = rightCondition) :
    (left.skipIf leftCondition).Congruent (right.skipIf rightCondition) := by
  subst same
  cases leftCondition with
  | false => exact related
  | true => exact related.advance

theorem jump (related : left.Congruent right) (address : UInt16) :
    (left.jump address).Congruent (right.jump address) :=
  { related with counter := SamePlace.refl _ }

theorem jumpOffset (related : left.Congruent right) (address : UInt16) :
    (left.jumpOffset address).Congruent (right.jumpOffset address) := by
  refine { related with counter := ?_ }
  simp only [Cpu.jumpOffset, related.register]
  exact SamePlace.refl _

theorem call (related : left.Congruent right) (address : UInt16) :
    (left.call address).Congruent (right.call address) :=
  { related with
    counter := SamePlace.refl _
    stack := List.Forall₂.cons related.counter related.stack }

theorem setIndex (related : left.Congruent right) (address : UInt16) :
    (left.setIndex address).Congruent (right.setIndex address) :=
  { related with index := SamePlace.refl _ }

theorem addIndex (related : left.Congruent right) (x : UInt8) :
    (left.addIndex x).Congruent (right.addIndex x) := by
  refine { related with index := ?_ }
  simp only [Cpu.addIndex, related.register]
  exact related.index.add _

theorem pointGlyph (related : left.Congruent right) (x : UInt8) :
    (left.pointGlyph x).Congruent (right.pointGlyph x) := by
  refine { related with index := ?_ }
  simp only [Cpu.pointGlyph, related.register]
  exact SamePlace.refl _

theorem advanceTimers (related : left.Congruent right) :
    left.advanceTimers.Congruent right.advanceTimers :=
  { related with
    delay := by simp only [Cpu.advanceTimers, related.delay]
    sound := by simp only [Cpu.advanceTimers, related.sound] }

end Cpu.Congruent

/-! ### Machines, faults and notices -/

/-- Machines with wrapped access that differ in the upper bits of their addresses only. -/
structure Machine.Congruent (left right : Machine) : Prop where
  wraps : left.config.addressPolicy = .wrap
  config : left.config = right.config
  cpu : left.cpu.Congruent right.cpu
  screen : left.screen = right.screen
  keypad : left.keypad = right.keypad
  random : left.random = right.random

def Fault.Congruent : Fault → Fault → Prop
  | .stackUnderflow left, .stackUnderflow right => SamePlace left right
  | left, right => left = right

structure TraceEvent.Congruent (left right : TraceEvent) : Prop where
  counter : SamePlace left.counter right.counter
  word : left.word = right.word
  instruction : left.instruction = right.instruction
  registers : left.registers = right.registers
  index : SamePlace left.index right.index

def Notice.Congruent : Notice → Notice → Prop
  | .returnIgnored left, .returnIgnored right => SamePlace left right
  | .executing left, .executing right => left.Congruent right
  | left, right => left = right

def wrapping : Simulation where
  machines := Machine.Congruent
  faults := Fault.Congruent
  notices := Notice.Congruent
  excusedFault _ := False
  excusedNotice _ := False

theorem not_excuses_wrapping (step : Step) : ¬ wrapping.Excuses step :=
  wrapping.not_excuses (fun _fault => not_false) (fun _notice => not_false) step

namespace Machine.Congruent

variable {left right : Machine}

/-- Steps that end well and tell the host nothing match as soon as their machines do. -/
theorem quiet {leftAfter rightAfter : Machine} (related : leftAfter.Congruent rightAfter) :
    wrapping.Matches { machine := leftAfter } { machine := rightAfter } :=
  ⟨related, Option.Rel.none, List.Forall₂.nil⟩

theorem withCpu (related : left.Congruent right) {leftCpu rightCpu : Cpu}
    (cpu : leftCpu.Congruent rightCpu) :
    wrapping.Matches (.ofCpu left leftCpu) (.ofCpu right rightCpu) :=
  quiet { related with cpu }

theorem advanced (related : left.Congruent right) : left.advanced.Congruent right.advanced :=
  { related with cpu := related.cpu.advance }

/-! ### One step -/

theorem leave (related : left.Congruent right) : wrapping.Matches left.leave right.leave := by
  have sameStack := related.cpu.stack
  cases leftStack : left.cpu.stack with
  | nil =>
      rw [leftStack, List.forall₂_nil_left_iff] at sameStack
      simp only [Machine.leave, leftStack, sameStack, ← related.config]
      cases left.config.returnPolicy with
      | ignore =>
          exact ⟨related, Option.Rel.none, List.Forall₂.cons related.cpu.counter List.Forall₂.nil⟩
      | fault => exact ⟨related, Option.Rel.some related.cpu.counter, List.Forall₂.nil⟩
  | cons leftTop leftRest =>
      rw [leftStack, List.forall₂_cons_left_iff] at sameStack
      obtain ⟨rightTop, rightRest, sameTop, sameRest, rightStack⟩ := sameStack
      simp only [Machine.leave, leftStack, rightStack]
      exact related.withCpu { related.cpu with counter := sameTop, stack := sameRest }

theorem draw (related : left.Congruent right) (x y rows : UInt8) :
    wrapping.Matches (left.draw x y rows) (right.draw x y rows) := by
  have sameSprite := left.cpu.memory.readRun_wrap_congr
    (min rows.toNat (32 - (left.cpu.register y).toNat)) related.cpu.index
  simp only [Machine.draw, ← related.config, related.wraps, ← related.cpu.memory,
    ← related.cpu.register, ← related.screen, ← sameSprite, Memory.readRun_wrap]
  exact quiet { related with
    config := rfl
    cpu := related.cpu.setRegister 0xF rfl
    screen := rfl }

theorem store (related : left.Congruent right) {leftBytes rightBytes : List UInt8}
    (same : leftBytes = rightBytes) :
    wrapping.Matches (left.store leftBytes) (right.store rightBytes) := by
  subst same
  have sameWritten := left.cpu.memory.writeRun_wrap_congr leftBytes related.cpu.index
  have unfailing := left.cpu.memory.writeRun_fault .wrap left.cpu.index.toNat leftBytes
  rw [AddressPolicy.runFault_wrap] at unfailing
  simp only [Machine.store, ← related.config, related.wraps, ← related.cpu.memory,
    ← sameWritten, unfailing]
  exact quiet { related with config := rfl, cpu := { related.cpu with memory := rfl } }

theorem load (related : left.Congruent right) (count : Nat) :
    wrapping.Matches (left.load count) (right.load count) := by
  have sameBytes := left.cpu.memory.readRun_wrap_congr count related.cpu.index
  simp only [Machine.load, ← related.config, related.wraps, ← related.cpu.memory, ← sameBytes,
    Memory.readRun_wrap]
  exact quiet { related with config := rfl, cpu := related.cpu.setRegisterRun 0 _ }

theorem awaitKey (related : left.Congruent right) (x : UInt8) :
    wrapping.Matches (left.awaitKey x) (right.awaitKey x) := by
  simp only [Machine.awaitKey, ← related.keypad]
  cases left.keypad.pending with
  | some key => exact quiet { related with cpu := related.cpu.setRegister x rfl, keypad := rfl }
  | none =>
      exact ⟨{ related with cpu := { related.cpu with awaiting := rfl }, keypad := rfl },
        Option.Rel.none, List.Forall₂.cons rfl List.Forall₂.nil⟩

theorem deliverKey (related : left.Congruent right) (x : UInt8) :
    wrapping.Matches (left.deliverKey x) (right.deliverKey x) := by
  simp only [Machine.deliverKey, ← related.keypad]
  cases left.keypad.pending with
  | some key =>
      exact ⟨{ related with
          cpu := { related.cpu.setRegister x (rfl : key = key) with awaiting := rfl }
          keypad := rfl },
        Option.Rel.none, List.Forall₂.cons rfl List.Forall₂.nil⟩
  | none => exact quiet related

theorem execute (related : left.Congruent right) (instruction : Instruction) :
    wrapping.Matches (left.execute instruction) (right.execute instruction) := by
  have cpu := related.cpu
  have reads := cpu.register
  cases instruction with
  | system address => exact quiet related
  | clear => exact quiet { related with screen := rfl }
  | leave => exact related.leave
  | jump address => exact related.withCpu (cpu.jump address)
  | call address => exact related.withCpu (cpu.call address)
  | skipEqualByte x byte => exact related.withCpu (cpu.skipIf (by rw [reads]))
  | skipUnequalByte x byte => exact related.withCpu (cpu.skipIf (by rw [reads]))
  | skipEqual x y => exact related.withCpu (cpu.skipIf (by rw [reads, reads]))
  | setByte x byte => exact related.withCpu (cpu.setRegister x rfl)
  | addByte x byte => exact related.withCpu (cpu.setRegister x (by rw [reads]))
  | copy x y => exact related.withCpu (cpu.setRegister x (reads y))
  | disjoin x y => exact related.withCpu (cpu.setRegister x (by rw [reads, reads]))
  | conjoin x y => exact related.withCpu (cpu.setRegister x (by rw [reads, reads]))
  | exclude x y => exact related.withCpu (cpu.setRegister x (by rw [reads, reads]))
  | add x y => exact related.withCpu (cpu.setFlagged x (by rw [reads, reads]) (by rw [reads, reads]))
  | subtract x y =>
      exact related.withCpu (cpu.setFlagged x (by rw [reads, reads]) (by rw [reads, reads]))
  | shiftRight x => exact related.withCpu (cpu.setFlagged x (by rw [reads]) (by rw [reads]))
  | subtractFrom x y =>
      exact related.withCpu (cpu.setFlagged x (by rw [reads, reads]) (by rw [reads, reads]))
  | shiftLeft x => exact related.withCpu (cpu.setFlagged x (by rw [reads]) (by rw [reads]))
  | skipUnequal x y => exact related.withCpu (cpu.skipIf (by rw [reads, reads]))
  | setIndex address => exact related.withCpu (cpu.setIndex address)
  | jumpOffset address => exact related.withCpu (cpu.jumpOffset address)
  | random x mask =>
      exact quiet { related with
        cpu := cpu.setRegister x (by rw [related.random])
        random := congrArg RandomSource.advance related.random }
  | draw x y rows => exact related.draw x y rows
  | skipHeld x => exact related.withCpu (cpu.skipIf (by rw [reads, related.keypad]))
  | skipReleased x => exact related.withCpu (cpu.skipIf (by rw [reads, related.keypad]))
  | readDelay x => exact related.withCpu (cpu.setRegister x cpu.delay)
  | awaitKey x => exact related.awaitKey x
  | setDelay x => exact related.withCpu { cpu with delay := reads x }
  | setSound x => exact related.withCpu { cpu with sound := reads x }
  | addIndex x => exact related.withCpu (cpu.addIndex x)
  | pointGlyph x => exact related.withCpu (cpu.pointGlyph x)
  | storeDecimal x => exact related.store (by rw [reads])
  | storeRegisters x => exact related.store (cpu.registerRun _)
  | loadRegisters x => exact related.load _

theorem wordAtCounter (related : left.Congruent right) :
    left.wordAtCounter = right.wordAtCounter := by
  have counters : left.cpu.counter.toNat % 4096 = right.cpu.counter.toNat % 4096 :=
    related.cpu.counter
  have high := left.cpu.memory.byteAt_congr counters
  have low := left.cpu.memory.byteAt_congr
    (show (left.cpu.counter.toNat + 1) % 4096 = (right.cpu.counter.toNat + 1) % 4096 by omega)
  unfold Machine.wordAtCounter
  rw [high, low, related.cpu.memory]

theorem perform (related : left.Congruent right) (word : Word) :
    wrapping.Matches (left.perform word) (right.perform word) := by
  cases decoded : Instruction.ofWord? word with
  | none =>
      rw [perform_of_unknown _ word decoded, perform_of_unknown _ word decoded]
      exact ⟨related.advanced, Option.Rel.some rfl, List.Forall₂.nil⟩
  | some instruction =>
      rw [perform_of_known _ word instruction decoded, perform_of_known _ word instruction decoded]
      apply wrapping.matches_announcing (related.advanced.execute instruction)
      exact ⟨related.cpu.counter, rfl, rfl, related.cpu.registers, related.cpu.index⟩

theorem cycle (related : left.Congruent right) : wrapping.Matches left.cycle right.cycle := by
  cases waits : left.cpu.awaiting with
  | some x =>
      rw [cycle_of_awaiting _ x waits,
        cycle_of_awaiting right x (related.cpu.awaiting.symm.trans waits)]
      exact related.deliverKey x
  | none =>
      have fetched := left.fetch_eq_ok fun strict => by rw [related.wraps] at strict; cases strict
      have otherFetched := right.fetch_eq_ok fun strict => by
        rw [← related.config, related.wraps] at strict
        cases strict
      rw [← related.wordAtCounter] at otherFetched
      rw [cycle_of_fetch_ok _ _ waits fetched,
        cycle_of_fetch_ok right _ (related.cpu.awaiting.symm.trans waits) otherFetched]
      exact related.perform _

end Machine.Congruent

/-! ### Sessions -/

theorem lawful_wrapping : wrapping.Lawful where
  cyclesPerFrame _left _right related := congrArg Config.cyclesPerFrame related.config
  timers _left _right related := { related with cpu := related.cpu.advanceTimers }
  cycle _left _right related _unexcused := related.cycle

theorem act_wrapping (action : Action) (left right : Machine) (related : left.Congruent right) :
    wrapping.Matches (left.act action) (right.act action) := by
  cases action with
  | cycle => exact related.cycle
  | frame => exact lawful_wrapping.frame left right related (not_excuses_wrapping _)
  | execute instruction => exact related.execute instruction
  | press key =>
      exact Machine.Congruent.quiet
        { related with keypad := congrArg (Keypad.press · key) related.keypad }
  | release key =>
      exact Machine.Congruent.quiet
        { related with keypad := congrArg (Keypad.release · key) related.keypad }
  | takeKey =>
      exact Machine.Congruent.quiet
        { related with keypad := congrArg Keypad.taken related.keypad }
  | clearScreen => exact Machine.Congruent.quiet { related with screen := rfl }
  | flip x y =>
      exact Machine.Congruent.quiet
        { related with screen := congrArg (Screen.flip · x y) related.screen }

/-- Under wrapped access a host cannot observe the upper four bits of counter, index and stacked
addresses, although machines with such bits set are reached. -/
theorem session_congruent :
    (∀ left right : Machine, left.Congruent right → ∀ actions : List Action,
      List.Forall₂
        (fun leftStep rightStep : Step =>
          Option.Rel Fault.Congruent leftStep.fault rightStep.fault ∧
            leftStep.machine.Congruent rightStep.machine)
        (left.session actions) (right.session actions)) ∧
      ∃ (machine : Machine) (actions : List Action),
        Machine.boot { addressPolicy := .wrap } [] .idle (.cyclic #[]) = .ok machine ∧
          ∃ step ∈ machine.session actions,
            4096 ≤ step.machine.cpu.counter.toNat ∧ 4096 ≤ step.machine.cpu.index.toNat := by
  refine ⟨?_, ?_⟩
  · intro left right related actions
    have agreed : List.Forall₂ wrapping.Matches ((left.session actions).take actions.length)
        ((right.session actions).take actions.length) :=
      Simulation.forall₂_session actions
        (fun action _member left right related _unexcused => act_wrapping action left right related)
        left right related actions.length fun step _member => not_excuses_wrapping step
    rw [List.take_of_length_le (Nat.le_of_eq (left.length_session actions)),
      List.take_of_length_le (Nat.le_of_eq (right.length_session actions))] at agreed
    exact agreed.imp fun _leftStep _rightStep same => ⟨same.faults, same.machines⟩
  · refine ⟨_, [.execute (.setByte 0 1), .execute (.setIndex 0xFFF), .execute (.addIndex 0),
      .execute (.jumpOffset 0xFFF)], rfl, _, List.mem_of_getElem? (i := 3) rfl, ?_, ?_⟩
    · decide
    · decide

/-- A machine at the end of the sixteen bits and one at the end of memory run side by side. -/
theorem session_congruent_at_both_ends :
    ∃ left right : Machine, left.cpu.counter = 0xFFFF ∧ right.cpu.counter = 0xFFF ∧
      left.Congruent right ∧
        List.Forall₂
          (fun leftStep rightStep : Step =>
            Option.Rel Fault.Congruent leftStep.fault rightStep.fault ∧
              leftStep.machine.Congruent rightStep.machine)
          (left.session [.cycle, .frame, .execute .leave])
          (right.session [.cycle, .frame, .execute .leave]) := by
  let wrapped : Config := { returnPolicy := .fault, addressPolicy := .wrap }
  let high : Cpu := { Cpu.initial with index := 0x1234, counter := 0xFFFF, stack := [0xF00F] }
  let low : Cpu := { Cpu.initial with index := 0x234, counter := 0xFFF, stack := [0xF] }
  have cpu : high.Congruent low :=
    { registers := rfl
      index := by decide
      counter := by decide
      stack := List.Forall₂.cons (by decide) List.Forall₂.nil
      delay := rfl
      sound := rfl
      memory := rfl
      awaiting := rfl }
  have related : ({ Machine.fresh wrapped with cpu := high } : Machine).Congruent
      { Machine.fresh wrapped with cpu := low } := ⟨rfl, rfl, cpu, rfl, rfl, rfl⟩
  exact ⟨_, _, rfl, rfl, related, session_congruent.1 _ _ related _⟩

end ChipEight
