import ChipEight.Proofs.CommandLine.Arguments
import ChipEight.Proofs.CommandLine.Keys
import ChipEight.Proofs.Listing.Images
import ChipEight.Proofs.Machine.Headless
import ChipEight.Proofs.Parts.Isolation

set_option autoImplicit false

/-!
What the program reports for an image that it has read.

What is given on a command line asks for one machine and one number of frames (`Demand.MadeBy`). A
listing and the last screen go to the output with exit code zero, and a failure leaves the output empty.
Which of them it is depends on the image and on the run that is asked for, but not on the seed, on
tracing or on what the log admits (`respond_faithful`). This holds of every build whose reader of
arguments does what is documented, whatever words it makes of a seed.
-/

namespace ChipEight.CommandLine

/-! ### What is asked for -/

structure Demand where
  config : Config
  /-- The keys that are pressed before the run, one after the other. -/
  keys : List UInt8
  frames : Nat

/-- What the things given on a command line ask for, in a build of that profile. -/
structure Demand.MadeBy (demand : Demand) (profile : Profile) (given : List Given) : Prop where
  pace : ∃ number, Amounts (valuesOf .cyclesPerFrame given) number ∧
    demand.config.cyclesPerFrame = number.getD 16
  halts : demand.config.returnPolicy = .fault ↔ .flag .haltOnEmptyReturn ∈ given
  strict : .flag .strictAddresses ∈ given → demand.config.addressPolicy = .strict
  wrap : .flag .wrapAddresses ∈ given → demand.config.addressPolicy = .wrap
  default : .flag .strictAddresses ∉ given → .flag .wrapAddresses ∉ given →
    (demand.config.addressPolicy = .strict ↔ profile = .debug)
  keys : List.Forall₂ (fun value key => Hex.Denotes value key.toNat ∧ key.toNat ≤ 15)
    (valuesOf .key given) demand.keys
  frames : ∃ number, Amounts (valuesOf .frames given) number ∧ demand.frames = number.getD 60

theorem Amounts.unique {values : List String} {number other : Option Nat}
    (amounts : Amounts values number) (otherwise : Amounts values other) : number = other := by
  have once : Relator.RightUnique fun (value : String) number =>
      Decimal.Denotes value number ∧ number ≤ 18446744073709551615 := by
    intro value left right leftward rightward
    rw [← Decimal.read_ten_eq_ok_iff] at leftward rightward
    exact Except.ok.inj (leftward.symm.trans rightward)
  simpa using congrArg List.head? (List.right_unique_forall₂' once amounts otherwise)

namespace Demand.MadeBy

variable {demand other : Demand} {profile : Profile} {given : List Given}

theorem returnPolicy_unique (made : demand.MadeBy profile given)
    (otherwise : other.MadeBy profile given) :
    demand.config.returnPolicy = other.config.returnPolicy := by
  have same := made.halts.trans otherwise.halts.symm
  cases first : demand.config.returnPolicy <;> cases second : other.config.returnPolicy
  all_goals simp_all

theorem addressPolicy_unique (made : demand.MadeBy profile given)
    (otherwise : other.MadeBy profile given) :
    demand.config.addressPolicy = other.config.addressPolicy := by
  by_cases strict : .flag .strictAddresses ∈ given
  · rw [made.strict strict, otherwise.strict strict]
  · by_cases wrap : .flag .wrapAddresses ∈ given
    · rw [made.wrap wrap, otherwise.wrap wrap]
    · have same := (made.default strict wrap).trans (otherwise.default strict wrap).symm
      cases first : demand.config.addressPolicy <;> cases second : other.config.addressPolicy
      all_goals simp_all

theorem keys_unique (made : demand.MadeBy profile given) (otherwise : other.MadeBy profile given) :
    demand.keys = other.keys := by
  have named : Relator.RightUnique fun (value : String) (key : UInt8) =>
      Hex.Denotes value key.toNat ∧ key.toNat ≤ 15 := by
    intro value left right leftward rightward
    rw [← readKey_eq_ok_iff] at leftward rightward
    exact Except.ok.inj (leftward.symm.trans rightward)
  exact List.right_unique_forall₂' named made.keys otherwise.keys

/-- A command line asks for one run only. -/
theorem unique (made : demand.MadeBy profile given) (otherwise : other.MadeBy profile given) :
    demand = other := by
  have returns := made.returnPolicy_unique otherwise
  have addresses := made.addressPolicy_unique otherwise
  have keys := made.keys_unique otherwise
  obtain ⟨pace, paced, pace_eq⟩ := made.pace
  obtain ⟨otherPace, otherPaced, otherPace_eq⟩ := otherwise.pace
  obtain ⟨frames, counted, frames_eq⟩ := made.frames
  obtain ⟨otherFrames, otherCounted, otherFrames_eq⟩ := otherwise.frames
  rw [paced.unique otherPaced, ← otherPace_eq] at pace_eq
  rw [counted.unique otherCounted, ← otherFrames_eq] at frames_eq
  obtain ⟨⟨_pace, _return, _address⟩, _keys, _frames⟩ := demand
  obtain ⟨⟨_otherPace, _otherReturn, _otherAddress⟩, _otherKeys, _otherFrames⟩ := other
  dsimp only at returns addresses keys pace_eq frames_eq
  rw [returns, addresses, keys, pace_eq, frames_eq]

end Demand.MadeBy

def Options.demand (options : Options) (profile : Profile) : Demand where
  config := options.config profile
  keys := options.keys
  frames := options.frames.getD 60

theorem madeBy_demand {options : Options} {given : List Given} (profile : Profile)
    (collects : options.Collects given)
    (exclusive : ¬ (.flag .strictAddresses ∈ given ∧ .flag .wrapAddresses ∈ given)) :
    (options.demand profile).MadeBy profile given where
  pace := collects.settings .cyclesPerFrame
  halts := by
    rw [← collects.flags .haltOnEmptyReturn]
    simp [Options.demand, Options.config, Options.has, Config.standard]
  strict := by
    intro strict
    have unwrapped : ¬ options.wrapAddresses = true := fun wraps =>
      exclusive ⟨strict, (collects.flags .wrapAddresses).mp wraps⟩
    exact (if_neg unwrapped).trans (if_pos ((collects.flags .strictAddresses).mpr strict))
  wrap := fun wrap => if_pos ((collects.flags .wrapAddresses).mpr wrap)
  default := by
    intro unstrict unwrapped
    rw [← collects.flags] at unstrict unwrapped
    have standard : (options.demand profile).config.addressPolicy = profile.addressPolicy :=
      (if_neg unwrapped).trans (if_neg unstrict)
    rw [standard]
    cases profile <;> simp [Profile.addressPolicy]
  keys := by
    refine List.Forall₂.imp ?_ (collects.settings .key)
    intro value key
    exact (readKey_eq_ok_iff value key).mp
  frames := ⟨options.frames, collects.settings .frames, rfl⟩

/-- What the arguments give, whichever way they are read, asks for what the options read ask for. -/
theorem Documented.reads {parse : List String → Except Report (String × Options)}
    (documented : Documented parse) (profile : Profile) {arguments : List String} {path : String}
    {options : Options} (accepted : parse arguments = .ok (path, options)) {given : List Given}
    (spelled : Spells arguments given) :
    pathsOf given = [path] ∧ (options.demand profile).MadeBy profile given ∧
      (options.disassemble = true ↔ .flag .disassemble ∈ given) := by
  obtain ⟨other, otherwise, paths, collects, exclusive⟩ := documented arguments path options accepted
  cases spelled.unique otherwise
  exact ⟨paths, madeBy_demand profile collects exclusive, collects.flags .disassemble⟩

/-! ### Reports -/

namespace Report

structure Shows (answer : Report) (text : String) : Prop where
  exitCode : answer.exitCode = 0
  output : answer.output = text

/-- A failure is told after whatever the log holds. -/
structure Fails (answer : Report) (error cause : String) : Prop where
  exitCode : answer.exitCode = 1
  output : answer.output = ""
  chain : ∃ log, answer.errorOutput =
    log ++ "Error: " ++ error ++ "\n\nCaused by:\n    " ++ cause ++ "\n"

theorem fails_failure (log error cause : String) : (failure log error cause).Fails error cause :=
  ⟨rfl, rfl, log, rfl⟩

/-- What is to be reported for an image that is listed, or else has come to a run. -/
structure Faithful (answer : Report) (lists : Prop) (image : List UInt8) (run : Run) : Prop where
  listed : lists → ∃ lines, Listing.indexed? 0x200 0 image = some lines ∧
    Listing.Lists 0x200 image lines ∧
      answer.Shows (String.join (lines.map fun line => line.text ++ "\n"))
  refused : ¬ lists → ¬ image.length ≤ 3584 →
    answer.Fails "unable to load ROM" (Fault.imageTooLarge image.length 3584).message
  shown : ¬ lists → image.length ≤ 3584 → run.fault = none →
    answer.Shows run.machine.screen.text
  stopped : ¬ lists → image.length ≤ 3584 →
    ∀ fault, run.fault = some fault →
      answer.Fails
        ("program stopped at " ++ Hex.marked 3 run.machine.cpu.counter.toNat ++ " in frame " ++
          toString run.completed)
        fault.message

variable {answer : Report} {lists : Prop} {image : List UInt8} {run : Run}

theorem Faithful.exitCode_eq_zero_iff (faithful : answer.Faithful lists image run)
    (runs : ¬ lists) :
    answer.exitCode = 0 ↔ image.length ≤ 3584 ∧ run.fault = none := by
  constructor
  · intro zero
    have fits : image.length ≤ 3584 := by
      by_contra tooLarge
      exact absurd zero ((faithful.refused runs tooLarge).exitCode ▸ Nat.one_ne_zero)
    refine ⟨fits, Option.eq_none_iff_forall_ne_some.mpr fun fault ended => ?_⟩
    exact absurd zero ((faithful.stopped runs fits fault ended).exitCode ▸ Nat.one_ne_zero)
  · rintro ⟨fits, going⟩
    exact (faithful.shown runs fits going).exitCode

theorem Shows.same_of_shows {other : Report} {text : String} (shows : answer.Shows text)
    (otherShows : other.Shows text) :
    other.exitCode = answer.exitCode ∧ other.output = answer.output :=
  ⟨otherShows.exitCode.trans shows.exitCode.symm, otherShows.output.trans shows.output.symm⟩

theorem Fails.same_of_fails {other : Report} {error cause : String} (fails : answer.Fails error cause)
    (otherFails : other.Fails error cause) :
    other.exitCode = answer.exitCode ∧ other.output = answer.output :=
  ⟨otherFails.exitCode.trans fails.exitCode.symm, otherFails.output.trans fails.output.symm⟩

/-- The exit code and the output do not depend on anything else. -/
theorem Faithful.unique {other : Report} (faithful : answer.Faithful lists image run)
    (otherFaithful : other.Faithful lists image run) :
    other.exitCode = answer.exitCode ∧ other.output = answer.output := by
  by_cases runs : lists
  · obtain ⟨lines, found, _kept, shows⟩ := faithful.listed runs
    obtain ⟨otherLines, otherFound, _otherKept, otherShows⟩ := otherFaithful.listed runs
    cases found.symm.trans otherFound
    exact shows.same_of_shows otherShows
  · by_cases fits : image.length ≤ 3584
    · cases ended : run.fault with
      | none =>
          exact (faithful.shown runs fits ended).same_of_shows
            (otherFaithful.shown runs fits ended)
      | some fault =>
          exact (faithful.stopped runs fits fault ended).same_of_fails
            (otherFaithful.stopped runs fits fault ended)
    · exact (faithful.refused runs fits).same_of_fails (otherFaithful.refused runs fits)

end Report

/-! ### Runs of an image -/

namespace Demand

variable (demand : Demand) (image : List UInt8) (random other : RandomSource)

def booted : Machine :=
  .booted demand.config image (demand.keys.foldl Keypad.press .idle) random

def run : Run :=
  (demand.booted image random).frames demand.frames

def TakesNoRandomByte : Prop :=
  ∀ event ∈ (demand.run image random).toStep.events, ∀ x mask, event.instruction ≠ .random x mask

theorem isReadBy_random_eq_false_iff (instruction : Instruction) :
    Part.random.isReadBy instruction = false ↔ ∀ x mask, instruction ≠ .random x mask := by
  cases instruction with
  | random x mask => exact iff_of_false (fun unread => by cases unread) fun unlike => unlike x mask rfl
  | _ => exact iff_of_true rfl fun _x _mask same => by cases same

theorem takesNoRandomByte_iff :
    demand.TakesNoRandomByte image random ↔
      ∀ event ∈ (demand.run image random).toStep.events,
        Part.random.isReadBy event.instruction = false := by
  simp only [TakesNoRandomByte, isReadBy_random_eq_false_iff]

instance : Decidable (demand.TakesNoRandomByte image random) :=
  decidable_of_iff' _ (demand.takesNoRandomByte_iff image random)

theorem run_alike (unread : demand.TakesNoRandomByte image random) :
    (demand.run image other).fault = (demand.run image random).fault ∧
      (demand.run image other).completed = (demand.run image random).completed ∧
        (demand.run image other).machine.cpu.counter =
            (demand.run image random).machine.cpu.counter ∧
          (demand.run image other).machine.screen = (demand.run image random).machine.screen := by
  obtain ⟨machines, faults, counts⟩ := Machine.frames_alike .random (by decide)
    (demand.booted image random) (demand.booted image other) rfl (fun same => by cases same)
    demand.frames ((demand.takesNoRandomByte_iff image random).mp unread)
  exact ⟨faults, counts, congrArg (fun machine => machine.cpu.counter) machines,
    congrArg (fun machine => machine.screen) machines⟩

end Demand

namespace Build

variable (build : Build) (filter : Log.Filter) (entropy : UInt64) (options : Options)
variable (image : List UInt8)

theorem exists_log_of_runImage (records : List Log.Record) (fits : image.length ≤ 3584) :
    ∃ log, build.runImage filter entropy options image records =
      match (((options.demand build.profile).booted image (build.random entropy options)).headless
        (options.demand build.profile).frames).result with
      | .ok text => { output := text, errorOutput := log }
      | .error stop => .failure log stop.message stop.fault.message := by
  rw [runImage, Machine.boot_eq_ok _ _ _ _ fits]
  exact ⟨_, rfl⟩

theorem runImage_faithful (records : List Log.Record) (random : RandomSource)
    (unread : image.length ≤ 3584 →
      (options.demand build.profile).TakesNoRandomByte image random) {lists : Prop}
    (runs : ¬ lists) :
    (build.runImage filter entropy options image records).Faithful lists image
      ((options.demand build.profile).run image random) where
  listed := fun listed => absurd listed runs
  refused := by
    intro _runs tooLarge
    rw [runImage, Machine.boot_eq_error _ _ _ _ tooLarge]
    exact Report.fails_failure _ _ _
  shown := by
    intro _runs fits going
    obtain ⟨faults, _counts, _counters, screens⟩ :=
      (options.demand build.profile).run_alike image random (build.random entropy options)
        (unread fits)
    obtain ⟨log, same⟩ := build.exists_log_of_runImage filter entropy options image records fits
    rw [(Machine.headless_of_going _ _ (faults.trans going)).2] at same
    rw [same]
    exact ⟨rfl, congrArg Screen.text screens⟩
  stopped := by
    intro _runs fits fault ended
    obtain ⟨faults, counts, counters, _screens⟩ :=
      (options.demand build.profile).run_alike image random (build.random entropy options)
        (unread fits)
    obtain ⟨log, same⟩ := build.exists_log_of_runImage filter entropy options image records fits
    rw [Machine.headless_of_fault _ _ fault (faults.trans ended)] at same
    rw [same, ← counters, ← counts]
    exact Report.fails_failure _ _ _

theorem report_faithful (small : image.length ≤ 65536) (path : String) (random : RandomSource)
    {lists : Prop} (listed : options.disassemble = true ↔ lists)
    (unread : ¬ lists → image.length ≤ 3584 →
      (options.demand build.profile).TakesNoRandomByte image random) :
    (build.report filter entropy path options (.ok image)).Faithful lists image
      ((options.demand build.profile).run image random) := by
  by_cases listing : lists
  · simp only [report, if_pos (listed.mpr listing)]
    refine ⟨fun _listing => ⟨_, Listing.indexed?_of_small 0x200 image small,
      Listing.lists_ofImage 0x200 image, rfl, rfl⟩, ?_, ?_, ?_⟩
    all_goals
      intro runs
      exact absurd listing runs
  · simp only [report, if_neg fun given => listing (listed.mp given)]
    exact build.runImage_faithful filter entropy options image _ random (unread listing) listing

theorem respond_of_accepted (read : String → Id (Except ReadError (List UInt8)))
    (arguments : List String) (path : String)
    (accepted : build.parse arguments = .ok (path, options)) (found : read path = .ok image) :
    build.respond read filter entropy arguments =
      build.report filter entropy path options (.ok image) := by
  rw [respond, accepted]
  exact congrArg (build.report filter entropy path options) found

end Build

/-- What a build does with accepted arguments and an image that it has read. If a listing is asked for,
it shows the lines of the image. Otherwise it fails if the image is too large or if the run that is asked
for is stopped, and shows the last screen if it is not. Unless the run takes a random byte, any random
source will do for it; the exit code and the output are then the same for all arguments that ask for the
same, whatever the seed, the tracing and the log. -/
theorem respond_faithful (build : Build) (documented : Documented build.parse)
    (read : String → Id (Except ReadError (List UInt8))) (filter : Log.Filter) (entropy : UInt64)
    (arguments : List String) (path : String) (options : Options) (image : List UInt8)
    (accepted : build.parse arguments = .ok (path, options)) (found : read path = .ok image)
    (small : image.length ≤ 65536) :
    ∃ (given : List Given) (demand : Demand), Spells arguments given ∧ pathsOf given = [path] ∧
      demand.MadeBy build.profile given ∧
        ∀ random : RandomSource,
          (.flag .disassemble ∉ given → image.length ≤ 3584 →
            demand.TakesNoRandomByte image random) →
          let answer : Report := build.respond read filter entropy arguments
          answer.Faithful (.flag .disassemble ∈ given) image (demand.run image random) ∧
            (.flag .disassemble ∉ given →
              (answer.exitCode = 0 ↔
                image.length ≤ 3584 ∧ (demand.run image random).fault = none)) ∧
              ∀ (otherRead : String → Id (Except ReadError (List UInt8))) otherFilter otherEntropy
                otherArguments otherPath otherOptions otherGiven,
                build.parse otherArguments = .ok (otherPath, otherOptions) →
                  otherRead otherPath = .ok image → Spells otherArguments otherGiven →
                    (.flag .disassemble ∈ otherGiven ↔ .flag .disassemble ∈ given) →
                      demand.MadeBy build.profile otherGiven →
                        let other : Report :=
                          build.respond otherRead otherFilter otherEntropy otherArguments
                        other.exitCode = answer.exitCode ∧ other.output = answer.output := by
  obtain ⟨given, spelled, _paths, _collects, _exclusive⟩ :=
    documented arguments path options accepted
  obtain ⟨paths, made, listed⟩ := documented.reads build.profile accepted spelled
  refine ⟨given, options.demand build.profile, spelled, paths, made, fun random unread => ?_⟩
  have faithful := build.report_faithful filter entropy options image small path random listed unread
  rw [build.respond_of_accepted filter entropy options image read arguments path accepted found]
  refine ⟨faithful, faithful.exitCode_eq_zero_iff, ?_⟩
  -- The other options differ in what neither the listing nor the run depends on.
  intro otherRead otherFilter otherEntropy otherArguments otherPath otherOptions otherGiven
    otherAccepted otherFound otherSpelled sameListing sameDemand
  obtain ⟨_paths, otherMade, otherListed⟩ :=
    documented.reads build.profile otherAccepted otherSpelled
  have otherFaithful := build.report_faithful otherFilter otherEntropy otherOptions image small
    otherPath random (otherListed.trans sameListing)
  rw [otherMade.unique sameDemand] at otherFaithful
  rw [build.respond_of_accepted otherFilter otherEntropy otherOptions image otherRead otherArguments
    otherPath otherAccepted otherFound]
  exact faithful.unique (otherFaithful unread)

/-- A program that needs the key it is given, and returns to nowhere without it. -/
theorem respond_faithful_with_key :
    ∃ read : String → Id (Except ReadError (List UInt8)),
      let arguments := ["game.ch8", "--frames", "2", "--ipt", "4", "--halt-on-empty-return"]
      let answer : Report := respond read ⟨none⟩ 0 arguments
      let withKey : Report := respond read ⟨none⟩ 0 (arguments ++ ["--key", "a"])
      let traced : Report := respond read ⟨some .trace⟩ 1
        ("--trace" :: arguments ++ ["--key=A", "--seed", "7"])
      let listing : Report := respond read ⟨none⟩ 0 (arguments ++ ["--disassemble"])
      answer.Fails "program stopped at 0x206 in frame 0"
          "return with an empty call stack at 0x206" ∧
        withKey.exitCode = 0 ∧ traced.exitCode = 0 ∧ traced.output = withKey.output ∧
          listing.Shows
            "200  600A  LD V0, 0x0A\n202  E09E  SKP V0\n204  00EE  RET\n206  1206  JP 0x206\n" := by
  obtain ⟨image, same⟩ : ∃ image : List UInt8, image =
    [0x60, 0x0A, 0xE0, 0x9E, 0x00, 0xEE, 0x12, 0x06] := ⟨_, rfl⟩
  have fits : image.length ≤ 3584 := by
    subst same
    decide
  have small : image.length ≤ 65536 := Nat.le_trans fits (by decide)
  let keyless : Options := { cyclesPerFrame := 4, frames := some 2, haltOnEmptyReturn := true }
  let keyed : Options := { keyless with keys := [10] }
  have keylessRun : (keyless.demand .debug).TakesNoRandomByte image (.cyclic #[]) ∧
      ((keyless.demand .debug).run image (.cyclic #[])).fault = some (.stackUnderflow 0x206) ∧
        ((keyless.demand .debug).run image (.cyclic #[])).completed = 0 ∧
          ((keyless.demand .debug).run image (.cyclic #[])).machine.cpu.counter = 0x206 := by
    subst same
    decide +kernel
  have keyedRun : (keyed.demand .debug).TakesNoRandomByte image (.cyclic #[]) ∧
      ((keyed.demand .debug).run image (.cyclic #[])).fault = none := by
    subst same
    decide +kernel
  have documented : Documented Build.standard.parse := documented_parseArguments
  have accepted : Build.standard.parse ["game.ch8", "--frames", "2", "--ipt", "4",
      "--halt-on-empty-return"] = .ok ("game.ch8", keyless) := rfl
  have keyAccepted : Build.standard.parse ["game.ch8", "--frames", "2", "--ipt", "4",
      "--halt-on-empty-return", "--key", "a"] = .ok ("game.ch8", keyed) := rfl
  have tracedAccepted : Build.standard.parse ["--trace", "game.ch8", "--frames", "2", "--ipt", "4",
      "--halt-on-empty-return", "--key=A", "--seed", "7"] =
        .ok ("game.ch8", { keyed with trace := true, seed := some 7 }) := rfl
  have listingAccepted : Build.standard.parse ["game.ch8", "--frames", "2", "--ipt", "4",
      "--halt-on-empty-return", "--disassemble"] =
        .ok ("game.ch8", { keyless with disassemble := true }) := rfl
  refine ⟨fun _path => .ok image, ?_⟩
  intro arguments answer withKey traced listing
  have failed : answer.Fails "program stopped at 0x206 in frame 0"
      "return with an empty call stack at 0x206" := by
    obtain ⟨unread, fault, completed, counter⟩ := keylessRun
    obtain ⟨given, demand, spelled, _paths, made, tells⟩ := respond_faithful .standard documented
      (fun _path => .ok image) ⟨none⟩ 0 _ _ _ image accepted rfl small
    obtain ⟨_same, sameMade, listed⟩ := documented.reads .debug accepted spelled
    cases made.unique sameMade
    have runs : .flag .disassemble ∉ given := fun member => by cases listed.mpr member
    have failed := (tells (.cyclic #[]) fun _runs _fits => unread).1.stopped runs fits _ fault
    rwa [completed, counter] at failed
  have ended : withKey.exitCode = 0 ∧ traced.exitCode = 0 ∧ traced.output = withKey.output := by
    obtain ⟨unread, going⟩ := keyedRun
    obtain ⟨given, demand, spelled, _paths, made, tells⟩ := respond_faithful .standard documented
      (fun _path => .ok image) ⟨none⟩ 0 _ _ _ image keyAccepted rfl small
    obtain ⟨_same, sameMade, listed⟩ := documented.reads .debug keyAccepted spelled
    cases made.unique sameMade
    have runs : .flag .disassemble ∉ given := fun member => by cases listed.mpr member
    obtain ⟨_faithful, code, others⟩ := tells (.cyclic #[]) fun _runs _fits => unread
    have zero := (code runs).mpr ⟨fits, going⟩
    obtain ⟨otherGiven, otherSpelled, _rest⟩ := documented _ _ _ tracedAccepted
    obtain ⟨_otherSame, otherMade, otherListed⟩ :=
      documented.reads .debug tracedAccepted otherSpelled
    have alike := others (fun _path => .ok image) ⟨some .trace⟩ 1 _ _ _ otherGiven tracedAccepted rfl
      otherSpelled (otherListed.symm.trans listed) otherMade
    exact ⟨zero, alike.1.trans zero, alike.2⟩
  have listed : listing.Shows
      "200  600A  LD V0, 0x0A\n202  E09E  SKP V0\n204  00EE  RET\n206  1206  JP 0x206\n" := by
    obtain ⟨given, demand, spelled, _paths, _made, tells⟩ := respond_faithful .standard documented
      (fun _path => .ok image) ⟨none⟩ 0 _ _ _ image listingAccepted rfl small
    obtain ⟨_same, _made, listed⟩ :=
      documented.reads .debug listingAccepted spelled
    have member := listed.mp rfl
    obtain ⟨lines, found, _kept, shows⟩ :=
      (tells (.cyclic #[]) fun runs => absurd member runs).1.listed member
    subst same
    cases found
    exact shows
  exact ⟨failed, ended.1, ended.2.1, ended.2.2, listed⟩

/-- A program that jumps to the last byte of memory. The fetch there fails in a debug build, and wraps in
a release. -/
example :
    let read : String → Id (Except ReadError (List UInt8)) := fun _path => .ok [0x1F, 0xFF]
    let debug : Report := Build.standard.respond read ⟨none⟩ 0 ["game.ch8", "--frames", "1"]
    let release : Report :=
      { Build.standard with profile := .release }.respond read ⟨none⟩ 0 ["game.ch8", "--frames", "1"]
    debug.exitCode = 1 ∧ release.exitCode = 0 := by
  decide +kernel

end ChipEight.CommandLine
