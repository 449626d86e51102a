import ChipEight.CommandLine.Program
import ChipEight.Proofs.Text.Numerals
import Mathlib.Data.List.Forall2

set_option autoImplicit false

/-!
What a command line says.

`Spells` tells which arguments give which things, in order, whatever reads them: a command line can be
understood in one way only (`Spells.unique`). `Documented` is what is promised of a reader: what it accepts
is spelled by the arguments, and the options are what has been given. The reader of the running program
keeps the promise (`documented_parseArguments`), by an invariant of its progress.
-/

namespace ChipEight.CommandLine

inductive Given where
  | flag (flag : Flag)
  | setting (setting : Setting) (value : String)
  | image (path : String)
deriving DecidableEq

/-- An argument that cannot be taken for an option. -/
def Bare (text : String) : Prop :=
  text = "-" ∨ text.toList.head? ≠ some '-'

instance (text : String) : Decidable (Bare text) :=
  inferInstanceAs (Decidable (_ ∨ _))

/-- The arguments that give some things, one after the other. -/
inductive Spells : List String → List Given → Prop
  | nothing : Spells [] []
  | flag (flag : Flag) {texts : List String} {given : List Given} (rest : Spells texts given) :
      Spells (flag.option :: texts) (.flag flag :: given)
  | apart (setting : Setting) (value : String) {texts : List String} {given : List Given}
      (bare : Bare value) (rest : Spells texts given) :
      Spells (setting.option :: value :: texts) (.setting setting value :: given)
  | attached (setting : Setting) (value : String) {texts : List String} {given : List Given}
      (rest : Spells texts given) :
      Spells ((setting.option ++ "=" ++ value) :: texts) (.setting setting value :: given)
  | image (path : String) {texts : List String} {given : List Given} (bare : Bare path)
      (rest : Spells texts given) : Spells (path :: texts) (.image path :: given)
  | separated (paths : List String) : Spells ("--" :: paths) (paths.map .image)

/-! ### What the options should be -/

def Given.value? (setting : Setting) : Given → Option String
  | .setting other value => if other = setting then some value else none
  | _ => none

def Given.path? : Given → Option String
  | .image path => some path
  | _ => none

def valuesOf (setting : Setting) (given : List Given) : List String :=
  given.filterMap (Given.value? setting)

def pathsOf (given : List Given) : List String :=
  given.filterMap Given.path?

/-- The number of a setting that is given once, as a decimal numeral of sixty-four bits, or not at all. -/
def Amounts (values : List String) (number : Option Nat) : Prop :=
  List.Forall₂ (fun value number => Decimal.Denotes value number ∧ number ≤ 18446744073709551615)
    values number.toList

def Options.has (options : Options) : Flag → Bool
  | .trace => options.trace
  | .disassemble => options.disassemble
  | .haltOnEmptyReturn => options.haltOnEmptyReturn
  | .strictAddresses => options.strictAddresses
  | .wrapAddresses => options.wrapAddresses

def Options.Reads (options : Options) : Setting → List String → Prop
  | .cyclesPerFrame, values =>
      ∃ number, Amounts values number ∧ options.cyclesPerFrame = number.getD 16
  | .frames, values => Amounts values options.frames
  | .seed, values => Amounts values options.seed
  | .key, values => List.Forall₂ (fun value key => readKey value = .ok key) values options.keys

structure Options.Collects (options : Options) (given : List Given) : Prop where
  flags : ∀ flag, options.has flag = true ↔ .flag flag ∈ given
  settings : ∀ setting, options.Reads setting (valuesOf setting given)

/-- What is promised of a reader of command lines: it accepts a path and options only if the arguments
spell them, with one path and without address policies that exclude each other. -/
def Documented (parse : List String → Except Report (String × Options)) : Prop :=
  ∀ arguments path options, parse arguments = .ok (path, options) →
    ∃ given, Spells arguments given ∧ pathsOf given = [path] ∧
      options.Collects given ∧
        ¬ (.flag .strictAddresses ∈ given ∧ .flag .wrapAddresses ∈ given)

/-! ### Results -/

section Results

variable {ε α β : Type} {first : Except ε α} {result : β}

theorem exists_of_map_eq_ok {function : α → β} (done : first.map function = .ok result) :
    ∃ middle, first = .ok middle ∧ result = function middle := by
  cases first with
  | error error => cases done
  | ok middle =>
      cases done
      exact ⟨middle, rfl, rfl⟩

theorem eq_ok_of_mapError_eq_ok {ε' : Type} {function : ε → ε'} {middle : α}
    (done : first.mapError function = .ok middle) : first = .ok middle := by
  cases first with
  | error error => cases done
  | ok other =>
      cases done
      rfl

theorem exists_of_bind_eq_ok {next : α → Except ε β} (done : first >>= next = .ok result) :
    ∃ middle, first = .ok middle ∧ next middle = .ok result := by
  cases first with
  | error error => cases done
  | ok middle => exact ⟨middle, rfl, done⟩

end Results

/-! ### The form of an argument -/

open Argument

theorem splitValue_of_not_mem (name : List Char) (plain : '=' ∉ name) (value : List Char) :
    splitValue (name ++ '=' :: value) = (name, some value) := by
  induction name with
  | nil => rfl
  | cons character rest ih =>
      rw [List.mem_cons, not_or] at plain
      rw [List.cons_append, splitValue, ih plain.2]
      exact fun same => plain.1 same.symm

theorem join_splitValue (text : List Char) :
    text = (splitValue text).1 ++ ((splitValue text).2.map fun value => '=' :: value).getD [] := by
  fun_induction splitValue text with
  | case1 => rfl
  | case2 value => rfl
  | case3 character rest _other parts ih => exact congrArg (character :: ·) ih

theorem ofText_eq_plain_iff (text shown : String) :
    ofText text = .plain shown ↔ shown = text ∧ Bare text := by
  have dash : text = "-" ↔ text.toList = ['-'] := String.toList_inj.symm
  rw [ofText, Bare, dash]
  split
  · rename_i dashes
    simp [dashes]
  · rename_i dashes
    simp [dashes]
  · rename_i dashes
    simp [dashes]
  · rename_i _separator _long short
    have bare : text.toList = ['-'] ∨ text.toList.head? ≠ some '-' := by
      generalize text.toList = characters at short ⊢
      cases characters with
      | nil => exact Or.inr (by simp)
      | cons first rest =>
          by_cases same : first = '-'
          · subst same
            cases rest with
            | nil => exact Or.inl rfl
            | cons second rest => exact absurd rfl (short second rest)
          · exact Or.inr fun head => same (Option.some.inj head)
    rw [Argument.plain.injEq, and_iff_left bare, eq_comm]

theorem eq_separator_of_ofText {text : String} (read : ofText text = .separator) : text = "--" := by
  unfold ofText at read
  split at read
  · rename_i dashes
    exact String.toList_injective dashes
  all_goals cases read

theorem text_of_ofText_long {text name : String} {value : Option String}
    (read : ofText text = .long name value) :
    text = "--" ++ name ++ (value.map fun value => "=" ++ value).getD "" := by
  unfold ofText at read
  split at read
  · cases read
  · rename_i rest _nonempty dashes
    cases read
    apply String.toList_injective
    rw [dashes]
    conv_lhs => rw [join_splitValue rest]
    cases (splitValue rest).2 <;> simp [String.toList_append]
  · cases read
  · cases read

theorem flag_of_ofName? {name : String} {flag : Flag}
    (found : Choice.ofName? name = some (.flag flag)) : "--" ++ name = flag.option := by
  unfold Choice.ofName? at found
  split at found <;> cases found <;> rfl

theorem setting_of_ofName? {name : String} {setting : Setting}
    (found : Choice.ofName? name = some (.setting setting)) : "--" ++ name = setting.option := by
  unfold Choice.ofName? at found
  split at found <;> cases found <;> rfl

/-! ### One way to understand it -/

def choiceOf (text : String) : Option (Choice × Option String) :=
  match ofText text with
  | .long name value => (Choice.ofName? name).map fun choice => (choice, value)
  | _ => none

theorem choiceOf_flag (flag : Flag) : choiceOf flag.option = some (.flag flag, none) := by
  cases flag <;> decide

theorem choiceOf_setting (setting : Setting) :
    choiceOf setting.option = some (.setting setting, none) := by
  cases setting <;> decide

theorem choiceOf_attached (setting : Setting) (value : String) :
    choiceOf (setting.option ++ "=" ++ value) = some (.setting setting, some value) := by
  have named : ∃ name, setting.option.toList = '-' :: '-' :: name ∧ '=' ∉ name ∧
      Choice.ofName? (String.ofList name) = some (.setting setting) := by
    refine ⟨setting.option.toList.drop 2, ?_⟩
    cases setting <;> decide
  obtain ⟨name, dashes, plain, found⟩ := named
  have text : (setting.option ++ "=" ++ value).toList =
      '-' :: '-' :: (name ++ '=' :: value.toList) := by
    rw [String.toList_append, String.toList_append, dashes, List.append_assoc]
    rfl
  have read : ofText (setting.option ++ "=" ++ value) =
      .long (String.ofList name) (some value) := by
    unfold ofText
    rw [text]
    simp [splitValue_of_not_mem name plain]
  rw [choiceOf, read]
  simp only [found, Option.map_some]

theorem choiceOf_bare {text : String} (bare : Bare text) : choiceOf text = none := by
  rw [choiceOf, (ofText_eq_plain_iff text text).mpr ⟨rfl, bare⟩]

theorem ne_separator_of_bare {text : String} (bare : Bare text) : text ≠ "--" := by
  rintro rfl
  exact absurd bare (by decide)

def Opens (text : String) (texts : List String) (given : List Given) : Prop :=
  match choiceOf text with
  | some (.flag flag, none) => ∃ more, given = .flag flag :: more ∧ Spells texts more
  | some (.setting setting, none) =>
      ∃ value rest more, texts = value :: rest ∧ given = .setting setting value :: more ∧
        Spells rest more
  | some (.setting setting, some value) =>
      ∃ more, given = .setting setting value :: more ∧ Spells texts more
  | some _ => False
  | none =>
      if text = "--" then given = texts.map .image
      else ∃ more, given = .image text :: more ∧ Spells texts more

theorem Spells.opens {text : String} {texts : List String} {given : List Given}
    (spelled : Spells (text :: texts) given) : Opens text texts given := by
  unfold Opens
  cases spelled with
  | flag flag rest =>
      rw [choiceOf_flag]
      exact ⟨_, rfl, rest⟩
  | apart setting value _bare rest =>
      rw [choiceOf_setting]
      exact ⟨value, _, _, rfl, rfl, rest⟩
  | attached setting value rest =>
      rw [choiceOf_attached]
      exact ⟨_, rfl, rest⟩
  | image _path bare rest =>
      rw [choiceOf_bare bare]
      rw [if_neg (ne_separator_of_bare bare)]
      exact ⟨_, rfl, rest⟩
  | separated _paths => rfl

theorem Spells.unique {texts : List String} {given other : List Given} (spelled : Spells texts given)
    (otherwise : Spells texts other) : given = other := by
  induction spelled generalizing other with
  | nothing =>
      cases otherwise
      rfl
  | flag flag _rest ih =>
      have opens := otherwise.opens
      rw [Opens, choiceOf_flag] at opens
      obtain ⟨more, rfl, spelled⟩ := opens
      rw [ih spelled]
  | apart setting value _bare _rest ih =>
      have opens := otherwise.opens
      rw [Opens, choiceOf_setting] at opens
      obtain ⟨_value, _rest, more, same, rfl, spelled⟩ := opens
      cases same
      rw [ih spelled]
  | attached setting value _rest ih =>
      have opens := otherwise.opens
      rw [Opens, choiceOf_attached] at opens
      obtain ⟨more, rfl, spelled⟩ := opens
      rw [ih spelled]
  | image path bare _rest ih =>
      have opens := otherwise.opens
      rw [Opens, choiceOf_bare bare, if_neg (ne_separator_of_bare bare)] at opens
      obtain ⟨more, rfl, spelled⟩ := opens
      rw [ih spelled]
  | separated paths => exact otherwise.opens.symm

/-! ### Collecting what is given -/

@[simp] theorem valuesOf_append (setting : Setting) (given more : List Given) :
    valuesOf setting (given ++ more) = valuesOf setting given ++ valuesOf setting more :=
  List.filterMap_append

@[simp] theorem valuesOf_flag (setting : Setting) (flag : Flag) :
    valuesOf setting [.flag flag] = [] := rfl

@[simp] theorem valuesOf_image (setting : Setting) (path : String) :
    valuesOf setting [.image path] = [] := rfl

@[simp] theorem valuesOf_setting (setting other : Setting) (value : String) :
    valuesOf setting [.setting other value] = if other = setting then [value] else [] := by
  by_cases same : other = setting <;> simp [valuesOf, Given.value?, same]

@[simp] theorem pathsOf_nil : pathsOf [] = [] := rfl

@[simp] theorem pathsOf_append (given more : List Given) :
    pathsOf (given ++ more) = pathsOf given ++ pathsOf more :=
  List.filterMap_append

@[simp] theorem pathsOf_flag (flag : Flag) : pathsOf [.flag flag] = [] := rfl

@[simp] theorem pathsOf_setting (setting : Setting) (value : String) :
    pathsOf [.setting setting value] = [] := rfl

@[simp] theorem pathsOf_image (path : String) : pathsOf [.image path] = [path] := rfl

theorem amounts_once {values : List String} {value : String} {number : Nat} (new : values = [])
    (read : Options.readNumber value = .ok number) : Amounts (values ++ [value]) (some number) := by
  subst new
  exact .cons ((Decimal.read_ten_eq_ok_iff _ number value).mp (eq_ok_of_mapError_eq_ok read)) .nil

namespace Options.Collects

variable {options : Options} {given : List Given}

theorem nothing : ({} : Options).Collects [] where
  flags flag := by cases flag <;> simp [Options.has]
  settings setting := by
    cases setting with
    | cyclesPerFrame => exact ⟨none, .nil, rfl⟩
    | _ => exact .nil

theorem image (collects : options.Collects given) (path : String) :
    options.Collects (given ++ [.image path]) where
  flags flag := by simp [collects.flags]
  settings setting := by simpa using collects.settings setting

theorem raise (collects : options.Collects given) (flag : Flag) :
    (options.raise flag).Collects (given ++ [.flag flag]) where
  flags other := by
    have before := collects.flags other
    cases flag <;> cases other <;> simp_all [Options.has, Options.raise]
  settings setting := by
    have before := collects.settings setting
    rw [valuesOf_append, valuesOf_flag, List.append_nil]
    cases flag <;> cases setting <;> exact before

/-- A setting leaves the flags and the other settings as they are. -/
theorem assign_other {setting : Setting} {value : String} {next : Options}
    (read : options.assign setting value = .ok next) :
    (∀ flag, next.has flag = options.has flag) ∧
      ∀ other, setting ≠ other → ∀ values, next.Reads other values ↔ options.Reads other values := by
  cases setting with
  | cyclesPerFrame | frames | seed =>
      obtain ⟨number, _found, rfl⟩ := exists_of_map_eq_ok read
      refine ⟨fun flag => by cases flag <;> rfl, fun other different values => ?_⟩
      cases other <;> first | exact absurd rfl different | rfl
  | key =>
      obtain ⟨key, _found, rfl⟩ := exists_of_map_eq_ok read
      refine ⟨fun flag => by cases flag <;> rfl, fun other different values => ?_⟩
      cases other <;> first | exact absurd rfl different | rfl

theorem assign (collects : options.Collects given) (setting : Setting) (value : String)
    (new : setting ≠ .key → valuesOf setting given = []) (next : Options)
    (read : options.assign setting value = .ok next) :
    next.Collects (given ++ [.setting setting value]) where
  flags flag := by
    rw [(assign_other read).1 flag]
    simpa using collects.flags flag
  settings other := by
    have before := collects.settings other
    rw [valuesOf_append, valuesOf_setting]
    by_cases same : setting = other
    · subst same
      rw [if_pos rfl]
      cases setting with
      | cyclesPerFrame =>
          obtain ⟨number, found, rfl⟩ := exists_of_map_eq_ok read
          exact ⟨some number, amounts_once (new (by decide)) found, rfl⟩
      | frames | seed =>
          obtain ⟨number, found, rfl⟩ := exists_of_map_eq_ok read
          exact amounts_once (new (by decide)) found
      | key =>
          obtain ⟨key, found, rfl⟩ := exists_of_map_eq_ok read
          exact List.rel_append before (.cons (eq_ok_of_mapError_eq_ok found) .nil)
    · rw [if_neg same, List.append_nil, (assign_other read).2 other same]
      exact before

end Options.Collects

/-! ### The reader that runs -/

def Pending.given : Pending → List Given
  | .setting chosen (some value) => [.setting chosen value]
  | .image path => [.image path]
  | .nothing | .setting _ none => []

def Progress.Awaits (progress : Progress) : Prop :=
  ∃ setting, progress.pending = .setting setting none

/-- What has been given and checked so far. -/
structure Progress.Holds (progress : Progress) (given : List Given) : Prop where
  options : progress.options.Collects given
  choices : ∀ setting value, .setting setting value ∈ given → .setting setting ∈ progress.given
  image : pathsOf given = progress.image.toList
  once : ∀ path, progress.pending = .image path → progress.image = none

namespace Progress

variable {progress next settled : Progress} {given : List Given}

theorem holds_nothing : ({} : Progress).Holds [] where
  options := .nothing
  choices _ _ member := by cases member
  image := rfl
  once _ pending := by cases pending

theorem once_of_idle (idle : progress.pending = .nothing) (path : String)
    (pending : progress.pending = .image path) : progress.image = none := by
  rw [idle] at pending
  cases pending

theorem choices_of_append (holds : progress.Holds given) {thing : Given}
    (unset : ∀ setting value, thing ≠ .setting setting value) (setting : Setting) (value : String)
    (member : .setting setting value ∈ given ++ [thing]) : .setting setting ∈ progress.given := by
  rcases List.mem_append.mp member with before | now
  · exact holds.choices setting value before
  · exact absurd (List.mem_singleton.mp now).symm (unset setting value)

theorem valuesOf_eq_nil (holds : progress.Holds given) (setting : Setting)
    (new : Choice.setting setting ∉ progress.given) : valuesOf setting given = [] := by
  rw [valuesOf, List.filterMap_eq_nil_iff]
  intro thing member
  cases thing with
  | setting other value =>
      refine if_neg ?_
      rintro rfl
      exact new (holds.choices _ value member)
  | _ => rfl

theorem holds_accept (holds : progress.Holds given) (idle : progress.pending = .nothing)
    (setting : Setting) (value : String) (accepted : progress.accept setting value = .ok next) :
    next.Holds (given ++ [.setting setting value]) ∧ next.pending = .nothing ∧
      next.separated = progress.separated := by
  unfold accept at accepted
  split at accepted
  · cases accepted
  · rename_i new
    split at accepted
    · cases accepted
    · rename_i options read
      cases accepted
      refine ⟨⟨?_, ?_, ?_, ?_⟩, idle, rfl⟩
      · refine holds.options.assign setting value ?_ options read
        intro other
        exact valuesOf_eq_nil holds setting fun member => new ⟨other, member⟩
      · intro other otherValue member
        rcases List.mem_append.mp member with before | now
        · exact List.mem_append_left _ (holds.choices other otherValue before)
        · cases List.mem_singleton.mp now
          exact List.mem_append_right _ List.mem_cons_self
      · simpa using holds.image
      · exact once_of_idle idle

theorem holds_raise (holds : progress.Holds given) (idle : progress.pending = .nothing)
    (flag : Flag) (raised : progress.raise flag = .ok next) :
    next.Holds (given ++ [.flag flag]) ∧ next.pending = .nothing ∧
      next.separated = progress.separated := by
  unfold raise at raised
  split at raised
  · cases raised
  · cases raised
    refine ⟨⟨holds.options.raise flag, ?_, ?_, ?_⟩, idle, rfl⟩
    · intro setting value member
      exact List.mem_append_left _ (choices_of_append holds (by simp) setting value member)
    · simpa using holds.image
    · exact once_of_idle idle

/-- Once it has been checked, what has just been given counts. -/
theorem holds_settle (holds : progress.Holds given) (checked : progress.settle = .ok settled) :
    settled.Holds (given ++ progress.pending.given) ∧ settled.pending = .nothing ∧
      settled.separated = progress.separated ∧ ¬ progress.Awaits := by
  have cleared : ({ progress with pending := .nothing } : Progress).Holds given :=
    ⟨holds.options, holds.choices, holds.image, fun path pending => by cases pending⟩
  unfold settle at checked
  unfold Awaits
  cases pending : progress.pending with
  | nothing =>
      rw [pending] at checked
      cases checked
      simpa [Pending.given] using cleared
  | setting setting value =>
      rw [pending] at checked
      cases value with
      | none => cases checked
      | some value =>
          obtain ⟨whole, idle, same⟩ := holds_accept cleared rfl setting value checked
          exact ⟨whole, idle, same, by simp⟩
  | image path =>
      rw [pending] at checked
      dsimp only at checked
      split at checked
      · cases checked
      · cases checked
        refine ⟨⟨holds.options.image path, choices_of_append holds (by simp), ?_, ?_⟩, rfl, rfl, by simp⟩
        · have none := holds.once path pending
          simpa [none, Pending.given] using holds.image
        · intro other impossible
          cases impossible

/-- The things that are still to come, if some arguments are still to be read. -/
def Continues (progress : Progress) (texts : List String) (later : List Given) : Prop :=
  if progress.separated then ¬ progress.Awaits ∧ later = texts.map .image
  else
    match progress.pending with
    | .setting setting none =>
        ∃ value rest more, texts = value :: rest ∧ later = .setting setting value :: more ∧
          Bare value ∧ Spells rest more
    | _ => Spells texts later

theorem continues_iff_spells (free : progress.separated = false) (checked : ¬ progress.Awaits)
    (texts : List String) (later : List Given) :
    progress.Continues texts later ↔ Spells texts later := by
  unfold Continues
  rw [if_neg (by simp [free])]
  split
  · rename_i setting pending
    exact absurd ⟨setting, pending⟩ checked
  · rfl

/-- There is room for a path only if none has been given. -/
theorem paths_of_room (holds : progress.Holds given) (room : ¬ progress.imageTaken = true) :
    pathsOf (given ++ progress.pending.given) = [] := by
  unfold imageTaken at room
  rw [pathsOf_append, holds.image]
  cases pending : progress.pending with
  | image path =>
      rw [pending] at room
      exact absurd rfl room
  | nothing =>
      rw [pending] at room
      simpa [Pending.given] using room
  | setting setting value =>
      rw [pending] at room
      cases value <;> simpa [Pending.given] using room

theorem holds_takePath (holds : progress.Holds given) (path : String)
    (taken : progress.takePath path = .ok next) :
    next.Holds (given ++ progress.pending.given) ∧ next.pending = .image path ∧
      next.separated = progress.separated ∧ ¬ progress.Awaits := by
  unfold takePath at taken
  split at taken
  · cases taken
  · rename_i room
    obtain ⟨settled, checked, rfl⟩ := exists_of_map_eq_ok taken
    obtain ⟨whole, _idle, same, free⟩ := holds_settle holds checked
    refine ⟨⟨whole.options, whole.choices, whole.image, ?_⟩, rfl, same, free⟩
    intro _path _pending
    have none := paths_of_room holds room
    rw [whole.image] at none
    simpa using none

/-- Whatever the arguments after one give, the progress before it and the progress after it come to the
same things in the end. -/
def Leads (progress : Progress) (given : List Given) (text : String) (next : Progress) : Prop :=
  ∃ before, next.Holds before ∧ ∀ rest more, next.Continues rest more →
    ∃ later, progress.Continues (text :: rest) later ∧
      given ++ progress.pending.given ++ later = before ++ next.pending.given ++ more

/-- An argument that gives one thing by itself. -/
theorem leads_of_gives {before : List Given} {text : String} (holds : next.Holds before) (thing : Given)
    (spells : ∀ rest more, Spells rest more → Spells (text :: rest) (thing :: more))
    (same : before ++ next.pending.given = given ++ progress.pending.given ++ [thing])
    (free : progress.separated = false) (checked : ¬ progress.Awaits)
    (nextFree : next.separated = progress.separated) (nextChecked : ¬ next.Awaits) :
    progress.Leads given text next := by
  refine ⟨before, holds, fun rest more continues => ⟨thing :: more, ?_, ?_⟩⟩
  · rw [continues_iff_spells (nextFree.trans free) nextChecked] at continues
    exact (continues_iff_spells free checked _ _).mpr (spells rest more continues)
  · rw [same, List.append_assoc _ [thing] more]
    rfl

theorem not_awaits_of_nothing (idle : progress.pending = .nothing) : ¬ progress.Awaits := by
  rintro ⟨setting, pending⟩
  rw [idle] at pending
  cases pending

theorem leads_of_takePath (holds : progress.Holds given) (path : String)
    (bare : progress.separated = false → Bare path) (taken : progress.takePath path = .ok next) :
    progress.Leads given path next := by
  obtain ⟨whole, pending, same, checked⟩ := holds_takePath holds path taken
  have nextChecked : ¬ next.Awaits := by simp [Awaits, pending]
  cases separated : progress.separated with
  | false =>
      refine leads_of_gives whole (.image path) (fun _ _ => .image path (bare separated)) ?_
        separated checked same nextChecked
      rw [pending]
      rfl
  | true =>
      refine ⟨_, whole, fun rest more continues => ⟨.image path :: more, ?_, ?_⟩⟩
      · obtain ⟨_checked, paths⟩ := (if_pos (same.trans separated)).mp continues
        rw [paths]
        exact (if_pos separated).mpr ⟨checked, rfl⟩
      · rw [pending]
        simp [Pending.given]

theorem leads_of_takePlain (holds : progress.Holds given) (free : progress.separated = false)
    (text : String) (bare : Bare text) (taken : progress.takePlain text = .ok next) :
    progress.Leads given text next := by
  unfold takePlain at taken
  split at taken
  · rename_i setting waits
    cases taken
    refine ⟨given, ⟨holds.options, holds.choices, holds.image, fun _ pending => by cases pending⟩, ?_⟩
    intro rest more continues
    have spelled : Spells rest more := by
      refine (continues_iff_spells ?_ ?_ rest more).mp continues
      · exact free
      · simp [Awaits]
    refine ⟨.setting setting text :: more, ?_, ?_⟩
    · unfold Continues
      rw [if_neg (by simp [free]), waits]
      exact ⟨text, rest, more, rfl, rfl, bare, spelled⟩
    · simp [waits, Pending.given]
  · exact leads_of_takePath holds text (fun _free => bare) taken

theorem leads_of_flag (holds : progress.Holds given) (free : progress.separated = false) (flag : Flag)
    (checked : progress.settle = .ok settled) (raised : settled.raise flag = .ok next) :
    progress.Leads given flag.option next := by
  obtain ⟨whole, idle, same, answered⟩ := holds_settle holds checked
  obtain ⟨more, nextIdle, nextSame⟩ := holds_raise whole idle flag raised
  refine leads_of_gives more (.flag flag) (fun _ _ => .flag flag) ?_ free answered
    (nextSame.trans same) (not_awaits_of_nothing nextIdle)
  rw [nextIdle]
  exact List.append_nil _

theorem leads_of_attached (holds : progress.Holds given) (free : progress.separated = false)
    (setting : Setting) (value : String) (checked : progress.settle = .ok settled)
    (accepted : settled.accept setting value = .ok next) :
    progress.Leads given (setting.option ++ "=" ++ value) next := by
  obtain ⟨whole, idle, same, answered⟩ := holds_settle holds checked
  obtain ⟨more, nextIdle, nextSame⟩ := holds_accept whole idle setting value accepted
  refine leads_of_gives more (.setting setting value) (fun _ _ => .attached setting value) ?_ free
    answered (nextSame.trans same) (not_awaits_of_nothing nextIdle)
  rw [nextIdle]
  exact List.append_nil _

/-- The value comes with the next argument. -/
theorem leads_of_apart (holds : progress.Holds given) (free : progress.separated = false)
    (setting : Setting) (checked : progress.settle = .ok settled) :
    progress.Leads given setting.option { settled with pending := .setting setting none } := by
  obtain ⟨whole, _idle, same, answered⟩ := holds_settle holds checked
  refine ⟨given ++ progress.pending.given,
    ⟨whole.options, whole.choices, whole.image, fun _ pending => by cases pending⟩, ?_⟩
  intro rest more continues
  unfold Continues at continues
  rw [if_neg (by simp [same, free])] at continues
  obtain ⟨value, texts, later, rfl, rfl, bare, spelled⟩ := continues
  refine ⟨.setting setting value :: later, ?_, ?_⟩
  · exact (continues_iff_spells free answered _ _).mpr (.apart setting value bare spelled)
  · simp [Pending.given]

theorem leads_of_takeLong (holds : progress.Holds given) (free : progress.separated = false)
    (name : String) (value : Option String)
    (taken : progress.takeLong name value = .ok (.further next)) :
    progress.Leads given ("--" ++ name ++ (value.map fun value => "=" ++ value).getD "") next := by
  unfold takeLong at taken
  split at taken
  · cases taken
  · rename_i setting value found
    obtain ⟨settled, checked, rest⟩ := exists_of_bind_eq_ok taken
    obtain ⟨last, accepted, same⟩ := exists_of_bind_eq_ok rest
    cases same
    rw [setting_of_ofName? found, Option.map_some, Option.getD_some, ← String.append_assoc]
    exact leads_of_attached holds free setting value checked accepted
  · rename_i setting found
    obtain ⟨settled, checked, same⟩ := exists_of_bind_eq_ok taken
    cases same
    rw [setting_of_ofName? found, Option.map_none, Option.getD_none, String.append_empty]
    exact leads_of_apart holds free setting checked
  · cases taken
  · rename_i flag found
    obtain ⟨settled, checked, rest⟩ := exists_of_bind_eq_ok taken
    obtain ⟨last, raised, same⟩ := exists_of_bind_eq_ok rest
    cases same
    rw [flag_of_ofName? found, Option.map_none, Option.getD_none, String.append_empty]
    exact leads_of_flag holds free flag checked raised
  · obtain ⟨_settled, _checked, same⟩ := exists_of_map_eq_ok taken
    cases same

/-- An argument that is taken leaves the arguments after it to say the rest. -/
theorem leads_of_take (holds : progress.Holds given) (text : String)
    (taken : progress.take text = .ok (.further next)) : progress.Leads given text next := by
  unfold take at taken
  split at taken
  · rename_i separated
    obtain ⟨following, path, same⟩ := exists_of_map_eq_ok taken
    cases same
    exact leads_of_takePath holds text (fun free => by simp [separated] at free) path
  · rename_i separated
    have free := eq_false_of_ne_true separated
    split at taken
    · rename_i form
      cases taken
      rw [eq_separator_of_ofText form]
      refine ⟨given, ⟨holds.options, holds.choices, holds.image, holds.once⟩, ?_⟩
      intro rest more continues
      obtain ⟨checked, paths⟩ := (if_pos rfl).mp continues
      refine ⟨more, ?_, rfl⟩
      rw [paths]
      exact (continues_iff_spells free checked _ _).mpr (.separated rest)
    · rename_i name value form
      rw [text_of_ofText_long form]
      exact leads_of_takeLong holds free name value taken
    · rename_i name _form
      unfold takeShort at taken
      split at taken
      · obtain ⟨_settled, _checked, same⟩ := exists_of_map_eq_ok taken
        cases same
      · cases taken
    · rename_i shown form
      obtain ⟨rfl, bare⟩ := (ofText_eq_plain_iff text shown).mp form
      obtain ⟨following, plain, same⟩ := exists_of_map_eq_ok taken
      cases same
      exact leads_of_takePlain holds free shown bare plain

theorem holds_finish (holds : progress.Holds given) (path : String) (options : Options)
    (accepted : progress.finish = .ok (.run path options)) :
    ¬ progress.Awaits ∧ pathsOf (given ++ progress.pending.given) = [path] ∧
      options.Collects (given ++ progress.pending.given) ∧
        ¬ (options.strictAddresses = true ∧ options.wrapAddresses = true) := by
  rw [finish] at accepted
  obtain ⟨settled, checked, rest⟩ := exists_of_bind_eq_ok accepted
  obtain ⟨whole, _idle, _same, free⟩ := holds_settle holds checked
  simp only [bind, Except.bind] at rest
  split at rest
  · cases rest
  · rename_i exclusive
    split at rest
    · cases rest
    · rename_i found image
      cases rest
      rw [Bool.and_eq_true] at exclusive
      refine ⟨free, ?_, whole.options, exclusive⟩
      rw [whole.image, image]
      rfl

theorem holds_readAll (holds : progress.Holds given) (texts : List String) (path : String)
    (options : Options) (accepted : progress.readAll texts = .ok (.run path options)) :
    ∃ later, progress.Continues texts later ∧
      pathsOf (given ++ progress.pending.given ++ later) = [path] ∧
        options.Collects (given ++ progress.pending.given ++ later) ∧
          ¬ (options.strictAddresses = true ∧ options.wrapAddresses = true) := by
  induction texts generalizing progress given with
  | nil =>
      obtain ⟨free, paths, collects, exclusive⟩ := holds_finish holds path options accepted
      refine ⟨[], ?_, ?_, ?_, exclusive⟩
      · cases separated : progress.separated with
        | false => exact (continues_iff_spells separated free [] []).mpr .nothing
        | true => exact (if_pos separated).mpr ⟨free, rfl⟩
      · rwa [List.append_nil]
      · rwa [List.append_nil]
  | cons text rest ih =>
      rw [readAll] at accepted
      obtain ⟨following, taken, continued⟩ := exists_of_bind_eq_ok accepted
      cases following with
      | page page => cases continued
      | further next =>
          obtain ⟨before, kept, leads⟩ := leads_of_take holds text taken
          obtain ⟨more, continues, paths, collects, exclusive⟩ := ih kept continued
          obtain ⟨later, spelled, same⟩ := leads rest more continues
          rw [← same] at paths collects
          exact ⟨later, spelled, paths, collects, exclusive⟩

end Progress

theorem documented_parseArguments : Documented parseArguments := by
  intro arguments path options accepted
  have run : Progress.readAll {} arguments = .ok (.run path options) := by
    unfold parseArguments at accepted
    split at accepted
    · cases accepted
    · cases accepted
    · rename_i read
      cases accepted
      exact read
  obtain ⟨given, continues, paths, collects, exclusive⟩ :=
    Progress.holds_readAll Progress.holds_nothing arguments path options run
  refine ⟨given, ?_, paths, collects, ?_⟩
  · refine (Progress.continues_iff_spells ?_ ?_ arguments given).mp continues
    · rfl
    · exact Progress.not_awaits_of_nothing rfl
  · rintro ⟨strict, wrap⟩
    exact exclusive
      ⟨(collects.flags .strictAddresses).mpr strict, (collects.flags .wrapAddresses).mpr wrap⟩

end ChipEight.CommandLine
