import ChipEight.CommandLine.Options
import ChipEight.Text.Plain

set_option autoImplicit false

/-!
A reader of command lines.

Arguments are read from the left. An option without a value yet takes the next argument as its value,
unless that one begins with a dash; the same option takes a value after an equals sign whatever it
begins with. The one argument that belongs to no option is the path of the image. After `--` every
argument is a path.

What has just been given is checked when something else is given or the arguments end, so an argument
that cannot be placed is reported in its stead. A conflict between options is reported after the last
argument, and a missing image after that. Asking for a page of text ends the reading.
-/

namespace ChipEight.CommandLine

/-! ### Names -/

inductive Page where
  | help
  | version
deriving DecidableEq, Repr

inductive Choice where
  | flag (flag : Flag)
  | setting (setting : Setting)
  | page (page : Page)
deriving DecidableEq, Repr

def Choice.ofName? (name : String) : Option Choice :=
  match name with
  | "trace" => some (.flag .trace)
  | "disassemble" => some (.flag .disassemble)
  | "halt-on-empty-return" => some (.flag .haltOnEmptyReturn)
  | "strict-addresses" => some (.flag .strictAddresses)
  | "wrap-addresses" => some (.flag .wrapAddresses)
  | "ipt" => some (.setting .cyclesPerFrame)
  | "frames" => some (.setting .frames)
  | "seed" => some (.setting .seed)
  | "key" => some (.setting .key)
  | "help" => some (.page .help)
  | "version" => some (.page .version)
  | _ => none

def Page.ofLetter? : Char → Option Page
  | 'h' => some .help
  | 'V' => some .version
  | _ => none

def Setting.usage (setting : Setting) : String :=
  setting.option ++
    match setting with
    | .cyclesPerFrame => " <IPT>"
    | .frames => " <FRAMES>"
    | .seed => " <SEED>"
    | .key => " <KEYS>"

def Choice.usage : Choice → String
  | .flag given => given.option
  | .setting given => given.usage
  | .page .help => "--help"
  | .page .version => "--version"

def Page.text : Page → String
  | .version => "chip8 0.1.0\n"
  | .help => String.join ([
      "Runs a Chip-8 ROM",
      "",
      "Usage: chip8 [OPTIONS] <ROM>",
      "",
      "Arguments:",
      "  <ROM>  Path to the ROM image",
      "",
      "Options:",
      "      --ipt <IPT>             Instructions executed per 60Hz frame [default: 16]",
      "      --frames <FRAMES>       Run this many frames without a window and print the final display",
      "      --seed <SEED>           Seed for the random number generator behind Cxnn",
      "      --key <KEYS>            Hold down a key (0-F) for the whole headless run; may be repeated",
      "      --trace                 Log every executed instruction at trace level",
      "      --disassemble           Print a listing of the ROM instead of running it",
      "      --halt-on-empty-return  Stop with an error when a return finds an empty stack",
      "      --strict-addresses      Stop with an error on any access outside memory",
      "      --wrap-addresses        Wrap out-of-range addresses into memory",
      "  -h, --help                  Print help",
      "  -V, --version               Print version"].map fun line => line ++ "\n")

/-! ### Refusals -/

inductive UsageError where
  /-- There is no such option, or there is no room for one more path. -/
  | unexpectedArgument (argument : String)
  /-- A value was given to an option that takes none. -/
  | unexpectedValue (value usage : String)
  /-- An option lacks its value, or the path is empty. -/
  | missingValue (usage : String)
  /-- An option was given a second time. -/
  | repeated (usage : String)
  /-- The value of an option is refused. -/
  | invalidValue (value usage reason : String)
  /-- Two options exclude each other. -/
  | conflict (first second : String)
  /-- No path was given. -/
  | missingImage
deriving DecidableEq, Repr

/-- The text of a usage error. What was given on the command line is shown as plain text, each piece
for itself, so that an escape sequence left open in it hides nothing of what follows. -/
def UsageError.message : UsageError → String
  | .unexpectedArgument argument =>
      "unexpected argument '" ++ Text.plain argument ++ "' found"
  | .unexpectedValue value usage =>
      "unexpected value '" ++ Text.plain value ++ "' for '" ++ usage ++
        "' found; no more were expected"
  | .missingValue usage => "a value is required for '" ++ usage ++ "' but none was supplied"
  | .repeated usage => "the argument '" ++ usage ++ "' cannot be used multiple times"
  | .invalidValue value usage reason =>
      "invalid value '" ++ Text.plain value ++ "' for '" ++ usage ++ "': " ++ reason
  | .conflict first second =>
      "the argument '" ++ first ++ "' cannot be used with '" ++ second ++ "'"
  | .missingImage => "the following required arguments were not provided:"

/-! ### Single arguments -/

inductive Argument where
  /-- The argument `--`. -/
  | separator
  /-- Two dashes, a name, and what follows the first equals sign. -/
  | long (name : String) (value : Option String)
  /-- One dash and a character; what follows it does not matter. -/
  | short (name : Char)
  | plain (text : String)
deriving DecidableEq, Repr

namespace Argument

/-- A text up to the first equals sign, and what follows it. -/
def splitValue : List Char → List Char × Option (List Char)
  | [] => ([], none)
  | '=' :: value => ([], some value)
  | character :: rest =>
      let parts := splitValue rest
      (character :: parts.1, parts.2)

def ofText (text : String) : Argument :=
  match text.toList with
  | ['-', '-'] => .separator
  | '-' :: '-' :: rest =>
      let parts := splitValue rest
      .long (String.ofList parts.1) (parts.2.map String.ofList)
  | '-' :: name :: _ => .short name
  | _ => .plain text

end Argument

/-! ### Values -/

namespace Options

def raise (options : Options) : Flag → Options
  | .trace => { options with trace := true }
  | .disassemble => { options with disassemble := true }
  | .haltOnEmptyReturn => { options with haltOnEmptyReturn := true }
  | .strictAddresses => { options with strictAddresses := true }
  | .wrapAddresses => { options with wrapAddresses := true }

def readNumber (value : String) : Except String Nat :=
  (Numeral.read 10 18446744073709551615 value).mapError Numeral.Failure.message

def assign (options : Options) (setting : Setting) (value : String) : Except String Options :=
  match setting with
  | .cyclesPerFrame =>
      (readNumber value).map fun cyclesPerFrame => { options with cyclesPerFrame }
  | .frames => (readNumber value).map fun frames => { options with frames := some frames }
  | .seed => (readNumber value).map fun seed => { options with seed := some seed }
  | .key =>
      ((readKey value).mapError KeyFailure.message).map fun key =>
        { options with keys := options.keys ++ [key] }

end Options

/-! ### Progress -/

/-- What has just been given and is not checked yet. -/
inductive Pending where
  | nothing
  /-- An option, and its value if that has been given. -/
  | setting (setting : Setting) (value : Option String)
  | image (path : String)
deriving DecidableEq, Repr

structure Progress where
  options : Options := {}
  /-- The options given so far, in order. -/
  given : List Choice := []
  image : Option String := none
  pending : Pending := .nothing
  /-- Whether `--` has been given. -/
  separated : Bool := false
deriving DecidableEq, Repr

inductive Next where
  | further (progress : Progress)
  | page (page : Page)

namespace Progress

def accept (progress : Progress) (setting : Setting) (value : String) :
    Except UsageError Progress :=
  if setting ≠ .key ∧ .setting setting ∈ progress.given then
    .error (.repeated setting.usage)
  else
    match progress.options.assign setting value with
    | .error reason => .error (.invalidValue value setting.usage reason)
    | .ok options =>
        .ok { progress with options, given := progress.given ++ [.setting setting] }

def settle (progress : Progress) : Except UsageError Progress :=
  let settled := { progress with pending := .nothing }
  match progress.pending with
  | .nothing => .ok settled
  | .setting setting none => .error (.missingValue setting.usage)
  | .setting setting (some value) => settled.accept setting value
  | .image path =>
      if path.isEmpty then .error (.missingValue "<ROM>")
      else .ok { settled with image := some path }

def raise (progress : Progress) (flag : Flag) : Except UsageError Progress :=
  if .flag flag ∈ progress.given then .error (.repeated flag.option)
  else
    .ok { progress with
      options := progress.options.raise flag
      given := progress.given ++ [.flag flag] }

def imageTaken (progress : Progress) : Bool :=
  match progress.pending with
  | .image _ => true
  | _ => progress.image.isSome

def takePath (progress : Progress) (path : String) : Except UsageError Progress :=
  if progress.imageTaken then .error (.unexpectedArgument path)
  else
    progress.settle.map fun settled => { settled with pending := .image path }

/-- Takes an argument that is no option: the value that an option waits for, or a path. -/
def takePlain (progress : Progress) (text : String) : Except UsageError Progress :=
  match progress.pending with
  | .setting setting none => .ok { progress with pending := .setting setting (some text) }
  | _ => progress.takePath text

def takeLong (progress : Progress) (name : String) (value : Option String) :
    Except UsageError Next :=
  match Choice.ofName? name, value with
  | none, _ => .error (.unexpectedArgument ("--" ++ name))
  | some (.setting setting), some value => do
      let settled ← progress.settle
      return .further (← settled.accept setting value)
  | some (.setting setting), none => do
      let settled ← progress.settle
      return .further { settled with pending := .setting setting none }
  | some choice, some value => .error (.unexpectedValue value choice.usage)
  | some (.flag flag), none => do
      let settled ← progress.settle
      return .further (← settled.raise flag)
  | some (.page page), none => progress.settle.map fun _ => .page page

def takeShort (progress : Progress) (name : Char) : Except UsageError Next :=
  match Page.ofLetter? name with
  | some page => progress.settle.map fun _ => .page page
  | none => .error (.unexpectedArgument (String.ofList ['-', name]))

def take (progress : Progress) (text : String) : Except UsageError Next :=
  if progress.separated then (progress.takePath text).map .further
  else
    match Argument.ofText text with
    | .separator => .ok (.further { progress with separated := true })
    | .long name value => progress.takeLong name value
    | .short name => progress.takeShort name
    | .plain text => (progress.takePlain text).map .further

end Progress

/-! ### All arguments -/

inductive Request where
  | page (page : Page)
  | run (path : String) (options : Options)
deriving DecidableEq, Repr

def Progress.finish (progress : Progress) : Except UsageError Request := do
  let settled ← progress.settle
  if settled.options.strictAddresses && settled.options.wrapAddresses then
    let flags := settled.given.filter fun choice =>
      choice == .flag .strictAddresses || choice == .flag .wrapAddresses
    throw (.conflict ((flags.head?.map Choice.usage).getD "")
      ((flags.getLast?.map Choice.usage).getD ""))
  match settled.image with
  | none => throw .missingImage
  | some path => return .run path settled.options

def Progress.readAll (progress : Progress) : List String → Except UsageError Request
  | [] => progress.finish
  | text :: rest => do
      match ← progress.take text with
      | .further next => next.readAll rest
      | .page page => return .page page

def readArguments (arguments : List String) : Except UsageError Request :=
  Progress.readAll {} arguments

end ChipEight.CommandLine
