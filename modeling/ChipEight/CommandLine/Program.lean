import ChipEight.CommandLine.Arguments
import ChipEight.Listing
import ChipEight.Machine.Headless

set_option autoImplicit false

/-!
The program behind the command line.

It reads the image, and lists it or runs it without a window, for a second's worth of frames unless
the command line gives another number. A program that stops early, an image that does not fit and a
file that cannot be read are reported with their cause, and nothing is written to the output then.

How arguments are read, which words a seed stands for and the profile belong to the build of the program;
`respond` is the one that runs.
-/

namespace ChipEight.CommandLine

structure ReadError where
  reason : String
  code : Nat
deriving DecidableEq, Repr

namespace ReadError

def notFound : ReadError := ⟨"No such file or directory", 2⟩

def notDirectory : ReadError := ⟨"Not a directory", 20⟩

def isDirectory : ReadError := ⟨"Is a directory", 21⟩

def nameTooLong : ReadError := ⟨"File name too long", 36⟩

def message (error : ReadError) : String :=
  error.reason ++ " (os error " ++ toString error.code ++ ")"

end ReadError

/-- What a run of the program leaves behind: its exit code, its output, and the log with the report
of an error after it. -/
structure Report where
  exitCode : Nat := 0
  output : String := ""
  errorOutput : String := ""
deriving DecidableEq, Repr

namespace Report

def logText (filter : Log.Filter) (records : List Log.Record) : String :=
  String.join ((records.filter fun record => filter.admits record.level).map fun record =>
    record.line ++ "\n")

def failure (log error cause : String) : Report where
  exitCode := 1
  errorOutput := log ++ "Error: " ++ error ++ "\n\nCaused by:\n    " ++ cause ++ "\n"

end Report

/-- The log records of notices; instructions are logged only if they are traced. -/
def noticeRecords (options : Options) (notices : List Notice) : List Log.Record :=
  (notices.filter fun notice => options.trace || notice.event?.isNone).map Notice.record

/-! ### Builds -/

structure Build where
  /-- Reads the arguments: the path of the image and the options, or else what is reported instead. -/
  parse : List String → Except Report (String × Options)
  /-- The random source of a seed. -/
  generator : UInt64 → RandomSource
  profile : Profile

namespace Build

variable (build : Build)

/-- The random source for the options; `entropy` is the seed if they give none. -/
def random (entropy : UInt64) (options : Options) : RandomSource :=
  build.generator ((options.seed.map UInt64.ofNat).getD entropy)

/-- Runs an image without a window; `records` is what has been logged before. -/
def runImage (filter : Log.Filter) (entropy : UInt64) (options : Options) (image : List UInt8)
    (records : List Log.Record) : Report :=
  let config := options.config build.profile
  match Machine.boot config image options.keypad (build.random entropy options) with
  | .error fault =>
      .failure (Report.logText filter records) "unable to load ROM" fault.message
  | .ok machine =>
      let windowless : List Log.Record :=
        if options.frames.isNone then
          [⟨.warn, "chip8", "built without the \x60sdl\x60 feature; running headless"⟩]
        else []
      let finished := machine.headless (options.frames.getD 60)
      let log := Report.logText filter
        (records ++ noticeRecords options [.loaded image.length config] ++ windowless ++
          noticeRecords options finished.notices.toList)
      match finished.result with
      | .ok text => { output := text, errorOutput := log }
      | .error stop => .failure log stop.message stop.fault.message

def report (filter : Log.Filter) (entropy : UInt64) (path : String) (options : Options)
    (contents : Except ReadError (List UInt8)) : Report :=
  match contents with
  | .error error => .failure "" ("unable to read " ++ path) error.message
  | .ok image =>
      let records : List Log.Record :=
        [⟨.info, "chip8", "read " ++ toString image.length ++ " bytes from " ++ path⟩]
      if options.disassemble then
        { output := Listing.text (Listing.ofImage (UInt16.ofNat Memory.programStart) image)
          errorOutput := Report.logText filter records }
      else build.runImage filter entropy options image records

/-- Does what the arguments ask for; `read` reads the file of a path, and `entropy` is the seed if
the arguments give none. -/
def respond {m : Type → Type} [Monad m] (read : String → m (Except ReadError (List UInt8)))
    (filter : Log.Filter) (entropy : UInt64) (arguments : List String) : m Report :=
  match build.parse arguments with
  | .error ended => pure ended
  | .ok (path, options) => do
      return build.report filter entropy path options (← read path)

end Build

/-! ### The build that runs -/

def parseArguments (arguments : List String) : Except Report (String × Options) :=
  match readArguments arguments with
  | .error error =>
      .error { exitCode := 2, errorOutput := "error: " ++ error.message ++ "\n" }
  | .ok (.page page) => .error { output := page.text }
  | .ok (.run path options) => .ok (path, options)

/-- A debug build, with words that are hashed from the seed and their places. -/
def Build.standard : Build where
  parse := parseArguments
  generator seed := ⟨fun place => (mixHash seed (hash place)).toUInt32, 0⟩
  profile := .debug

@[inherit_doc Build.respond]
def respond {m : Type → Type} [Monad m] (read : String → m (Except ReadError (List UInt8)))
    (filter : Log.Filter) (entropy : UInt64) (arguments : List String) : m Report :=
  Build.standard.respond read filter entropy arguments

end ChipEight.CommandLine
