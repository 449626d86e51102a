import ChipEight.CommandLine.Program

set_option autoImplicit false

/-!
The command line: reads a file, and writes what the program reports.
-/

namespace ChipEight.CommandLine

def ReadError.ofFailure (failure : IO.Error) : ReadError :=
  match failure with
  | .noFileOrDirectory _ _ _ => .notFound
  | .inappropriateType _ code details | .permissionDenied _ code details
  | .invalidArgument _ code details => ⟨details, code.toNat⟩
  | other => ⟨toString other, 5⟩

def readFile (path : String) : IO (Except ReadError (List UInt8)) := do
  try
    return .ok (← IO.FS.readBinFile path).toList
  catch failure =>
    return .error (.ofFailure failure)

def levelVariable : String := "RUST_LOG"

end ChipEight.CommandLine

open ChipEight ChipEight.CommandLine in
def main (arguments : List String) : IO UInt32 := do
  let named := (← IO.getEnv levelVariable).bind Log.Filter.ofName?
  let filter := named.getD ⟨some .info⟩
  let entropy := (← IO.getRandomBytes 8).foldl (fun total byte => total * 256 + byte.toUInt64) 0
  let answer ← respond readFile filter entropy arguments
  (← IO.getStderr).putStr answer.errorOutput
  (← IO.getStdout).putStr answer.output
  return UInt32.ofNat answer.exitCode
