import Lexing.Command.Run

/-! # The program

Reads the file that the arguments name, writes the two streams, and ends with the exit code. -/

namespace Lexing.Command

/-- The magnitude of a system error number, which may come negated. -/
def errorNumber (code : UInt32) : UInt32 := if code < 0x80000000 then code else 0 - code

/-- What the answer of the operating system says about a source that was not read. -/
def readFailure : IO.Error → Source.ReadFailure
  | .noFileOrDirectory _ _ _ => .notFound
  | .permissionDenied _ _ _ => .other "Permission denied (os error 13)"
  | .inappropriateType _ code details =>
      if errorNumber code = 20 then .notDirectory
      else if errorNumber code = 21 then .isDirectory
      else .other details
  | error => .other (toString error)

/-- The text of a file on disk. -/
def readSource (path : String) : IO (Except Source.ReadFailure String) := do
  try
    return Source.decode (← IO.FS.readBinFile path)
  catch error =>
    return .error (readFailure error)

/-- The text of the file that the arguments name; nothing is read if they are not accepted. -/
def readNamed (arguments : List String) : IO (Except Source.ReadFailure String) :=
  match parse arguments with
  | .ok accepted => readSource accepted.file
  | .error _ => return .error .notFound

end Lexing.Command

open Lexing.Command in
def main (arguments : List String) : IO UInt32 := do
  let directory ← IO.currentDir
  let contents ← readNamed arguments
  let outcome := (run arguments directory.toString fun _ => contents).outcome
  IO.print outcome.out
  IO.eprint outcome.diagnostics
  return outcome.code.toUInt32
