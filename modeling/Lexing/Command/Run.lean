import Lexing.CharacterLexer
import Lexing.Command.Arguments
import Lexing.Command.Listing

/-! # Running the program

`write` turns a registered file into the texts of the two output streams. `run` is the whole program:
it reads the file that the arguments name through a function from paths to texts, so that it does not
matter where texts come from. -/

namespace Lexing.Command

/-- What is written, and whether the file had no diagnostics. -/
structure Written where
  clean : Bool
  out : String
  diagnostics : String
  deriving DecidableEq, Repr

/-- Tokens on one stream, and what was reported on the other. -/
def writeTokens (directory : String) (registry : Source.Registry) (tokens : List Token) (log : Log) :
    Except Overflow Written := do
  let out ← tokenListing registry tokens
  let diagnostics ← diagnosticListing directory registry log.held
  return ⟨log.held.isEmpty, out, diagnostics⟩

/-- Characters on one stream, and what was reported on the other. -/
def writeCharacters (directory : String) (registry : Source.Registry) (tokens : List String)
    (log : Log) : Except Overflow Written := do
  let diagnostics ← diagnosticListing directory registry log.held
  return ⟨log.held.isEmpty, characterListing tokens, diagnostics⟩

/-- Nothing but the diagnostics of a call that failed. -/
def writeFailure (directory : String) (registry : Source.Registry) : LexFailure →
    Except Overflow Written
  | .malformed reported =>
      (diagnosticListing directory registry reported).map fun text => ⟨false, "", text⟩
  | failure => .ok ⟨false, "", failure.message ++ "\n"⟩

/-- Lexes a registered file as the arguments ask. -/
def write (arguments : Arguments) (directory : String) (registry : Source.Registry)
    (file : Source.File) : Except Overflow Written :=
  if arguments.chars then
    match CharacterLexer.lex (.ofText file.text false) Log.empty with
    | (.error overflow, _, _) => .error overflow
    | (.ok tokens, _, log) => writeCharacters directory registry tokens log
  else
    let scanner := Scanner.ofFile file arguments.lexicon
    if arguments.strict then
      match Lexer.strict Scanner.lex scanner Log.empty with
      | (.error overflow, _, _) => .error overflow
      | (.ok (.error failure), _, _) => writeFailure directory registry failure
      | (.ok (.ok tokens), _, log) => writeTokens directory registry tokens log
    else
      match scanner.lex Log.empty with
      | (.error overflow, _, _) => .error overflow
      | (.ok tokens, _, log) => writeTokens directory registry tokens log

/-- How a run ends. -/
inductive Ending where
  | usage (error : UsageError)
  | unreadable (failure : LexFailure)
  | written (result : Written)
  | overflow (overflow : Overflow)
  deriving DecidableEq, Repr

/-- Runs the program in a working directory. -/
def run (arguments : List String) (directory : String)
    (read : String → Except Source.ReadFailure String) : Ending :=
  match parse arguments with
  | .error error => .usage error
  | .ok arguments =>
      match Source.Registry.empty.load arguments.file (read arguments.file) with
      | (.error cause, _) => .unreadable (.unreadable arguments.file cause)
      | (.ok file, registry) =>
          match write arguments directory registry file with
          | .error overflow => .overflow overflow
          | .ok result => .written result

/-- What the program leaves behind: its exit code and the texts of its two streams. -/
structure Outcome where
  code : UInt8
  out : String
  diagnostics : String
  deriving DecidableEq, Repr

/-- How the program is called. -/
def synopsis : String :=
  "Usage: lexing lex <FILE> [--chars] [-k|--keyword K]... [-s|--symbol S]...\n" ++
  "           [--no-default-symbols] [--comment-prefix PREFIX | --no-comments]\n" ++
  "           [--keep-comments] [--strict]\n"

/-- What a reader is told of a usage error. -/
def UsageError.message : UsageError → String
  | .helpRequested => ""
  | .commandMissing => ""
  | .unknownCommand => "unknown command\n\n"
  | .unknownArgument => "unexpected argument\n\n"
  | .fileMissing => "the file to read is missing\n\n"
  | .valueMissing => "an option lacks its value\n\n"
  | .valueRefused => "a flag takes no value\n\n"
  | .conflict => "options that cannot be used together\n\n"

/-- Zero if the file is clean or help was asked for, two for a usage error, one otherwise. -/
def Ending.outcome : Ending → Outcome
  | .usage .helpRequested => ⟨0, synopsis, ""⟩
  | .usage error => ⟨2, "", error.message ++ synopsis⟩
  | .unreadable failure => ⟨1, "", failure.message ++ "\n"⟩
  | .written result => ⟨if result.clean then 0 else 1, result.out, result.diagnostics⟩
  | .overflow _ => ⟨101, "", "a position is out of range\n"⟩

end Lexing.Command
