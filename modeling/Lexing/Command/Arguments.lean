import Lexing.Lexicon

/-! # Command-line arguments

The program has one command, `lex`, which takes a file and options in any order. These are the rules of
the argument parser that it uses:

* Arguments are read from left to right, and the first one found wrong decides the error; nothing behind
  it is looked at (`parseLex_of_error`).
* A long option is spelled in full, with its value behind the first equals sign or as the next argument.
  A short option is one letter; all that stands behind the letter, less one equals sign in front, is the
  value, and if nothing does the value is the next argument. A flag takes no value.
* A value that is the next argument does not look like an option: a dash with something behind it opens
  one, and then the value is missing. A dash alone is a value or a file.
* Behind two dashes every argument is a file. A value that is still waited for is then missing.
* The file, and an option whose value is the next argument, stay pending until a later argument or the
  end settles them. An empty file, a missing value or a repeated comment prefix is therefore found only
  then. An unknown option, a flag with a value and a second file are found before anything is settled.
* A flag and the comment prefix may stand once, a keyword and a symbol any number of times.
* Help is answered where it is asked for, once what is pending is settled.
* Which options exclude each other is checked when all arguments are read and settled, and before a
  missing file is (`options_exclude`, `parse_of_fileless`). -/

namespace Lexing.Command

/-- Why the arguments are not accepted. -/
inductive UsageError where
  /-- Help was asked for. -/
  | helpRequested
  /-- There is no command. -/
  | commandMissing
  | unknownCommand
  | unknownArgument
  | fileMissing
  /-- An option lacks its value, or the file is the empty text. -/
  | valueMissing
  /-- A flag is given a value. -/
  | valueRefused
  /-- Options exclude each other, or one that may stand once is repeated. -/
  | conflict
  deriving DecidableEq, Repr

/-- Options without a value. -/
inductive Flag where
  | chars
  | noDefaultSymbols
  | noComments
  | keepComments
  | strict
  deriving DecidableEq, Repr

/-- Options with a value. -/
inductive Setting where
  | keyword
  | symbol
  | commentPrefix
  deriving DecidableEq, Repr

/-- An option, whatever its value. -/
inductive Choice where
  | flag (flag : Flag)
  | setting (setting : Setting)
  deriving DecidableEq, Repr

/-- The options with which a flag cannot be combined. The flag alone says so: the options that it names
do not name it. -/
def Flag.excludes : Flag → List Choice
  | .chars =>
      [.setting .keyword, .setting .symbol, .flag .noDefaultSymbols, .setting .commentPrefix,
        .flag .noComments, .flag .keepComments, .flag .strict]
  | .noComments => [.setting .commentPrefix]
  | .noDefaultSymbols | .keepComments | .strict => []

/-- What `lex` is asked to do. -/
structure Arguments where
  file : String
  chars : Bool
  keywords : List String
  symbols : List String
  noDefaultSymbols : Bool
  commentPrefix : Option String
  noComments : Bool
  keepComments : Bool
  strict : Bool
  deriving DecidableEq, Repr

/-- What was settled so far: the file, the flags, and the settings in the order given. -/
structure Given where
  file : Option String
  flags : List Flag
  settings : List (Setting × String)
  deriving DecidableEq, Repr

namespace Given

def nothing : Given := ⟨none, [], []⟩

def has (given : Given) (flag : Flag) : Bool := given.flags.contains flag

/-- The values of a setting, in the order given. -/
def values (given : Given) (setting : Setting) : List String :=
  (given.settings.filter fun entry => entry.1 == setting).map Prod.snd

/-- A flag may be given once. -/
def addFlag (given : Given) (flag : Flag) : Except UsageError Given :=
  if given.has flag then .error .conflict
  else .ok { given with flags := given.flags ++ [flag] }

/-- Keywords and symbols may be given any number of times, a comment prefix once. -/
def addSetting (given : Given) (setting : Setting) (value : String) : Except UsageError Given :=
  if setting = .commentPrefix ∧ given.values .commentPrefix ≠ [] then .error .conflict
  else .ok { given with settings := given.settings ++ [(setting, value)] }

def addFile (given : Given) (file : String) : Except UsageError Given :=
  if file.isEmpty then .error .valueMissing else .ok { given with file := some file }

/-- Whether an option was given. -/
def gives (given : Given) : Choice → Bool
  | .flag flag => given.has flag
  | .setting setting => !(given.values setting).isEmpty

/-- Whether two options were given of which one excludes the other. -/
def conflicts (given : Given) : Bool :=
  given.flags.any fun flag => flag.excludes.any given.gives

/-- Conflicts are reported before a missing file. -/
def finish (given : Given) : Except UsageError Arguments :=
  if given.conflicts then .error .conflict
  else
    match given.file with
    | none => .error .fileMissing
    | some file =>
        .ok
          { file := file
            chars := given.has .chars
            keywords := given.values .keyword
            symbols := given.values .symbol
            noDefaultSymbols := given.has .noDefaultSymbols
            commentPrefix := (given.values .commentPrefix).head?
            noComments := given.has .noComments
            keepComments := given.has .keepComments
            strict := given.has .strict }

end Given

/-- What the next argument settles. -/
inductive Pending where
  | nothing
  | file (path : String)
  | setting (setting : Setting) (value : Option String)
  deriving DecidableEq, Repr

/-- Settles what is pending. -/
def Pending.settle (given : Given) : Pending → Except UsageError Given
  | .nothing => .ok given
  | .file path => given.addFile path
  | .setting _ none => .error .valueMissing
  | .setting name (some value) => given.addSetting name value

/-- The state of reading the arguments of `lex`. -/
structure Progress where
  given : Given
  pending : Pending
  /-- A file was given, settled or not. -/
  fileSeen : Bool
  /-- Only files may follow. -/
  onlyFiles : Bool
  deriving DecidableEq, Repr

/-- The names of long options. -/
inductive LongOption where
  | help
  | flag (flag : Flag)
  | setting (setting : Setting)
  deriving DecidableEq, Repr

def longOption? : String → Option LongOption
  | "help" => some .help
  | "chars" => some (.flag .chars)
  | "no-default-symbols" => some (.flag .noDefaultSymbols)
  | "no-comments" => some (.flag .noComments)
  | "keep-comments" => some (.flag .keepComments)
  | "strict" => some (.flag .strict)
  | "keyword" => some (.setting .keyword)
  | "symbol" => some (.setting .symbol)
  | "comment-prefix" => some (.setting .commentPrefix)
  | _ => none

/-- How an argument looks before it is known whether options are still read. -/
inductive Shape where
  /-- Two dashes. -/
  | separator
  /-- A long option, with what follows its equals sign. -/
  | long (name : String) (value : Option String)
  /-- A short option: a letter, and what follows it. -/
  | short (letter : Char) (attached : List Char)
  | plain
  deriving DecidableEq, Repr

/-- The text before the first equals sign, and the text after it. -/
def splitEquals (text : List Char) : List Char × Option (List Char) :=
  match text.dropWhile fun c => c != '=' with
  | [] => (text, none)
  | _ :: value => (text.takeWhile fun c => c != '=', some value)

def shapeOf (argument : String) : Shape :=
  match argument.toList with
  | ['-', '-'] => .separator
  | '-' :: '-' :: text =>
      let (name, value) := splitEquals text
      .long (String.ofList name) (value.map String.ofList)
  | '-' :: letter :: attached => .short letter attached
  | _ => .plain

/-- The value attached to a short option; one equals sign may stand before it. -/
def attachedValue? : List Char → Option String
  | [] => none
  | '=' :: value => some (String.ofList value)
  | value => some (String.ofList value)

namespace Progress

def start : Progress := ⟨Given.nothing, .nothing, false, false⟩

def settle (progress : Progress) : Except UsageError Given :=
  progress.pending.settle progress.given

/-- Settles what is pending and takes a flag. -/
def takeFlag (progress : Progress) (flag : Flag) : Except UsageError Progress := do
  let given ← progress.settle
  return { progress with given := ← given.addFlag flag, pending := .nothing }

/-- Settles what is pending and takes a setting, whose value may be the next argument. -/
def takeSetting (progress : Progress) (setting : Setting) (value : Option String) :
    Except UsageError Progress := do
  let given ← progress.settle
  match value with
  | none => return { progress with given := given, pending := .setting setting none }
  | some text => return { progress with given := ← given.addSetting setting text, pending := .nothing }

/-- Settles what is pending and answers with help. -/
def takeHelp (progress : Progress) : Except UsageError Progress := do
  let _ ← progress.settle
  throw .helpRequested

/-- The first argument that is no option is the file. -/
def takeFile (progress : Progress) (path : String) : Except UsageError Progress := do
  if progress.fileSeen then throw .unknownArgument
  let given ← progress.settle
  return { progress with given := given, pending := .file path, fileSeen := true }

/-- An argument that is no option is the value that is waited for, or else the file. -/
def takePlain (progress : Progress) (argument : String) : Except UsageError Progress :=
  match progress.pending with
  | .setting setting none => .ok { progress with pending := .setting setting (some argument) }
  | _ => progress.takeFile argument

def takeLong (progress : Progress) (name : String) (value : Option String) :
    Except UsageError Progress :=
  match longOption? name, value with
  | none, _ => .error .unknownArgument
  | some (.setting setting), value => progress.takeSetting setting value
  | some _, some _ => .error .valueRefused
  | some (.flag flag), none => progress.takeFlag flag
  | some .help, none => progress.takeHelp

def takeShort (progress : Progress) (letter : Char) (attached : List Char) :
    Except UsageError Progress :=
  match letter with
  | 'h' => progress.takeHelp
  | 'k' => progress.takeSetting .keyword (attachedValue? attached)
  | 's' => progress.takeSetting .symbol (attachedValue? attached)
  | _ => .error .unknownArgument

/-- Reads one argument of `lex`. -/
def take (progress : Progress) (argument : String) : Except UsageError Progress :=
  if progress.onlyFiles then progress.takeFile argument
  else
    match shapeOf argument with
    | .separator => .ok { progress with onlyFiles := true }
    | .long name value => progress.takeLong name value
    | .short letter attached => progress.takeShort letter attached
    | .plain => progress.takePlain argument

end Progress

/-- Reads the arguments after `lex`. -/
def parseLex (arguments : List String) : Except UsageError Arguments := do
  let progress ← arguments.foldlM Progress.take Progress.start
  (← progress.settle).finish

/-- The commands that `help` knows; `help` explains itself but none of its own. -/
def parseHelp : List String → UsageError
  | [] => .helpRequested
  | ["lex"] => .helpRequested
  | ["help"] => .helpRequested
  | _ => .unknownCommand

/-- After two dashes a command is no longer taken for one. -/
def parseAfterSeparator : List String → UsageError
  | [] => .commandMissing
  | first :: _ => if first = "lex" ∨ first = "help" then .unknownArgument else .unknownCommand

/-- Reads the arguments of the program. -/
def parse : List String → Except UsageError Arguments
  | [] => .error .commandMissing
  | "lex" :: rest => parseLex rest
  | "help" :: rest => .error (parseHelp rest)
  | first :: rest =>
      match shapeOf first with
      | .separator => .error (parseAfterSeparator rest)
      | .long "help" none => .error .helpRequested
      | .long "help" (some _) => .error .valueRefused
      | .long _ _ => .error .unknownArgument
      | .short 'h' _ => .error .helpRequested
      | .short _ _ => .error .unknownArgument
      | .plain => .error .unknownCommand

/-- The lexicon that the options describe. -/
def Arguments.lexicon (arguments : Arguments) : Lexicon :=
  let symbols :=
    if arguments.noDefaultSymbols then Lexicon.standard.withoutSymbols else Lexicon.standard
  let comments :=
    if arguments.noComments then symbols.withCommentMarker none
    else
      match arguments.commentPrefix with
      | some marker => symbols.withCommentMarker (some marker)
      | none => symbols
  ((comments.withKeywords arguments.keywords).withSymbols arguments.symbols).keepingComments
    arguments.keepComments

end Lexing.Command
