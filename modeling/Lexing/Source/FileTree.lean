import Lexing.Source.Path

/-! # Reading a source by its path

`FileTree` is a snapshot of files with a working directory. A path is walked name by name as a POSIX
system does: every name but the last has to be a directory, `..` goes to the parent, and a trailing
slash asks for a directory. -/

namespace Lexing.Source

/-- Why a source could not be read. -/
inductive ReadFailure where
  | notFound
  | notDirectory
  | isDirectory
  | nameTooLong
  | nulInPath
  | notUtf8
  | other (message : String)
  deriving DecidableEq, Repr

def ReadFailure.message : ReadFailure → String
  | .notFound => "No such file or directory (os error 2)"
  | .notDirectory => "Not a directory (os error 20)"
  | .isDirectory => "Is a directory (os error 21)"
  | .nameTooLong => "File name too long (os error 36)"
  | .nulInPath => "file name contained an unexpected NUL byte"
  | .notUtf8 => "stream did not contain valid UTF-8"
  | .other message => message

/-- The text that bytes spell. -/
def decode (bytes : ByteArray) : Except ReadFailure String :=
  match String.fromUTF8? bytes with
  | some text => .ok text
  | none => .error .notUtf8

/-- Files and directories by the names that lead to them from the root. The working directory and the
directories above it are there without being listed. -/
structure FileTree where
  working : List (List Char)
  directories : List (List (List Char))
  files : List (List (List Char) × ByteArray)

namespace FileTree

/-- Bytes of a name, at most. -/
def longestName : Nat := 255

/-- Bytes of a path, less than. -/
def pathLimit : Nat := 4096

/-- A tree of a working directory with nothing in it. -/
def empty (working : String) : FileTree := ⟨Path.names working.toList, [], []⟩

/-- The directory from which a path is followed. -/
def start (tree : FileTree) (path : List Char) : List (List Char) :=
  if Path.isAbsolute path then [] else tree.working

/-- Where a name leads from a directory; the parent of the root is the root. -/
def follow (here : List (List Char)) (name : List Char) : List (List Char) :=
  if name = ['.', '.'] then here.dropLast else here ++ [name]

/-- The directories that names pass through, with the one they start from. -/
def places (here : List (List Char)) : List (List Char) → List (List (List Char))
  | [] => [here]
  | name :: rest => here :: places (follow here name) rest

/-- The tree with a file more; a file of the same path is replaced. Directories that its path passes
through are made, those that it leaves again through `..` among them. -/
def add (tree : FileTree) (path : List Char) (bytes : ByteArray) : FileTree :=
  let names := Path.names path
  { tree with
    directories := places (tree.start path) names.dropLast ++ tree.directories
    files := (names.foldl follow (tree.start path), bytes) :: tree.files }

def file? (tree : FileTree) (here : List (List Char)) : Option ByteArray :=
  tree.files.lookup here

def isDirectory (tree : FileTree) (here : List (List Char)) : Bool :=
  here.isPrefixOf tree.working || tree.directories.contains here

/-- Follows segments from a directory to the bytes of a file. -/
def walk (tree : FileTree) (here : List (List Char)) : List (List Char) → Except ReadFailure ByteArray
  | [] => .error .isDirectory
  | segment :: rest =>
      if Path.isVoid segment then walk tree here rest
      else if segment = ['.', '.'] then walk tree here.dropLast rest
      else if longestName < (String.ofList segment).utf8ByteSize then .error .nameTooLong
      else
        match tree.file? (here ++ [segment]) with
        | some bytes => if rest.isEmpty then .ok bytes else .error .notDirectory
        | none =>
            if tree.isDirectory (here ++ [segment]) then walk tree (here ++ [segment]) rest
            else .error .notFound

/-- Reads the text of a file. -/
def read (tree : FileTree) (path : String) : Except ReadFailure String :=
  let letters := path.toList
  if letters.contains '\x00' then .error .nulInPath
  else if letters.isEmpty then .error .notFound
  else if pathLimit ≤ path.utf8ByteSize then .error .nameTooLong
  else
    (tree.walk (tree.start letters) (Path.segments letters)).bind decode

end FileTree

end Lexing.Source
