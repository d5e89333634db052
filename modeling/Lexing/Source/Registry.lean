import Lexing.Position
import Lexing.Source.Partition
import Lexing.Source.Path

/-! # Registered files

Every registered file occupies its own range of positions, with a gap of one between files, so that
the position at the end of one file is not the start of the next. A position resolves to the last
file that starts at or before it, and there to a line and a column, both counted from one. -/

namespace Lexing.Source

/-- A text and the position of its first byte. -/
structure File where
  offset : Nat
  text : String
  deriving DecidableEq, Repr

/-- What the registry keeps of a file: where it starts, and where its lines end. -/
structure Entry where
  path : String
  offset : Nat
  newlines : Array Nat
  deriving DecidableEq, Repr

/-- A place in a file, as a reader is told of it. -/
structure Location where
  path : String
  line : Nat
  column : Nat
  deriving DecidableEq, Repr

/-- The shown form of a location, relative to a working directory. -/
def Location.display (directory : String) (location : Location) : String :=
  Path.display directory location.path ++ ":" ++ toString location.line ++ ":" ++
    toString location.column

/-- Offsets of the line ends of a text, in order. -/
def newlineOffsets (text : List Char) : Array Nat :=
  (text.foldl (fun (offset, found) c =>
    (offset + c.utf8Size, if c = '\n' then found.push offset else found)) (0, #[])).2

/-- The files registered so far, and the position at which the next one will start. -/
structure Registry where
  entries : Array Entry
  next : Nat
  deriving DecidableEq, Repr

namespace Registry

def empty : Registry := ⟨#[], 0⟩

/-- Registers a text under a path. -/
def add (registry : Registry) (path text : String) : File × Registry :=
  (⟨registry.next, text⟩,
    { entries := registry.entries.push ⟨path, registry.next, newlineOffsets text.toList⟩
      next := registry.next + text.utf8ByteSize + 1 })

/-- Registers what was read from a path; a file that could not be read leaves no trace. -/
def load (registry : Registry) (path : String) (contents : Except ε String) :
    Except ε File × Registry :=
  match contents with
  | .ok text =>
      let (file, registry) := registry.add path text
      (.ok file, registry)
  | .error cause => (.error cause, registry)

end Registry

/-- An element of an array, by its index. -/
def elementAt (values : Array α) (index : Nat) : Except Overflow α :=
  match values[index]? with
  | some value => .ok value
  | none => .error .index

theorem elementAt_of_lt {values : Array α} {index : Nat} (inside : index < values.size) :
    elementAt values index = .ok values[index] := by
  rw [elementAt, Array.getElem?_eq_getElem inside]

/-- Line and column of an offset. On the first line the column is one more than the offset, on a later
one it is counted from the line end before. -/
def Entry.lineColumn (entry : Entry) (offset : Nat) : Except Overflow (Nat × Nat) :=
  match partitionPoint entry.newlines (fun newline => decide (newline < offset)) with
  | 0 => (Position.advance offset 1).map fun column => (1, column)
  | index + 1 => do
      let newline ← elementAt entry.newlines index
      let column ← Position.distance newline offset
      return (index + 2, column)

theorem Entry.lineColumn_of_zero {entry : Entry} {offset : Nat}
    (none : partitionPoint entry.newlines (fun newline => decide (newline < offset)) = 0) :
    entry.lineColumn offset = (Position.advance offset 1).map fun column => (1, column) := by
  rw [lineColumn, none]

theorem Entry.lineColumn_of_succ {entry : Entry} {offset index : Nat}
    (found : partitionPoint entry.newlines (fun newline => decide (newline < offset)) = index + 1)
    (inside : index < entry.newlines.size) (before : entry.newlines[index] ≤ offset) :
    entry.lineColumn offset = .ok (index + 2, offset - entry.newlines[index]) := by
  rw [lineColumn, found]
  dsimp only [bind, Except.bind]
  rw [elementAt_of_lt inside]
  dsimp only
  rw [Position.distance_of_le before]
  rfl

/-- The location of a position; none before the first registered file. -/
def Registry.locate (registry : Registry) (position : Nat) : Except Overflow (Option Location) :=
  match partitionPoint registry.entries (fun entry => decide (entry.offset ≤ position)) with
  | 0 => .ok none
  | index + 1 => do
      let entry ← elementAt registry.entries index
      let offset ← Position.distance entry.offset position
      let (line, column) ← entry.lineColumn offset
      return some ⟨entry.path, line, column⟩

theorem Registry.locate_of_zero {registry : Registry} {position : Nat}
    (none : partitionPoint registry.entries (fun entry => decide (entry.offset ≤ position)) = 0) :
    registry.locate position = .ok .none := by
  rw [locate, none]

theorem Registry.locate_of_succ {registry : Registry} {position index : Nat}
    (found : partitionPoint registry.entries (fun entry => decide (entry.offset ≤ position)) =
      index + 1)
    (inside : index < registry.entries.size) (starts : registry.entries[index].offset ≤ position) :
    registry.locate position =
      (registry.entries[index].lineColumn (position - registry.entries[index].offset)).map
        fun (line, column) => some ⟨registry.entries[index].path, line, column⟩ := by
  rw [locate, found]
  dsimp only [bind, Except.bind]
  rw [elementAt_of_lt inside]
  dsimp only
  rw [Position.distance_of_le starts]
  rfl

end Lexing.Source
