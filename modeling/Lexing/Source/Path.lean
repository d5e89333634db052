/-! # Paths

A path is shown relative to the working directory when it lies inside it. Names are compared, not
characters: repeated slashes and segments `.` count for nothing, and what is left is written as it
stood, less such segments at its two ends. -/

namespace Lexing.Source.Path

/-- The pieces between slashes; an empty path has one empty piece. -/
def segments : List Char → List (List Char)
  | [] => [[]]
  | c :: rest =>
      if c = '/' then [] :: segments rest
      else
        match segments rest with
        | [] => [[c]]
        | first :: others => (c :: first) :: others

theorem segments_ne_nil (path : List Char) : segments path ≠ [] := by
  cases path with
  | nil => exact List.cons_ne_nil _ _
  | cons c rest =>
      rw [segments]
      split
      · exact List.cons_ne_nil _ _
      · split <;> exact List.cons_ne_nil _ _

/-- Slashes between the segments make up the path again. -/
theorem intercalate_segments (path : List Char) : ['/'].intercalate (segments path) = path := by
  induction path with
  | nil => rfl
  | cons c rest ih =>
      rw [segments]
      cases pieces : segments rest with
      | nil => exact absurd pieces (segments_ne_nil rest)
      | cons first others =>
          rw [pieces] at ih
          split
          · rename_i slash
            rw [List.intercalate_cons_cons, ih, slash]
            rfl
          · cases others with
            | nil => simpa using ih
            | cons second more =>
                rw [List.intercalate_cons_cons] at ih ⊢
                rw [← ih]
                rfl

/-- Segments that name nothing. -/
def isVoid (segment : List Char) : Bool := segment.isEmpty || segment == ['.']

/-- The segments that name something. -/
def names (path : List Char) : List (List Char) :=
  (segments path).filter fun segment => !isVoid segment

def isAbsolute (path : List Char) : Bool := path.head? == some '/'

/-- What follows the given names, if the segments begin with them. -/
def after? : List (List Char) → List (List Char) → Option (List (List Char))
  | [], rest => some rest
  | name :: more, rest =>
      match rest.dropWhile isVoid with
      | [] => none
      | segment :: others => if segment = name then after? more others else none

/-- Segments without void ones at either end. -/
def trim (path : List (List Char)) : List (List Char) :=
  ((path.dropWhile isVoid).reverse.dropWhile isVoid).reverse

/-- The path below an absolute directory, if it lies there. -/
def below? (directory path : List Char) : Option (List Char) :=
  if isAbsolute path then
    (after? (names directory) (segments path)).map fun rest => ['/'].intercalate (trim rest)
  else none

/-- The text under which a path is shown. -/
def display (directory path : String) : String :=
  match below? directory.toList path.toList with
  | some rest => String.ofList rest
  | none => path

end Lexing.Source.Path
