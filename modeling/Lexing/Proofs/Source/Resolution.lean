import Lexing.Proofs.Source.Location
import Lexing.Proofs.Tiling

/-! # Positions lead back to their file

What a scanner makes of a registered file has positions in the range of that file, its end among
them. Each of them is resolved, at once and after whatever calls follow, to the path of the file and
to the line and the column at which the token, or what a diagnostic is about, stands in its text. -/

namespace Lexing.Source

/-- A location names the place of a file that has a position. -/
structure Location.PointsTo (location : Location) (path : String) (file : File) (position : Nat) :
    Prop where
  path_eq : location.path = path
  place : ∃ offset, position = file.offset + offset ∧
    Text.IsPlace file.text.toList location.line location.column offset

theorem Document.locationAt_pointsTo (path : String) (file : File) {offset : Nat}
    (inside : offset ≤ Text.width file.text.toList) :
    ((Document.mk path file.text).locationAt offset).PointsTo path file (file.offset + offset) :=
  ⟨rfl, offset, rfl, Text.isPlace_at inside⟩

/-! ## Positions in a returned file -/

namespace Registration.Returns

open Registry (reached registered)

variable {before : List Registration} {call : Registration} {file : File}

/-- A returned file starts behind what was registered before it. -/
theorem startOf_eq (returns : call.Returns (reached before) file) (after : List Registration) :
    (registered (before ++ call :: after))[(registered before).length]? =
        some ⟨call.path, file.text⟩ ∧
      Document.startOf (registered (before ++ call :: after)) (registered before).length =
        file.offset := by
  obtain ⟨found, offset⟩ := returns.registers
  have all : registered (before ++ call :: after) =
      registered before ++ ⟨call.path, file.text⟩ :: registered after := by
    rw [registered, List.filterMap_append, List.filterMap_cons_some found]
    rfl
  rw [all, Document.startOf_append _ _ (Nat.le_refl _), ← (Registry.reached_lists before).next, offset]
  exact ⟨by simp, rfl⟩

/-- The next file would start behind a returned one and a gap of one. -/
theorem next_eq (returns : call.Returns (reached before) file) :
    (reached (before ++ [call])).next = file.offset + file.text.utf8ByteSize + 1 := by
  obtain ⟨found, offset⟩ := returns.registers
  rw [Registry.reached_append, offset]
  change (call.perform (reached before)).next = _
  rw [call.perform_of_some found]
  rfl

variable (returns : call.Returns (reached before) file)
  (inRange : (reached (before ++ [call])).next < Position.limit)

include returns inRange

theorem file_inRange : file.InRange := by
  rw [returns.next_eq] at inRange
  exact Nat.lt_of_succ_lt inRange

/-- A position in a returned file or at its end is resolved in that file, whatever follows. -/
theorem locate_eq (after : List Registration) {offset : Nat}
    (inside : offset ≤ Text.width file.text.toList) :
    (reached (before ++ call :: after)).locate (file.offset + offset) =
      .ok (some ((Document.mk call.path file.text).locationAt offset)) := by
  obtain ⟨found, start⟩ := returns.startOf_eq after
  rw [Text.width_toList] at inside
  rw [returns.next_eq] at inRange
  rw [← start]
  refine (Registry.reached_lists _).locate_inside found inside ?_
  change file.text.utf8ByteSize + 1 < Position.limit
  omega

end Registration.Returns

/-! ## What a scanner makes of a file -/

theorem File.isPartOf_of_mem_tokens {file : File} {lexicon : Lexicon} {token : Token}
    (member : token ∈ file.tokens lexicon) : token.IsPartOf file.offset file.text.toList := by
  obtain ⟨segment, kept, rfl⟩ := List.mem_map.mp member
  exact (Reading.standsIn_of_mem (List.mem_filter.mp kept).1).token_isPartOf file.offset

theorem File.exists_offset_of_mem_diagnostics {file : File} {lexicon : Lexicon}
    {diagnostic : Diagnostic} (member : diagnostic ∈ file.diagnostics lexicon) :
    ∃ offset, offset ≤ Text.width file.text.toList ∧
      diagnostic.position = some (file.offset + offset) := by
  obtain ⟨entry, found, rfl⟩ := List.mem_map.mp member
  exact ⟨entry.1.offset, Reading.finding_offset_le found, rfl⟩

/-- A position that is resolved to a location in the file that a call on a registry returned, then and
after all further calls. -/
structure Registry.ResolvesTo (before : List Registration) (call : Registration) (file : File)
    (position : Nat) (location : Location) : Prop where
  points : location.PointsTo call.path file position
  lasting : ∀ after, (reached (before ++ call :: after)).locate position = .ok (some location)

/-- Tokens and diagnostics of a file that a call on a registry returned, with what their positions are
resolved to. From the place of a token on, the bytes of the text open with those of the token. -/
structure Registry.Located (before : List Registration) (call : Registration) (file : File)
    (tokens : List Token) (reported : List Diagnostic) : Prop where
  ofToken : ∀ token ∈ tokens, ∃ location, ResolvesTo before call file token.position location ∧
    Text.bytes token.text.toList <+: (Text.bytes file.text.toList).drop
      (Text.placeOffset file.text.toList location.line location.column)
  ofDiagnostic : ∀ diagnostic ∈ reported, ∃ position location,
    diagnostic.position = some position ∧ ResolvesTo before call file position location

/-- Scanning a file that a call on a registry returned never overflows. Every token and every
diagnostic has a position that is resolved, then and after all further calls, to the path of the
file and to a line and a column of its text; from there on the bytes of the text open with those of
the token. -/
theorem Registry.locate_scanned {before : List Registration} {call : Registration} {file : File}
    (returns : call.Returns (reached before) file)
    (inRange : (reached (before ++ [call])).next < Position.limit) (lexicon : Lexicon) :
    ∃ tokens reported, file.LexesTo lexicon tokens reported ∧
      Located before call file tokens reported := by
  refine ⟨_, _, File.lexesTo_of_inRange (returns.file_inRange inRange) lexicon, ?ofToken, ?ofDiagnostic⟩
  case ofToken =>
    intro token member
    obtain ⟨left, right, parts, position⟩ := File.isPartOf_of_mem_tokens member
    have inside : Text.width left ≤ Text.width file.text.toList := by
      rw [parts, Text.width_append, Text.width_append]
      omega
    have points := Document.locationAt_pointsTo call.path file inside
    obtain ⟨offset, same, place⟩ := points.place
    rw [position]
    refine ⟨_, ⟨points, fun after => returns.locate_eq inRange after inside⟩, ?_⟩
    rw [place.offset_eq, ← Nat.add_left_cancel same, parts, List.append_assoc, Text.drop_width_bytes,
      Text.bytes_append]
    exact List.prefix_append _ _
  case ofDiagnostic =>
    intro diagnostic member
    obtain ⟨offset, inside, position⟩ := File.exists_offset_of_mem_diagnostics member
    exact ⟨_, _, position, Document.locationAt_pointsTo call.path file inside,
      fun after => returns.locate_eq inRange after inside⟩

/-- A file behind another one, with faults at the end of a line and at its own end. -/
theorem Registry.locate_scanned_atEnd :
    (Registration.load "b" (.ok "'é\n1e")).Returns (reached [.add "a" "x"]) ⟨2, "'é\n1e"⟩ ∧
      (reached ([.add "a" "x"] ++ [.load "b" (.ok "'é\n1e")])).next < Position.limit ∧
      ∃ tokens reported, (File.mk 2 "'é\n1e").LexesTo Lexicon.standard tokens reported ∧
        Located [.add "a" "x"] (.load "b" (.ok "'é\n1e")) ⟨2, "'é\n1e"⟩ tokens reported :=
  ⟨.load rfl, by decide, Registry.locate_scanned (.load rfl) (by decide) Lexicon.standard⟩

end Lexing.Source
