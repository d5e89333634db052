import Lexing.Proofs.Source.Location
import Mathlib.Data.Prod.Lex

/-! # Places in order

Behind every offset of a text line and column go on: a line break in between makes the line grow, and
without one the column does. The file of a position never goes back either, so file, line and column
grow with the position, positions behind the last file among them, and no two positions have the same
place. -/

namespace Lexing

/-! ## Lines and columns -/

namespace Text

/-- Line breaks before an offset come first among those before a later one. -/
theorem exists_breaksBefore_add (text : List Char) (offset distance : Nat) :
    ∃ more, breaksBefore text (offset + distance) = breaksBefore text offset ++ more := by
  rw [breaksBefore, List.range_add, List.filter_append, ← breaksBefore]
  exact ⟨_, rfl⟩

theorem lt_of_mem_breaksBefore {text : List Char} {offset index : Nat}
    (member : index ∈ breaksBefore text offset) : index < offset :=
  List.mem_range.mp (List.mem_filter.mp member).1

/-- A later offset is on a later line, or further on in the same one. -/
theorem place_lt_of_lt (text : List Char) {offset later : Nat} (before : offset < later) :
    toLex (lineAt text offset, columnAt text offset) <
      toLex (lineAt text later, columnAt text later) := by
  obtain ⟨distance, rfl⟩ := Nat.exists_eq_add_of_lt before
  rw [Nat.add_assoc] at before ⊢
  obtain ⟨more, breaks⟩ := exists_breaksBefore_add text offset (distance + 1)
  rw [Prod.Lex.toLex_lt_toLex]
  cases more with
  | cons first rest =>
      refine Or.inl ?_
      simp only [lineAt, breaks, List.length_append, List.length_cons]
      omega
  | nil =>
      rw [List.append_nil] at breaks
      refine Or.inr ⟨by rw [lineAt, lineAt, breaks], ?_⟩
      simp only [columnAt, breaks]
      cases found : (breaksBefore text offset).getLast? with
      | none => exact Nat.add_lt_add_right before 1
      | some last =>
          have passed := lt_of_mem_breaksBefore (List.mem_of_getLast? found)
          simp only
          omega

end Text

namespace Source

/-! ## Files -/

/-- The index of the file in which a position is resolved: the search for it stops behind that file. -/
def Registry.fileIndex (registry : Registry) (position : Nat) : Nat :=
  partitionPoint registry.entries (fun entry => decide (entry.offset ≤ position)) - 1

/-- What a reader is told of a position: the file, by its index, the line and the column. -/
def Registry.place (registry : Registry) (position : Nat) (location : Location) : ℕ ×ₗ ℕ ×ₗ ℕ :=
  toLex (registry.fileIndex position, toLex (location.line, location.column))

/-- The file that starts last by a later position is the same file or one further back. -/
theorem Document.isGreatest_mono {documents : List Document} {position later index next : Nat}
    (before : position ≤ later) (greatest : IsGreatest (startingBy documents position) index)
    (greatestLater : IsGreatest (startingBy documents later) next) : index ≤ next :=
  greatestLater.2 ⟨greatest.1.1, Nat.le_trans greatest.1.2 before⟩

namespace Registry.Lists

variable {registry : Registry} {documents : List Document} {position : Nat} {location : Location}

/-- A position that is resolved has the location that its file gives, which is the last one that starts
at or before it. -/
theorem exists_of_located (lists : registry.Lists documents)
    (located : registry.locate position = .ok (some location)) :
    ∃ document, IsGreatest (Document.startingBy documents position) (registry.fileIndex position) ∧
      documents[registry.fileIndex position]? = some document ∧
      location = document.locationAt
        (position - Document.startOf documents (registry.fileIndex position)) := by
  by_cases nothing : documents = []
  · rw [nothing] at lists
    rw [lists.locate_of_nil] at located
    cases located
  · obtain ⟨index, greatest⟩ := Document.exists_isGreatest_startingBy nothing position
    have last := Document.lt_startOf_of_isGreatest greatest
    have found := List.getElem?_eq_getElem greatest.1.1
    have same : registry.fileIndex position = index := by
      rw [Registry.fileIndex, lists.partitionPoint_entries greatest.1.1 greatest.1.2 last,
        Nat.add_sub_cancel]
    rw [same]
    refine ⟨_, greatest, found, ?_⟩
    rcases lists.locate_cases found greatest.1.2 last with answered | ⟨overflows, -⟩
    · rw [located] at answered
      exact Option.some.inj (Except.ok.inj answered)
    · rw [located] at overflows
      cases overflows

/-- Later positions have later places. -/
theorem place_lt_of_lt (lists : registry.Lists documents) {later : Nat} {next : Location}
    (before : position < later) (located : registry.locate position = .ok (some location))
    (locatedLater : registry.locate later = .ok (some next)) :
    registry.place position location < registry.place later next := by
  obtain ⟨document, greatest, found, rfl⟩ := lists.exists_of_located located
  obtain ⟨other, greatestLater, foundLater, rfl⟩ := lists.exists_of_located locatedLater
  rw [Registry.place, Registry.place, Prod.Lex.toLex_lt_toLex]
  rcases Nat.lt_or_eq_of_le
    (Document.isGreatest_mono (Nat.le_of_lt before) greatest greatestLater) with further | same
  · exact Or.inl further
  · -- in one file the offsets are in order as the positions are
    refine Or.inr ⟨same, ?_⟩
    rw [same] at found greatest
    rw [found] at foundLater
    cases foundLater
    rw [same]
    refine Text.place_lt_of_lt document.text.toList ?_
    have starts := greatest.1.2
    omega

end Registry.Lists

end Source

end Lexing
