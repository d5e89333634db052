import Lexing.Proofs.Source.Breaks
import Lexing.Proofs.Source.Registration

/-! # Locations

Positions are resolved by two searches by halving, one for the file and one for the line. Both lists
that are searched are sorted, so the searches give what a walk along the lists gives: the last file
that starts at or before the position, and in it the line breaks before the offset. -/

namespace Lexing.Source

/-! ## Partition points -/

section

variable {values : Array α} {test : α → Bool}

theorem Partitioned.of_pairwise
    (split : values.toList.Pairwise fun earlier later => test later = true → test earlier = true) :
    Partitioned values test := by
  intro i j first second ordered holds
  rcases Nat.eq_or_lt_of_le ordered with rfl | before
  · exact holds
  · exact List.pairwise_iff_getElem.mp split i j first second before holds

/-- The elements before the partition point are those that satisfy the test. -/
theorem Partitioned.take_partitionPoint (split : Partitioned values test) :
    values.toList.take (partitionPoint values test) = values.toList.filter test := by
  have before : ∀ value ∈ values.toList.take (partitionPoint values test), test value = true := by
    intro value member
    obtain ⟨index, bound, rfl⟩ := List.mem_iff_getElem.mp member
    rw [List.length_take, Nat.lt_min] at bound
    rw [List.getElem_take, Array.getElem_toList]
    exact (lt_partitionPoint_iff split index bound.2).mp bound.1
  have behind : ∀ value ∈ values.toList.drop (partitionPoint values test), ¬ test value = true := by
    intro value member holds
    obtain ⟨index, bound, rfl⟩ := List.mem_iff_getElem.mp member
    rw [List.length_drop, Array.length_toList] at bound
    rw [List.getElem_drop, Array.getElem_toList] at holds
    have early := (lt_partitionPoint_iff split _ (by omega)).mpr holds
    omega
  calc values.toList.take (partitionPoint values test)
      = (values.toList.take (partitionPoint values test)).filter test ++
          (values.toList.drop (partitionPoint values test)).filter test := by
        rw [List.filter_eq_self.mpr before, List.filter_eq_nil_iff.mpr behind, List.append_nil]
    _ = values.toList.filter test := by rw [← List.filter_append, List.take_append_drop]

/-- The partition point follows the last element that satisfies the test. -/
theorem Partitioned.partitionPoint_eq_succ (split : Partitioned values test) {index : Nat}
    (bound : index < values.size) (holds : test values[index] = true)
    (fails : ∀ (next : index + 1 < values.size), ¬ test values[index + 1] = true) :
    partitionPoint values test = index + 1 := by
  have reached := (lt_partitionPoint_iff split index bound).mpr holds
  refine Nat.le_antisymm (Nat.le_of_not_lt fun beyond => ?_) reached
  have next := Nat.lt_of_lt_of_le beyond (partitionPoint_le_size values test)
  exact fails next ((lt_partitionPoint_iff split (index + 1) next).mp beyond)

end

/-! ## Line and column in a file -/

namespace Document

/-- The location of an offset in a document, read off the line breaks before it. -/
def locationAt (document : Document) (offset : Nat) : Location where
  path := document.path
  line := Text.lineAt document.text.toList offset
  column := Text.columnAt document.text.toList offset

theorem partitioned_newlines (document : Document) (offset : Nat) :
    Partitioned (newlineOffsets document.text.toList) fun newline => decide (newline < offset) := by
  refine .of_pairwise ?_
  rw [Text.toList_newlineOffsets]
  refine (Text.pairwise_breaksBefore _ _).imp fun {earlier later} ordered before => ?_
  exact decide_eq_true (Nat.lt_trans ordered (of_decide_eq_true before))

/-- The search among the line ends stops behind those that lie before the offset. -/
theorem breaksBefore_eq_take (document : Document) (offset : Nat) :
    Text.breaksBefore document.text.toList offset =
      (newlineOffsets document.text.toList).toList.take
        (partitionPoint (newlineOffsets document.text.toList)
          fun newline => decide (newline < offset)) := by
  rw [(document.partitioned_newlines offset).take_partitionPoint, Text.toList_newlineOffsets,
    Text.filter_breaksBefore_width]

/-- The line end behind which the search stops lies before the offset. -/
theorem getElem_newlines_lt (document : Document) {offset index : Nat}
    (bound : index < (newlineOffsets document.text.toList).size)
    (found : partitionPoint (newlineOffsets document.text.toList)
      (fun newline => decide (newline < offset)) = index + 1) :
    (newlineOffsets document.text.toList)[index] < offset := by
  have counted := (lt_partitionPoint_iff (document.partitioned_newlines offset) index bound).mp
    (found ▸ Nat.lt_succ_self index)
  exact of_decide_eq_true counted

/-- Line and column are those that the line breaks before an offset give. Only a column on the first
line can be out of range. -/
theorem lineColumn_entry (document : Document) (start offset : Nat) :
    (document.entry start).lineColumn offset =
      if Text.breaksBefore document.text.toList offset = [] ∧ Position.limit ≤ offset + 1 then
        .error .position
      else .ok ((document.locationAt offset).line, (document.locationAt offset).column) := by
  have cut := document.breaksBefore_eq_take offset
  cases point : partitionPoint (newlineOffsets document.text.toList)
      (fun newline => decide (newline < offset)) with
  | zero =>
      rw [point, List.take_zero] at cut
      rw [(document.entry start).lineColumn_of_zero point, locationAt, Text.lineAt, Text.columnAt, cut]
      by_cases room : offset + 1 < Position.limit
      · rw [Position.advance, if_pos room, if_neg fun full => Nat.not_le_of_lt room full.2]
        rfl
      · rw [Position.advance, if_neg room, if_pos ⟨rfl, Nat.le_of_not_lt room⟩]
        rfl
  | succ index =>
      have bound := partitionPoint_le_size (newlineOffsets document.text.toList)
        fun newline => decide (newline < offset)
      rw [point, Nat.succ_le_iff] at bound
      rw [point, List.take_succ_eq_append_getElem bound] at cut
      rw [if_neg fun none => List.append_ne_nil_of_right_ne_nil _ (List.cons_ne_nil _ _) (cut ▸ none.1),
        (document.entry start).lineColumn_of_succ point bound
          (Nat.le_of_lt (document.getElem_newlines_lt bound point)), locationAt, Text.lineAt,
        Text.columnAt, cut, List.length_append, List.length_take_of_le (Nat.le_of_lt bound),
        List.getLast?_concat]
      rfl

end Document

/-! ## The file of a position -/

namespace Registry.Lists

variable {registry : Registry} {documents : List Document} {document : Document}
  {position index : Nat}

theorem getElem_entries (lists : registry.Lists documents)
    (found : documents[index]? = some document) (bound : index < registry.entries.size) :
    registry.entries[index] = document.entry (Document.startOf documents index) := by
  have entry := lists.entries index
  rw [found, Array.getElem?_eq_getElem bound] at entry
  exact Option.some.inj entry

theorem partitioned_entries (lists : registry.Lists documents) (position : Nat) :
    Partitioned registry.entries fun entry => decide (entry.offset ≤ position) := by
  intro i j first second ordered holds
  have size := lists.size_eq
  rw [lists.getElem_entries (List.getElem?_eq_getElem (size ▸ second))] at holds
  rw [lists.getElem_entries (List.getElem?_eq_getElem (size ▸ first))]
  exact decide_eq_true (Nat.le_trans (Document.startOf_le_of_le documents ordered) (of_decide_eq_true holds))

/-- The search among the files stops behind the last one that starts at or before a position. -/
theorem partitionPoint_entries (lists : registry.Lists documents) (inside : index < documents.length)
    (starts : Document.startOf documents index ≤ position)
    (last : index + 1 < documents.length → position < Document.startOf documents (index + 1)) :
    partitionPoint registry.entries (fun entry => decide (entry.offset ≤ position)) = index + 1 := by
  have size := lists.size_eq
  have bound : index < registry.entries.size := size ▸ inside
  have entry := lists.getElem_entries (List.getElem?_eq_getElem inside) bound
  refine (lists.partitioned_entries position).partitionPoint_eq_succ bound ?_ fun next holds => ?_
  · rw [entry]
    exact decide_eq_true starts
  · rw [lists.getElem_entries (List.getElem?_eq_getElem (size ▸ next))] at holds
    exact Nat.not_le_of_lt (last (size ▸ next)) (of_decide_eq_true holds)

/-- A position is resolved in the last file that starts at or before it, to the location of its offset
there, unless the column is out of range. -/
theorem locate_eq (lists : registry.Lists documents)
    (found : documents[index]? = some document)
    (starts : Document.startOf documents index ≤ position)
    (last : index + 1 < documents.length → position < Document.startOf documents (index + 1)) :
    registry.locate position =
      if Text.breaksBefore document.text.toList (position - Document.startOf documents index) = [] ∧
          Position.limit ≤ position - Document.startOf documents index + 1 then
        .error .position
      else .ok (some (document.locationAt (position - Document.startOf documents index))) := by
  have inside := (List.getElem?_eq_some_iff.mp found).1
  have bound : index < registry.entries.size := lists.size_eq ▸ inside
  have entry := lists.getElem_entries found bound
  have begins : registry.entries[index].offset ≤ position := by
    rw [entry]
    exact starts
  rw [Registry.locate_of_succ (lists.partitionPoint_entries inside starts last) bound begins, entry]
  dsimp only [Document.entry]
  rw [← Document.entry, document.lineColumn_entry, apply_ite (Except.map _)]
  rfl

/-- If there are files at all, every position is resolved in one of them. -/
theorem exists_locate_eq (lists : registry.Lists documents) (some : documents ≠ []) (position : Nat) :
    ∃ index document, IsGreatest (Document.startingBy documents position) index ∧
      documents[index]? = .some document ∧
      registry.locate position =
        if Text.breaksBefore document.text.toList (position - Document.startOf documents index) = [] ∧
            Position.limit ≤ position - Document.startOf documents index + 1 then
          .error .position
        else .ok (.some (document.locationAt (position - Document.startOf documents index))) := by
  obtain ⟨index, greatest⟩ := Document.exists_isGreatest_startingBy some position
  have found := List.getElem?_eq_getElem greatest.1.1
  exact ⟨index, _, greatest, found,
    lists.locate_eq found greatest.1.2 (Document.lt_startOf_of_isGreatest greatest)⟩

/-- The location of a position is that of its offset in its file, unless it is out of range. -/
theorem locate_cases (lists : registry.Lists documents)
    (found : documents[index]? = some document)
    (starts : Document.startOf documents index ≤ position)
    (last : index + 1 < documents.length → position < Document.startOf documents (index + 1)) :
    registry.locate position =
        .ok (some (document.locationAt (position - Document.startOf documents index))) ∨
      registry.locate position = .error .position ∧
        Text.breaksBefore document.text.toList (position - Document.startOf documents index) = [] ∧
        Position.limit ≤ position - Document.startOf documents index + 1 := by
  rw [lists.locate_eq found starts last]
  split
  · rename_i full
    exact Or.inr ⟨rfl, full⟩
  · exact Or.inl rfl

/-- A position in a file or at its end is resolved in that file, if the file is in range. -/
theorem locate_inside (lists : registry.Lists documents)
    (found : documents[index]? = some document) {offset : Nat} (inside : offset ≤ document.size)
    (inRange : document.size + 1 < Position.limit) :
    registry.locate (Document.startOf documents index + offset) =
      .ok (some (document.locationAt offset)) := by
  have answer := lists.locate_cases found (Nat.le_add_right _ offset) fun _ => by
    rw [Document.startOf_succ found]
    omega
  rw [Nat.add_sub_cancel_left] at answer
  rcases answer with answered | ⟨_, _, overflows⟩
  · exact answered
  · omega

/-- A registry of no documents resolves no position. -/
theorem locate_of_nil (lists : registry.Lists []) (position : Nat) :
    registry.locate position = .ok none := by
  have bound := partitionPoint_le_size registry.entries fun entry => decide (entry.offset ≤ position)
  rw [lists.size_eq, List.length_nil, Nat.le_zero] at bound
  exact Registry.locate_of_zero bound

end Registry.Lists

/-- Resolving a position finds nothing exactly if nothing was registered. Otherwise it finds the last
document that starts at or before the position, where a document starts behind all bytes of those
before it and a gap of one behind each, and in it the line and column that the line breaks before
the offset give. It fails only where the column on a first line is out of range. -/
theorem Registry.locate_linear (calls : List Registration) (position : Nat) :
    ((reached calls).locate position = .ok none ↔ registered calls = []) ∧
      (registered calls = [] ∨
        ∃ index document, IsGreatest (Document.startingBy (registered calls) position) index ∧
          (registered calls)[index]? = some document ∧
          ((reached calls).locate position =
              .ok (some (document.locationAt
                (position - Document.startOf (registered calls) index))) ∨
            (reached calls).locate position = .error .position ∧
              Text.breaksBefore document.text.toList
                (position - Document.startOf (registered calls) index) = [] ∧
              Position.limit ≤ position - Document.startOf (registered calls) index + 1)) := by
  have lists := reached_lists calls
  by_cases nothing : registered calls = []
  · rw [nothing] at lists
    exact ⟨iff_of_true (lists.locate_of_nil position) nothing, Or.inl nothing⟩
  · obtain ⟨index, greatest⟩ := Document.exists_isGreatest_startingBy nothing position
    have found := List.getElem?_eq_getElem greatest.1.1
    have answer := lists.locate_cases found greatest.1.2
      (Document.lt_startOf_of_isGreatest greatest)
    refine ⟨iff_of_false (fun none => ?_) nothing, Or.inr ⟨index, _, greatest, found, answer⟩⟩
    rcases answer with answered | ⟨overflows, _⟩
    · rw [none] at answered
      cases answered
    · rw [none] at overflows
      cases overflows

end Lexing.Source
