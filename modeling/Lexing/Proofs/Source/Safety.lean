import Lexing.Proofs.Source.Location

/-! # Resolving is safe

To resolve a position a start is taken from it and a line end from an offset, and a file and a line
end are read where the two searches stop. The lists are sorted, so no larger number is ever taken from
a smaller one, and no search stops behind the end of its list. One sum is left that can leave the
words, the column on the first line; it does for the last position of all, in a file that is alone and
has no second line. -/

namespace Lexing

/-! ## Bounds of lines and columns -/

namespace Text

variable {text : List Char} {offset : Nat}

/-- Behind the end of a text there are no line breaks before exactly if the text has no newline. -/
theorem breaksBefore_eq_nil_iff (behind : width text ≤ offset) :
    breaksBefore text offset = [] ↔ '\n' ∉ text := by
  induction text generalizing offset with
  | nil =>
      refine iff_of_true (List.filter_eq_nil_iff.mpr fun index _ => ?_) List.not_mem_nil
      rw [isBreakAt_of_width_le (Nat.zero_le _)]
      exact Bool.false_ne_true
  | cons c rest ih =>
      rw [width_cons] at behind
      obtain ⟨more, rfl⟩ := Nat.exists_eq_add_of_le (Nat.le_trans (Nat.le_add_right _ _) behind)
      have later : breaksBefore rest more = [] ↔ '\n' ∉ rest := ih (by omega)
      rw [breaksBefore_cons_add, List.append_eq_nil_iff, List.map_eq_nil_iff, later, List.mem_cons,
        not_or]
      refine and_congr_left fun _ => ?_
      by_cases line : c = '\n'
      · rw [if_pos line]
        exact iff_of_false (List.cons_ne_nil _ _) fun other => other line.symm
      · rw [if_neg line]
        exact iff_of_true rfl (Ne.symm line)

/-- A text has no more lines than bytes, the last line apart. -/
theorem lineAt_le (text : List Char) (offset : Nat) : lineAt text offset ≤ width text + 1 := by
  refine Nat.add_le_add_right ?_ 1
  calc (breaksBefore text offset).length
      = ((breaksBefore text (width text)).filter fun index => decide (index < offset)).length := by
        rw [filter_breaksBefore_width]
    _ ≤ (breaksBefore text (width text)).length := List.length_filter_le _ _
    _ ≤ (List.range (width text)).length := List.length_filter_le _ _
    _ = width text := List.length_range

/-- Only on the first line can the column of an offset reach a bound that the offset does not. -/
theorem columnAt_lt {bound : Nat} (word : offset < bound)
    (inside : ¬ (breaksBefore text offset = [] ∧ bound ≤ offset + 1)) :
    columnAt text offset < bound := by
  by_cases first : breaksBefore text offset = []
  · rw [columnAt, first]
    exact Nat.lt_of_not_le fun full => inside ⟨first, full⟩
  · rw [columnAt, List.getLast?_eq_some_getLast first]
    exact Nat.lt_of_le_of_lt (Nat.sub_le _ _) word

end Text

namespace Source

namespace Document

variable {documents : List Document} {document : Document} {index : Nat}

/-- Only the first document starts at zero. -/
theorem eq_zero_of_startOf (inside : index < documents.length) (first : startOf documents index = 0) :
    index = 0 := by
  refine Nat.eq_zero_of_not_pos fun further => ?_
  have behind := startOf_lt_of_lt (List.getElem?_eq_getElem (Nat.lt_trans further inside)) further
  omega

/-- If the last document that starts by the last position is the first one, it is the only one. -/
theorem eq_singleton_of_isGreatest {position : Nat}
    (inRange : startOf documents documents.length ≤ position)
    (greatest : IsGreatest (startingBy documents position) 0) :
    ∃ document, documents = [document] := by
  refine List.length_eq_one_iff.mp (Nat.le_antisymm (Nat.le_of_not_lt fun more => ?_) greatest.1.1)
  have starts := Nat.le_trans (startOf_le_of_le documents (Nat.le_of_lt more)) inRange
  exact absurd (greatest.2 ⟨more, starts⟩) (by decide)

end Document

/-! ## Where resolving fails -/

namespace Registry

namespace Lists

variable {registry : Registry} {documents : List Document} {document : Document}
  {position index : Nat}

/-- The column of a position is out of range exactly if the position is the last one and the file is
alone and has one line. -/
theorem out_of_range_iff (lists : registry.Lists documents)
    (inRange : registry.next < Position.limit) (word : position < Position.limit)
    (greatest : IsGreatest (Document.startingBy documents position) index)
    (found : documents[index]? = some document) :
    Text.breaksBefore document.text.toList (position - Document.startOf documents index) = [] ∧
        Position.limit ≤ position - Document.startOf documents index + 1 ↔
      position + 1 = Position.limit ∧
        ∃ document, documents = [document] ∧ '\n' ∉ document.text.toList := by
  have room := lists.next ▸ inRange
  have size : document.size + 1 ≤ Document.startOf documents documents.length := by
    have last := Document.startOf_lt_of_lt found greatest.1.1
    omega
  constructor
  · rintro ⟨unbroken, full⟩
    -- nothing is left for the start of the file, so the file is the first one
    have first : Document.startOf documents index = 0 := by omega
    cases Document.eq_zero_of_startOf greatest.1.1 first
    obtain ⟨only, rfl⟩ := Document.eq_singleton_of_isGreatest (by omega) greatest
    cases found
    rw [first, Nat.sub_zero, Text.breaksBefore_eq_nil_iff
      (by rw [Text.width_toList, ← Document.size]; omega)] at unbroken
    exact ⟨by omega, document, rfl, unbroken⟩
  · rintro ⟨last, only, rfl, unbroken⟩
    cases Nat.lt_one_iff.mp greatest.1.1
    cases found
    rw [Document.startOf_zero, Nat.sub_zero, Text.breaksBefore_eq_nil_iff
      (by rw [Text.width_toList, ← Document.size]; omega)]
    exact ⟨unbroken, Nat.le_of_eq last.symm⟩

/-- Resolving fails for the last position, if there is one file and it has one line, and never in any
other way. -/
theorem locate_eq_error_iff (lists : registry.Lists documents)
    (inRange : registry.next < Position.limit) (word : position < Position.limit)
    {overflow : Overflow} :
    registry.locate position = .error overflow ↔ overflow = .position ∧
      position + 1 = Position.limit ∧
        ∃ document, documents = [document] ∧ '\n' ∉ document.text.toList := by
  by_cases nothing : documents = []
  · rw [nothing] at lists ⊢
    rw [lists.locate_of_nil]
    refine iff_of_false (fun impossible => by cases impossible) ?_
    rintro ⟨-, -, document, impossible, -⟩
    cases impossible
  · obtain ⟨index, document, greatest, found, answer⟩ := lists.exists_locate_eq nothing position
    rw [answer, ← lists.out_of_range_iff inRange word greatest found]
    split
    · rename_i full
      rw [Except.error.injEq, and_iff_left full, eq_comm]
    · rename_i inside
      exact iff_of_false (fun impossible => by cases impossible) fun ⟨_, full⟩ => inside full

/-- Line and column of a position that is resolved are words. -/
theorem bounds_of_located (lists : registry.Lists documents)
    (inRange : registry.next < Position.limit) (word : position < Position.limit)
    {location : Location} (located : registry.locate position = .ok (some location)) :
    location.line < Position.limit ∧ location.column < Position.limit := by
  have room := lists.next ▸ inRange
  by_cases nothing : documents = []
  · rw [nothing] at lists
    rw [lists.locate_of_nil] at located
    cases located
  · obtain ⟨index, document, greatest, found, answer⟩ := lists.exists_locate_eq nothing position
    have last := Document.startOf_lt_of_lt found greatest.1.1
    rw [answer] at located
    split at located
    · cases located
    · rename_i inside
      cases located
      constructor
      · have lines := Text.lineAt_le document.text.toList (position - Document.startOf documents index)
        rw [Text.width_toList, ← Document.size] at lines
        exact Nat.lt_of_le_of_lt lines (by omega)
      · exact Text.columnAt_lt (Nat.lt_of_le_of_lt (Nat.sub_le _ _) word) inside

end Lists

/-- Whatever files were registered, resolving a position neither takes a larger number from a smaller
one nor reads behind the end of a list. It fails for the last position of all, if exactly one file was
registered and that file has no newline, because the column is out of range then; it fails in no other
case, and the line and the column that it finds are in range. -/
theorem locate_safe (calls : List Registration) (position : Nat)
    (inRange : (reached calls).next < Position.limit) (word : position < Position.limit) :
    (reached calls).locate position ≠ .error .below ∧
      (reached calls).locate position ≠ .error .index ∧
      (∀ overflow, (reached calls).locate position = .error overflow → overflow = .position) ∧
      ((reached calls).locate position = .error .position ↔
        position + 1 = Position.limit ∧
          ∃ document, registered calls = [document] ∧ '\n' ∉ document.text.toList) ∧
      ∀ location, (reached calls).locate position = .ok (some location) →
        location.line < Position.limit ∧ location.column < Position.limit := by
  have lists := reached_lists calls
  have only : ∀ overflow, (reached calls).locate position = .error overflow → overflow = .position :=
    fun _ failed => ((lists.locate_eq_error_iff inRange word).mp failed).1
  refine ⟨fun failed => ?_, fun failed => ?_, only,
    (lists.locate_eq_error_iff inRange word).trans (and_iff_right rfl),
    fun location located => lists.bounds_of_located inRange word located⟩
  · cases only _ failed
  · cases only _ failed

/-- The last position of all, in a file of one line beside one that could not be read, in a file of two
lines, and in the second of two files. -/
theorem locate_safe_last :
    18446744073709551615 < Position.limit ∧
      (reached [.load "b" (.error .notFound), .add "a" "é"]).next < Position.limit ∧
      (reached [.load "b" (.error .notFound), .add "a" "é"]).locate 18446744073709551615 =
        .error .position ∧
      (reached [.add "a" "é\n"]).next < Position.limit ∧
      (reached [.add "a" "é\n"]).locate 18446744073709551615 ≠ .error .position ∧
      (reached [.add "a" "", .add "b" ""]).next < Position.limit ∧
      (reached [.add "a" "", .add "b" ""]).locate 18446744073709551615 ≠ .error .position := by
  have word : 18446744073709551615 < Position.limit := by decide
  obtain ⟨-, -, -, alone, -⟩ :=
    locate_safe [.load "b" (.error .notFound), .add "a" "é"] 18446744073709551615 (by decide) word
  obtain ⟨-, -, -, broken, -⟩ := locate_safe [.add "a" "é\n"] 18446744073709551615 (by decide) word
  obtain ⟨-, -, -, second, -⟩ :=
    locate_safe [.add "a" "", .add "b" ""] 18446744073709551615 (by decide) word
  refine ⟨word, by decide, alone.mpr ⟨rfl, ⟨"a", "é"⟩, rfl, by decide⟩, by decide, fun failed => ?_,
    by decide, fun failed => ?_⟩
  · obtain ⟨-, document, same, unbroken⟩ := broken.mp failed
    cases same
    exact unbroken (by decide)
  · obtain ⟨-, document, impossible, -⟩ := second.mp failed
    cases impossible

end Registry

end Source

end Lexing
