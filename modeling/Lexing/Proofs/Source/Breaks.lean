import Lexing.Source.Registry
import Lexing.Text.Width
import Mathlib.Algebra.GroupWithZero.Nat
import Mathlib.Data.List.Basic

/-! # Lines and columns of a text

Lines end at the bytes that are a line feed. No byte of a longer UTF-8 form is one, so these are the
line breaks among the characters. Line and column of an offset are read off the line breaks before
it, and lead back to the offset: the line is one of those into which line breaks split the text, and
the column lies in it or at its end. -/

namespace Lexing.Text

/-! ## Bytes -/

/-- The UTF-8 form of a text. -/
def bytes (text : List Char) : List UInt8 := text.flatMap String.utf8EncodeChar

theorem bytes_append (left right : List Char) : bytes (left ++ right) = bytes left ++ bytes right :=
  List.flatMap_append

@[simp] theorem length_bytes (text : List Char) : (bytes text).length = width text := by
  induction text with
  | nil => rfl
  | cons c rest ih =>
      rw [bytes, List.flatMap_cons, List.length_append, String.length_utf8EncodeChar, width_cons,
        ← ih, bytes]

/-- Behind the width of its first part a text has the bytes of the second. -/
theorem drop_width_bytes (left right : List Char) :
    (bytes (left ++ right)).drop (width left) = bytes right := by
  rw [bytes_append, ← length_bytes, List.drop_left]

/-- A byte is a line feed only if the number it is made of ends like one. -/
theorem mod_eq_of_newline {number : Nat} (same : 10 = UInt8.ofNat number) : number % 256 = 10 := by
  have values := congrArg UInt8.toNat same
  rw [UInt8.toNat_ofNat'] at values
  exact values.symm

/-- A line feed is part of no character but itself. -/
theorem newline_mem_utf8EncodeChar {c : Char} (member : 10 ∈ String.utf8EncodeChar c) :
    c = '\n' := by
  simp only [String.utf8EncodeChar] at member
  split at member
  · have value := mod_eq_of_newline (List.mem_singleton.mp member)
    refine Char.ext (UInt32.toNat_inj.mp ?_)
    change c.val.toNat = 10
    omega
  · -- the first byte of a longer form is at least 192, and every other at least 128
    split at member
    · simp only [List.mem_cons, List.not_mem_nil, or_false] at member
      rcases member with same | same <;> have value := mod_eq_of_newline same <;> omega
    · split at member
      · simp only [List.mem_cons, List.not_mem_nil, or_false] at member
        rcases member with same | same | same <;> have value := mod_eq_of_newline same <;> omega
      · simp only [List.mem_cons, List.not_mem_nil, or_false] at member
        rcases member with same | same | same | same <;> have value := mod_eq_of_newline same <;>
          omega

/-! ## Line breaks -/

/-- Whether the byte at an offset ends a line. -/
def isBreakAt (text : List Char) (offset : Nat) : Bool := (bytes text)[offset]? == some 10

/-- Offsets of the line breaks among the first bytes of a text, in order. -/
def breaksBefore (text : List Char) (count : Nat) : List Nat :=
  (List.range count).filter (isBreakAt text)

variable {c : Char} {text rest : List Char} {offset count : Nat}

theorem isBreakAt_of_width_le (behind : width text ≤ offset) : isBreakAt text offset = false := by
  rw [isBreakAt, List.getElem?_eq_none (by rw [length_bytes]; exact behind)]
  rfl

theorem isBreakAt_inside (ordinary : c ≠ '\n') (inside : offset < c.utf8Size) :
    isBreakAt (c :: rest) offset = false := by
  refine Bool.eq_false_iff.mpr fun holds => ordinary ?_
  rw [isBreakAt, bytes, List.flatMap_cons,
    List.getElem?_append_left (by rw [String.length_utf8EncodeChar]; exact inside),
    beq_iff_eq] at holds
  exact newline_mem_utf8EncodeChar (List.mem_of_getElem? holds)

theorem isBreakAt_cons_add (c : Char) (rest : List Char) (offset : Nat) :
    isBreakAt (c :: rest) (c.utf8Size + offset) = isBreakAt rest offset := by
  rw [isBreakAt, bytes, List.flatMap_cons, ← String.length_utf8EncodeChar,
    List.getElem?_append_right (Nat.le_add_right _ _), Nat.add_sub_cancel_left]
  rfl

@[simp] theorem breaksBefore_zero (text : List Char) : breaksBefore text 0 = [] := rfl

/-- No line ends within a character that is no line break. -/
theorem breaksBefore_inside (ordinary : c ≠ '\n') (rest : List Char) (inside : count ≤ c.utf8Size) :
    breaksBefore (c :: rest) count = [] := by
  refine List.filter_eq_nil_iff.mpr fun offset member holds => ?_
  rw [isBreakAt_inside ordinary (Nat.lt_of_lt_of_le (List.mem_range.mp member) inside)] at holds
  cases holds

theorem breaksBefore_cons_add (c : Char) (rest : List Char) (count : Nat) :
    breaksBefore (c :: rest) (c.utf8Size + count) =
      (if c = '\n' then [0] else []) ++ (breaksBefore rest count).map (c.utf8Size + ·) := by
  have later : isBreakAt (c :: rest) ∘ (c.utf8Size + ·) = isBreakAt rest :=
    funext (isBreakAt_cons_add c rest)
  rw [breaksBefore, List.range_add, List.filter_append, List.filter_map, later, ← breaksBefore,
    ← breaksBefore]
  congr 1
  split
  · rename_i line
    rw [line]
    rfl
  · rename_i ordinary
    exact breaksBefore_inside ordinary rest (Nat.le_refl _)

theorem breaksBefore_newline (rest : List Char) (count : Nat) :
    breaksBefore ('\n' :: rest) (1 + count) = 0 :: (breaksBefore rest count).map (1 + ·) :=
  breaksBefore_cons_add '\n' rest count

theorem breaksBefore_ordinary (ordinary : c ≠ '\n') (rest : List Char) (count : Nat) :
    breaksBefore (c :: rest) (c.utf8Size + count) =
      (breaksBefore rest count).map (c.utf8Size + ·) := by
  rw [breaksBefore_cons_add, if_neg ordinary, List.nil_append]

theorem pairwise_breaksBefore (text : List Char) (count : Nat) :
    (breaksBefore text count).Pairwise (· < ·) :=
  List.pairwise_lt_range.filter _

/-- Of the line breaks of a text those before an offset are left when it is cut there. -/
theorem filter_breaksBefore_width (text : List Char) (offset : Nat) :
    (breaksBefore text (width text)).filter (fun index => decide (index < offset)) =
      breaksBefore text offset := by
  rcases Nat.le_total offset (width text) with inside | behind
  · obtain ⟨more, size⟩ := Nat.exists_eq_add_of_le inside
    rw [breaksBefore, size, List.range_add, List.filter_append, List.filter_append, ← breaksBefore]
    have early : (breaksBefore text offset).filter (fun index => decide (index < offset)) =
        breaksBefore text offset :=
      List.filter_eq_self.mpr fun index member =>
        decide_eq_true (List.mem_range.mp (List.mem_filter.mp member).1)
    have late : (((List.range more).map (offset + ·)).filter (isBreakAt text)).filter
        (fun index => decide (index < offset)) = [] := by
      refine List.filter_eq_nil_iff.mpr fun index member before => ?_
      obtain ⟨distance, _, rfl⟩ := List.mem_map.mp (List.mem_filter.mp member).1
      exact absurd (of_decide_eq_true before) (by omega)
    rw [early, late, List.append_nil]
  · obtain ⟨more, rfl⟩ := Nat.exists_eq_add_of_le behind
    have none : ((List.range more).map (width text + ·)).filter (isBreakAt text) = [] := by
      refine List.filter_eq_nil_iff.mpr fun index member ends => ?_
      obtain ⟨distance, _, rfl⟩ := List.mem_map.mp member
      rw [isBreakAt_of_width_le (Nat.le_add_right _ _)] at ends
      cases ends
    have early : (breaksBefore text (width text)).filter
        (fun index => decide (index < width text + more)) = breaksBefore text (width text) := by
      refine List.filter_eq_self.mpr fun index member => decide_eq_true ?_
      have bound := List.mem_range.mp (List.mem_filter.mp member).1
      omega
    rw [early, breaksBefore, breaksBefore, List.range_add, List.filter_append, none, List.append_nil]

/-- Line breaks found behind those that are known already. -/
theorem foldl_newlines (text : List Char) (offset : Nat) (found : Array Nat) :
    ((text.foldl (fun (offset, found) c =>
      (offset + c.utf8Size, if c = '\n' then found.push offset else found)) (offset, found)).2).toList =
      found.toList ++ (breaksBefore text (width text)).map (offset + ·) := by
  induction text generalizing offset found with
  | nil => exact (List.append_nil _).symm
  | cons c rest ih =>
      rw [List.foldl_cons, width_cons, breaksBefore_cons_add, List.map_append, List.map_map, ih]
      have distance : (offset + c.utf8Size + ·) = (offset + ·) ∘ (c.utf8Size + ·) :=
        funext fun further => Nat.add_assoc ..
      rw [distance]
      split
      · rw [Array.toList_push, List.append_assoc]
        rfl
      · rfl

/-- What is recorded of a text are its line breaks. -/
theorem toList_newlineOffsets (text : List Char) :
    (Source.newlineOffsets text).toList = breaksBefore text (width text) := by
  have found := foldl_newlines text 0 #[]
  simp only [Nat.zero_add, List.map_id', List.nil_append] at found
  exact found

/-! ## Lines and columns -/

/-- The line of an offset, counted from one. -/
def lineAt (text : List Char) (offset : Nat) : Nat := (breaksBefore text offset).length + 1

/-- The column of an offset, in bytes counted from one: how far it is behind the last line break
before it, or on the first line behind the start of the text. -/
def columnAt (text : List Char) (offset : Nat) : Nat :=
  match (breaksBefore text offset).getLast? with
  | none => offset + 1
  | some last => offset - last

/-- The lines of a text, without the line breaks between them. -/
def lines (text : List Char) : List (List Char) := text.splitOn '\n'

/-- The offset to which a line and a column lead: that of the start of the line, where each earlier
line and the line break behind it were passed, and the bytes of the line before the column. -/
def placeOffset (text : List Char) (line column : Nat) : Nat :=
  (((lines text).take (line - 1)).map fun earlier => width earlier + 1).sum + (column - 1)

/-- A line of a text and a column in that line or at its end lead to an offset. -/
structure IsPlace (text : List Char) (line column offset : Nat) : Prop where
  line_pos : 1 ≤ line
  column_mem : ∃ letters, (lines text)[line - 1]? = some letters ∧
    1 ≤ column ∧ column ≤ width letters + 1
  offset_eq : placeOffset text line column = offset

theorem lines_newline (rest : List Char) : lines ('\n' :: rest) = [] :: lines rest := by
  rw [lines, List.splitOn_cons_eq_if_modifyHead, if_pos (beq_self_eq_true _), lines]

theorem exists_lines_cons (ordinary : c ≠ '\n') (rest : List Char) :
    ∃ first others, lines rest = first :: others ∧ lines (c :: rest) = (c :: first) :: others := by
  obtain ⟨first, others, split⟩ := List.exists_cons_of_ne_nil (List.splitOn_ne_nil '\n' rest)
  refine ⟨first, others, split, ?_⟩
  rw [lines, List.splitOn_cons_eq_if_modifyHead, if_neg (by simpa using ordinary), split]
  rfl

namespace IsPlace

variable {line column : Nat}

theorem start (text : List Char) : IsPlace text 1 1 0 := by
  obtain ⟨first, others, split⟩ := List.exists_cons_of_ne_nil (List.splitOn_ne_nil '\n' text)
  exact ⟨Nat.le_refl 1, ⟨first, by rw [lines, split]; rfl, Nat.le_refl 1, Nat.le_add_left 1 _⟩, rfl⟩

/-- Behind a line break everything is one line further down. -/
theorem newline (place : IsPlace rest line column offset) :
    IsPlace ('\n' :: rest) (line + 1) column (1 + offset) := by
  obtain ⟨index, rfl⟩ := Nat.exists_eq_add_of_le' place.line_pos
  refine ⟨Nat.le_add_left 1 _, ?_, ?_⟩
  · rw [lines_newline]
    exact place.column_mem
  · have leads := place.offset_eq
    simp only [placeOffset, Nat.add_sub_cancel, lines_newline, List.take_succ_cons, List.map_cons,
      List.sum_cons, width_nil] at leads ⊢
    omega

/-- A place within a character that is no line break. -/
theorem inside (ordinary : c ≠ '\n') (rest : List Char) (within : offset < c.utf8Size) :
    IsPlace (c :: rest) 1 (offset + 1) offset := by
  obtain ⟨first, others, _, split⟩ := exists_lines_cons ordinary rest
  refine ⟨Nat.le_refl 1, ⟨c :: first, by rw [split]; rfl, Nat.le_add_left 1 _, ?_⟩, ?_⟩
  · rw [width_cons]
    omega
  · simp [placeOffset]

/-- A character in front of the first line moves what is on that line. -/
theorem firstLine (ordinary : c ≠ '\n') (place : IsPlace rest 1 column offset) :
    IsPlace (c :: rest) 1 (c.utf8Size + column) (c.utf8Size + offset) := by
  obtain ⟨first, others, before, after⟩ := exists_lines_cons ordinary rest
  obtain ⟨letters, found, low, high⟩ := place.column_mem
  rw [before] at found
  cases found
  refine ⟨Nat.le_refl 1, ⟨c :: first, by rw [after]; rfl, by omega, ?_⟩, ?_⟩
  · rw [width_cons]
    omega
  · have leads := place.offset_eq
    simp only [placeOffset, Nat.sub_self, List.take_zero, List.map_nil, List.sum_nil] at leads ⊢
    omega

/-- A character in front of the first line leaves the places on later lines as they are. -/
theorem laterLine (ordinary : c ≠ '\n') {index : Nat}
    (place : IsPlace rest (index + 2) column offset) :
    IsPlace (c :: rest) (index + 2) column (c.utf8Size + offset) := by
  obtain ⟨first, others, before, after⟩ := exists_lines_cons ordinary rest
  obtain ⟨letters, found, bounds⟩ := place.column_mem
  rw [before] at found
  refine ⟨Nat.le_add_left 1 _, ⟨letters, by rw [after]; exact found, bounds⟩, ?_⟩
  have leads := place.offset_eq
  simp only [placeOffset, Nat.add_succ_sub_one, before, after, List.take_succ_cons, List.map_cons,
    List.sum_cons, width_cons] at leads ⊢
  omega

end IsPlace

theorem lineAt_newline (rest : List Char) (offset : Nat) :
    lineAt ('\n' :: rest) (1 + offset) = lineAt rest offset + 1 := by
  rw [lineAt, breaksBefore_newline, List.length_cons, List.length_map, lineAt]

theorem columnAt_newline (rest : List Char) (offset : Nat) :
    columnAt ('\n' :: rest) (1 + offset) = columnAt rest offset := by
  rw [columnAt, breaksBefore_newline, List.getLast?_cons, List.getLast?_map, columnAt]
  cases (breaksBefore rest offset).getLast? with
  | none => exact Nat.add_comm 1 offset
  | some last => exact Nat.add_sub_add_left 1 offset last

theorem lineAt_ordinary (ordinary : c ≠ '\n') (rest : List Char) (offset : Nat) :
    lineAt (c :: rest) (c.utf8Size + offset) = lineAt rest offset := by
  rw [lineAt, breaksBefore_ordinary ordinary, List.length_map, lineAt]

theorem columnAt_ordinary (ordinary : c ≠ '\n') (rest : List Char) (offset : Nat) :
    columnAt (c :: rest) (c.utf8Size + offset) =
      if lineAt rest offset = 1 then c.utf8Size + columnAt rest offset else columnAt rest offset := by
  rw [columnAt, breaksBefore_ordinary ordinary, List.getLast?_map, columnAt, lineAt]
  rcases List.eq_nil_or_concat (breaksBefore rest offset) with none | ⟨init, last, some⟩
  · rw [none]
    rfl
  · simp [some, Nat.add_sub_add_left]

/-- Line and column of an offset in a text lead to that offset. -/
theorem isPlace_at (inside : offset ≤ width text) :
    IsPlace text (lineAt text offset) (columnAt text offset) offset := by
  induction text generalizing offset with
  | nil =>
      rw [width_nil, Nat.le_zero] at inside
      rw [inside]
      exact IsPlace.start []
  | cons c rest ih =>
      rw [width_cons] at inside
      by_cases line : c = '\n'
      · subst line
        cases offset with
        | zero => exact IsPlace.start _
        | succ offset =>
            have size : '\n'.utf8Size = 1 := rfl
            rw [Nat.add_comm, lineAt_newline, columnAt_newline]
            exact (ih (by omega)).newline
      · rcases Nat.lt_or_ge offset c.utf8Size with within | behind
        · have none := breaksBefore_inside line rest (Nat.le_of_lt within)
          rw [lineAt, columnAt, none]
          exact IsPlace.inside line rest within
        · obtain ⟨further, rfl⟩ := Nat.exists_eq_add_of_le behind
          have place : IsPlace rest (lineAt rest further) (columnAt rest further) further :=
            ih (by omega)
          rw [lineAt_ordinary line, columnAt_ordinary line]
          by_cases first : lineAt rest further = 1
          · rw [if_pos first, first]
            rw [first] at place
            exact place.firstLine line
          · obtain ⟨index, later⟩ : ∃ index, lineAt rest further = index + 2 :=
              Nat.exists_eq_add_of_le' (by have positive := place.line_pos; omega)
            rw [if_neg first, later]
            rw [later] at place
            exact place.laterLine line

end Lexing.Text
