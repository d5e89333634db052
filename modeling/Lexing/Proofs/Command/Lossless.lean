import Lexing.Proofs.Command.Agreement
import Lexing.Proofs.Text.Unescape
import Mathlib.Data.List.Forall2

/-! # Listings are lossless

A listing of tokens is read back without the text that it was made from: its lines are the rows of
the listing, tabs and a colon divide a row, numbers are decimal, and what stands in the last part is
written without tabs and line breaks and can be unescaped. A listing of characters is read back line
by line, and gives all that is visible of the text. -/

namespace Lexing.Text

/-- Texts without line breaks, each on a line of its own, are the lines of what they make up. -/
theorem lines_flatMap {texts : List (List Char)} (within : ∀ text ∈ texts, '\n' ∉ text) :
    lines (texts.flatMap fun text => text ++ ['\n']) = texts ++ [[]] := by
  induction texts with
  | nil => rfl
  | cons first rest ih =>
      obtain ⟨here, others⟩ := List.forall_mem_cons.mp within
      rw [List.flatMap_cons, List.append_assoc, List.singleton_append, lines,
        List.splitOn_append_cons_self_of_not_mem here, ← lines, ih others, List.cons_append]

end Lexing.Text

/-- The name of a kind has neither tabs nor line breaks. -/
theorem Lexing.TokenKind.name_ordinary (kind : TokenKind) :
    '\t' ∉ kind.name.toList ∧ '\n' ∉ kind.name.toList := by
  cases kind <;> rw [TokenKind.name] <;> decide

namespace Lexing.Command

open Lexeme (Base)
open Source (File Registration Registry)
open Source.Registry (reached)

/-! ## Rows -/

/-- What a listing says of a token. -/
structure Row where
  line : ℕ
  column : ℕ
  kind : String
  text : String
  deriving DecidableEq, Repr

namespace Row

/-- The row of a token at a place. -/
def ofToken (location : Source.Location) (token : Token) : Row :=
  ⟨location.line, location.column, token.kind.name, token.text⟩

/-- A row is that of a token at the place where a registry locates it. -/
def Describes (registry : Registry) (row : Row) (token : Token) : Prop :=
  ∃ location, registry.locate token.position = .ok (some location) ∧ row = ofToken location token

/-- Line and column with a colon between them. -/
def place (row : Row) : List Char := Nat.toDigits 10 row.line ++ ':' :: Nat.toDigits 10 row.column

/-- The line of a row: place, kind and escaped text with tabs between them. -/
def letters (row : Row) : List Char :=
  row.place ++ '\t' :: (row.kind.toList ++ '\t' :: Text.Escape.text Text.Escape.listing row.text.toList)

/-- The row that a line is about, if it divides as the line of a row does. -/
def ofLetters? (letters : List Char) : Option Row :=
  match letters.splitOn '\t' with
  | [place, kind, text] =>
      match place.splitOn ':' with
      | [line, column] =>
          some ⟨Base.decimal.value line, Base.decimal.value column, String.ofList kind,
            String.ofList (Text.Escape.unescape text)⟩
      | _ => none
  | _ => none

/-- The rows of a listing. Lines that are not about a row are passed over. -/
def decode (listing : String) : List Row :=
  (Text.lines listing.toList).filterMap ofLetters?

variable {row : Row}

theorem notMem_place {c : Char} (notDigit : Base.decimal.digit? c = none) (notColon : c ≠ ':') :
    c ∉ row.place := by
  have outside (number : ℕ) : c ∉ Nat.toDigits 10 number :=
    @Base.notMem_toDigits .decimal c notDigit number
  rw [place, List.mem_append, List.mem_cons, not_or, not_or]
  exact ⟨outside row.line, notColon, outside row.column⟩

/-- Places are read back. -/
theorem splitOn_place :
    row.place.splitOn ':' = [Nat.toDigits 10 row.line, Nat.toDigits 10 row.column] := by
  have outside (number : ℕ) : ':' ∉ Nat.toDigits 10 number :=
    @Base.notMem_toDigits .decimal ':' (by decide) number
  rw [place, List.splitOn_append_cons_self_of_not_mem (outside row.line),
    List.splitOn_eq_singleton (outside row.column)]

theorem tab_notMem_text : '\t' ∉ Text.Escape.text Text.Escape.listing row.text.toList :=
  fun member => (Text.Escape.ordinary_of_mem_text _ _ _ member).1 rfl

/-- Rows are read back from their lines. -/
theorem ofLetters?_letters (plain : '\t' ∉ row.kind.toList) : ofLetters? row.letters = some row := by
  have line : Base.decimal.value (Nat.toDigits 10 row.line) = row.line :=
    Base.value_toDigits .decimal row.line
  have column : Base.decimal.value (Nat.toDigits 10 row.column) = row.column :=
    Base.value_toDigits .decimal row.column
  have parts : row.letters.splitOn '\t' = [row.place, row.kind.toList,
      Text.Escape.text Text.Escape.listing row.text.toList] := by
    rw [letters, List.splitOn_append_cons_self_of_not_mem (notMem_place (by decide) (by decide)),
      List.splitOn_append_cons_self_of_not_mem plain, List.splitOn_eq_singleton tab_notMem_text]
  simp only [ofLetters?, parts, splitOn_place, line, column, Text.Escape.unescape_text,
    String.ofList_toList]

/-- The tabs of a line are those between its parts. -/
theorem count_tab_letters (plain : '\t' ∉ row.kind.toList) : row.letters.count '\t' = 2 := by
  rw [letters, List.count_append, List.count_cons_self, List.count_append, List.count_cons_self,
    List.count_eq_zero.mpr (notMem_place (by decide) (by decide)), List.count_eq_zero.mpr plain,
    List.count_eq_zero.mpr tab_notMem_text]

theorem newline_notMem_letters (plain : '\n' ∉ row.kind.toList) : '\n' ∉ row.letters := by
  have outside : '\n' ∉ Text.Escape.text Text.Escape.listing row.text.toList :=
    fun member => (Text.Escape.ordinary_of_mem_text _ _ _ member).2 rfl
  have place : '\n' ∉ row.place := notMem_place (by decide) (by decide)
  simp [letters, place, plain, outside]

/-- A line opens with a digit, so its place is known. -/
theorem not_unknown_isPrefix_letters : ¬ "?:?".toList <+: row.letters := by
  rintro ⟨behind, whole⟩
  cases digits : Nat.toDigits 10 row.line with
  | nil => exact Nat.toDigits_ne_nil digits
  | cons first rest =>
      rw [letters, place, digits] at whole
      have question : first = '?' := (List.cons.inj whole).1.symm
      refine @Base.notMem_toDigits .decimal '?' (by decide) row.line ?_
      rw [← question]
      exact digits ▸ List.mem_cons_self

end Row

/-! ## Listings of tokens -/

/-- The line of a token at a known place is that of its row. -/
theorem toList_tokenLine (location : Source.Location) (token : Token) :
    (tokenLine (some location) token).toList = (Row.ofToken location token).letters ++ ['\n'] := by
  simp [tokenLine, placeText, Row.ofToken, Row.letters, Row.place, Text.Escape.line]

/-- The rows of a document. -/
def rows (document : Source.Document) (lexicon : Lexicon) : List Row :=
  let reading := Reading.ofText lexicon document.text.toList
  (reading.segments.filter fun segment => segment.lexeme.isKept lexicon).map fun segment =>
    Row.ofToken (document.locationAt segment.start) (segment.token lexicon 0)

variable (document : Source.Document) (lexicon : Lexicon)

theorem kind_ordinary_of_mem_rows :
    ∀ row ∈ rows document lexicon, '\t' ∉ row.kind.toList ∧ '\n' ∉ row.kind.toList := by
  intro row member
  obtain ⟨segment, -, rfl⟩ := List.mem_map.mp member
  exact TokenKind.name_ordinary _

/-- The lines of a listing are those of its rows, and the last one ends in a line break. -/
theorem lines_join_tokenLines :
    Text.lines (String.join (tokenLines document lexicon)).toList =
      (rows document lexicon).map Row.letters ++ [[]] := by
  have spelled : (String.join (tokenLines document lexicon)).toList =
      ((rows document lexicon).map Row.letters).flatMap fun text => text ++ ['\n'] := by
    rw [String.toList_join, tokenLines, rows, List.flatMap_map, List.map_map, List.flatMap_map]
    exact List.flatMap_congr fun segment _ => toList_tokenLine _ _
  rw [spelled, Text.lines_flatMap]
  intro text member
  obtain ⟨row, found, rfl⟩ := List.mem_map.mp member
  exact Row.newline_notMem_letters (kind_ordinary_of_mem_rows document lexicon row found).2

/-- The rows of a document are read back from its listing. -/
theorem decode_join_tokenLines :
    Row.decode (String.join (tokenLines document lexicon)) = rows document lexicon := by
  have last : [([] : List Char)].filterMap Row.ofLetters? = [] := by decide
  have each : ∀ row ∈ rows document lexicon, Row.ofLetters? row.letters = some row :=
    fun row member => Row.ofLetters?_letters (kind_ordinary_of_mem_rows document lexicon row member).1
  rw [Row.decode, lines_join_tokenLines, List.filterMap_append, last, List.append_nil]
  generalize rows document lexicon = rows at each
  induction rows with
  | nil => rfl
  | cons row rest ih =>
      obtain ⟨here, others⟩ := List.forall_mem_cons.mp each
      rw [List.map_cons, List.filterMap_cons_some here, ih others]

/-- The rows of a registered file describe its tokens one by one. -/
theorem forall₂_describes {before : List Registration} {call : Registration} {file : File}
    (returns : call.Returns (reached before) file)
    (inRange : (reached (before ++ [call])).next < Position.limit) (after : List Registration)
    (lexicon : Lexicon) :
    List.Forall₂ (Row.Describes (reached (before ++ call :: after)))
      (rows ⟨call.path, file.text⟩ lexicon) (file.tokens lexicon) := by
  rw [rows, File.tokens, Reading.tokens, List.forall₂_map_left_iff, List.forall₂_map_right_iff]
  refine List.forall₂_same.mpr fun segment kept => ?_
  have inside : segment.start ≤ Text.width file.text.toList :=
    Reading.start_le_of_mem (List.mem_filter.mp kept).1
  exact ⟨_, returns.locate_eq inRange after inside, rfl⟩

/-! ## Listings of characters -/

/-- The lines of a listing of characters are the escaped characters. -/
theorem lines_characterListing (tokens : List Char) :
    Text.lines (characterListing (tokens.map Char.toString)).toList =
      (tokens.map fun c => Text.Escape.text Text.Escape.listing [c]) ++ [[]] := by
  have spelled : (characterListing (tokens.map Char.toString)).toList =
      (tokens.map fun c => Text.Escape.text Text.Escape.listing [c]).flatMap
        fun text => text ++ ['\n'] := by
    rw [characterListing, String.toList_join, List.map_map, List.flatMap_map, List.flatMap_map]
    refine List.flatMap_congr fun c _ => ?_
    simp [Text.Escape.line, Char.toString]
  rw [spelled, Text.lines_flatMap]
  intro text member
  obtain ⟨c, -, rfl⟩ := List.mem_map.mp member
  exact fun line => (Text.Escape.ordinary_of_mem_text _ _ _ line).2 rfl

/-- What a plain run without `chars` writes of a registered file is a line for each token, with two tabs
and never question marks for a place, and is read back without the file: one decoder finds the line,
the column, the kind and the raw text of every token. A run with `chars` is clean, writes no
diagnostics, and writes a line for each visible character, which unescaped is that character. -/
theorem write_lossless (arguments : Arguments) (directory : String) :
    (arguments.chars = false → ∀ (before : List Registration) (call : Registration) (file : File)
      (after : List Registration), call.Returns (reached before) file →
      (reached (before ++ [call])).next < Position.limit →
        ∃ tokens reported rows written, file.LexesTo arguments.lexicon tokens reported ∧
          write { arguments with strict := false } directory (reached (before ++ call :: after)) file =
            .ok written ∧
          List.Forall₂ (Row.Describes (reached (before ++ call :: after))) rows tokens ∧
          Text.lines written.out.toList = rows.map Row.letters ++ [[]] ∧
          (∀ row ∈ rows, row.letters.count '\t' = 2 ∧ ¬ "?:?".toList <+: row.letters) ∧
          Row.decode written.out = rows) ∧
    (arguments.chars = true → ∀ (registry : Registry) (file : File),
      ∃ out lines, write arguments directory registry file = .ok ⟨true, out, ""⟩ ∧
        Text.lines out.toList = lines ++ [[]] ∧
        lines.map Text.Escape.unescape =
          (file.text.toList.filter fun c => !Character.isBlank c).map ([·]) ∧
        lines.flatMap Text.Escape.unescape =
          file.text.toList.filter fun c => !Character.isBlank c) := by
  refine ⟨?tokens, ?characters⟩
  case tokens =>
    intro scans before call file after returns inRange
    refine ⟨_, _, _, _, File.lexesTo_of_inRange (returns.file_inRange inRange) arguments.lexicon,
      write_eq returns inRange after directory { arguments with strict := false } scans,
      forall₂_describes returns inRange after arguments.lexicon,
      lines_join_tokenLines ⟨call.path, file.text⟩ arguments.lexicon, fun row member => ⟨?_, ?_⟩,
      decode_join_tokenLines ⟨call.path, file.text⟩ arguments.lexicon⟩
    · exact Row.count_tab_letters (kind_ordinary_of_mem_rows _ _ row member).1
    · exact Row.not_unknown_isPrefix_letters
  case characters =>
    intro chars registry file
    have unescaped (c : Char) :
        Text.Escape.unescape (Text.Escape.text Text.Escape.listing [c]) = [c] :=
      Text.Escape.unescape_text _ [c]
    have writes : write arguments directory registry file =
        .ok ⟨true, characterListing ((file.text.toList.filter fun c => !Character.isBlank c).map
          Char.toString), ""⟩ := by
      rw [write, if_pos chars, CharacterLexer.lex_ofText]
      rfl
    refine ⟨_, _, writes, lines_characterListing _, ?each, ?all⟩
    case each =>
      rw [List.map_map]
      exact List.map_congr_left fun c _ => unescaped c
    case all =>
      rw [List.flatMap_map, List.flatMap_congr fun c _ => unescaped c, List.flatMap_singleton']

/-- A symbol with a tab, a comment with a backslash and an unclosed string, behind another file; and
the same text read character by character. -/
theorem write_lossless_awkward :
    (Registration.add "g.y" "\t|\t //\\\n\"é").Returns (reached [.add "f.y" "x"]) ⟨2, "\t|\t //\\\n\"é"⟩ ∧
      (reached ([.add "f.y" "x"] ++ [.add "g.y" "\t|\t //\\\n\"é"])).next < Position.limit ∧
      (∃ tokens reported rows written,
        (File.mk 2 "\t|\t //\\\n\"é").LexesTo
          (Arguments.mk "g.y" false [] ["|\t"] false none false true true).lexicon tokens reported ∧
        write ⟨"g.y", false, [], ["|\t"], false, none, false, true, false⟩ "/"
            (reached [.add "f.y" "x", .add "g.y" "\t|\t //\\\n\"é"]) ⟨2, "\t|\t //\\\n\"é"⟩ =
          .ok written ∧
        List.Forall₂ (Row.Describes (reached [.add "f.y" "x", .add "g.y" "\t|\t //\\\n\"é"])) rows
          tokens ∧
        Row.decode written.out = rows) ∧
      ∃ out lines, write ⟨"g.y", true, [], [], false, none, false, false, false⟩ "/"
            (reached [.add "f.y" "x", .add "g.y" "\t|\t //\\\n\"é"]) ⟨2, "\t|\t //\\\n\"é"⟩ =
          .ok ⟨true, out, ""⟩ ∧
        Text.lines out.toList = lines ++ [[]] ∧
        lines.flatMap Text.Escape.unescape = ['|', '/', '/', '\\', '"', 'é'] := by
  have returns : (Registration.add "g.y" "\t|\t //\\\n\"é").Returns (reached [.add "f.y" "x"])
      ⟨2, "\t|\t //\\\n\"é"⟩ := .add _ _
  have inRange : (reached ([.add "f.y" "x"] ++ [.add "g.y" "\t|\t //\\\n\"é"])).next < Position.limit := by
    decide
  refine ⟨returns, inRange, ?tokens, ?characters⟩
  case tokens =>
    obtain ⟨tokens, reported, rows, written, lexes, writes, describes, -, -, decodes⟩ :=
      (write_lossless ⟨"g.y", false, [], ["|\t"], false, none, false, true, true⟩ "/").1 rfl _ _ _ []
        returns inRange
    exact ⟨tokens, reported, rows, written, lexes, writes, describes, decodes⟩
  case characters =>
    obtain ⟨out, lines, writes, lined, -, all⟩ :=
      (write_lossless ⟨"g.y", true, [], [], false, none, false, false, false⟩ "/").2 rfl
        (reached [.add "f.y" "x", .add "g.y" "\t|\t //\\\n\"é"]) ⟨2, "\t|\t //\\\n\"é"⟩
    exact ⟨out, lines, writes, lined, all.trans (by decide)⟩

end Lexing.Command
