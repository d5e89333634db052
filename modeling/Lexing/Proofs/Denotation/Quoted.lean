import Lexing.Proofs.Digits
import Lexing.Proofs.Grammar.Quoted
import Lexing.Proofs.Lines

/-! # What quoted literals denote

Many spellings denote one sequence of bytes: a character stands for its UTF-8 form, the escapes of a
table for one byte each, and two hexadecimal digits of either case for any byte. What is read of a
spelling is what it denotes, whatever follows it, and nothing is reported. Conversely every quoted
literal about which nothing is reported is such a spelling of what it denotes. -/

namespace Lexing

open Lexeme
open Text (MaximalRun)

/-! ## Spellings -/

/-- What one item between quotes stands for. -/
inductive Meaning where
  | letter (c : Char)
  | byte (value : UInt8)

namespace Meaning

/-- In a string a character stands for its UTF-8 form. -/
def bytes : Meaning → List UInt8
  | .letter c => String.utf8EncodeChar c
  | .byte value => [value]

/-- In a character literal a byte stands for the character of that code point. -/
def character : Meaning → Char
  | .letter c => c
  | .byte value => Char.ofNat value.toNat

end Meaning

/-- The letters of escapes, each with its byte. -/
def namedBytes : List (Char × UInt8) :=
  [('n', 0x0A), ('r', 0x0D), ('t', 0x09), ('0', 0x00), ('\\', 0x5C), ('\'', 0x27), ('"', 0x22)]

/-- One item between two quotes of a kind, and what it stands for. -/
inductive Spells (quote : Char) : List Char → Meaning → Prop where
  | plain {c : Char} (inside : c ≠ quote ∧ c ≠ '\n' ∧ c ≠ '\\') : Spells quote [c] (.letter c)
  | named {letter : Char} {value : UInt8} (listed : (letter, value) ∈ namedBytes) :
      Spells quote ['\\', letter] (.byte value)
  | hexadecimal {high low : Char} (isHigh : Base.hexadecimal.HasDigit high)
      (isLow : Base.hexadecimal.HasDigit low) :
      Spells quote ['\\', 'x', high, low]
        (.byte (UInt8.ofNat (Base.hexadecimal.written [high, low])))

/-- Items in a row between double quotes, and the bytes that they stand for together. -/
inductive SpellsBytes : List Char → List UInt8 → Prop where
  | nil : SpellsBytes [] []
  | cons {item body : List Char} {meaning : Meaning} {bytes : List UInt8}
      (first : Spells '"' item meaning) (rest : SpellsBytes body bytes) :
      SpellsBytes (item ++ body) (meaning.bytes ++ bytes)

/-- A quoted spelling, and the kind of the token that it spells: any number of items between double
quotes, or one item between single quotes. -/
inductive SpellsQuoted : List Char → TokenKind → Prop where
  | string {body : List Char} {bytes : List UInt8} (items : SpellsBytes body bytes) :
      SpellsQuoted ('"' :: (body ++ ['"'])) (.string bytes)
  | character {item : List Char} {meaning : Meaning} (single : Spells '\'' item meaning) :
      SpellsQuoted ('\'' :: (item ++ ['\''])) (.character meaning.character)

namespace Spells

variable {quote : Char} {letters : List Char} {meaning other : Meaning}

theorem item (spells : Spells quote letters meaning) : Item quote letters := by
  cases spells with
  | plain inside => exact .plain ⟨inside.1, inside.2.1⟩ inside.2.2
  | named listed =>
      have known : ∀ entry ∈ namedBytes, entry.1 ∈ ['n', 'r', 't', '0', '\\', '\'', '"'] := by decide
      exact .named (known _ listed)
  | hexadecimal isHigh isLow => exact .hexadecimal isHigh isLow

/-- An item stands for one thing. -/
theorem unique (spells : Spells quote letters meaning) (spellsToo : Spells quote letters other) :
    meaning = other := by
  cases spells with
  | plain inside =>
      cases spellsToo with
      | plain insideToo => rfl
  | named listed =>
      cases spellsToo with
      | named listedToo =>
          have single : ∀ entry ∈ namedBytes, ∀ twin ∈ namedBytes, entry.1 = twin.1 →
              entry.2 = twin.2 := by decide
          exact congrArg Meaning.byte (single _ listed _ listedToo rfl)
  | hexadecimal isHigh isLow =>
      cases spellsToo with
      | hexadecimal isHighToo isLowToo => rfl

end Spells

/-! ## Items and pieces -/

namespace Lexeme

theorem mem_namedBytes_iff {letter : Char} {value : UInt8} :
    (letter, value) ∈ namedBytes ↔ escapeByte? letter = some value := by
  constructor
  · intro listed
    have all : ∀ entry ∈ namedBytes, escapeByte? entry.1 = some entry.2 := by decide
    exact all _ listed
  · intro denoted
    unfold escapeByte? at denoted
    split at denoted <;> cases denoted <;> decide

namespace Piece

/-- An escape that denotes a byte stands for that byte. -/
theorem stands_of_byte? {piece : Piece} {value : UInt8} (denoted : piece.byte? = some value) :
    piece.bytes = (Meaning.byte value).bytes ∧
      piece.character = (Meaning.byte value).character := by
  cases piece with
  | plain c => cases denoted
  | _ => 
      simp only [bytes, character, denoted]
      exact ⟨rfl, rfl⟩

theorem exists_digitValue? {c : Char} (digit : Base.hexadecimal.HasDigit c) :
    ∃ value, digitValue? c = some value ∧ Base.hexadecimal.digit? c = some value := by
  obtain ⟨value, known⟩ := Option.isSome_iff_exists.mp (Base.isSome_digit?_iff.mpr digit)
  exact ⟨value, (Option.filter_eq_some_iff.mp known).1, known⟩

/-- The digits of a hexadecimal escape write its byte. -/
theorem byte?_hex {high low : Char} (isHigh : Base.hexadecimal.HasDigit high)
    (isLow : Base.hexadecimal.HasDigit low) :
    (hex high low).byte? = some (UInt8.ofNat (Base.hexadecimal.written [high, low])) := by
  obtain ⟨first, firstValue, firstDigit⟩ := exists_digitValue? isHigh
  obtain ⟨second, secondValue, secondDigit⟩ := exists_digitValue? isLow
  have places : [high, low].filterMap Base.hexadecimal.digit? = [first, second] := by
    rw [List.filterMap_cons_some firstDigit, List.filterMap_cons_some secondDigit,
      List.filterMap_nil]
  have written : Base.hexadecimal.written [high, low] = 16 * first + second := by
    rw [← Base.value_eq_written, Base.value, places]
    simp only [List.foldl_cons, List.foldl_nil, Base.radix]
    omega
  rw [written, byte?, firstValue, secondValue]
  rfl

/-- A piece whose text is an item stands for what the item does. -/
theorem exists_spells {quote : Char} {piece : Piece} (isItem : Item quote piece.text) :
    ∃ meaning, Spells quote piece.text meaning ∧ piece.bytes = meaning.bytes ∧
      piece.character = meaning.character := by
  cases piece with
  | plain c =>
      cases isItem with
      | plain inside notEscape =>
          exact ⟨.letter c, .plain ⟨inside.1, inside.2, notEscape⟩, rfl, rfl⟩
  | named letter =>
      cases isItem with
      | named known =>
          obtain ⟨value, denoted⟩ := Option.isSome_iff_exists.mp (isSome_escapeByte?_iff.mpr known)
          exact ⟨.byte value, .named (mem_namedBytes_iff.mpr denoted), stands_of_byte? denoted⟩
  | hex high low =>
      cases isItem with
      | hexadecimal isHigh isLow =>
          exact ⟨_, .hexadecimal isHigh isLow, stands_of_byte? (byte?_hex isHigh isLow)⟩
  | brokenHex high stop =>
      -- an escape that lacks a digit is no item
      cases high with
      | none =>
          cases isItem with
          | named known => exact absurd known (by decide)
      | some high => cases isItem
  | dangling =>
      cases isItem with
      | plain inside notEscape => exact absurd rfl notEscape

end Piece

end Lexeme

/-- A piece stands for what its text does. -/
theorem Spells.stands {quote : Char} {piece : Piece} {meaning : Meaning}
    (spells : Spells quote piece.text meaning) :
    piece.bytes = meaning.bytes ∧ piece.character = meaning.character := by
  obtain ⟨stood, spellsToo, stands⟩ := Piece.exists_spells spells.item
  rw [spells.unique spellsToo]
  exact stands

/-! ## String literals -/

namespace SpellsBytes

/-- Items in a row stand for the bytes of the pieces that have their texts. -/
theorem exists_items {body : List Char} {bytes : List UInt8} (spelled : SpellsBytes body bytes) :
    ∃ items : List (List Char), body = items.flatten ∧ (∀ item ∈ items, Item '"' item) ∧
      ∀ pieces : List Piece, pieces.map Piece.text = items → pieces.flatMap Piece.bytes = bytes := by
  induction spelled with
  | nil =>
      refine ⟨[], rfl, by simp, fun pieces none => ?_⟩
      rw [List.map_eq_nil_iff.mp none, List.flatMap_nil]
  | @cons item body meaning bytes first rest ih =>
      obtain ⟨items, rfl, each, denoted⟩ := ih
      refine ⟨item :: items, rfl, List.forall_mem_cons.mpr ⟨first.item, each⟩, fun pieces same => ?_⟩
      obtain ⟨piece, others, rfl, here, behind⟩ := List.map_eq_cons_iff.mp same
      rw [← here] at first
      rw [List.flatMap_cons, first.stands.1, denoted others behind]

theorem of_pieces {pieces : List Piece} (each : ∀ piece ∈ pieces, Item '"' piece.text) :
    SpellsBytes (pieces.flatMap Piece.text) (pieces.flatMap Piece.bytes) := by
  induction pieces with
  | nil => exact .nil
  | cons piece rest ih =>
      obtain ⟨here, others⟩ := List.forall_mem_cons.mp each
      obtain ⟨meaning, spells, bytes, -⟩ := Piece.exists_spells here
      rw [List.flatMap_cons, List.flatMap_cons, bytes]
      exact .cons spells (ih others)

end SpellsBytes

namespace Lexeme

/-- A spelling between double quotes is read whole, as what it denotes and without faults. -/
theorem StringLiteral.read_of_spells {body : List Char} {bytes : List UInt8}
    (spelled : SpellsBytes body bytes) (rest : List Char) :
    (read (body ++ '"' :: rest)).text = '"' :: (body ++ ['"']) ∧
      (read (body ++ '"' :: rest)).bytes = bytes ∧ (read (body ++ '"' :: rest)).findings = [] := by
  obtain ⟨items, rfl, each, denoted⟩ := spelled.exists_items
  obtain ⟨found, reads, silent, texts⟩ := read_of_items each rest
  rw [reads, text_mk_closed, List.flatMap_def, texts]
  exact ⟨rfl, denoted found texts, silent⟩

/-- A string literal that is read has no fault exactly if its text spells what it denotes. -/
theorem StringLiteral.findings_eq_nil_iff_spells (text : List Char) :
    (read text).findings = [] ↔ SpellsQuoted (read text).text (.string (read text).bytes) := by
  constructor
  · intro silent
    obtain ⟨found, reads, items⟩ := exists_items_of_silent silent
    rw [reads, text_mk_closed]
    exact .string (.of_pieces items)
  · intro spelled
    rw [findings_eq_nil_iff]
    generalize (read text).text = value at spelled
    cases spelled with
    | string spelled =>
        obtain ⟨items, rfl, each, -⟩ := spelled.exists_items
        exact .intro each

/-! ## Character literals -/

/-- An item between single quotes is read whole, as what it denotes and without faults. -/
theorem CharacterLiteral.read_of_spells {item : List Char} {meaning : Meaning}
    (spelled : Spells '\'' item meaning) (rest : List Char) :
    (read (item ++ '\'' :: rest)).text = '\'' :: (item ++ ['\'']) ∧
      (read (item ++ '\'' :: rest)).value = meaning.character ∧
      (read (item ++ '\'' :: rest)).findings = [] := by
  obtain ⟨piece, reads, text, silent⟩ := read_of_item spelled.item rest
  rw [reads]
  rw [← text] at spelled ⊢
  refine ⟨?text, spelled.stands.2, ?silent⟩
  case text => simp [CharacterLiteral.text, body, firstText, closing]
  case silent => exact (findings_eq_nil_iff_parts _).mpr ⟨piece, rfl, silent⟩

/-- A character literal that is read has no fault exactly if its text spells what it denotes. -/
theorem CharacterLiteral.findings_eq_nil_iff_spells (text : List Char) :
    (read text).findings = [] ↔ SpellsQuoted (read text).text (.character (read text).value) := by
  rw [findings_eq_nil_iff]
  constructor
  · intro grammar
    obtain ⟨after, whole⟩ := read_text_isPrefix text
    generalize (read text).text = value at grammar whole ⊢
    cases grammar with
    | @intro item isItem =>
        have textEq : text = item ++ '\'' :: after := by
          simpa using (List.cons.inj whole).2.symm
        obtain ⟨piece, rfl, -, -⟩ := isItem.exists_piece
        obtain ⟨meaning, spelled, -⟩ := Piece.exists_spells isItem
        rw [textEq, (read_of_spells spelled after).2.1]
        exact .character spelled
  · intro spelled
    generalize (read text).text = value at spelled
    generalize (read text).value = denoted at spelled
    cases spelled with
    | character single => exact .intro single.item

/-! ## Quoted lexemes -/

/-- A quoted spelling is read whole where no comment opens, as what it spells and without faults. -/
theorem exists_read_of_spells {lexicon : Lexicon} {quoted rest : List Char} {kind : TokenKind}
    (spelled : SpellsQuoted quoted kind) (unmarked : lexicon.markerAt? (quoted ++ rest) = none) :
    ∃ first behind, quoted ++ rest = first :: behind ∧ Character.isBlank first = false ∧
      (read lexicon first behind).text = quoted ∧
      (read lexicon first behind).kind lexicon = kind ∧
      (read lexicon first behind).findings = [] := by
  cases spelled with
  | @string body bytes items =>
      have whole : '"' :: (body ++ ['"']) ++ rest = '"' :: (body ++ '"' :: rest) := by simp
      rw [whole] at unmarked ⊢
      obtain ⟨text, denoted, silent⟩ := StringLiteral.read_of_spells items rest
      have reads : read lexicon '"' (body ++ '"' :: rest) =
          .string (StringLiteral.read (body ++ '"' :: rest)) := by
        rw [read_of_unmarked unmarked, if_neg (by decide), if_neg (by decide), if_pos rfl]
      refine ⟨'"', _, rfl, by decide, ?_⟩
      rw [reads]
      exact ⟨text, congrArg TokenKind.string denoted, silent⟩
  | @character item meaning single =>
      have whole : '\'' :: (item ++ ['\'']) ++ rest = '\'' :: (item ++ '\'' :: rest) := by simp
      rw [whole] at unmarked ⊢
      obtain ⟨text, denoted, silent⟩ := CharacterLiteral.read_of_spells single rest
      have reads : read lexicon '\'' (item ++ '\'' :: rest) =
          .character (CharacterLiteral.read (item ++ '\'' :: rest)) := by
        rw [read_of_unmarked unmarked, if_neg (by decide), if_pos rfl]
      refine ⟨'\'', _, rfl, by decide, ?_⟩
      rw [reads]
      exact ⟨text, congrArg TokenKind.character denoted, silent⟩

end Lexeme

/-- The kinds of quoted literals. -/
def TokenKind.isQuoted : TokenKind → Bool
  | .string _ => true
  | .character _ => true
  | _ => false

/-- A quoted literal that is read has no fault exactly if its text spells what it denotes. -/
theorem Lexeme.findings_eq_nil_iff_spellsQuoted {lexicon : Lexicon} {first : Char} {rest : List Char}
    (quoted : ((read lexicon first rest).kind lexicon).isQuoted = true) :
    (read lexicon first rest).findings = [] ↔
      SpellsQuoted (read lexicon first rest).text ((read lexicon first rest).kind lexicon) := by
  revert quoted
  refine read_cases lexicon first rest ?comment ?word ?character ?string ?number ?symbol ?invalid
  case character => exact fun _ _ => CharacterLiteral.findings_eq_nil_iff_spells rest
  case string => exact fun _ _ => StringLiteral.findings_eq_nil_iff_spells rest
  case word =>
    intro _ quoted
    rw [kind, Lexicon.wordKind] at quoted
    split at quoted <;> cases quoted
  all_goals
    intros
    contradiction

/-! ## Quoted tokens -/

namespace Reading

variable {lexicon : Lexicon} {first : Char} {rest after : List Char}

/-- A text that opens with a visible character has the lexeme read there, and then the segments of
what the lexeme leaves. -/
theorem segments_of_visible (visible : Character.isBlank first = false)
    (whole : (Lexeme.read lexicon first rest).text ++ after = first :: rest) :
    (ofText lexicon (first :: rest)).segments =
      ⟨0, Lexeme.read lexicon first rest, !after.isEmpty⟩ ::
        (ofText lexicon after).segments.map
          (Segment.shift (Text.width (Lexeme.read lexicon first rest).text)) := by
  have gap : MaximalRun Character.isBlank [] (first :: rest) := .of_stop (by simp) visible
  have behind := (segmentation lexicon 0 after).shift
    (Text.width (Lexeme.read lexicon first rest).text)
  have start : Text.width (Lexeme.read lexicon first rest).text + 0 =
      0 + Text.width [] + Text.width (Lexeme.read lexicon first rest).text := by
    rw [Nat.add_comm, Text.width_nil]
  rw [start] at behind
  have segmented := Segmentation.lexeme gap whole behind
  exact congrArg segments segmented.readAfter_eq

theorem tokens_of_visible (visible : Character.isBlank first = false)
    (whole : (Lexeme.read lexicon first rest).text ++ after = first :: rest)
    (kept : (Lexeme.read lexicon first rest).isKept lexicon = true) (origin : Nat) :
    (ofText lexicon (first :: rest)).tokens lexicon origin =
      ⟨(Lexeme.read lexicon first rest).kind lexicon,
        String.ofList (Lexeme.read lexicon first rest).text, origin⟩ ::
      (ofText lexicon after).tokens lexicon
        (origin + Text.width (Lexeme.read lexicon first rest).text) := by
  rw [tokens, segments_of_visible visible whole, List.filter_cons, if_pos kept, List.map_cons,
    List.filter_map, List.map_map, tokens]
  refine congrArg₂ List.cons rfl (List.map_congr_left fun segment _ => ?_)
  exact segment.token_shift lexicon origin _

theorem diagnostics_of_visible (visible : Character.isBlank first = false)
    (whole : (Lexeme.read lexicon first rest).text ++ after = first :: rest)
    (silent : (Lexeme.read lexicon first rest).findings = []) (origin : Nat) :
    (ofText lexicon (first :: rest)).diagnostics origin =
      (ofText lexicon after).diagnostics
        (origin + Text.width (Lexeme.read lexicon first rest).text) := by
  rw [diagnostics_eq, segments_of_visible visible whole, List.flatMap_cons,
    (Segment.diagnostics_eq_nil_iff origin _).mpr silent, List.nil_append, List.flatMap_map]
  simp only [Segment.diagnostics_shift, diagnostics_eq]

end Reading

theorem SpellsQuoted.isQuoted {quoted : List Char} {kind : TokenKind}
    (spelled : SpellsQuoted quoted kind) : kind.isQuoted = true := by
  cases spelled <;> rfl

theorem Lexeme.isKept_of_isQuoted {lexicon : Lexicon} {lexeme : Lexeme}
    (quoted : (lexeme.kind lexicon).isQuoted = true) : lexeme.isKept lexicon = true := by
  cases lexeme with
  | comment marker body => cases quoted
  | _ => rfl

/-- A file that opens with a quoted spelling, and with no comment, has the token that it spells and
then the tokens of the rest of the file, where that stands; nothing is reported but what is reported
of the rest. Of the tokens of any text, a quoted literal about which its own part of the reading
reports nothing is a spelling of what it denotes, and every such spelling is silent. -/
theorem Scanner.lex_quoted (lexicon : Lexicon) :
    (∀ quoted kind, SpellsQuoted quoted.toList kind → ∀ origin rest,
      (∀ marker, lexicon.commentMarker = some marker → marker ≠ "" →
        ¬ marker.toList <+: (quoted ++ rest).toList) →
      (Source.File.mk origin (quoted ++ rest)).InRange →
        ∃ others reported,
          (Source.File.mk (origin + quoted.utf8ByteSize) rest).LexesTo lexicon others reported ∧
          (Source.File.mk origin (quoted ++ rest)).LexesTo lexicon (⟨kind, quoted, origin⟩ :: others)
            reported) ∧
    ∀ text, ∀ segment ∈ (Reading.ofText lexicon text).segments, ∀ origin,
      (segment.token lexicon origin).kind.isQuoted = true →
        (segment.diagnostics origin = [] ↔
          SpellsQuoted (segment.token lexicon origin).text.toList
            (segment.token lexicon origin).kind) := by
  refine ⟨?decodes, ?spells⟩
  case decodes =>
    intro quoted kind spelled origin rest unmarked inRange
    have none : lexicon.markerAt? (quoted.toList ++ rest.toList) = none := by
      rw [Option.eq_none_iff_forall_ne_some]
      intro found marked
      obtain ⟨marker, given, nonempty, isPrefix, -⟩ := Lexicon.markerAt?_eq_some_iff.mp marked
      rw [← String.toList_append] at isPrefix
      exact unmarked marker given nonempty isPrefix
    obtain ⟨first, behind, whole, visible, text, isKind, silent⟩ :=
      Lexeme.exists_read_of_spells spelled none
    have room : (Source.File.mk (origin + quoted.utf8ByteSize) rest).InRange := by
      simp only [Source.File.InRange, String.utf8ByteSize_append] at inRange ⊢
      omega
    have size : Text.width quoted.toList = quoted.utf8ByteSize := Text.width_toList quoted
    have kept : (Lexeme.read lexicon first behind).isKept lexicon = true :=
      Lexeme.isKept_of_isQuoted (isKind.symm ▸ spelled.isQuoted)
    have left : (Lexeme.read lexicon first behind).text ++ rest.toList = first :: behind := by
      rw [text, whole]
    have tokens := Reading.tokens_of_visible visible left kept origin
    have diagnostics := Reading.diagnostics_of_visible visible left silent origin
    rw [← whole, ← String.toList_append, text, size] at tokens diagnostics
    rw [isKind, String.ofList_toList] at tokens
    have lexes := Source.File.lexesTo_of_inRange inRange lexicon
    rw [Source.File.tokens, Source.File.diagnostics, Source.File.reading, tokens, diagnostics] at lexes
    exact ⟨_, _, Source.File.lexesTo_of_inRange room lexicon, lexes⟩
  case spells =>
    intro text segment member origin quoted
    rw [Segment.diagnostics_eq_nil_iff, Segment.text_token]
    cases Reading.standsIn_of_mem member with
    | intro before first rest after visible whole =>
        exact Lexeme.findings_eq_nil_iff_spellsQuoted quoted

/-- A string of a named escape, a hexadecimal one of both cases and a character, before what looks like
a comment in another quote. -/
theorem Scanner.lex_quoted_mixed :
    SpellsQuoted "\"\\n\\xCfé\"".toList (.string [10, 207, 195, 169]) ∧
      (Source.File.mk 3 ("\"\\n\\xCfé\"" ++ "'//")).InRange ∧
      ∃ others reported,
        (Source.File.mk 13 "'//").LexesTo .standard others reported ∧
        (Source.File.mk 3 ("\"\\n\\xCfé\"" ++ "'//")).LexesTo .standard
          (⟨.string [10, 207, 195, 169], "\"\\n\\xCfé\"", 3⟩ :: others) reported := by
  have isHigh : Base.hexadecimal.HasDigit 'C' := Or.inr (Or.inr (by decide))
  have isLow : Base.hexadecimal.HasDigit 'f' := Or.inr (Or.inl (by decide))
  have spelled : SpellsQuoted "\"\\n\\xCfé\"".toList (.string [10, 207, 195, 169]) :=
    .string (.cons (@Spells.named '"' 'n' 10 (by decide)) (.cons (.hexadecimal isHigh isLow)
      (.cons (@Spells.plain '"' 'é' (by decide)) .nil)))
  refine ⟨spelled, by decide, ?_⟩
  refine (Scanner.lex_quoted .standard).1 _ _ spelled 3 "'//" ?unmarked (by decide)
  case unmarked =>
    rintro marker given -
    cases given
    decide

end Lexing
