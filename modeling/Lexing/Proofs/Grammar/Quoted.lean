import Lexing.Proofs.Context.Quoted
import Lexing.Proofs.Grammar.Number

/-! # The grammar of quoted literals

Between the quotes of a literal without faults stand items: characters for themselves, and escapes
that denote something. A string holds any number of them and a character literal exactly one. -/

namespace Lexing.Lexeme

open Text (MaximalRun)

/-- One item between two quotes of a kind. -/
inductive Item (quote : Char) : List Char → Prop where
  | plain {c : Char} (inside : c ≠ quote ∧ c ≠ '\n') (notEscape : c ≠ '\\') : Item quote [c]
  | named {letter : Char} (known : letter ∈ ['n', 'r', 't', '0', '\\', '\'', '"']) :
      Item quote ['\\', letter]
  | hexadecimal {high low : Char} (isHigh : Base.hexadecimal.HasDigit high)
      (isLow : Base.hexadecimal.HasDigit low) : Item quote ['\\', 'x', high, low]

/-- The texts of string literals. -/
inductive StringGrammar : List Char → Prop where
  | intro {items : List (List Char)} (each : ∀ item ∈ items, Item '"' item) :
      StringGrammar ('"' :: (items.flatten ++ ['"']))

/-- The texts of character literals. -/
inductive CharacterGrammar : List Char → Prop where
  | intro {item : List Char} (isItem : Item '\'' item) :
      CharacterGrammar ('\'' :: (item ++ ['\'']))

/-! ## Escapes -/

theorem isSome_escapeByte?_iff {letter : Char} :
    (escapeByte? letter).isSome = true ↔ letter ∈ ['n', 'r', 't', '0', '\\', '\'', '"'] := by
  unfold escapeByte?
  split <;> simp_all

theorem isNone_digitValue?_iff {c : Char} :
    (digitValue? c).isNone = false ↔ Base.hexadecimal.HasDigit c := by
  unfold digitValue?
  split
  · rename_i decimal
    exact iff_of_true rfl (Or.inl decimal)
  · rename_i notDecimal
    split
    · rename_i lower
      exact iff_of_true rfl (Or.inr (Or.inl lower))
    · rename_i notLower
      split
      · rename_i upper
        exact iff_of_true rfl (Or.inr (Or.inr upper))
      · rename_i notUpper
        exact iff_of_false (by decide) fun digit =>
          digit.elim notDecimal fun letter => letter.elim notLower notUpper

namespace Piece

/-- An escape without faults is an item, unless the end of the line cuts it short. -/
theorem item_readEscape (quote : Char) {text : List Char}
    (silent : (readEscape text).1.findings = []) :
    Item quote (readEscape text).1.text ∨ AtLineEnd (readEscape text).2 := by
  cases text with
  | nil => exact Or.inr fun _ impossible => by cases impossible
  | cons letter rest =>
      by_cases line : letter = '\n'
      · rw [readEscape, if_pos line]
        refine Or.inr fun c head => ?_
        cases head
        exact line
      · by_cases hexadecimal : letter = 'x'
        · rw [readEscape, if_neg line, if_pos hexadecimal] at silent ⊢
          rcases readHex_cases rest with ⟨high, low, after, rfl, isHigh, isLow⟩ |
            ⟨high, after, rfl, digit, stops⟩
          · refine Or.inl ?_
            simp only [readHex, isHigh, isLow]
            exact .hexadecimal (isNone_digitValue?_iff.mp isHigh) (isNone_digitValue?_iff.mp isLow)
          · rw [readHex_of_stop digit stops] at silent ⊢
            refine Or.inr fun c head => ?_
            cases after with
            | nil => cases head
            | cons next more => cases silent
        · rw [readEscape, if_neg line, if_neg hexadecimal] at silent ⊢
          refine Or.inl (.named (isSome_escapeByte?_iff.mp ?_))
          cases known : escapeByte? letter with
          | none => simp [findings, known] at silent
          | some byte => rfl

end Piece

/-- An item is read as a piece without faults, whatever follows it. -/
theorem Item.exists_piece {quote : Char} {item : List Char} (isItem : Item quote item) :
    ∃ piece : Piece, piece.text = item ∧ piece.findings = [] ∧
      ((∃ c, piece = .plain c ∧ (c ≠ quote ∧ c ≠ '\n') ∧ c ≠ '\\') ∨
        ∃ letters, item = '\\' :: letters ∧
          ∀ after, Piece.readEscape (letters ++ after) = (piece, after)) := by
  cases isItem with
  | @plain c inside notEscape =>
      exact ⟨.plain c, rfl, rfl, Or.inl ⟨c, rfl, inside, notEscape⟩⟩
  | @named letter known =>
      obtain ⟨byte, denoted⟩ := Option.isSome_iff_exists.mp (isSome_escapeByte?_iff.mpr known)
      refine ⟨.named letter, rfl, ?_, Or.inr ⟨[letter], rfl, fun after => ?_⟩⟩
      · rw [Piece.findings, denoted]
        rfl
      · have line : letter ≠ '\n' := fun same => by
          rw [same] at known
          exact absurd known (by decide)
        have hexadecimal : letter ≠ 'x' := fun same => by
          rw [same] at known
          exact absurd known (by decide)
        rw [List.singleton_append, Piece.readEscape, if_neg line, if_neg hexadecimal]
  | @hexadecimal high low isHigh isLow =>
      have digitHigh := isNone_digitValue?_iff.mpr isHigh
      have digitLow := isNone_digitValue?_iff.mpr isLow
      refine ⟨.hex high low, rfl, rfl, Or.inr ⟨['x', high, low], rfl, fun after => ?_⟩⟩
      simp [Piece.readEscape, Piece.readHex, digitHigh, digitLow]

/-! ## String literals -/

theorem pieceFindings_eq_nil_iff (offset : Nat) (pieces : List Piece) :
    pieceFindings offset [] pieces = [] ↔ ∀ piece ∈ pieces, piece.findings = [] := by
  induction pieces generalizing offset with
  | nil => simp [pieceFindings]
  | cons piece rest ih =>
      rw [pieceFindings, pieceFindings_append, List.append_eq_nil_iff, ih, List.forall_mem_cons]
      simp

/-- At the end of the line there are no pieces. -/
theorem PiecesOf.after_eq {text after : List Char} {found : List Piece}
    (fallen : PiecesOf text found after) (ends : AtLineEnd text) : after = text := by
  cases fallen with
  | stop stops => rfl
  | plain inside notEscape behind => exact absurd (Or.inr (ends _ rfl)) inside
  | escape behind => exact absurd (ends '\\' rfl) (by decide)

/-- Pieces without faults before a closing quote are items. -/
theorem PiecesOf.items {text after : List Char} {found : List Piece}
    (fallen : PiecesOf text found after) (closed : after.head? = some '"')
    (silent : ∀ piece ∈ found, piece.findings = []) :
    ∀ piece ∈ found, Item '"' piece.text := by
  induction fallen with
  | stop stops => exact fun piece member => absurd member List.not_mem_nil
  | plain inside notEscape behind ih =>
      obtain ⟨_, others⟩ := List.forall_mem_cons.mp silent
      exact List.forall_mem_cons.mpr ⟨.plain (not_or.mp inside) notEscape, ih closed others⟩
  | @escape rest after found behind ih =>
      obtain ⟨here, others⟩ := List.forall_mem_cons.mp silent
      refine List.forall_mem_cons.mpr ⟨?_, ih closed others⟩
      refine (Piece.item_readEscape '"' here).resolve_right fun ends => ?_
      rw [behind.after_eq ends] at closed
      exact absurd (ends '"' closed) (by decide)

/-- Items before a quote are read as pieces without faults, one for each item. -/
theorem PiecesOf.of_items {items : List (List Char)} (each : ∀ item ∈ items, Item '"' item)
    (rest : List Char) : ∃ found, PiecesOf (items.flatten ++ '"' :: rest) found ('"' :: rest) ∧
      (∀ piece ∈ found, piece.findings = []) ∧ found.map Piece.text = items := by
  induction items with
  | nil =>
      refine ⟨[], .stop fun c head => ?_, by simp, rfl⟩
      cases head
      exact Or.inl rfl
  | cons item items ih =>
      obtain ⟨isItem, others⟩ := List.forall_mem_cons.mp each
      obtain ⟨found, fallen, silent, texts⟩ := ih others
      obtain ⟨piece, spelled, silentHere, shape⟩ := isItem.exists_piece
      refine ⟨piece :: found, ?_, List.forall_mem_cons.mpr ⟨silentHere, silent⟩,
        congrArg₂ List.cons spelled texts⟩
      rw [List.flatten_cons, List.append_assoc]
      rcases shape with ⟨c, rfl, inside, notEscape⟩ | ⟨letters, rfl, read⟩
      · rw [← spelled]
        exact .plain (not_or.mpr inside) notEscape fallen
      · exact escape_of_read (read _) fallen

namespace StringLiteral

theorem findings_eq_nil_iff_pieces (literal : StringLiteral) :
    literal.findings = [] ↔
      (∀ piece ∈ literal.pieces, piece.findings = []) ∧ literal.closed = true := by
  rw [findings, List.append_eq_nil_iff, pieceFindings_eq_nil_iff]
  cases literal.closed <;> simp

/-- A closed string literal is what its pieces spell, between two quotes. -/
theorem text_mk_closed (pieces : List Piece) :
    StringLiteral.text ⟨pieces, true⟩ = '"' :: (pieces.flatMap Piece.text ++ ['"']) := rfl

/-- A string literal without faults is closed, and its pieces are items. -/
theorem exists_items_of_silent {text : List Char} (silent : (read text).findings = []) :
    ∃ found, read text = ⟨found, true⟩ ∧ ∀ piece ∈ found, Item '"' piece.text := by
  obtain ⟨silent, closed⟩ := (findings_eq_nil_iff_pieces _).mp silent
  obtain ⟨after, fallen⟩ := PiecesOf.exists_after text
  rw [fallen.read_eq] at silent closed ⊢
  dsimp only at silent closed
  rw [closed]
  exact ⟨_, rfl, fallen.items (by simpa using closed) silent⟩

/-- Items before a quote are read as a string literal without faults, one piece for each item. -/
theorem read_of_items {items : List (List Char)} (each : ∀ item ∈ items, Item '"' item)
    (rest : List Char) : ∃ found, read (items.flatten ++ '"' :: rest) = ⟨found, true⟩ ∧
      findings ⟨found, true⟩ = [] ∧ found.map Piece.text = items := by
  obtain ⟨found, fallen, silent, texts⟩ := PiecesOf.of_items each rest
  refine ⟨found, ?_, (findings_eq_nil_iff_pieces _).mpr ⟨silent, rfl⟩, texts⟩
  rw [fallen.read_eq]
  simp

/-- A string literal that is read has no fault exactly if its text is one of the grammar. -/
theorem findings_eq_nil_iff (text : List Char) :
    (read text).findings = [] ↔ StringGrammar (read text).text := by
  constructor
  · intro silent
    obtain ⟨found, reads, items⟩ := exists_items_of_silent silent
    rw [reads, text_mk_closed, List.flatMap_def]
    exact .intro (List.forall_mem_map.mpr items)
  · intro grammar
    obtain ⟨after, whole⟩ := read_text_isPrefix text
    generalize (read text).text = value at grammar whole
    cases grammar with
    | @intro items each =>
        obtain ⟨found, reads, silent, -⟩ := read_of_items each after
        have textEq : text = items.flatten ++ '"' :: after := by
          simpa using (List.cons.inj whole).2.symm
        rw [textEq, reads]
        exact silent

end StringLiteral

/-! ## Character literals -/

namespace CharacterLiteral

theorem findings_eq_nil_iff_parts (literal : CharacterLiteral) :
    literal.findings = [] ↔
      ∃ piece, literal = ⟨some piece, [], true⟩ ∧ piece.findings = [] := by
  obtain ⟨first, extra, closed⟩ := literal
  cases first <;> cases extra <;> cases closed <;> simp [findings]

/-- A first piece without faults is an item, unless the end of the line cuts it short. -/
theorem item_of_splitFirst {text rest : List Char} {piece : Piece}
    (split : splitFirst text = (some piece, rest)) (silent : piece.findings = []) :
    Item '\'' piece.text ∨ AtLineEnd rest := by
  cases text with
  | nil => cases split
  | cons first others =>
      by_cases stops : first = '\'' ∨ first = '\n'
      · rw [splitFirst, if_pos stops] at split
        cases split
      · by_cases escape : first = '\\'
        · rw [splitFirst, if_neg stops, if_pos escape] at split
          cases split
          exact Piece.item_readEscape '\'' silent
        · rw [splitFirst, if_neg stops, if_neg escape] at split
          cases split
          exact Or.inl (.plain (not_or.mp stops) escape)

/-- An item is the first piece of a text that opens with it. -/
theorem splitFirst_of_item {item : List Char} (isItem : Item '\'' item) (after : List Char) :
    ∃ piece, splitFirst (item ++ after) = (some piece, after) ∧ piece.text = item ∧
      piece.findings = [] := by
  obtain ⟨piece, spelled, silent, shape⟩ := isItem.exists_piece
  refine ⟨piece, ?_, spelled, silent⟩
  rcases shape with ⟨c, rfl, inside, notEscape⟩ | ⟨letters, rfl, read⟩
  · rw [← spelled, Piece.text, List.singleton_append, splitFirst, if_neg (not_or.mpr inside),
      if_neg notEscape]
  · rw [List.cons_append, splitFirst, if_neg (by decide), if_pos rfl, read]

/-- An item before a quote is read as a character literal without faults. -/
theorem read_of_item {item : List Char} (isItem : Item '\'' item) (rest : List Char) :
    ∃ piece, read (item ++ '\'' :: rest) = ⟨some piece, [], true⟩ ∧ piece.text = item ∧
      piece.findings = [] := by
  obtain ⟨piece, split, spelled, silent⟩ := splitFirst_of_item isItem ('\'' :: rest)
  have run : MaximalRun inside [] ('\'' :: rest) := .of_stop (by simp) (by decide)
  exact ⟨piece, read_eq [] split run, spelled, silent⟩

/-- A character literal that is read has no fault exactly if its text is one of the grammar. -/
theorem findings_eq_nil_iff (text : List Char) :
    (read text).findings = [] ↔ CharacterGrammar (read text).text := by
  rw [findings_eq_nil_iff_parts]
  constructor
  · obtain ⟨piece, extra, left, split, run, parts⟩ := exists_split text
    rw [read_eq extra split run]
    rintro ⟨only, same, silent⟩
    obtain ⟨rfl, rfl, closed⟩ := CharacterLiteral.mk.inj same
    have item := (item_of_splitFirst split silent).resolve_right fun ends =>
      absurd (ends '\'' (by simpa using closed)) (by decide)
    rw [closed, CharacterLiteral.text, body, List.append_nil]
    exact .intro item
  · intro grammar
    obtain ⟨after, whole⟩ := read_text_isPrefix text
    generalize (read text).text = value at grammar whole
    cases grammar with
    | @intro item isItem =>
        have textEq : text = item ++ '\'' :: after := by
          simpa using (List.cons.inj whole).2.symm
        obtain ⟨piece, reads, -, silent⟩ := read_of_item isItem after
        rw [textEq]
        exact ⟨piece, reads, silent⟩

end CharacterLiteral

end Lexing.Lexeme
