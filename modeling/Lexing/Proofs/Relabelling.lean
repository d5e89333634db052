import Lexing.Proofs.LiveEntries
import Lexing.Proofs.Strict

/-! # Keywords and dropped comments come last

Where tokens lie and what is reported depends on the symbols and the comment marker alone. Which words
are keywords and whether comments are kept is decided on the tokens: under another lexicon with the
same symbols and marker each word is labelled anew, the comments are kept or dropped, and all else is
as it was. -/

namespace Lexing

/-- The token with its word, if it is one, labelled by the keywords of a lexicon. -/
def Token.relabel (lexicon : Lexicon) (token : Token) : Token :=
  { token with
    kind :=
      match token.kind with
      | .identifier | .keyword => if token.text ∈ lexicon.keywords then .keyword else .identifier
      | kind => kind }

/-- A token that a lexicon does not drop. -/
def Token.isKept (lexicon : Lexicon) (token : Token) : Bool :=
  lexicon.keepComments || token.kind != .comment

namespace Lexicon

/-- What a lexicon makes of the tokens of a text: each is labelled anew, and then comments are dropped
unless they are kept. -/
def select (lexicon : Lexicon) (tokens : List Token) : List Token :=
  (tokens.map (Token.relabel lexicon)).filter (Token.isKept lexicon)

/-- Two lexicons have the same marker and the same symbols, in whatever order. -/
structure CutsAlike (lexicon other : Lexicon) : Prop where
  marker : other.commentMarker = lexicon.commentMarker
  symbols : ∀ symbol, symbol ∈ other.symbols ↔ symbol ∈ lexicon.symbols

namespace CutsAlike

variable {lexicon other : Lexicon}

theorem symbolAt?_eq (alike : lexicon.CutsAlike other) (text : List Char) :
    other.symbolAt? text = lexicon.symbolAt? text := by
  refine Option.ext fun letters => ?_
  rw [symbolAt?_eq_some_iff, symbolAt?_eq_some_iff]
  refine Text.IsLongestPrefix.congr fun letters _ => ?_
  rw [alike.symbols]

theorem read_eq (alike : lexicon.CutsAlike other) (first : Char) (rest : List Char) :
    Lexeme.read other first rest = Lexeme.read lexicon first rest := by
  simp only [Lexeme.read, markerAt?, alike.marker, alike.symbolAt?_eq]

/-- Every text is cut alike, whatever the keywords are and whether or not comments are kept. -/
theorem reading_eq (alike : lexicon.CutsAlike other) (text : List Char) :
    Reading.ofText other text = Reading.ofText lexicon text :=
  Reading.ofText_congr (fun first rest _ => alike.read_eq first rest) text

end CutsAlike

end Lexicon

/-! ## Tokens -/

/-- The token of a segment under another lexicon is the token labelled anew. -/
theorem Segment.relabel_token (lexicon other : Lexicon) (origin : Nat) (segment : Segment) :
    (segment.token lexicon origin).relabel other = segment.token other origin := by
  obtain ⟨start, lexeme, followed⟩ := segment
  cases lexeme with
  | word letters =>
      simp only [Segment.token, Token.relabel, Lexeme.kind, Lexeme.text, Lexicon.wordKind,
        List.contains_iff_mem]
      by_cases keyword : String.ofList letters ∈ lexicon.keywords
      · rw [if_pos keyword]
      · rw [if_neg keyword]
  | _ => rfl

/-- A lexeme is kept exactly if its token is. -/
theorem Segment.isKept_token (lexicon : Lexicon) (origin : Nat) (segment : Segment) :
    (segment.token lexicon origin).isKept lexicon = segment.lexeme.isKept lexicon := by
  obtain ⟨start, lexeme, followed⟩ := segment
  cases lexeme with
  | comment marker body => simp [Token.isKept, Segment.token, Lexeme.kind, Lexeme.isKept]
  | word letters =>
      simp only [Token.isKept, Segment.token, Lexeme.kind, Lexeme.isKept, Lexicon.wordKind]
      split <;> simp
  | _ => simp [Token.isKept, Segment.token, Lexeme.kind, Lexeme.isKept]

/-- What a lexicon makes of all tokens of a reading are its own tokens of the reading. -/
theorem Reading.select_tokens (lexicon other : Lexicon) (keeps : lexicon.keepComments = true)
    (reading : Reading) (origin : Nat) :
    other.select (reading.tokens lexicon origin) = reading.tokens other origin := by
  rw [Lexicon.select, reading.tokens_of_keepComments keeps, List.map_map, List.filter_map, tokens]
  have kept : Token.isKept other ∘ (Token.relabel other ∘ Segment.token lexicon origin) =
      fun segment => segment.lexeme.isKept other := by
    funext segment
    rw [Function.comp_apply, Function.comp_apply, Segment.relabel_token, Segment.isKept_token]
  have relabelled : Token.relabel other ∘ Segment.token lexicon origin = Segment.token other origin :=
    funext (Segment.relabel_token lexicon other origin)
  rw [kept, relabelled]

/-! ## Calls -/

/-- The scanner at the same place of the same text, under another lexicon. -/
def Scanner.under (scanner : Scanner) (lexicon : Lexicon) : Scanner := { scanner with lexicon }

/-- What a lexicon makes of the outcome of a call: of the tokens, if there are any. What is left of the
text stays, and so does what was reported. -/
def Lexicon.selectOutcome (lexicon : Lexicon) :
    Except Overflow (List Token) × Scanner × Log → Except Overflow (List Token) × Scanner × Log
  | (result, scanner, log) => (result.map lexicon.select, scanner.under lexicon, log)

variable {lexicon other : Lexicon}

/-- The outcome under another lexicon is made of the one with comments kept, also where both overflow. -/
theorem Scanner.lex_under (alike : lexicon.CutsAlike other) (scanner : Scanner) (log : Log) :
    Scanner.lex (scanner.under other) log =
      other.selectOutcome (Scanner.lex (scanner.under (lexicon.keepingComments true)) log) := by
  have reading : Reading.ofText other scanner.rest =
      Reading.ofText (lexicon.keepingComments true) scanner.rest :=
    (alike.reading_eq scanner.rest).trans (Reading.ofText_keepingComments lexicon true _).symm
  have tokens := Reading.select_tokens (lexicon.keepingComments true) other rfl
    (Reading.ofText (lexicon.keepingComments true) scanner.rest) scanner.position
  have rest (lexicon : Lexicon) : (scanner.under lexicon).rest = scanner.rest := rfl
  have own (lexicon : Lexicon) : (scanner.under lexicon).lexicon = lexicon := rfl
  -- what fits depends on the place of the scanner alone
  have position (lexicon : Lexicon) : (scanner.under lexicon).position = scanner.position := rfl
  simp only [Scanner.lex_eq, rest, own, reading, position]
  split
  · exact congrArg (fun tokens => (Except.ok tokens, _, _)) tokens.symm
  · rfl

/-- A file that can be lexed with comments kept can be lexed under the other lexicon. -/
theorem Source.File.LexesTo.select {file : Source.File} {tokens : List Token}
    {reported : List Diagnostic} (alike : lexicon.CutsAlike other)
    (lexes : file.LexesTo (lexicon.keepingComments true) tokens reported) :
    file.LexesTo other (other.select tokens) reported := by
  intro log
  have outcome := Scanner.lex_under alike (.ofFile file (lexicon.keepingComments true)) log
  have same : (Scanner.ofFile file (lexicon.keepingComments true)).under
      (lexicon.keepingComments true) = .ofFile file (lexicon.keepingComments true) := rfl
  rw [same, lexes log] at outcome
  exact outcome

/-- Of two lexicons with the same marker and symbols, the outcome of every call under one of them is
made of the outcome under the other with comments kept: each word is labelled by the keywords, and then
comments are dropped unless they are kept; what is reported and where the scanner ends is the same. A
file in range is lexed so under both. -/
theorem Scanner.lex_relabelled (alike : lexicon.CutsAlike other) :
    (∀ (scanner : Scanner) (log : Log), Scanner.lex (scanner.under other) log =
      other.selectOutcome (Scanner.lex (scanner.under (lexicon.keepingComments true)) log)) ∧
    ∀ file : Source.File, file.InRange → ∃ tokens reported,
      file.LexesTo (lexicon.keepingComments true) tokens reported ∧
      file.LexesTo lexicon (lexicon.select tokens) reported ∧
      file.LexesTo other (other.select tokens) reported := by
  refine ⟨Scanner.lex_under alike, fun file inRange => ?_⟩
  have lexes := Source.File.lexesTo_of_inRange inRange (lexicon.keepingComments true)
  exact ⟨_, _, lexes, lexes.select ⟨rfl, fun _ => Iff.rfl⟩, lexes.select alike⟩

/-- Symbols in another order and again, other keywords, and a comment between words that is dropped
under the one lexicon and kept under the other. -/
theorem Scanner.lex_relabelled_swapped :
    Lexicon.CutsAlike ⟨["é"], ["<", "<<"], some "#", false⟩
        ⟨["let", "é"], ["<<", "<", "<<"], some "#", true⟩ ∧
      (Source.File.mk 2 "let <<<é#é\n'é").InRange ∧
      ∃ tokens reported,
        (Source.File.mk 2 "let <<<é#é\n'é").LexesTo ⟨["é"], ["<", "<<"], some "#", true⟩ tokens
          reported ∧
        (Source.File.mk 2 "let <<<é#é\n'é").LexesTo ⟨["é"], ["<", "<<"], some "#", false⟩
          (Lexicon.select ⟨["é"], ["<", "<<"], some "#", false⟩ tokens) reported ∧
        (Source.File.mk 2 "let <<<é#é\n'é").LexesTo
          ⟨["let", "é"], ["<<", "<", "<<"], some "#", true⟩
          (Lexicon.select ⟨["let", "é"], ["<<", "<", "<<"], some "#", true⟩ tokens) reported := by
  have alike : Lexicon.CutsAlike ⟨["é"], ["<", "<<"], some "#", false⟩
      ⟨["let", "é"], ["<<", "<", "<<"], some "#", true⟩ := by
    refine ⟨rfl, fun symbol => ?_⟩
    simp only [List.mem_cons, List.not_mem_nil, or_false]
    constructor
    · rintro (same | same | same) <;> simp [same]
    · rintro (same | same) <;> simp [same]
  exact ⟨alike, by decide, (Scanner.lex_relabelled alike).2 _ (by decide)⟩

end Lexing
