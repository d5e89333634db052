import Lexing.Proofs.Context.Lexeme
import Lexing.Proofs.Grammar.Quoted
import Lexing.Proofs.Scanner

/-! # Strict lexing accepts the well-formed texts

A token is well formed if its text is one that the grammar of its kind allows. A file is lexed
without a fault exactly if all of its tokens are well formed, so a strict call, which fails on any
fault, accepts exactly the files whose tokens all are. -/

namespace Lexing

/-- What the grammar asks of the text of a token of a kind. -/
def TokenKind.Admits : TokenKind → List Char → Prop
  | .invalid _, _ => False
  | .string _, text => Lexeme.StringGrammar text
  | .character _, text => Lexeme.CharacterGrammar text
  | .number _, text => Lexeme.NumberGrammar text
  | _, _ => True

/-- A token that stands for something in the source, whose text the grammar of its kind allows. -/
def Token.WellFormed (token : Token) : Prop := token.kind.Admits token.text.toList

/-- A word is well formed whether or not it is a keyword. -/
theorem Lexicon.wordKind_admits (lexicon : Lexicon) (word : String) (text : List Char) :
    (lexicon.wordKind word).Admits text := by
  unfold Lexicon.wordKind
  split <;> exact trivial

/-- A lexeme that is read has no fault exactly if its kind admits its text. -/
theorem Lexeme.findings_eq_nil_iff (lexicon : Lexicon) (first : Char) (rest : List Char) :
    (read lexicon first rest).findings = [] ↔
      ((read lexicon first rest).kind lexicon).Admits (read lexicon first rest).text := by
  refine read_cases lexicon first rest ?comment ?word ?character ?string ?number ?symbol ?invalid
  case comment => exact fun _ _ => iff_of_true rfl trivial
  case word => exact fun _ => iff_of_true rfl (lexicon.wordKind_admits _ _)
  case character => exact fun _ => CharacterLiteral.findings_eq_nil_iff rest
  case string => exact fun _ => StringLiteral.findings_eq_nil_iff rest
  case number => exact fun digit => Numeral.findings_eq_nil_iff digit rest
  case symbol => exact fun _ => iff_of_true rfl trivial
  case invalid => exact iff_of_false (List.cons_ne_nil _ _) id

theorem Segment.StandsIn.wellFormed_iff {lexicon : Lexicon} {offset : Nat} {text : List Char}
    {segment : Segment} (stands : segment.StandsIn lexicon offset text) (origin : Nat) :
    (segment.token lexicon origin).WellFormed ↔ segment.diagnostics origin = [] := by
  rw [Token.WellFormed, Segment.text_token, Segment.diagnostics, List.map_eq_nil_iff,
    Segment.findings, List.map_eq_nil_iff]
  cases stands with
  | intro before first rest after visible whole =>
      exact (Lexeme.findings_eq_nil_iff lexicon first rest).symm

/-! ## Lexicons that differ in what they keep -/

/-- What is read depends on the marker and the symbols only. -/
theorem Lexeme.read_congr {lexicon other : Lexicon}
    (marker : other.commentMarker = lexicon.commentMarker)
    (symbols : other.symbols = lexicon.symbols) (first : Char) (rest : List Char) :
    read other first rest = read lexicon first rest := by
  simp only [read, Lexicon.markerAt?, Lexicon.symbolAt?, marker, symbols]

/-- Whether comments are kept does not matter to what is read. -/
theorem Reading.ofText_keepingComments (lexicon : Lexicon) (keep : Bool) (text : List Char) :
    ofText (lexicon.keepingComments keep) text = ofText lexicon text :=
  ofText_congr (fun first rest _ =>
    @Lexeme.read_congr lexicon (lexicon.keepingComments keep) rfl rfl first rest) text

/-- Whether comments are kept does not matter to what is reported. -/
theorem Source.File.diagnostics_keepingComments (file : Source.File) (lexicon : Lexicon)
    (keep : Bool) : file.diagnostics (lexicon.keepingComments keep) = file.diagnostics lexicon := by
  rw [diagnostics, reading, Reading.ofText_keepingComments]
  rfl

/-! ## Strict calls -/

/-- A strict call gives the tokens if nothing is reported, and else what is reported. The log is left
as it was. -/
theorem Source.File.LexesTo.strict_eq {file : Source.File} {lexicon : Lexicon}
    {tokens : List Token} {reported : List Diagnostic} (lexes : file.LexesTo lexicon tokens reported)
    (log : Log) :
    Lexer.strict Scanner.lex (.ofFile file lexicon) log =
      (.ok (if reported = [] then .ok tokens else .error (.malformed reported)),
        (Scanner.ofFile file lexicon).finished, log) :=
  Lexer.strict_of_call (lexes log)

/-- A strict call accepts exactly if nothing is reported. -/
theorem Source.File.LexesTo.strict_iff {file : Source.File} {lexicon : Lexicon}
    {tokens : List Token} {reported : List Diagnostic} (lexes : file.LexesTo lexicon tokens reported) (log : Log) :
    (∃ batch, (Lexer.strict Scanner.lex (.ofFile file lexicon) log).1 = .ok (.ok batch)) ↔
      reported = [] := by
  rw [lexes.strict_eq]
  by_cases silent : reported = []
  · rw [if_pos silent]
    exact iff_of_true ⟨tokens, rfl⟩ silent
  · rw [if_neg silent]
    exact iff_of_false (fun ⟨batch, impossible⟩ => by cases impossible) silent

/-- Tokens that are all well formed exactly if nothing is reported, and exactly if a strict call accepts,
whatever the log holds. -/
structure Source.File.DecidesWellFormed (file : Source.File) (lexicon : Lexicon) (tokens : List Token)
    (reported : List Diagnostic) : Prop where
  silent : reported = [] ↔ ∀ token ∈ tokens, token.WellFormed
  accepts : ∀ log, (∃ batch, (Lexer.strict Scanner.lex (.ofFile file lexicon) log).1 = .ok (.ok batch)) ↔
    ∀ token ∈ tokens, token.WellFormed

/-- The first call on a file in range reports nothing exactly if every token of the file, comments
included, is well formed, and a strict call accepts exactly then, whatever the log holds. -/
theorem Scanner.lex_wellFormed_iff (file : Source.File) (lexicon : Lexicon)
    (inRange : file.InRange) :
    ∃ tokens kept reported,
      file.LexesTo (lexicon.keepingComments true) tokens reported ∧
      file.LexesTo lexicon kept reported ∧
      file.DecidesWellFormed lexicon tokens reported := by
  have keeping := Source.File.lexesTo_of_inRange inRange (lexicon.keepingComments true)
  have lexes := Source.File.lexesTo_of_inRange inRange lexicon
  have same := file.diagnostics_keepingComments lexicon true
  have silent : file.diagnostics lexicon = [] ↔
      ∀ token ∈ file.tokens (lexicon.keepingComments true), token.WellFormed := by
    rw [← same, file.tokens_of_keepComments rfl, List.forall_mem_map, Source.File.diagnostics,
      Reading.diagnostics_eq, List.flatMap_eq_nil_iff]
    refine forall₂_congr fun segment member => ?_
    exact ((Reading.standsIn_of_mem member).wellFormed_iff file.offset).symm
  rw [same] at keeping
  exact ⟨_, _, _, keeping, lexes, silent, fun log => (lexes.strict_iff log).trans silent⟩

/-- Literals of every kind without faults, and beside them an escape that lacks a digit. -/
theorem Scanner.lex_wellFormed_iff_mixed :
    (Source.File.mk 9 "f(0x_F, 1_.5e-0, \"\\x4f\", 'é') // \"\n\"\\x4\"").InRange ∧
      ∃ tokens kept reported,
        (Source.File.mk 9 "f(0x_F, 1_.5e-0, \"\\x4f\", 'é') // \"\n\"\\x4\"").LexesTo
          (Lexicon.standard.keepingComments true) tokens reported ∧
        (Source.File.mk 9 "f(0x_F, 1_.5e-0, \"\\x4f\", 'é') // \"\n\"\\x4\"").LexesTo
          Lexicon.standard kept reported ∧
        (Source.File.mk 9 "f(0x_F, 1_.5e-0, \"\\x4f\", 'é') // \"\n\"\\x4\"").DecidesWellFormed
          Lexicon.standard tokens reported :=
  ⟨by decide, Scanner.lex_wellFormed_iff
    ⟨9, "f(0x_F, 1_.5e-0, \"\\x4f\", 'é') // \"\n\"\\x4\""⟩ Lexicon.standard (by decide)⟩

end Lexing
