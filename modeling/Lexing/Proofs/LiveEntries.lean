import Lexing.Proofs.Context.Lexeme
import Lexing.Proofs.Scanner

/-! # What of a lexicon matters

Lexemes open at visible characters, and words and literals are tried before symbols. A marker or a
symbol that opens otherwise is therefore never met, and neither is a keyword that no word spells.
Lexicons that agree on what is left lex every text alike, whatever the order of their entries, and
however often they repeat them. -/

namespace Lexing

/-- Longest prefixes depend on the prefixes of a text that a language holds, and on nothing else. -/
theorem Text.IsLongestPrefix.congr {language other : List Char → Prop} {text value : List Char}
    (same : ∀ letters, letters <+: text → (language letters ↔ other letters)) :
    IsLongestPrefix language text value ↔ IsLongestPrefix other text value := by
  constructor
  · rintro ⟨isPrefix, belongs, longest⟩
    exact ⟨isPrefix, (same value isPrefix).mp belongs, fun letters isPrefixToo belongsToo =>
      longest letters isPrefixToo ((same letters isPrefixToo).mpr belongsToo)⟩
  · rintro ⟨isPrefix, belongs, longest⟩
    exact ⟨isPrefix, (same value isPrefix).mpr belongs, fun letters isPrefixToo belongsToo =>
      longest letters isPrefixToo ((same letters isPrefixToo).mp belongsToo)⟩

namespace Lexicon

/-! ## Live entries -/

/-- A word of some text: it opens as words do and goes on as they do. -/
def spellsWord (entry : String) : Bool :=
  match entry.toList with
  | [] => false
  | first :: rest => Character.opensWord first && rest.all Character.continuesWord

/-- A character that is visible and opens neither a word nor a literal. -/
def opensSymbol (first : Char) : Bool :=
  !(Character.isBlank first || Character.opensWord first || first.isDigit || first == '\'' ||
    first == '"')

/-- The keywords that a word can be. -/
def liveKeywords (lexicon : Lexicon) : List String := lexicon.keywords.filter spellsWord

/-- The symbols that are not empty and open where no word and no literal does. -/
def liveSymbols (lexicon : Lexicon) : List String :=
  lexicon.symbols.filter fun symbol => symbol.toList.head?.any opensSymbol

/-- The marker, if it is there, is not empty, and does not open with a blank character. -/
def liveMarker (lexicon : Lexicon) : Option String :=
  lexicon.commentMarker.filter fun marker => marker.toList.head?.any (!Character.isBlank ·)

/-- Two lexicons have the same live entries, and both keep comments or neither does. -/
structure Agrees (lexicon other : Lexicon) : Prop where
  keepComments : other.keepComments = lexicon.keepComments
  keywords : ∀ word, word ∈ other.liveKeywords ↔ word ∈ lexicon.liveKeywords
  symbols : ∀ symbol, symbol ∈ other.liveSymbols ↔ symbol ∈ lexicon.liveSymbols
  marker : other.liveMarker = lexicon.liveMarker

/-- Agreement is decided on the live entries. -/
theorem agrees_iff (lexicon other : Lexicon) :
    lexicon.Agrees other ↔ other.keepComments = lexicon.keepComments ∧
      (other.liveKeywords ⊆ lexicon.liveKeywords ∧ lexicon.liveKeywords ⊆ other.liveKeywords) ∧
      (other.liveSymbols ⊆ lexicon.liveSymbols ∧ lexicon.liveSymbols ⊆ other.liveSymbols) ∧
      other.liveMarker = lexicon.liveMarker := by
  constructor
  · rintro ⟨keeps, keywords, symbols, marker⟩
    exact ⟨keeps, ⟨fun word => (keywords word).mp, fun word => (keywords word).mpr⟩,
      ⟨fun symbol => (symbols symbol).mp, fun symbol => (symbols symbol).mpr⟩, marker⟩
  · rintro ⟨keeps, ⟨fewer, more⟩, ⟨fewerToo, moreToo⟩, marker⟩
    exact ⟨keeps, fun word => ⟨@fewer word, @more word⟩,
      fun symbol => ⟨@fewerToo symbol, @moreToo symbol⟩, marker⟩

instance (lexicon other : Lexicon) : Decidable (lexicon.Agrees other) :=
  decidable_of_iff _ (agrees_iff lexicon other).symm

/-! ## Dead entries are never met -/

variable {lexicon other : Lexicon} {first : Char} {rest : List Char}

/-- A word is a keyword exactly if it is a live one. -/
theorem mem_liveKeywords_iff (opens : Character.opensWord first = true)
    (goesOn : ∀ c ∈ rest, Character.continuesWord c = true) :
    String.ofList (first :: rest) ∈ lexicon.liveKeywords ↔
      String.ofList (first :: rest) ∈ lexicon.keywords := by
  have spelled : spellsWord (String.ofList (first :: rest)) = true := by
    rw [spellsWord, String.toList_ofList]
    exact Bool.and_eq_true_iff.mpr ⟨opens, List.all_eq_true.mpr goesOn⟩
  rw [liveKeywords, List.mem_filter, and_iff_left spelled]

/-- What heads a text that a symbol may open is a symbol exactly if it is a live one. -/
theorem mem_liveSymbols_iff {letters : List Char} (opens : opensSymbol first = true)
    (isPrefix : letters <+: first :: rest) (nonempty : letters ≠ []) :
    String.ofList letters ∈ lexicon.liveSymbols ↔ String.ofList letters ∈ lexicon.symbols := by
  have live : (String.ofList letters).toList.head?.any opensSymbol = true := by
    rw [String.toList_ofList]
    cases letters with
    | nil => exact absurd rfl nonempty
    | cons opening others =>
        obtain ⟨rfl, _⟩ := List.cons_prefix_cons.mp isPrefix
        exact opens
  rw [liveSymbols, List.mem_filter, and_iff_left live]

/-- At a visible character a live marker is found and no other. -/
theorem markerAt?_eq_some_iff_live (visible : Character.isBlank first = false)
    {found : List Char} :
    lexicon.markerAt? (first :: rest) = some found ↔
      ∃ marker, lexicon.liveMarker = some marker ∧ marker.toList <+: first :: rest ∧
        marker.toList = found := by
  rw [markerAt?_eq_some_iff]
  refine exists_congr fun marker => ?_
  rw [liveMarker, Option.filter_eq_some_iff]
  constructor
  · rintro ⟨given, nonempty, isPrefix, spelled⟩
    refine ⟨⟨given, ?_⟩, isPrefix, spelled⟩
    cases letters : marker.toList with
    | nil => exact absurd (String.toList_eq_nil_iff.mp letters) nonempty
    | cons opening others =>
        rw [letters] at isPrefix
        obtain ⟨rfl, _⟩ := List.cons_prefix_cons.mp isPrefix
        simp [visible]
  · rintro ⟨⟨given, live⟩, isPrefix, spelled⟩
    refine ⟨given, fun empty => ?_, isPrefix, spelled⟩
    rw [empty] at live
    cases live

namespace Agrees

theorem wordKind_eq (agrees : lexicon.Agrees other) (opens : Character.opensWord first = true)
    (goesOn : ∀ c ∈ rest, Character.continuesWord c = true) :
    other.wordKind (String.ofList (first :: rest)) =
      lexicon.wordKind (String.ofList (first :: rest)) := by
  have listed := agrees.keywords (String.ofList (first :: rest))
  rw [mem_liveKeywords_iff opens goesOn, mem_liveKeywords_iff opens goesOn] at listed
  simp only [wordKind, List.contains_iff_mem, listed]

theorem symbolAt?_eq (agrees : lexicon.Agrees other) (opens : opensSymbol first = true) :
    other.symbolAt? (first :: rest) = lexicon.symbolAt? (first :: rest) := by
  refine Option.ext fun letters => ?_
  rw [symbolAt?_eq_some_iff, symbolAt?_eq_some_iff]
  refine Text.IsLongestPrefix.congr fun letters isPrefix => ?_
  refine and_congr_right fun nonempty => ?_
  rw [← mem_liveSymbols_iff opens isPrefix nonempty, agrees.symbols,
    mem_liveSymbols_iff opens isPrefix nonempty]

theorem markerAt?_eq (agrees : lexicon.Agrees other) (visible : Character.isBlank first = false) :
    other.markerAt? (first :: rest) = lexicon.markerAt? (first :: rest) := by
  refine Option.ext fun found => ?_
  rw [markerAt?_eq_some_iff_live visible, markerAt?_eq_some_iff_live visible, agrees.marker]

/-- A visible character opens the same lexeme under lexicons that agree. -/
theorem read_eq (agrees : lexicon.Agrees other) (visible : Character.isBlank first = false) :
    Lexeme.read other first rest = Lexeme.read lexicon first rest := by
  have markers : other.markerAt? (first :: rest) = lexicon.markerAt? (first :: rest) :=
    agrees.markerAt?_eq visible
  cases marked : lexicon.markerAt? (first :: rest) with
  | some marker => simp only [Lexeme.read, markers.trans marked, marked]
  | none =>
      rw [Lexeme.read_of_unmarked (markers.trans marked), Lexeme.read_of_unmarked marked]
      by_cases opens : opensSymbol first = true
      · rw [agrees.symbolAt?_eq opens]
      · -- a word or a literal opens, and symbols are not tried
        simp only [opensSymbol, visible, Bool.false_or, Bool.not_eq_true', Bool.not_eq_false,
          Bool.or_eq_true, beq_iff_eq] at opens
        rcases opens with ((word | digit) | quote) | quote
        · simp only [word, if_true]
        · simp only [digit, if_true]
        · simp only [quote, if_true]
        · simp only [quote, if_true]

/-- Every text is cut alike under lexicons that agree. -/
theorem reading_eq (agrees : lexicon.Agrees other) (text : List Char) :
    Reading.ofText other text = Reading.ofText lexicon text :=
  Reading.ofText_congr (fun _ _ visible => agrees.read_eq visible) text

/-! ## Tokens -/

theorem isKept_eq (agrees : lexicon.Agrees other) (lexeme : Lexeme) :
    lexeme.isKept other = lexeme.isKept lexicon := by
  cases lexeme with
  | comment marker body => exact agrees.keepComments
  | _ => rfl

/-- A lexeme that is read is of the same kind under lexicons that agree. -/
theorem kind_eq (agrees : lexicon.Agrees other) (first : Char) (rest : List Char) :
    (Lexeme.read lexicon first rest).kind other = (Lexeme.read lexicon first rest).kind lexicon := by
  refine Lexeme.read_cases lexicon first rest ?comment ?word ?character ?string ?number ?symbol
    ?invalid
  case word =>
    exact fun opens => agrees.wordKind_eq opens fun c member => List.mem_takeWhile_imp member
  all_goals intros; rfl

theorem token_eq (agrees : lexicon.Agrees other) {offset : Nat} {text : List Char}
    {segment : Segment} (stands : segment.StandsIn lexicon offset text) (origin : Nat) :
    segment.token other origin = segment.token lexicon origin := by
  cases stands with
  | intro before first rest after visible whole => simp only [Segment.token, agrees.kind_eq]

theorem tokens_eq (agrees : lexicon.Agrees other) (text : List Char) (origin : Nat) :
    (Reading.ofText other text).tokens other origin =
      (Reading.ofText lexicon text).tokens lexicon origin := by
  simp only [agrees.reading_eq, Reading.tokens, agrees.isKept_eq]
  refine List.map_congr_left fun segment member => ?_
  exact agrees.token_eq (Reading.standsIn_of_mem (List.mem_filter.mp member).1) origin

end Agrees

end Lexicon

/-- The first call on a file gives the same tokens and reports the same under lexicons that agree.
It gives and reports the same also where it overflows, which in range it does not. -/
theorem Scanner.lex_of_agrees {lexicon other : Lexicon} (agrees : lexicon.Agrees other)
    (file : Source.File) :
    (∀ log, (Scanner.lex (.ofFile file other) log).1 = (Scanner.lex (.ofFile file lexicon) log).1 ∧
      (Scanner.lex (.ofFile file other) log).2.2 = (Scanner.lex (.ofFile file lexicon) log).2.2) ∧
    (file.InRange → ∃ tokens reported,
      file.LexesTo lexicon tokens reported ∧ file.LexesTo other tokens reported) := by
  have reading : file.reading other = file.reading lexicon := agrees.reading_eq file.text.toList
  have tokens : file.tokens other = file.tokens lexicon :=
    agrees.tokens_eq file.text.toList file.offset
  have reported : file.diagnostics other = file.diagnostics lexicon := by
    rw [Source.File.diagnostics, reading, Source.File.diagnostics]
  constructor
  · intro log
    rw [lex_ofFile, lex_ofFile, reading, tokens, reported]
    by_cases fits : file.fits (file.reading lexicon).extent = true
    · rw [if_pos fits, if_pos fits]
      exact ⟨rfl, rfl⟩
    · rw [if_neg fits, if_neg fits, Source.File.diagnosticsThatFit, reading]
      exact ⟨rfl, rfl⟩
  · intro inRange
    have lexes := Source.File.lexesTo_of_inRange inRange other
    rw [tokens, reported] at lexes
    exact ⟨_, _, Source.File.lexesTo_of_inRange inRange lexicon, lexes⟩

/-- Entries in another order, again, without a character, and with the look of words, literals and
blanks, and a marker that opens with a blank instead of none. -/
theorem Scanner.lex_of_agrees_shuffled :
    Lexicon.Agrees ⟨["é", "let"], ["<", "<<="], none, true⟩
        ⟨["let", "1x", "é", "", "let"], ["ab", "<<=", "", " <", "\"q", "<", "<<=", "0", "_"], some "\t#",
          true⟩ ∧
      (Source.File.mk 6 "let é<<=1x \"q ab\t# 0 \t").InRange ∧
      ∃ tokens reported,
        (Source.File.mk 6 "let é<<=1x \"q ab\t# 0 \t").LexesTo
          ⟨["é", "let"], ["<", "<<="], none, true⟩ tokens reported ∧
        (Source.File.mk 6 "let é<<=1x \"q ab\t# 0 \t").LexesTo
          ⟨["let", "1x", "é", "", "let"], ["ab", "<<=", "", " <", "\"q", "<", "<<=", "0", "_"],
            some "\t#", true⟩ tokens reported :=
  have agrees : Lexicon.Agrees ⟨["é", "let"], ["<", "<<="], none, true⟩
      ⟨["let", "1x", "é", "", "let"], ["ab", "<<=", "", " <", "\"q", "<", "<<=", "0", "_"], some "\t#",
        true⟩ := by decide
  ⟨agrees, by decide,
    (Scanner.lex_of_agrees agrees ⟨6, "let é<<=1x \"q ab\t# 0 \t"⟩).2 (by decide)⟩

end Lexing
