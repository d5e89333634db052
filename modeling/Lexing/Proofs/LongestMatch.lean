import Lexing.Proofs.Rules.Number
import Lexing.Proofs.Rules.Quoted
import Lexing.Proofs.Scanner

/-! # Longest matches in a fixed order

What stands at the head of a text is said here by rules that do not mention how a text is read: which
rules open there, in which order they are tried, and how far each reaches. `LongestMatch` determines
the rule and the text, and every token is the one it determines. -/

namespace Lexing

open Text (MaximalRun)

/-- A prefix of a text that belongs to a language and is no shorter than any other that does. -/
structure Text.IsLongestPrefix (language : List Char → Prop) (text value : List Char) : Prop where
  isPrefix : value <+: text
  belongs : language value
  longest : ∀ other, other <+: text → language other → other.length ≤ value.length

open Text (IsLongestPrefix)

theorem Text.IsLongestPrefix.unique {language : List Char → Prop} {text first second : List Char}
    (left : IsLongestPrefix language text first) (right : IsLongestPrefix language text second) :
    first = second := by
  have size : first.length = second.length :=
    Nat.le_antisymm (right.longest first left.isPrefix left.belongs)
      (left.longest second right.isPrefix right.belongs)
  have whole := List.prefix_of_prefix_length_le left.isPrefix right.isPrefix (Nat.le_of_eq size)
  exact whole.eq_of_length size

/-- The longest prefix of characters of a class is the maximal run of them. -/
theorem Text.MaximalRun.isLongestPrefix {inClass : Char → Bool} {run after : List Char}
    (maximal : MaximalRun inClass run after) :
    IsLongestPrefix (fun value => ∀ c ∈ value, inClass c = true) (run ++ after) run := by
  refine ⟨List.prefix_append run after, maximal.inside, fun other isPrefix inside => ?_⟩
  obtain ⟨more, whole⟩ := isPrefix
  have cut : run = other ++ more.takeWhile inClass := by
    rw [← List.takeWhile_append_of_pos inside, whole, maximal.takeWhile_append]
  rw [cut, List.length_append]
  exact Nat.le_add_right _ _

/-! ## Rules -/

/-- The ways to read what stands at the head of a text. -/
inductive Rule where
  | comment
  | word
  | character
  | string
  | number
  | symbol
  | invalid
  deriving DecidableEq, Repr

namespace Rule

/-- The rules in the order in which they are tried. -/
def order : List Rule := [comment, word, character, string, number, symbol, invalid]

/-- The first rule of a list that opens. -/
inductive FirstOf (opens : Rule → Prop) : List Rule → Rule → Prop where
  | here {rule : Rule} {rest : List Rule} (opened : opens rule) : FirstOf opens (rule :: rest) rule
  | later {other rule : Rule} {rest : List Rule} (closed : ¬ opens other)
      (among : FirstOf opens rest rule) : FirstOf opens (other :: rest) rule

theorem FirstOf.unique {opens : Rule → Prop} {rules : List Rule} {first second : Rule}
    (left : FirstOf opens rules first) (right : FirstOf opens rules second) : first = second := by
  induction left with
  | here opened =>
      cases right with
      | here _ => rfl
      | later closed _ => exact absurd opened closed
  | later closed among ih =>
      cases right with
      | here opened => exact absurd opened closed
      | later _ others => exact ih others

/-- What a rule asks of the head of a text. -/
def Opens (lexicon : Lexicon) (text : List Char) : Rule → Prop
  | .comment => ∃ marker, lexicon.commentMarker = some marker ∧ marker ≠ "" ∧ marker.toList <+: text
  | .word => ∃ c, text.head? = some c ∧ (Character.isAlphabetic c = true ∨ c = '_')
  | .character => text.head? = some '\''
  | .string => text.head? = some '"'
  | .number => ∃ c, text.head? = some c ∧ c.isDigit = true
  | .symbol => ∃ symbol ∈ lexicon.symbols, symbol ≠ "" ∧ symbol.toList <+: text
  | .invalid => text ≠ []

/-- How far a rule reaches in a text. -/
inductive Reaches (lexicon : Lexicon) : Rule → List Char → List Char → Prop where
  | comment {marker : String} {body after : List Char}
      (marked : lexicon.commentMarker = some marker)
      (line : MaximalRun (fun c => c != '\n') body after) :
      Reaches lexicon .comment (marker.toList ++ (body ++ after)) (marker.toList ++ body)
  | word {text value : List Char}
      (longest : IsLongestPrefix
        (fun letters => ∀ c ∈ letters, Character.isAlphanumeric c = true ∨ c = '_') text value) :
      Reaches lexicon .word text value
  | character {text value : List Char} (literal : Lexeme.CharacterRule text value) :
      Reaches lexicon .character text value
  | string {text value : List Char} (literal : Lexeme.StringRule text value) :
      Reaches lexicon .string text value
  | number {text value : List Char} (literal : Lexeme.NumberRule text value) :
      Reaches lexicon .number text value
  | symbol {text value : List Char}
      (longest : IsLongestPrefix
        (fun letters => letters ≠ [] ∧ String.ofList letters ∈ lexicon.symbols) text value) :
      Reaches lexicon .symbol text value
  | invalid {first : Char} {rest : List Char} : Reaches lexicon .invalid (first :: rest) [first]

theorem Reaches.unique {lexicon : Lexicon} {rule : Rule} {text first second : List Char}
    (left : Reaches lexicon rule text first) (right : Reaches lexicon rule text second) :
    first = second := by
  cases left with
  | @comment marker body after marked line =>
      generalize whole : marker.toList ++ (body ++ after) = text at right
      cases right with
      | comment markedToo lineToo =>
          cases marked.symm.trans markedToo
          have rests := List.append_cancel_left whole
          have same := congrArg (List.takeWhile fun c => c != '\n') rests
          rw [line.takeWhile_append, lineToo.takeWhile_append] at same
          rw [same]
  | word longest =>
      cases right with
      | word longestToo => exact longest.unique longestToo
  | character literal =>
      cases right with
      | character literalToo => exact literal.eq_read.trans literalToo.eq_read.symm
  | string literal =>
      cases right with
      | string literalToo => exact literal.eq_read.trans literalToo.eq_read.symm
  | number literal =>
      cases right with
      | number literalToo => exact literal.eq_read.trans literalToo.eq_read.symm
  | symbol longest =>
      cases right with
      | symbol longestToo => exact longest.unique longestToo
  | invalid =>
      cases right with
      | invalid => rfl

end Rule

/-- The first rule that opens at the head of a text, and the text it reaches over. -/
structure LongestMatch (lexicon : Lexicon) (text : List Char) (rule : Rule) (value : List Char) :
    Prop where
  first : Rule.FirstOf (Rule.Opens lexicon text) Rule.order rule
  reaches : Rule.Reaches lexicon rule text value

theorem LongestMatch.unique {lexicon : Lexicon} {text value other : List Char} {rule tried : Rule}
    (left : LongestMatch lexicon text rule value) (right : LongestMatch lexicon text tried other) :
    rule = tried ∧ value = other := by
  have same := left.first.unique right.first
  subst same
  exact ⟨rfl, left.reaches.unique right.reaches⟩

/-! ## Markers and symbols -/

namespace Lexicon

theorem markerAt?_eq_some_iff {lexicon : Lexicon} {text found : List Char} :
    lexicon.markerAt? text = some found ↔
      ∃ marker, lexicon.commentMarker = some marker ∧ marker ≠ "" ∧ marker.toList <+: text ∧
        marker.toList = found := by
  unfold markerAt?
  cases lexicon.commentMarker with
  | none => simp
  | some marker =>
      simp only [Option.map_some, Option.filter_some, Option.ite_none_right_eq_some]
      simp [and_assoc]

/-- A candidate is never shorter than what it is compared with. -/
theorem length_le_of_foldl_longer {candidates : List (List Char)} {best : Option (List Char)}
    {chosen : List Char} (found : candidates.foldl longer best = some chosen) :
    (∀ candidate ∈ candidates, candidate.length ≤ chosen.length) ∧
      ∀ current, best = some current → current.length ≤ chosen.length := by
  induction candidates generalizing best with
  | nil =>
      refine ⟨fun candidate member => absurd member List.not_mem_nil, fun current same => ?_⟩
      rw [List.foldl_nil, same] at found
      cases found
      exact Nat.le_refl _
  | cons candidate rest ih =>
      obtain ⟨others, previous⟩ := ih found
      have step : ∃ next, longer best candidate = some next ∧ candidate.length ≤ next.length ∧
          ∀ current, best = some current → current.length ≤ next.length := by
        cases best with
        | none => exact ⟨candidate, rfl, Nat.le_refl _, fun _ impossible => by cases impossible⟩
        | some current =>
            by_cases shorter : current.length < candidate.length
            · refine ⟨candidate, if_pos shorter, Nat.le_refl _, fun other same => ?_⟩
              cases same
              exact Nat.le_of_lt shorter
            · refine ⟨current, if_neg shorter, Nat.le_of_not_lt shorter, fun other same => ?_⟩
              cases same
              exact Nat.le_refl _
      obtain ⟨next, chosenNext, fromCandidate, fromBest⟩ := step
      have bound := previous next chosenNext
      refine ⟨fun other member => ?_, fun current same => ?_⟩
      · rcases List.mem_cons.mp member with rfl | later
        · exact Nat.le_trans fromCandidate bound
        · exact others other later
      · exact Nat.le_trans (fromBest current same) bound

theorem foldl_longer_isSome (candidates : List (List Char)) (current : List Char) :
    (candidates.foldl longer (some current)).isSome = true := by
  induction candidates generalizing current with
  | nil => rfl
  | cons candidate rest ih =>
      rw [List.foldl_cons, longer]
      split
      · exact ih candidate
      · exact ih current

/-- The candidates among which `symbolAt?` chooses. -/
theorem mem_candidates {lexicon : Lexicon} {text letters : List Char} :
    letters ∈ ((lexicon.symbols.map String.toList).filter fun symbol =>
        !symbol.isEmpty && symbol.isPrefixOf text) ↔
      (letters ≠ [] ∧ String.ofList letters ∈ lexicon.symbols) ∧ letters <+: text := by
  have spelled : letters ∈ lexicon.symbols.map String.toList ↔
      String.ofList letters ∈ lexicon.symbols := by
    rw [List.mem_map]
    constructor
    · rintro ⟨symbol, member, rfl⟩
      rw [String.ofList_toList]
      exact member
    · exact fun member => ⟨_, member, String.toList_ofList⟩
  rw [List.mem_filter, spelled]
  simp only [Bool.and_eq_true, Bool.not_eq_true', List.isEmpty_eq_false_iff,
    List.isPrefixOf_iff_prefix]
  exact ⟨fun ⟨member, nonempty, isPrefix⟩ => ⟨⟨nonempty, member⟩, isPrefix⟩,
    fun ⟨⟨nonempty, member⟩, isPrefix⟩ => ⟨member, nonempty, isPrefix⟩⟩

theorem symbolAt?_isLongestPrefix {lexicon : Lexicon} {text letters : List Char}
    (found : lexicon.symbolAt? text = some letters) :
    IsLongestPrefix (fun letters => letters ≠ [] ∧ String.ofList letters ∈ lexicon.symbols) text
      letters := by
  rcases foldl_longer_mem found with member | impossible
  · obtain ⟨belongs, isPrefix⟩ := mem_candidates.mp member
    refine ⟨isPrefix, belongs, fun other isPrefixToo belongsToo => ?_⟩
    exact (length_le_of_foldl_longer found).1 other (mem_candidates.mpr ⟨belongsToo, isPrefixToo⟩)
  · cases impossible

theorem symbolAt?_eq_none {lexicon : Lexicon} {text : List Char}
    (none : lexicon.symbolAt? text = none) : ¬ Rule.Opens lexicon text .symbol := by
  rintro ⟨symbol, given, nonempty, isPrefix⟩
  have spelled : String.ofList symbol.toList ∈ lexicon.symbols := by
    rw [String.ofList_toList]
    exact given
  have member := mem_candidates.mpr ⟨⟨mt String.toList_eq_nil_iff.mp nonempty, spelled⟩, isPrefix⟩
  unfold symbolAt? at none
  cases candidates : (lexicon.symbols.map String.toList).filter fun symbol =>
      !symbol.isEmpty && symbol.isPrefixOf text with
  | nil =>
      rw [candidates] at member
      exact absurd member List.not_mem_nil
  | cons first rest =>
      rw [candidates, List.foldl_cons, longer] at none
      have some := foldl_longer_isSome rest first
      rw [none] at some
      cases some

end Lexicon

/-! ## Lexemes -/

/-- The rule by which a lexeme is read. -/
def Lexeme.rule : Lexeme → Rule
  | .comment _ _ => .comment
  | .word _ => .word
  | .character _ => .character
  | .string _ => .string
  | .number _ => .number
  | .symbol _ => .symbol
  | .invalid _ => .invalid

section

variable {lexicon : Lexicon} {first : Char} {rest : List Char}

theorem Rule.not_opens_comment {text : List Char} (unmarked : lexicon.markerAt? text = none) :
    ¬ Rule.Opens lexicon text .comment := by
  rintro ⟨marker, given, nonempty, isPrefix⟩
  have found := Lexicon.markerAt?_eq_some_iff.mpr ⟨marker, given, nonempty, isPrefix, rfl⟩
  rw [unmarked] at found
  cases found

theorem Rule.opens_word_iff :
    Rule.Opens lexicon (first :: rest) .word ↔ Character.opensWord first = true := by
  simp [Rule.Opens, Character.opensWord]

theorem Rule.opens_character_iff :
    Rule.Opens lexicon (first :: rest) .character ↔ first = '\'' := by
  simp [Rule.Opens]

theorem Rule.opens_string_iff : Rule.Opens lexicon (first :: rest) .string ↔ first = '"' := by
  simp [Rule.Opens]

theorem Rule.opens_number_iff :
    Rule.Opens lexicon (first :: rest) .number ↔ first.isDigit = true := by
  simp [Rule.Opens]

theorem Rule.opens_symbol {text letters : List Char}
    (longest : IsLongestPrefix
      (fun letters => letters ≠ [] ∧ String.ofList letters ∈ lexicon.symbols) text letters) :
    Rule.Opens lexicon text .symbol := by
  obtain ⟨isPrefix, ⟨nonempty, given⟩, _⟩ := longest
  refine ⟨String.ofList letters, given, ?_, ?_⟩
  · rw [Ne, String.ofList_eq_empty_iff]
    exact nonempty
  · rw [String.toList_ofList]
    exact isPrefix

/-- The symbol that is found is the longest one at the head of the text. -/
theorem Lexicon.symbolAt?_eq_some_iff {text letters : List Char} :
    lexicon.symbolAt? text = some letters ↔ IsLongestPrefix
      (fun letters => letters ≠ [] ∧ String.ofList letters ∈ lexicon.symbols) text letters := by
  refine ⟨symbolAt?_isLongestPrefix, fun longest => ?_⟩
  cases found : lexicon.symbolAt? text with
  | none => exact absurd (Rule.opens_symbol longest) (symbolAt?_eq_none found)
  | some other => exact congrArg some ((symbolAt?_isLongestPrefix found).unique longest)

theorem Lexeme.longestMatch_comment {found : List Char}
    (marked : lexicon.markerAt? (first :: rest) = some found) :
    LongestMatch lexicon (first :: rest) .comment
      (found ++ restOfLine ((first :: rest).drop found.length)) := by
  obtain ⟨marker, given, nonempty, ⟨after, whole⟩, rfl⟩ := Lexicon.markerAt?_eq_some_iff.mp marked
  have line := MaximalRun.of_split (fun c => c != '\n') after
  have reaches := Rule.Reaches.comment given line
  rw [List.takeWhile_append_dropWhile, whole] at reaches
  have left : (first :: rest).drop marker.toList.length = after := by
    rw [← whole, List.drop_left]
  rw [left]
  exact ⟨.here ⟨marker, given, nonempty, after, whole⟩, reaches⟩

theorem Lexeme.reaches_word (opens : Character.opensWord first = true) :
    Rule.Reaches lexicon .word (first :: rest)
      (first :: rest.takeWhile Character.continuesWord) := by
  have run := MaximalRun.of_split Character.continuesWord (first :: rest)
  have longest := run.isLongestPrefix
  have continues (c : Char) :
      Character.continuesWord c = true ↔ Character.isAlphanumeric c = true ∨ c = '_' := by
    simp [Character.continuesWord]
  rw [List.takeWhile_append_dropWhile,
    List.takeWhile_cons_of_pos (Character.continuesWord_of_opensWord opens)] at longest
  simp only [continues] at longest
  exact .word longest

/-- The lexeme that is read at the head of a text is the longest match there. -/
theorem Lexeme.longestMatch_read (lexicon : Lexicon) (first : Char) (rest : List Char) :
    LongestMatch lexicon (first :: rest) (Lexeme.read lexicon first rest).rule
      (Lexeme.read lexicon first rest).text := by
  cases marked : lexicon.markerAt? (first :: rest) with
  | some marker =>
      simp only [Lexeme.read, marked]
      exact Lexeme.longestMatch_comment marked
  | none =>
      have comment := Rule.not_opens_comment marked
      simp only [Lexeme.read, marked]
      by_cases word : Rule.Opens lexicon (first :: rest) .word
      · have letter := Rule.opens_word_iff.mp word
        rw [if_pos letter]
        exact ⟨.later comment (.here word), reaches_word letter⟩
      rw [if_neg (mt Rule.opens_word_iff.mpr word)]
      by_cases character : Rule.Opens lexicon (first :: rest) .character
      · have quote := Rule.opens_character_iff.mp character
        rw [if_pos quote]
        refine ⟨.later comment (.later word (.here character)), ?_⟩
        rw [quote]
        exact .character (CharacterLiteral.characterRule_read rest)
      rw [if_neg (mt Rule.opens_character_iff.mpr character)]
      by_cases string : Rule.Opens lexicon (first :: rest) .string
      · have quote := Rule.opens_string_iff.mp string
        rw [if_pos quote]
        refine ⟨.later comment (.later word (.later character (.here string))), ?_⟩
        rw [quote]
        exact .string (StringLiteral.stringRule_read rest)
      rw [if_neg (mt Rule.opens_string_iff.mpr string)]
      by_cases number : Rule.Opens lexicon (first :: rest) .number
      · rw [if_pos (Rule.opens_number_iff.mp number)]
        exact ⟨.later comment (.later word (.later character (.later string (.here number)))),
          .number (Numeral.numberRule_read (first :: rest))⟩
      rw [if_neg (mt Rule.opens_number_iff.mpr number)]
      have tried {rule : Rule} (last : Rule.FirstOf (Rule.Opens lexicon (first :: rest))
          [.symbol, .invalid] rule) :
          Rule.FirstOf (Rule.Opens lexicon (first :: rest)) Rule.order rule :=
        .later comment (.later word (.later character (.later string (.later number last))))
      cases listed : lexicon.symbolAt? (first :: rest) with
      | some letters =>
          have longest := Lexicon.symbolAt?_isLongestPrefix listed
          exact ⟨tried (.here (Rule.opens_symbol longest)), .symbol longest⟩
      | none =>
          have symbol := Lexicon.symbolAt?_eq_none listed
          exact ⟨tried (.later symbol (.here (List.cons_ne_nil first rest))), .invalid⟩

end

/-! ## Tokens -/

/-- The rule that gives tokens of a kind. -/
def TokenKind.rule : TokenKind → Rule
  | .invalid _ => .invalid
  | .comment => .comment
  | .identifier | .keyword => .word
  | .symbol => .symbol
  | .number _ => .number
  | .string _ => .string
  | .character _ => .character

theorem Lexeme.rule_kind (lexicon : Lexicon) (lexeme : Lexeme) :
    (lexeme.kind lexicon).rule = lexeme.rule := by
  cases lexeme with
  | word letters =>
      simp only [Lexeme.kind, Lexicon.wordKind]
      split <;> rfl
  | _ => rfl

theorem Lexeme.kind_of_word {lexicon : Lexicon} {lexeme : Lexeme}
    (word : (lexeme.kind lexicon).rule = .word) :
    lexeme.kind lexicon =
      if String.ofList lexeme.text ∈ lexicon.keywords then .keyword else .identifier := by
  cases lexeme with
  | word letters =>
      by_cases listed : String.ofList letters ∈ lexicon.keywords <;>
        simp [Lexeme.kind, Lexicon.wordKind, Lexeme.text, listed]
  | _ => cases word

theorem Lexeme.kind_eq_invalid {lexicon : Lexicon} {lexeme : Lexeme} {c : Char}
    (invalid : lexeme.kind lexicon = .invalid c) : lexeme = .invalid c := by
  cases lexeme with
  | invalid other =>
      cases invalid
      rfl
  | word letters =>
      simp only [Lexeme.kind, Lexicon.wordKind] at invalid
      split at invalid <;> cases invalid
  | _ => cases invalid

theorem Lexeme.text_of_invalid {lexicon : Lexicon} {lexeme : Lexeme} {c : Char}
    (invalid : lexeme.kind lexicon = .invalid c) : String.ofList lexeme.text = c.toString := by
  rw [kind_eq_invalid invalid]
  rfl

/-- A token is the longest match where it starts. -/
theorem Segment.StandsIn.longestMatch {lexicon : Lexicon} {text : List Char} {segment : Segment}
    (stands : segment.StandsIn lexicon 0 text) (origin : Nat) :
    ∃ before rest, text = before ++ rest ∧
      (segment.token lexicon origin).position = origin + Text.width before ∧
      LongestMatch lexicon rest (segment.token lexicon origin).kind.rule
        (segment.token lexicon origin).text.toList := by
  cases stands with
  | intro before first rest after visible whole =>
      refine ⟨before, first :: rest, rfl, by rw [Segment.position_token, Nat.zero_add], ?_⟩
      rw [Segment.text_token, Segment.token, Lexeme.rule_kind]
      exact Lexeme.longestMatch_read lexicon first rest

/-- A token of a file that is the longest match where it starts, and the only rule and text that match
there. Its kind tells a word that the lexicon lists, and carries a character that nothing explains. -/
structure Token.IsLongestMatch (lexicon : Lexicon) (file : Source.File) (token : Token) : Prop where
  matched : ∃ before rest, file.text.toList = before ++ rest ∧
    token.position = file.offset + Text.width before ∧
    ∀ rule value, LongestMatch lexicon rest rule value ↔
      rule = token.kind.rule ∧ value = token.text.toList
  ofWord : token.kind.rule = .word →
    token.kind = if token.text ∈ lexicon.keywords then .keyword else .identifier
  ofInvalid : ∀ c, token.kind = .invalid c → token.text = c.toString

/-- The first call on a file in range, with comments kept, returns tokens each of which is the longest
match where it starts: no other rule and no other text is. A word is a keyword exactly if the lexicon
lists it, and a token that nothing explains carries its one character. -/
theorem Scanner.lex_longestMatch (file : Source.File) (lexicon : Lexicon) (log : Log)
    (keeps : lexicon.keepComments = true) (inRange : file.InRange) :
    ∃ tokens, (Scanner.lex (.ofFile file lexicon) log).1 = .ok tokens ∧
      ∀ token ∈ tokens, token.IsLongestMatch lexicon file := by
  refine ⟨file.tokens lexicon, by rw [Scanner.lex_of_inRange inRange], ?_⟩
  rw [file.tokens_of_keepComments keeps]
  intro token member
  obtain ⟨segment, found, rfl⟩ := List.mem_map.mp member
  obtain ⟨before, rest, placed, position, longest⟩ :=
    (Reading.standsIn_of_mem found).longestMatch file.offset
  refine ⟨⟨before, rest, placed, position, fun rule value => ⟨fun other => ?_, ?_⟩⟩,
    Lexeme.kind_of_word, fun c => Lexeme.text_of_invalid⟩
  · exact other.unique longest
  · rintro ⟨rfl, rfl⟩
    exact longest

/-- A marker that is also a symbol, a word that is a keyword, a literal cut short, and a character
that nothing explains. -/
theorem Scanner.lex_longestMatch_mixed :
    (Lexicon.mk ["é"] ["/", "/#"] (some "/") true).keepComments = true ∧
      (Source.File.mk 3 "é 'a\\x4\n0x_g§ //#").InRange ∧
      ∃ tokens, (Scanner.lex (.ofFile ⟨3, "é 'a\\x4\n0x_g§ //#"⟩
          ⟨["é"], ["/", "/#"], some "/", true⟩) Log.empty).1 = .ok tokens ∧
        ∀ token ∈ tokens, token.IsLongestMatch ⟨["é"], ["/", "/#"], some "/", true⟩
          ⟨3, "é 'a\\x4\n0x_g§ //#"⟩ :=
  ⟨rfl, by decide,
    Scanner.lex_longestMatch ⟨3, "é 'a\\x4\n0x_g§ //#"⟩ ⟨["é"], ["/", "/#"], some "/", true⟩ Log.empty
      rfl (by decide)⟩

end Lexing
