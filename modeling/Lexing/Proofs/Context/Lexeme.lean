import Lexing.Proofs.Context.Number
import Lexing.Proofs.Context.Quoted
import Lexing.Proofs.LongestMatch

/-! # Lexemes in another context

What stands behind a lexeme is looked at only to see that the lexeme ends there, and a new line ends
it as the end of the text does. A lexeme is therefore read alike if what stands behind it is replaced
by nothing, by a new line, or by anything that opens with the same character, unless the lexicon lists
something that reaches into what is new. -/

namespace Lexing

open Text (MaximalRun Replaces)

/-! ## Markers and symbols -/

namespace Lexicon

/-- What a lexicon lists and may be found at the head of a text: its symbols and its marker. -/
def Lists (lexicon : Lexicon) (letters : List Char) : Prop :=
  lexicon.commentMarker = some (String.ofList letters) ∨ String.ofList letters ∈ lexicon.symbols

variable {lexicon : Lexicon} {text other : List Char}

/-- A marker that is not found is not found in another context either. -/
theorem markerAt?_eq_none_of_lists
    (same : ∀ letters, lexicon.Lists letters → letters <+: other → letters <+: text)
    (unmarked : lexicon.markerAt? text = none) : lexicon.markerAt? other = none := by
  cases marked : lexicon.markerAt? other with
  | none => rfl
  | some found =>
      obtain ⟨marker, given, nonempty, isPrefix, rfl⟩ := markerAt?_eq_some_iff.mp marked
      have listed : lexicon.Lists marker.toList := by
        rw [Lists, String.ofList_toList]
        exact Or.inl given
      have before := markerAt?_eq_some_iff.mpr
        ⟨marker, given, nonempty, same marker.toList listed isPrefix, rfl⟩
      rw [unmarked] at before
      cases before

/-- The symbol that is found is found in another context of its own letters. -/
theorem symbolAt?_of_lists {letters : List Char}
    (same : ∀ letters, lexicon.Lists letters → letters <+: other → letters <+: text)
    (found : lexicon.symbolAt? text = some letters) (kept : letters <+: other) :
    lexicon.symbolAt? other = some letters := by
  obtain ⟨_, belongs, longest⟩ := symbolAt?_eq_some_iff.mp found
  exact symbolAt?_eq_some_iff.mpr ⟨kept, belongs, fun letters isPrefixToo belongsToo =>
    longest letters (same letters (Or.inr belongsToo.2) isPrefixToo) belongsToo⟩

theorem symbolAt?_eq_none_of_lists
    (same : ∀ letters, lexicon.Lists letters → letters <+: other → letters <+: text)
    (none : lexicon.symbolAt? text = none) : lexicon.symbolAt? other = .none := by
  cases again : lexicon.symbolAt? other with
  | none => rfl
  | some letters =>
      obtain ⟨isPrefix, belongs, _⟩ := symbolAt?_isLongestPrefix again
      refine absurd ⟨String.ofList letters, belongs.2, ?_, ?_⟩ (symbolAt?_eq_none none)
      · rw [Ne, String.ofList_eq_empty_iff]
        exact belongs.1
      · rw [String.toList_ofList]
        exact same letters (Or.inr belongs.2) isPrefix

end Lexicon

/-! ## Lexemes -/

namespace Lexeme

/-- The lexeme as it is read if a given character follows it. -/
def stoppingAt (stop : Option Char) : Lexeme → Lexeme
  | .character literal => .character (literal.stoppingAt stop)
  | .string literal => .string (literal.stoppingAt stop)
  | lexeme => lexeme

@[simp] theorem text_stoppingAt (stop : Option Char) (lexeme : Lexeme) :
    (lexeme.stoppingAt stop).text = lexeme.text := by
  cases lexeme <;> simp [stoppingAt, text]

@[simp] theorem kind_stoppingAt (lexicon : Lexicon) (stop : Option Char) (lexeme : Lexeme) :
    (lexeme.stoppingAt stop).kind lexicon = lexeme.kind lexicon := by
  cases lexeme <;> simp [stoppingAt, kind]

@[simp] theorem isKept_stoppingAt (lexicon : Lexicon) (stop : Option Char) (lexeme : Lexeme) :
    (lexeme.stoppingAt stop).isKept lexicon = lexeme.isKept lexicon := by
  cases lexeme <;> rfl

/-- What is read where no comment opens. -/
theorem read_of_unmarked {lexicon : Lexicon} {first : Char} {rest : List Char}
    (unmarked : lexicon.markerAt? (first :: rest) = none) :
    read lexicon first rest =
      if Character.opensWord first then .word (first :: rest.takeWhile Character.continuesWord)
      else if first = '\'' then .character (CharacterLiteral.read rest)
      else if first = '"' then .string (StringLiteral.read rest)
      else if first.isDigit then .number (Numeral.read (first :: rest))
      else (lexicon.symbolAt? (first :: rest)).elim (.invalid first) .symbol := by
  simp only [read, unmarked]
  cases lexicon.symbolAt? (first :: rest) <;> rfl

/-- What holds of every way to read a lexeme holds of the lexeme that is read. -/
@[elab_as_elim]
theorem read_cases {holds : Lexeme → Prop} (lexicon : Lexicon) (first : Char) (rest : List Char)
    (comment : ∀ marker body, holds (.comment marker body))
    (word : Character.opensWord first = true →
      holds (.word (first :: rest.takeWhile Character.continuesWord)))
    (character : first = '\'' → holds (.character (CharacterLiteral.read rest)))
    (string : first = '"' → holds (.string (StringLiteral.read rest)))
    (number : first.isDigit = true → holds (.number (Numeral.read (first :: rest))))
    (symbol : ∀ letters, holds (.symbol letters)) (invalid : holds (.invalid first)) :
    holds (read lexicon first rest) := by
  unfold read
  split
  · exact comment _ _
  · split
    · rename_i opens
      exact word opens
    · split
      · rename_i opens
        exact character opens
      · split
        · rename_i opens
          exact string opens
        · split
          · rename_i opens
            exact number opens
          · split
            · exact symbol _
            · exact invalid

/-- A comment that is read again in another context. -/
theorem read_comment_of_replaces {lexicon : Lexicon} {first : Char}
    {rest after other letters marker : List Char}
    (marked : lexicon.markerAt? (first :: rest) = some marker)
    (whole : (read lexicon first rest).text ++ after = first :: rest)
    (kept : (read lexicon first rest).text ++ other = first :: letters)
    (replaces : Replaces other after) : read lexicon first letters = read lexicon first rest := by
  obtain ⟨word, given, nonempty, ⟨behind, headed⟩, rfl⟩ := Lexicon.markerAt?_eq_some_iff.mp marked
  have left : (first :: rest).drop word.toList.length = behind := by rw [← headed, List.drop_left]
  have readEq : read lexicon first rest = .comment word.toList (restOfLine behind) := by
    simp only [read, marked, left]
  rw [readEq, text, List.append_assoc] at whole kept
  have line : restOfLine behind ++ after = behind :=
    List.append_cancel_left (whole.trans headed.symm)
  have run := (MaximalRun.of_takeWhile_append line).of_replaces replaces (by decide)
  have markedAgain : lexicon.markerAt? (first :: letters) = some word.toList :=
    Lexicon.markerAt?_eq_some_iff.mpr ⟨word, given, nonempty, ⟨_, kept⟩, rfl⟩
  have leftAgain : (first :: letters).drop word.toList.length = restOfLine behind ++ other := by
    rw [← kept, List.drop_left]
  have lineAgain : restOfLine (restOfLine behind ++ other) = restOfLine behind :=
    run.takeWhile_append
  rw [readEq]
  simp only [read, markedAgain, leftAgain, lineAgain]

/-- A lexeme that is read again in another context, in which the lexicon finds nothing new. -/
theorem read_of_replaces {lexicon : Lexicon} {first : Char} {rest after other letters : List Char}
    (whole : (read lexicon first rest).text ++ after = first :: rest)
    (kept : (read lexicon first rest).text ++ other = first :: letters)
    (replaces : Replaces other after)
    (same : ∀ listed, lexicon.Lists listed →
      listed <+: first :: letters → listed <+: first :: rest) :
    read lexicon first letters = (read lexicon first rest).stoppingAt other.head? := by
  cases marked : lexicon.markerAt? (first :: rest) with
  | some marker =>
      rw [read_comment_of_replaces marked whole kept replaces]
      simp only [read, marked, stoppingAt]
  | none =>
      rw [read_of_unmarked (Lexicon.markerAt?_eq_none_of_lists same marked)]
      rw [read_of_unmarked marked] at whole kept ⊢
      by_cases word : Character.opensWord first = true
      · simp only [if_pos word, text, List.cons_append, List.cons.injEq, true_and] at whole kept ⊢
        have run := (MaximalRun.of_takeWhile_append whole).of_replaces replaces (by decide)
        rw [← kept, run.takeWhile_append]
        rfl
      simp only [if_neg word] at whole kept ⊢
      by_cases character : first = '\''
      · simp only [if_pos character, text] at whole kept ⊢
        rw [character] at whole kept
        rw [CharacterLiteral.read_of_replaces whole kept replaces]
        rfl
      simp only [if_neg character] at whole kept ⊢
      by_cases string : first = '"'
      · simp only [if_pos string, text] at whole kept ⊢
        rw [string] at whole kept
        rw [StringLiteral.read_of_replaces whole kept replaces]
        rfl
      simp only [if_neg string] at whole kept ⊢
      by_cases number : first.isDigit = true
      · simp only [if_pos number, text] at whole kept ⊢
        have again := Numeral.read_of_replaces whole replaces
        rw [kept] at again
        rw [again]
        rfl
      simp only [if_neg number] at whole kept ⊢
      cases listed : lexicon.symbolAt? (first :: rest) with
      | some symbol =>
          rw [listed] at kept
          have again := Lexicon.symbolAt?_of_lists same listed ⟨_, kept⟩
          rw [again]
          rfl
      | none =>
          rw [Lexicon.symbolAt?_eq_none_of_lists same listed]
          rfl

end Lexeme

end Lexing
