import Lexing.Proofs.Scanner

/-! # Tokens tile their text

The tokens of a file, comments included, stand in it one behind the other without overlap, each is
the part of the text between its ends, and all that stands between them is blank: no visible
character is lost, doubled or moved. -/

namespace Lexing

namespace Token

/-- The position behind the last byte of a token. -/
def finish (token : Token) : Nat := token.position + Text.width token.text.toList

/-- A position is that of one of the bytes of a token. -/
def Covers (token : Token) (position : Nat) : Prop :=
  token.position ≤ position ∧ position < token.finish

/-- A token is what the text holds between the ends of the token, both of which are boundaries
between characters. -/
def IsPartOf (token : Token) (origin : Nat) (text : List Char) : Prop :=
  ∃ before after, text = before ++ token.text.toList ++ after ∧
    token.position = origin + Text.width before

end Token

/-- Tokens lie in a text whose first byte has a position, in order and apart, and leave out nothing
but blank characters. -/
structure Tiling (origin : Nat) (text : List Char) (tokens : List Token) : Prop where
  isPartOf : ∀ token ∈ tokens, token.IsPartOf origin text
  nonempty : ∀ token ∈ tokens, token.position < token.finish
  ordered : tokens.Pairwise fun earlier later => earlier.finish ≤ later.position
  inside : ∀ token ∈ tokens, origin ≤ token.position ∧ token.finish ≤ origin + Text.width text
  visible : ∀ token ∈ tokens,
    ∃ first rest, token.text.toList = first :: rest ∧ Character.isBlank first = false
  blankBetween : ∀ before c after, text = before ++ c :: after →
    (∀ token ∈ tokens, ¬ token.Covers (origin + Text.width before)) →
    Character.isBlank c = true

/-! ## Segments -/

/-- A character that no segment covers is blank. -/
theorem Segmentation.blank_of_outside {lexicon : Lexicon} {offset : Nat} {text tail : List Char}
    {segments : List Segment} (segmented : Segmentation lexicon offset text segments tail)
    {before after : List Char} {c : Char} (placed : text = before ++ c :: after)
    (outside : ∀ segment ∈ segments, ¬ (segment.start ≤ offset + Text.width before ∧
      offset + Text.width before < segment.finish)) :
    Character.isBlank c = true := by
  induction segmented generalizing before with
  | tail gap =>
      rw [placed] at gap
      exact gap.inside c (by simp)
  | @lexeme offset blanks rest left tail first segments gap whole behind ih =>
      rcases Text.append_eq_append_cons placed with ⟨more, blanksEq⟩ | ⟨between, beforeEq, lexemeEq⟩
      · rw [blanksEq] at gap
        exact gap.inside c (by simp)
      · have notHere := outside _ List.mem_cons_self
        rw [← whole] at lexemeEq
        rw [beforeEq, Text.width_append, Segment.finish] at notHere
        rcases Text.append_eq_append_cons lexemeEq with ⟨more, textEq⟩ | ⟨deeper, betweenEq, leftEq⟩
        · -- the character is one of the lexeme, which covers it
          have positive := c.utf8Size_pos
          have size := congrArg Text.width textEq
          rw [Text.width_append, Text.width_cons] at size
          dsimp only at notHere
          omega
        · refine ih leftEq fun segment member => ?_
          have notLater := outside segment (List.mem_cons_of_mem _ member)
          rw [beforeEq, betweenEq, Text.width_append, Text.width_append] at notLater
          rw [Nat.add_assoc, Nat.add_assoc]
          exact notLater

/-! ## Tokens -/

theorem Segment.StandsIn.token_isPartOf {lexicon : Lexicon} {text : List Char} {segment : Segment}
    (stands : segment.StandsIn lexicon 0 text) (origin : Nat) :
    (segment.token lexicon origin).IsPartOf origin text := by
  cases stands with
  | intro before first rest after visible whole =>
      refine ⟨before, after, ?_, ?_⟩
      · rw [Segment.text_token, List.append_assoc, whole]
      · rw [Segment.position_token, Nat.zero_add]

theorem Segment.StandsIn.token_visible {lexicon : Lexicon} {offset : Nat} {text : List Char}
    {segment : Segment} (stands : segment.StandsIn lexicon offset text) (origin : Nat) :
    ∃ first rest, (segment.token lexicon origin).text.toList = first :: rest ∧
      Character.isBlank first = false := by
  have nonempty := stands.text_ne_nil
  cases stands with
  | intro before first rest after visible whole =>
      rw [Segment.text_token]
      cases letters : (Lexeme.read lexicon first rest).text with
      | nil => exact absurd letters nonempty
      | cons opening others =>
          rw [letters] at whole
          cases whole
          exact ⟨first, others, rfl, visible⟩

theorem Segment.finish_token (lexicon : Lexicon) (origin : Nat) (segment : Segment) :
    (segment.token lexicon origin).finish = origin + segment.finish := by
  rw [Token.finish, Segment.position_token, Segment.text_token, Segment.finish, Nat.add_assoc]

/-- The first call on a file in range, with comments kept, returns tokens that tile the text. -/
theorem Scanner.lex_tiling (file : Source.File) (lexicon : Lexicon) (log : Log)
    (keeps : lexicon.keepComments = true) (inRange : file.InRange) :
    ∃ tokens, (Scanner.lex (.ofFile file lexicon) log).1 = .ok tokens ∧
      Tiling file.offset file.text.toList tokens := by
  have segmented := Reading.segmentation lexicon 0 file.text.toList
  refine ⟨file.tokens lexicon, by rw [Scanner.lex_of_inRange inRange], ?_⟩
  rw [file.tokens_of_keepComments keeps]
  have stands : ∀ segment ∈ (file.reading lexicon).segments,
      segment.StandsIn lexicon 0 file.text.toList := segmented.standsIn
  constructor
  case isPartOf =>
    intro token member
    obtain ⟨segment, found, rfl⟩ := List.mem_map.mp member
    exact (stands segment found).token_isPartOf file.offset
  case nonempty =>
    intro token member
    obtain ⟨segment, found, rfl⟩ := List.mem_map.mp member
    have positive := mt Text.width_eq_zero_iff.mp (stands segment found).text_ne_nil
    rw [Segment.finish_token, Segment.position_token, Segment.finish]
    omega
  case ordered =>
    refine List.pairwise_map.mpr (segmented.ordered.imp fun {earlier later} apart => ?_)
    rw [Segment.finish_token, Segment.position_token]
    exact Nat.add_le_add_left apart file.offset
  case inside =>
    intro token member
    obtain ⟨segment, found, rfl⟩ := List.mem_map.mp member
    have bound := (stands segment found).finish_le
    rw [Segment.finish_token, Segment.position_token]
    omega
  case visible =>
    intro token member
    obtain ⟨segment, found, rfl⟩ := List.mem_map.mp member
    exact (stands segment found).token_visible file.offset
  case blankBetween =>
    intro before c after placed outside
    refine segmented.blank_of_outside placed fun segment found covers => ?_
    refine outside _ (List.mem_map_of_mem found) ?_
    rw [Token.Covers, Segment.finish_token, Segment.position_token]
    omega

/-- A comment behind a word, an unclosed string that ends in half an escape, and blanks around. -/
theorem Scanner.lex_tiling_unclosed :
    (Lexicon.standard.keepingComments true).keepComments = true ∧
      (Source.File.mk 7 " é // y\n\t\"z\\x4").InRange ∧
      ∃ tokens, (Scanner.lex (.ofFile ⟨7, " é // y\n\t\"z\\x4"⟩ (Lexicon.standard.keepingComments true))
          Log.empty).1 = .ok tokens ∧
        Tiling 7 " é // y\n\t\"z\\x4".toList tokens :=
  ⟨rfl, by decide,
    Scanner.lex_tiling ⟨7, " é // y\n\t\"z\\x4"⟩ (Lexicon.standard.keepingComments true) Log.empty rfl
      (by decide)⟩

end Lexing
