import Lexing.Proofs.Context.Lexeme
import Lexing.Proofs.Scanner

/-! # Tokens read alone

What stands behind a lexeme is looked at only to see that the lexeme ends there, and the end of the
text ends every lexeme. The text of a token, lexed alone, is therefore that token again, wherever it
was cut from: under one lexicon no text belongs to tokens of two kinds. -/

namespace Lexing

open Text (MaximalRun Replaces)

variable {lexicon : Lexicon}

/-- A lexeme is read again from its own characters, and nothing then stops it. -/
theorem Lexeme.read_alone {first : Char} {rest after : List Char}
    (whole : (read lexicon first rest).text ++ after = first :: rest) :
    ∃ letters, (read lexicon first rest).text = first :: letters ∧
      read lexicon first letters = (read lexicon first rest).stoppingAt none := by
  cases spelled : (read lexicon first rest).text with
  | nil => exact absurd spelled (read_text_ne_nil lexicon first rest)
  | cons opening letters =>
      have headed := whole
      rw [spelled] at headed
      obtain ⟨rfl, -⟩ := List.cons.inj headed
      have kept : (read lexicon opening rest).text ++ [] = opening :: letters := by
        rw [List.append_nil, spelled]
      -- what is found in a prefix of a text is found in the text
      have same : ∀ listed, lexicon.Lists listed →
          listed <+: opening :: letters → listed <+: opening :: rest :=
        fun listed _ isPrefix => isPrefix.trans ⟨after, headed⟩
      exact ⟨letters, rfl, read_of_replaces whole kept (Replaces.nil after) same⟩

namespace Segment.StandsIn

variable {offset : Nat} {text : List Char} {segment : Segment}

/-- The text of a segment has one segment, which is read alike. -/
theorem segments_alone (stands : segment.StandsIn lexicon offset text) :
    (Reading.ofText lexicon segment.lexeme.text).segments =
      [⟨0, segment.lexeme.stoppingAt none, false⟩] := by
  cases stands with
  | intro before first rest after visible whole =>
      obtain ⟨letters, spelled, alone⟩ := Lexeme.read_alone whole
      have gap : MaximalRun Character.isBlank [] (first :: letters) := .of_stop (by simp) visible
      have nothingLeft : (Lexeme.read lexicon first letters).text ++ [] = first :: letters := by
        rw [alone, Lexeme.text_stoppingAt, List.append_nil, spelled]
      have segmented := @Segmentation.lexeme lexicon 0 _ _ _ _ _ _ gap nothingLeft
        (.tail (.of_all (by simp)))
      rw [List.nil_append, alone] at segmented
      dsimp only
      rw [spelled, Reading.ofText, segmented.readAfter_eq]
      rfl

/-- A file that holds the text of a token and nothing else has that token and no other. -/
theorem tokens_alone (stands : segment.StandsIn lexicon offset text)
    (keeps : lexicon.keepComments = true) (origin place : Nat) :
    (Source.File.mk place (segment.token lexicon origin).text).tokens lexicon =
      [⟨(segment.token lexicon origin).kind, (segment.token lexicon origin).text, place⟩] := by
  rw [Source.File.tokens_of_keepComments _ keeps, Source.File.reading, text_token,
    stands.segments_alone]
  simp [token]

/-- Segments of one text have tokens of one kind, wherever they stand. -/
theorem kind_eq {distance : Nat} {others : List Char} {twin : Segment}
    (stands : segment.StandsIn lexicon offset text) (standsToo : twin.StandsIn lexicon distance others)
    (same : segment.lexeme.text = twin.lexeme.text) :
    segment.lexeme.kind lexicon = twin.lexeme.kind lexicon := by
  have alone := stands.segments_alone
  rw [same, standsToo.segments_alone] at alone
  have lexemes : twin.lexeme.stoppingAt none = segment.lexeme.stoppingAt none := by
    simpa using alone
  rw [← Lexeme.kind_stoppingAt lexicon none segment.lexeme, ← lexemes, Lexeme.kind_stoppingAt]

end Segment.StandsIn

/-- Tokens whose kinds their texts alone give: each text is one token wherever it stands alone, and no
token of any file has one of these texts and another kind. -/
structure Lexicon.Isolates (lexicon : Lexicon) (tokens : List Token) : Prop where
  alone : ∀ token ∈ tokens, ∀ place, (Source.File.mk place token.text).InRange →
    ∃ found, (Source.File.mk place token.text).LexesTo lexicon
      [⟨token.kind, token.text, place⟩] found
  alike : ∀ other : Source.File, other.InRange →
    ∃ others found, other.LexesTo lexicon others found ∧
      ∀ token ∈ tokens, ∀ twin ∈ others, token.text = twin.text → token.kind = twin.kind

/-- The text of a token, lexed alone at any place in range, is one token of the same kind and text.
Tokens of one text are therefore of one kind, whatever files they stand in. -/
theorem Scanner.lex_alone (lexicon : Lexicon) (keeps : lexicon.keepComments = true)
    (file : Source.File) (inRange : file.InRange) :
    ∃ tokens reported, file.LexesTo lexicon tokens reported ∧ lexicon.Isolates tokens := by
  refine ⟨_, _, Source.File.lexesTo_of_inRange inRange lexicon, ?alone, ?alike⟩
  case alone =>
    intro token member place room
    rw [file.tokens_of_keepComments keeps] at member
    obtain ⟨segment, found, rfl⟩ := List.mem_map.mp member
    have lexes := Source.File.lexesTo_of_inRange room lexicon
    rw [(Reading.standsIn_of_mem found).tokens_alone keeps] at lexes
    exact ⟨_, lexes⟩
  case alike =>
    intro other room
    refine ⟨_, _, Source.File.lexesTo_of_inRange room lexicon, fun token member twin memberToo same => ?_⟩
    rw [Source.File.tokens_of_keepComments _ keeps] at member memberToo
    obtain ⟨segment, found, rfl⟩ := List.mem_map.mp member
    obtain ⟨segmentToo, foundToo, rfl⟩ := List.mem_map.mp memberToo
    have texts := congrArg String.toList same
    rw [Segment.text_token, Segment.text_token] at texts
    exact (Reading.standsIn_of_mem found).kind_eq (Reading.standsIn_of_mem foundToo) texts

/-- A number cut short at its exponent, an escape that a line break cuts short, and a symbol in front
of what only together with it would be a comment. -/
theorem Scanner.lex_alone_cut :
    (Lexicon.mk ["é"] ["/", "/-"] (some "/-#") true).keepComments = true ∧
      (Source.File.mk 4 "01_9.e+ '\\x4\n/-é /-# \"\\").InRange ∧
      ∃ tokens reported, (Source.File.mk 4 "01_9.e+ '\\x4\n/-é /-# \"\\").LexesTo
          ⟨["é"], ["/", "/-"], some "/-#", true⟩ tokens reported ∧
        Lexicon.Isolates ⟨["é"], ["/", "/-"], some "/-#", true⟩ tokens :=
  ⟨rfl, by decide,
    Scanner.lex_alone ⟨["é"], ["/", "/-"], some "/-#", true⟩ rfl
      ⟨4, "01_9.e+ '\\x4\n/-é /-# \"\\"⟩ (by decide)⟩

end Lexing
