import Lexing.CharacterLexer
import Lexing.Proofs.Scanner
import Mathlib.Data.List.DropRight
import Mathlib.Data.List.Induction

/-! # Copies of a character lexer

A lexer can be copied at any time, and the copies are used in turn. What a copy answers depends on its
own history alone, which it shares up to the moment of copying with the lexer that it was copied from:
whether it was called since it was last reset. A first call gives what the scanner gives for the same
text, comments included, without the blank characters. -/

namespace Lexing

/-- A lexer and its copies, and the driver that they are called with. -/
structure Copies (δ : Type) where
  lexers : List CharacterLexer
  driver : δ

namespace Copies

open CharacterLexer (ofText)

/-! ## Operations -/

/-- What can be done with a lexer. -/
inductive Act where
  | lex
  | reset
  | clone
  | isExhausted
  deriving DecidableEq, Repr

/-- Something done with the lexer that has a number. Lexers are numbered in the order in which they came
into being. -/
structure Operation where
  copy : Nat
  act : Act
  deriving DecidableEq, Repr

/-- What an operation answers. -/
inductive Answer where
  | nothing
  | batch (result : Except Overflow (List String))
  | exhausted (answer : Bool)
  deriving DecidableEq, Repr

variable {δ : Type}

/-- Performs an operation. There is none on a lexer that is not there. -/
def perform (copies : Copies δ) (operation : Operation) : Answer × Copies δ :=
  match copies.lexers[operation.copy]? with
  | none => (.nothing, copies)
  | some lexer =>
      match operation.act with
      | .lex =>
          let (result, next, driver) := lexer.lex copies.driver
          (.batch result, ⟨copies.lexers.set operation.copy next, driver⟩)
      | .reset => (.nothing, { copies with lexers := copies.lexers.set operation.copy lexer.reset })
      | .clone => (.nothing, { copies with lexers := copies.lexers ++ [lexer] })
      | .isExhausted => (.exhausted lexer.isExhausted, copies)

/-- A single lexer on which operations are performed, and on its copies. -/
def after (text : String) (keepBlanks : Bool) (driver : δ) (operations : List Operation) : Copies δ :=
  operations.foldl (fun copies operation => (copies.perform operation).2)
    ⟨[ofText text keepBlanks], driver⟩

/-! ## Histories -/

/-- What was done since the last reset. -/
def sinceReset (history : List Act) : List Act := history.rtakeWhile fun act => act != .reset

/-- Adds an operation to the histories of all lexers. A clone has the history of what it was cloned
from. -/
def record (histories : List (List Act)) (operation : Operation) : List (List Act) :=
  match histories[operation.copy]? with
  | none => histories
  | some history =>
      let others := if operation.act = .clone then [history] else []
      histories.set operation.copy (history ++ [operation.act]) ++ others

/-- The histories of all lexers after operations that begin with a single lexer. -/
def histories (operations : List Operation) : List (List Act) := operations.foldl record [[]]

theorem histories_concat (earlier : List Operation) (operation : Operation) :
    histories (earlier ++ [operation]) = record (histories earlier) operation :=
  List.foldl_concat _ _ _ _

theorem mem_sinceReset_concat {history : List Act} {act : Act} :
    .lex ∈ sinceReset (history ++ [act]) ↔ act = .lex ∨ act ≠ .reset ∧ .lex ∈ sinceReset history := by
  rw [sinceReset, List.rtakeWhile_concat]
  cases act <;> simp [sinceReset]

/-! ## Lexers and their histories -/

variable {text : String} {keepBlanks : Bool} {history : List Act} {driver : δ}

/-- The lexer with a history. -/
def standing (text : String) (keepBlanks : Bool) (history : List Act) : CharacterLexer :=
  if .lex ∈ sinceReset history then (ofText text keepBlanks).finished else ofText text keepBlanks

/-- What is done with a lexer with a history is answered so. -/
def answer (text : String) (keepBlanks : Bool) (history : List Act) : Act → Answer
  | .lex =>
      .batch (.ok (if .lex ∈ sinceReset history then []
        else CharacterLexer.tokens keepBlanks text.toList))
  | .isExhausted => .exhausted (decide (text = "" ∨ .lex ∈ sinceReset history))
  | .reset | .clone => .nothing

theorem standing_lex :
    standing text keepBlanks (history ++ [.lex]) = (ofText text keepBlanks).finished :=
  if_pos (mem_sinceReset_concat.mpr (.inl rfl))

theorem standing_reset : standing text keepBlanks (history ++ [.reset]) = ofText text keepBlanks :=
  if_neg (by simp [mem_sinceReset_concat])

theorem standing_other {act : Act} (lex : act ≠ .lex) (reset : act ≠ .reset) :
    standing text keepBlanks (history ++ [act]) = standing text keepBlanks history := by
  simp only [standing, mem_sinceReset_concat, lex, reset, false_or, ne_eq, not_false_eq_true, true_and]

theorem lex_standing :
    (standing text keepBlanks history).lex driver =
      (.ok (if .lex ∈ sinceReset history then [] else CharacterLexer.tokens keepBlanks text.toList),
        (ofText text keepBlanks).finished, driver) := by
  rw [standing]
  split
  case isTrue called =>
    -- The cursor is behind the last byte, where the text can be cut.
    have behind : Text.dropWidth? text.utf8ByteSize text.toList = some [] :=
      Text.dropWidth?_eq_some_iff.mpr ⟨text.toList, (List.append_nil _).symm, Text.width_toList text⟩
    simp only [CharacterLexer.lex, CharacterLexer.finished, ofText, behind]
    rfl
  case isFalse fresh => exact CharacterLexer.lex_ofText text keepBlanks driver

theorem reset_standing : (standing text keepBlanks history).reset = ofText text keepBlanks := by
  rw [standing]
  split <;> rfl

theorem isExhausted_standing :
    (standing text keepBlanks history).isExhausted =
      decide (text = "" ∨ .lex ∈ sinceReset history) := by
  rw [standing, CharacterLexer.isExhausted]
  split
  case isTrue called => simp [CharacterLexer.finished, called]
  case isFalse fresh => simp [ofText, fresh]

/-- One step: what is answered and what the lexer becomes depend on its history alone, and the other
lexers stay. -/
theorem perform_standing {histories : List (List Act)} {operation : Operation}
    (found : histories[operation.copy]? = some history) :
    perform ⟨histories.map (standing text keepBlanks), driver⟩ operation =
      (answer text keepBlanks history operation.act,
        ⟨(record histories operation).map (standing text keepBlanks), driver⟩) := by
  obtain ⟨copy, act⟩ := operation
  have lexer : (histories.map (standing text keepBlanks))[copy]? =
      some (standing text keepBlanks history) := by
    rw [List.getElem?_map, found]
    rfl
  have same : (histories.map (standing text keepBlanks)).set copy (standing text keepBlanks history) =
      histories.map (standing text keepBlanks) := by
    obtain ⟨inside, there⟩ := List.getElem?_eq_some_iff.mp lexer
    rw [← there, List.set_getElem_self]
  simp only [perform, lexer, record, found, List.map_append, List.map_set]
  cases act with
  | lex => simp [lex_standing, standing_lex, answer]
  | reset => simp [reset_standing, standing_reset, answer]
  | clone => simp [standing_other, same, answer]
  | isExhausted => simp [isExhausted_standing, standing_other, same, answer]

theorem perform_of_none {copies : Copies δ} {operation : Operation}
    (none : copies.lexers[operation.copy]? = none) : copies.perform operation = (.nothing, copies) := by
  rw [perform, none]

theorem after_concat (earlier : List Operation) (operation : Operation) :
    after text keepBlanks driver (earlier ++ [operation]) =
      ((after text keepBlanks driver earlier).perform operation).2 :=
  List.foldl_concat _ _ _ _

/-- After all operations every lexer stands as its history says. -/
theorem after_eq (operations : List Operation) :
    after text keepBlanks driver operations =
      ⟨(histories operations).map (standing text keepBlanks), driver⟩ := by
  induction operations using List.reverseRecOn with
  | nil => rfl
  | append_singleton earlier operation ih =>
      rw [after_concat, ih, histories_concat]
      cases found : (histories earlier)[operation.copy]? with
      | none => rw [perform_of_none (by simp [found]), record, found]
      | some history => rw [perform_standing found]

/-- An operation on one lexer leaves the others as they are. -/
theorem perform_other (copies : Copies δ) {operation : Operation} {copy : Nat}
    (other : operation.copy ≠ copy) (inside : copy < copies.lexers.length) :
    (copies.perform operation).2.lexers[copy]? = copies.lexers[copy]? := by
  rw [perform]
  split
  case h_1 => rfl
  case h_2 lexer found =>
    cases operation.act with
    | lex => exact List.getElem?_set_ne other
    | reset => exact List.getElem?_set_ne other
    | clone => exact List.getElem?_append_left inside
    | isExhausted => rfl

end Copies

/-! ## What the scanner has -/

/-- The visible characters of a text are those of its lexemes. -/
theorem Segmentation.filter_visible {lexicon : Lexicon} {offset : Nat} {text tail : List Char}
    {segments : List Segment} (segmentation : Segmentation lexicon offset text segments tail) :
    text.filter (fun c => !Character.isBlank c) =
      (segments.flatMap fun segment => segment.lexeme.text).filter fun c => !Character.isBlank c := by
  have blank {blanks after : List Char} (gap : Text.MaximalRun Character.isBlank blanks after) :
      blanks.filter (fun c => !Character.isBlank c) = [] :=
    List.filter_eq_nil_iff.mpr fun c member => by simp [gap.inside c member]
  induction segmentation with
  | tail gap => rw [blank gap]; rfl
  | lexeme gap whole behind ih =>
      rw [← whole, List.filter_append, List.filter_append, blank gap, ih, List.flatMap_cons,
        List.filter_append, List.nil_append]

/-- The visible characters of a file are those of its tokens, comments included. -/
theorem Source.File.filter_visible (file : File) {lexicon : Lexicon}
    (keeps : lexicon.keepComments = true) :
    file.text.toList.filter (fun c => !Character.isBlank c) =
      (String.join ((file.tokens lexicon).map Token.text)).toList.filter
        fun c => !Character.isBlank c := by
  rw [(Reading.segmentation lexicon 0 file.text.toList).filter_visible,
    file.tokens_of_keepComments keeps, String.toList_join, List.map_map, List.flatMap_map]
  simp only [Function.comp_apply, Segment.text_token]
  rfl

theorem CharacterLexer.toList_join_tokens (keepBlanks : Bool) (characters : List Char) :
    (String.join (tokens keepBlanks characters)).toList =
      characters.filter fun c => keepBlanks || !Character.isBlank c := by
  rw [tokens, String.toList_join, List.flatMap_map]
  simp

namespace Copies

open CharacterLexer (ofText)

variable {δ : Type}

/-- After any operations on a lexer and its copies, a call of one of them returns every character of the
text in order, blank ones only if they are kept, unless its history has a call since the last reset: then
it returns nothing. It is exhausted if the text is empty or there was such a call. Nothing is reported,
and what is done with one copy leaves the others as they are. Wherever the text stands and whatever the
lexicon, a first call that leaves out blank characters returns what the scanner returns for the text, if
the scanner keeps comments and the blank characters are left out of its tokens. -/
theorem answers_by_history (text : String) (keepBlanks : Bool) (driver : δ)
    (operations : List Operation) :
    (after text keepBlanks driver operations).driver = driver ∧
    (after text keepBlanks driver operations).lexers.length = (histories operations).length ∧
    (∀ copy history, (histories operations)[copy]? = some history →
      ((after text keepBlanks driver operations).perform ⟨copy, .lex⟩).1 =
        .batch (.ok (if .lex ∈ sinceReset history then []
          else (text.toList.filter fun c => keepBlanks || !Character.isBlank c).map Char.toString)) ∧
      ((after text keepBlanks driver operations).perform ⟨copy, .isExhausted⟩).1 =
        .exhausted (decide (text = "" ∨ .lex ∈ sinceReset history))) ∧
    (∀ operation copy, operation.copy ≠ copy →
      copy < (after text keepBlanks driver operations).lexers.length →
      ((after text keepBlanks driver operations).perform operation).2.lexers[copy]? =
        (after text keepBlanks driver operations).lexers[copy]?) ∧
    ∀ (lexicon : Lexicon) (offset : Nat), (Source.File.mk offset text).InRange →
      ∃ batch tokens reported,
        CharacterLexer.lex (ofText text false) driver =
          (.ok batch, (ofText text false).finished, driver) ∧
        (Source.File.mk offset text).LexesTo (lexicon.keepingComments true) tokens reported ∧
        (String.join batch).toList =
          (String.join (tokens.map Token.text)).toList.filter fun c => !Character.isBlank c := by
  rw [after_eq]
  refine ⟨rfl, List.length_map _, fun copy history found => ⟨?batch, ?exhausted⟩, ?others, ?scanner⟩
  case batch => exact congrArg Prod.fst (@perform_standing _ _ _ _ _ _ ⟨copy, .lex⟩ found)
  case exhausted => exact congrArg Prod.fst (@perform_standing _ _ _ _ _ _ ⟨copy, .isExhausted⟩ found)
  case others => exact fun operation copy other inside => perform_other _ other inside
  case scanner =>
    intro lexicon offset inRange
    refine ⟨_, _, _, CharacterLexer.lex_ofText text false driver,
      Source.File.lexesTo_of_inRange inRange (lexicon.keepingComments true), ?_⟩
    rw [CharacterLexer.toList_join_tokens]
    exact Source.File.filter_visible ⟨offset, text⟩ rfl

/-- A clone made between a call and a reset has nothing left, and the lexer that is reset has everything
again. The comment has a blank character, which its token keeps. -/
theorem answers_by_history_cloned :
    ((after "→ //é b" false Log.empty [⟨0, .lex⟩, ⟨0, .clone⟩, ⟨0, .reset⟩]).perform ⟨1, .lex⟩).1 =
        .batch (.ok []) ∧
      ((after "→ //é b" false Log.empty [⟨0, .lex⟩, ⟨0, .clone⟩, ⟨0, .reset⟩]).perform ⟨0, .lex⟩).1 =
        .batch (.ok ["→", "/", "/", "é", "b"]) ∧
      ((after "→ //é b" false Log.empty
          [⟨0, .lex⟩, ⟨0, .clone⟩, ⟨0, .reset⟩]).perform ⟨0, .lex⟩).2.lexers[1]? =
        (after "→ //é b" false Log.empty [⟨0, .lex⟩, ⟨0, .clone⟩, ⟨0, .reset⟩]).lexers[1]? ∧
      (Source.File.mk 9 "→ //é b").InRange ∧
      ∃ batch tokens reported,
        CharacterLexer.lex (ofText "→ //é b" false) Log.empty =
          (.ok batch, (ofText "→ //é b" false).finished, Log.empty) ∧
        (Source.File.mk 9 "→ //é b").LexesTo (Lexicon.standard.keepingComments true) tokens reported ∧
        (String.join batch).toList =
          (String.join (tokens.map Token.text)).toList.filter fun c => !Character.isBlank c := by
  have inRange : (Source.File.mk 9 "→ //é b").InRange := by decide
  obtain ⟨-, -, answers, others, scanner⟩ :=
    answers_by_history "→ //é b" false Log.empty [⟨0, .lex⟩, ⟨0, .clone⟩, ⟨0, .reset⟩]
  refine ⟨?_, ?_, ?_, inRange, scanner .standard 9 inRange⟩
  · exact (answers 1 [.lex] (by decide)).1.trans (by decide)
  · exact (answers 0 [.lex, .clone, .reset] (by decide)).1.trans (by decide)
  · exact others ⟨0, .lex⟩ 1 (by decide) (by decide)

end Copies

end Lexing
