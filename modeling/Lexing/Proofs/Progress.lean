import Lexing.Proofs.Cursor
import Lexing.Proofs.Custody
import Lexing.Proofs.Strict

/-! # Scanning moves on, ends, and happens once

Every scan of a text moves the cursor on or finds that nothing visible is left, so the scanning of a
text ends. It happens once: the first call of a scanner on a file in range, whatever kind of call it
is, leaves nothing, and after it no call returns or reports anything. -/

namespace Lexing

open Relation (ReflTransGen)

/-! ## Nothing left -/

/-- A lexer that returns nothing is drained by one call. -/
theorem Lexer.drain_of_call {lexer : Lexer σ δ τ} {state next : σ} {driver after : δ}
    (called : lexer state driver = (.ok [], next, after)) (rounds : Nat) :
    lexer.drain rounds state driver = (.ok (.ok []), next, after) := by
  rw [drain, drainAfter, called]

/-- A text has no segments exactly if all of it is blank. -/
theorem Reading.segments_eq_nil_iff {lexicon : Lexicon} {text : List Char} :
    (ofText lexicon text).segments = [] ↔ ∀ c ∈ text, Character.isBlank c = true := by
  have segmented := segmentation lexicon 0 text
  rw [← ofText] at segmented
  generalize (ofText lexicon text).segments = segments at segmented
  generalize (ofText lexicon text).blankTail = tail at segmented
  cases segmented with
  | tail gap => exact iff_of_true rfl gap.inside
  | @lexeme offset blanks rest after tail first segments gap whole behind =>
      refine iff_of_false (List.cons_ne_nil _ _) fun blank => ?_
      have visible := gap.stops first rfl
      rw [blank first (by simp)] at visible
      cases visible

namespace Scanner

/-- A scanner of which nothing comes any more: it is exhausted, and no call returns anything, reports
anything, or changes it. -/
structure Spent (scanner : Scanner) : Prop where
  exhausted : scanner.isExhausted = true
  lex : ∀ log, Scanner.lex scanner log = (.ok [], scanner, log)
  strict : ∀ log, Lexer.strict Scanner.lex scanner log = (.ok (.ok []), scanner, log)
  drain : ∀ rounds log, Lexer.drain Scanner.lex rounds scanner log = (.ok (.ok []), scanner, log)

theorem spent_of_nothing {scanner : Scanner} (nothing : scanner.rest = []) : scanner.Spent := by
  have lex : ∀ log, Scanner.lex scanner log = (.ok [], scanner, log) := by
    intro log
    obtain ⟨origin, passed, rest, lexicon⟩ := scanner
    cases nothing
    have reading : Reading.ofText lexicon [] = ⟨[], []⟩ := Reading.readAfter_of_blank lexicon 0 [] rfl
    rw [Scanner.lex_eq]
    dsimp only
    rw [reading]
    exact congrArg (fun log => (_, _, log)) (Log.append_nil log)
  constructor
  case exhausted => rw [isExhausted, nothing, List.all_nil]
  case lex => exact lex
  case strict =>
    intro log
    exact Lexer.strict_of_call ((lex log).trans (by rw [Log.append_nil]))
  case drain => exact fun rounds log => Lexer.drain_of_call (lex log) rounds

/-- Every call of a scanner leaves it in a given state. -/
structure LeadsTo (scanner next : Scanner) : Prop where
  lex : ∀ log, (Scanner.lex scanner log).2.1 = next
  strict : ∀ log, (Lexer.strict Scanner.lex scanner log).2.1 = next
  drain : ∀ rounds log, (Lexer.drain Scanner.lex rounds scanner log).2.1 = next

theorem Spent.leadsTo {scanner : Scanner} (spent : scanner.Spent) : scanner.LeadsTo scanner := by
  constructor
  case lex => exact fun log => by rw [spent.lex]
  case strict => exact fun log => by rw [spent.strict]
  case drain => exact fun rounds log => by rw [spent.drain]

/-- Every first call on a file that can be lexed leaves nothing. -/
theorem leadsTo_finished {file : Source.File} {lexicon : Lexicon} {tokens : List Token}
    {reported : List Diagnostic} (lexes : file.LexesTo lexicon tokens reported) :
    (Scanner.ofFile file lexicon).LeadsTo (Scanner.ofFile file lexicon).finished := by
  have spent : (Scanner.ofFile file lexicon).finished.Spent := spent_of_nothing rfl
  constructor
  case lex => exact fun log => by rw [lexes]
  case strict => exact fun log => by rw [lexes.strict_eq]
  case drain =>
    intro rounds log
    rw [Lexer.drain, Lexer.drainAfter, lexes]
    cases tokens with
    | nil => rfl
    | cons first rest =>
        dsimp only
        by_cases full : 0 = rounds
        · rw [if_pos full]
        · have room : 0 + 1 < Position.limit := by decide
          rw [if_neg full, if_pos room, Lexer.drainAfter, spent.lex]

end Scanner

/-! ## Calls of one scanner among others -/

namespace Session

variable {ι : Type}

/-- An operation calls a given lexer. -/
def Operation.Calls (i : ι) : Operation ι → Prop
  | .lex j => j = i
  | .strict j => j = i
  | .drain j _ => j = i
  | _ => False

variable [DecidableEq ι]

/-- Only an operation that calls a lexer changes its state. -/
theorem states_perform_of_not_calls {σ τ : ι → Type} {lexers : ∀ i, Lexer (σ i) Log (τ i)} {i : ι}
    {operation : Operation ι} (other : ¬ operation.Calls i) (session : Session σ) :
    (perform lexers session operation).2.states i = session.states i := by
  cases operation with
  | report position message => rfl
  | push diagnostic => rfl
  | take => rfl
  | lex j => exact Function.update_of_ne (Ne.symm other) _ _
  | strict j => exact Function.update_of_ne (Ne.symm other) _ _
  | drain j rounds => exact Function.update_of_ne (Ne.symm other) _ _

/-- An operation that calls a scanner leaves it where its calls lead. -/
theorem states_perform_of_calls {i : ι} {operation : Operation ι} (calls : operation.Calls i)
    (session : Session fun _ : ι => Scanner) {next : Scanner}
    (leads : (session.states i).LeadsTo next) :
    (perform (fun _ => Scanner.lex) session operation).2.states i = next := by
  cases operation with
  | report position message => exact calls.elim
  | push diagnostic => exact calls.elim
  | take => exact calls.elim
  | lex j =>
      cases calls
      exact (Function.update_self _ _ _).trans (leads.lex _)
  | strict j =>
      cases calls
      exact (Function.update_self _ _ _).trans (leads.strict _)
  | drain j rounds =>
      cases calls
      exact (Function.update_self _ _ _).trans (leads.drain rounds _)

/-- After operations a scanner is where it was if none of them called it, and else finished. -/
theorem states_after {i : ι} {session : Session fun _ : ι => Scanner} {file : Source.File}
    {lexicon : Lexicon} {tokens : List Token} {reported : List Diagnostic}
    (lexes : file.LexesTo lexicon tokens reported) (fresh : session.states i = .ofFile file lexicon)
    (operations : List (Operation ι)) :
    ((∀ operation ∈ operations, ¬ operation.Calls i) ∧
        (after (fun _ => Scanner.lex) session operations).states i = .ofFile file lexicon) ∨
      ((∃ operation ∈ operations, operation.Calls i) ∧
        (after (fun _ => Scanner.lex) session operations).states i =
          (Scanner.ofFile file lexicon).finished) := by
  have spent : (Scanner.ofFile file lexicon).finished.Spent := Scanner.spent_of_nothing rfl
  induction operations using List.reverseRecOn with
  | nil => exact Or.inl ⟨by simp, fresh⟩
  | append_singleton operations last ih =>
      rw [after_concat]
      by_cases calls : last.Calls i
      · refine Or.inr ⟨⟨last, by simp, calls⟩, ?_⟩
        apply states_perform_of_calls calls
        rcases ih with ⟨-, state⟩ | ⟨-, state⟩
        · rw [state]
          exact Scanner.leadsTo_finished lexes
        · rw [state]
          exact spent.leadsTo
      · rw [states_perform_of_not_calls calls]
        rcases ih with ⟨none, state⟩ | ⟨⟨operation, member, earlier⟩, state⟩
        · refine Or.inl ⟨fun operation member => ?_, state⟩
          rcases List.mem_append.mp member with before | same
          · exact none operation before
          · rw [List.mem_singleton.mp same]
            exact calls
        · exact Or.inr ⟨⟨operation, List.mem_append_left _ member, earlier⟩, state⟩

end Session

/-! ## Progress -/

/-- Every cursor that moves from the start of a text stands between two characters of it, and a scan
from there moves it on and yields a segment, or finds nothing visible and stops at the end; the scans
of a text end, and yield its segments. A scanner that is not called yet is exhausted exactly if its
file is blank, which is if it has no tokens with comments kept. After the first call, of whatever kind
and however it ends, it is spent. -/
theorem Scanner.scanning_progresses (lexicon : Lexicon) :
    (∀ text cursor, ReflTransGen (Cursor.Moves lexicon) (.start text) cursor →
      String.Pos.Raw.IsValid (String.ofList text) ⟨cursor.offset⟩ ∧
      cursor.offset ≤ (String.ofList text).utf8ByteSize ∧ cursor.StandsIn text ∧
      ((∃ segment next, cursor.scan lexicon = (some segment, next) ∧
          cursor.Yields lexicon segment next) ∨
        cursor.scan lexicon = (none, .finish text) ∧
          ∀ c ∈ cursor.rest, Character.isBlank c = true)) ∧
    (∀ text, Cursor.Runs lexicon (.start text) (Reading.ofText lexicon text).segments
      (.finish text)) ∧
    ∀ file : Source.File, file.InRange → ∃ tokens kept reported,
      file.LexesTo lexicon kept reported ∧
      file.LexesTo (lexicon.keepingComments true) tokens reported ∧
      ∀ (ι : Type) [DecidableEq ι] (i : ι) (session : Session fun _ : ι => Scanner),
        session.states i = .ofFile file lexicon → ∀ operations : List (Session.Operation ι),
          ((∀ operation ∈ operations, ¬ operation.Calls i) →
            (((session.after (fun _ => Scanner.lex) operations).states i).isExhausted = true ↔
              ∀ c ∈ file.text.toList, Character.isBlank c = true) ∧
            (((session.after (fun _ => Scanner.lex) operations).states i).isExhausted = true ↔
              tokens = [])) ∧
          ((∃ operation ∈ operations, operation.Calls i) →
            ((session.after (fun _ => Scanner.lex) operations).states i).Spent) := by
  refine ⟨?moves, ?runs, ?calls⟩
  case moves =>
    intro text cursor moves
    have stands := (Cursor.standsIn_start text).moves moves
    have valid := stands.isValid
    exact ⟨valid, valid.le_utf8ByteSize, stands, stands.scan⟩
  case runs =>
    intro text
    have runs := Cursor.runs_of_segmentation (Reading.segmentation lexicon 0 text)
    rw [Nat.zero_add] at runs
    exact runs
  case calls =>
    intro file inRange
    have lexes := Source.File.lexesTo_of_inRange inRange lexicon
    have keeping := Source.File.lexesTo_of_inRange inRange (lexicon.keepingComments true)
    have exhausted : (Scanner.ofFile file lexicon).isExhausted = true ↔
        ∀ c ∈ file.text.toList, Character.isBlank c = true := List.all_eq_true
    have empty : file.tokens (lexicon.keepingComments true) = [] ↔
        ∀ c ∈ file.text.toList, Character.isBlank c = true := by
      rw [file.tokens_of_keepComments rfl, List.map_eq_nil_iff]
      exact Reading.segments_eq_nil_iff
    rw [file.diagnostics_keepingComments] at keeping
    refine ⟨_, _, _, lexes, keeping, fun ι _ i session fresh operations => ?_⟩
    rcases Session.states_after lexes fresh operations with
      ⟨none, state⟩ | ⟨⟨operation, member, called⟩, state⟩
    · rw [state]
      refine ⟨fun _ => ⟨exhausted, exhausted.trans empty.symm⟩, ?_⟩
      rintro ⟨operation, member, called⟩
      exact absurd called (none operation member)
    · rw [state]
      refine ⟨fun none => absurd called (none operation member), fun _ => ?_⟩
      exact Scanner.spent_of_nothing rfl

/-- A scanner beside another one, with an empty symbol and an empty marker in its lexicon; a cursor
inside a character that takes two bytes would not stand in the text. -/
theorem Scanner.scanning_progresses_awkward :
    String.Pos.Raw.IsValid (String.ofList "é'".toList) ⟨2⟩ ∧
      (Source.File.mk 3 " é'\n\"").InRange ∧
      ((Session.after (fun _ => Scanner.lex)
          ⟨fun _ : Bool => .ofFile ⟨3, " é'\n\""⟩ ⟨[], ["", "'"], some "", false⟩, Log.empty⟩
          [.report 5 "x", .strict false]).states true).isExhausted = false ∧
      ((Session.after (fun _ => Scanner.lex)
          ⟨fun _ : Bool => .ofFile ⟨3, " é'\n\""⟩ ⟨[], ["", "'"], some "", false⟩, Log.empty⟩
          [.report 5 "x", .strict false, .take]).states false).Spent := by
  obtain ⟨moves, -, calls⟩ := Scanner.scanning_progresses ⟨[], ["", "'"], some "", false⟩
  obtain ⟨tokens, kept, reported, -, -, sessions⟩ := calls ⟨3, " é'\n\""⟩ (by decide)
  refine ⟨?valid, by decide, ?untouched, ?spent⟩
  case valid =>
    have move : Cursor.Moves ⟨[], ["", "'"], some "", false⟩ (.start "é'".toList) ⟨2, ['\'']⟩ :=
      @Cursor.Moves.character _ (.start "é'".toList) 'é' ['\''] rfl
    exact (moves "é'".toList _ (.single move)).1
  case untouched =>
    have exhausted := ((sessions Bool true
      ⟨fun _ => .ofFile ⟨3, " é'\n\""⟩ ⟨[], ["", "'"], some "", false⟩, Log.empty⟩ rfl
      [.report 5 "x", .strict false]).1
      (by simp [Session.Operation.Calls])).1
    rw [← Bool.not_eq_true, exhausted]
    exact fun blank => absurd (blank 'é' (by simp)) (by decide)
  case spent =>
    exact (sessions Bool false
      ⟨fun _ => .ofFile ⟨3, " é'\n\""⟩ ⟨[], ["", "'"], some "", false⟩, Log.empty⟩ rfl
      [.report 5 "x", .strict false, .take]).2 ⟨.strict false, by simp, rfl⟩

end Lexing
