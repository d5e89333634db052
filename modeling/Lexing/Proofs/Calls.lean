import Lexing.CharacterLexer
import Lexing.Proofs.Scanner
import Lexing.ReplayLexer
import Mathlib.Data.Nat.Find

/-! # How often a lexer is called

`drain` calls a lexer round after round and `strict` calls it once. What they make of the calls is said
by the calls themselves, one after the other: `Lexer.afterCalls` is where lexer and driver are after
some of them, and `Lexer.answer` is what the next one returns. How many there were is seen by a lexer
that counts its calls. -/

namespace Lexing.Lexer

variable {σ δ τ : Type}

/-! ## One call after the other -/

/-- Lexer and driver after some calls. -/
def afterCalls (lexer : Lexer σ δ τ) (state : σ) (driver : δ) : Nat → σ × δ
  | 0 => (state, driver)
  | calls + 1 =>
      let (state, driver) := lexer.afterCalls state driver calls
      (lexer state driver).2

/-- What the call returns that follows some calls. -/
def answer (lexer : Lexer σ δ τ) (state : σ) (driver : δ) (calls : Nat) : Except Overflow (List τ) :=
  let (state, driver) := lexer.afterCalls state driver calls
  (lexer state driver).1

/-- The lexer that also counts its calls, beside its state. -/
def counted (lexer : Lexer σ δ τ) : Lexer (σ × Nat) δ τ :=
  fun (state, calls) driver =>
    let (outcome, next, after) := lexer state driver
    (outcome, (next, calls + 1), after)

/-- Each of the first calls returns the batch that is given for it, and the batch is not empty. -/
def Collects (lexer : Lexer σ δ τ) (state : σ) (driver : δ) (batches : Nat → List τ) (calls : Nat) :
    Prop :=
  ∀ round < calls, lexer.answer state driver round = .ok (batches round) ∧ batches round ≠ []

variable {lexer : Lexer σ δ τ} {state : σ} {driver : δ} {batches : Nat → List τ}

theorem call_afterCalls (lexer : Lexer σ δ τ) (state : σ) (driver : δ) (calls : Nat) :
    lexer (lexer.afterCalls state driver calls).1 (lexer.afterCalls state driver calls).2 =
      (lexer.answer state driver calls, lexer.afterCalls state driver (calls + 1)) := rfl

/-- Counting calls changes nothing else. -/
theorem afterCalls_counted (lexer : Lexer σ δ τ) (state : σ) (driver : δ) (calls : Nat) :
    lexer.counted.afterCalls (state, 0) driver calls =
      (((lexer.afterCalls state driver calls).1, calls), (lexer.afterCalls state driver calls).2) := by
  induction calls with
  | zero => rfl
  | succ calls ih =>
      rw [afterCalls, ih]
      rfl

theorem answer_counted (lexer : Lexer σ δ τ) (state : σ) (driver : δ) (calls : Nat) :
    lexer.counted.answer (state, 0) driver calls = lexer.answer state driver calls := by
  rw [answer, afterCalls_counted]
  rfl

theorem Collects.counted {calls : Nat} (collects : lexer.Collects state driver batches calls) :
    lexer.counted.Collects (state, 0) driver batches calls := by
  intro round before
  rw [answer_counted]
  exact collects round before

/-! ## Draining -/

section

variable {limit : Nat} (word : limit < Position.limit)

include word

/-- A round that is not the last one adds its batch, and its count is a word. -/
theorem drainAfter_of_batch {rounds : Nat} (more : rounds < limit) {next : σ} {after : δ}
    {batch : List τ} (returned : lexer state driver = (.ok batch, next, after)) (tokens : batch ≠ [])
    (collected : Array τ) :
    lexer.drainAfter limit rounds collected state driver =
      lexer.drainAfter limit (rounds + 1) (collected ++ batch) next after := by
  have room : rounds + 1 < Position.limit := Nat.lt_of_le_of_lt more word
  rw [drainAfter, returned]
  cases batch with
  | nil => exact absurd rfl tokens
  | cons first rest =>
      dsimp only
      rw [if_neg (Nat.ne_of_lt more), if_pos room]

/-- While batches are not empty and no more than the limit, draining puts them together. -/
theorem drain_eq_drainAfter {rounds : Nat} (collects : lexer.Collects state driver batches rounds)
    (within : rounds ≤ limit) :
    lexer.drain limit state driver =
      lexer.drainAfter limit rounds ((List.range rounds).flatMap batches).toArray
        (lexer.afterCalls state driver rounds).1 (lexer.afterCalls state driver rounds).2 := by
  induction rounds with
  | zero => rfl
  | succ rounds ih =>
      obtain ⟨returned, tokens⟩ := collects rounds (Nat.lt_succ_self rounds)
      have call := call_afterCalls lexer state driver rounds
      rw [returned] at call
      rw [ih (fun round before => collects round (Nat.lt_succ_of_lt before)) (Nat.le_of_succ_le within),
        drainAfter_of_batch word within call tokens, List.range_succ, List.flatMap_append,
        List.flatMap_singleton, List.toArray_appendList]
      rfl

theorem drain_of_empty {last : Nat} (collects : lexer.Collects state driver batches last)
    (within : last ≤ limit) (empty : lexer.answer state driver last = .ok []) :
    lexer.drain limit state driver =
      (.ok (.ok ((List.range last).flatMap batches)), lexer.afterCalls state driver (last + 1)) := by
  rw [drain_eq_drainAfter word collects within, drainAfter,
    call_afterCalls lexer state driver last, empty]

theorem drain_of_overflow {last : Nat} (collects : lexer.Collects state driver batches last)
    (within : last ≤ limit) {overflow : Overflow}
    (overflows : lexer.answer state driver last = .error overflow) :
    lexer.drain limit state driver = (.error overflow, lexer.afterCalls state driver (last + 1)) := by
  rw [drain_eq_drainAfter word collects within, drainAfter,
    call_afterCalls lexer state driver last, overflows]

theorem drain_of_full (collects : lexer.Collects state driver batches (limit + 1)) :
    lexer.drain limit state driver =
      (.ok (.error (.unbounded limit)), lexer.afterCalls state driver (limit + 1)) := by
  obtain ⟨returned, tokens⟩ := collects limit (Nat.lt_succ_self limit)
  rw [drain_eq_drainAfter word (fun round before => collects round (Nat.lt_succ_of_lt before))
    (Nat.le_refl limit), drainAfter, call_afterCalls lexer state driver limit, returned]
  cases batch : batches limit with
  | nil => exact absurd batch tokens
  | cons first rest => exact if_pos rfl

end

/-- Draining gives a result by so many calls, and leaves lexer and driver where these calls lead. -/
structure DrainsBy (lexer : Lexer σ δ τ) (limit : Nat) (state : σ) (driver : δ)
    (result : LexResult τ) (calls : Nat) : Prop where
  drained : lexer.drain limit state driver = (result, lexer.afterCalls state driver calls)
  called : (lexer.counted.drain limit (state, 0) driver).2.1.2 = calls

/-- The first call that does not return tokens is at the limit or before it, or the calls up to the
limit all return tokens. -/
theorem exists_collects (lexer : Lexer σ δ τ) (state : σ) (driver : δ) (limit : Nat) :
    ∃ batches, lexer.Collects state driver batches (limit + 1) ∨
      ∃ last ≤ limit, lexer.Collects state driver batches last ∧
        (lexer.answer state driver last = .ok [] ∨
          ∃ overflow, lexer.answer state driver last = .error overflow) := by
  classical
  let batches (round : Nat) : List τ := (lexer.answer state driver round).toOption.getD []
  have either (round : Nat) :
      (lexer.answer state driver round = .ok (batches round) ∧ batches round ≠ []) ∨
        (lexer.answer state driver round = .ok [] ∨
          ∃ overflow, lexer.answer state driver round = .error overflow) := by
    cases returned : lexer.answer state driver round with
    | error overflow => exact Or.inr (Or.inr ⟨overflow, rfl⟩)
    | ok batch =>
        have same : batches round = batch := by simp only [batches, returned]; rfl
        rw [same]
        cases batch with
        | nil => exact Or.inr (Or.inl rfl)
        | cons first rest => exact Or.inl ⟨rfl, List.cons_ne_nil _ _⟩
  refine ⟨batches, ?_⟩
  by_cases stops : ∃ round, round ≤ limit ∧
      ¬ (lexer.answer state driver round = .ok (batches round) ∧ batches round ≠ [])
  · obtain ⟨within, stopped⟩ := Nat.find_spec stops
    refine Or.inr ⟨Nat.find stops, within, fun round before => ?_, (either _).resolve_left stopped⟩
    by_contra fails
    exact Nat.find_min stops before ⟨Nat.le_of_lt (Nat.lt_of_lt_of_le before within), fails⟩
  · refine Or.inl fun round before => ?_
    by_contra fails
    exact stops ⟨round, Nat.le_of_lt_succ before, fails⟩

/-- If the first empty batch comes after no more batches than the limit, draining returns those before
it in order, by one call for each and one more. If all batches up to the limit have tokens, draining
fails by one call more than the limit. A call that overflows ends it too. Nothing else happens: the
rounds are counted in a word whatever the limit, and draining always ends. -/
theorem drain_exact (lexer : Lexer σ δ τ) (state : σ) (driver : δ) {limit : Nat}
    (word : limit < Position.limit) :
    (∀ batches, ∀ last ≤ limit, lexer.Collects state driver batches last →
      lexer.answer state driver last = .ok [] →
        lexer.DrainsBy limit state driver (.ok (.ok ((List.range last).flatMap batches))) (last + 1)) ∧
    (∀ batches, lexer.Collects state driver batches (limit + 1) →
      lexer.DrainsBy limit state driver (.ok (.error (.unbounded limit))) (limit + 1)) ∧
    (∀ batches overflow, ∀ last ≤ limit, lexer.Collects state driver batches last →
      lexer.answer state driver last = .error overflow →
        lexer.DrainsBy limit state driver (.error overflow) (last + 1)) ∧
    ∃ result calls, calls ≤ limit + 1 ∧ lexer.DrainsBy limit state driver result calls := by
  have calls (calls : Nat) : (lexer.counted.afterCalls (state, 0) driver calls).1.2 = calls := by
    rw [afterCalls_counted]
  have empty : ∀ batches, ∀ last ≤ limit, lexer.Collects state driver batches last →
      lexer.answer state driver last = .ok [] →
        lexer.DrainsBy limit state driver (.ok (.ok ((List.range last).flatMap batches)))
          (last + 1) := by
    intro batches last within collects returned
    refine ⟨drain_of_empty word collects within returned, ?_⟩
    rw [drain_of_empty word collects.counted within ((answer_counted ..).trans returned), calls]
  have full : ∀ batches, lexer.Collects state driver batches (limit + 1) →
      lexer.DrainsBy limit state driver (.ok (.error (.unbounded limit))) (limit + 1) := by
    intro batches collects
    refine ⟨drain_of_full word collects, ?_⟩
    rw [drain_of_full word collects.counted, calls]
  have overflow : ∀ batches overflow, ∀ last ≤ limit, lexer.Collects state driver batches last →
      lexer.answer state driver last = .error overflow →
        lexer.DrainsBy limit state driver (.error overflow) (last + 1) := by
    intro batches overflow last within collects returned
    refine ⟨drain_of_overflow word collects within returned, ?_⟩
    rw [drain_of_overflow word collects.counted within ((answer_counted ..).trans returned), calls]
  refine ⟨empty, full, overflow, ?_⟩
  obtain ⟨batches, all | ⟨last, within, collects, none | ⟨cause, overflows⟩⟩⟩ :=
    exists_collects lexer state driver limit
  · exact ⟨_, _, Nat.le_refl _, full batches all⟩
  · exact ⟨_, _, Nat.succ_le_succ within, empty batches last within collects none⟩
  · exact ⟨_, _, Nat.succ_le_succ within, overflow batches cause last within collects overflows⟩

/-- A lexer that has one batch, drained with the last word for a limit; one that has the same batch
again and again; and a scanner of a file behind the last position. -/
theorem drain_exact_mixed :
    18446744073709551615 < Position.limit ∧
      DrainsBy CharacterLexer.lex 18446744073709551615 (.ofText "a b" false) () (.ok (.ok ["a", "b"])) 2 ∧
      DrainsBy ReplayLexer.lex 2 ⟨["a", "b"]⟩ () (.ok (.error (.unbounded 2))) 3 ∧
      DrainsBy Scanner.lex 0 (.ofFile ⟨18446744073709551616, "a"⟩ Lexicon.standard) Log.empty
        (.error .position) 1 := by
  refine ⟨by decide, ?once, ?again, ?behind⟩
  case once =>
    have collects : Lexer.Collects CharacterLexer.lex (.ofText "a b" false) ()
        (fun _ => ["a", "b"]) 1 := by
      intro round before
      cases Nat.lt_one_iff.mp before
      exact ⟨by decide, by decide⟩
    exact (drain_exact CharacterLexer.lex _ () (by decide)).1 _ 1 (by decide) collects (by decide)
  case again =>
    have collects : Lexer.Collects ReplayLexer.lex ⟨["a", "b"]⟩ () (fun _ => ["a", "b"]) 3 := by
      intro round before
      match round, before with
      | 0, _ | 1, _ | 2, _ => exact ⟨rfl, List.cons_ne_nil _ _⟩
    exact (drain_exact ReplayLexer.lex _ () (by decide)).2.1 _ collects
  case behind =>
    have none : Lexer.Collects Scanner.lex (.ofFile ⟨18446744073709551616, "a"⟩ Lexicon.standard)
        Log.empty (fun _ => []) 0 := fun _ impossible => absurd impossible (Nat.not_lt_zero _)
    exact (drain_exact Scanner.lex _ Log.empty (by decide)).2.2.1 _ .position 0 (by decide) none
      (by decide +kernel)

/-! ## Strict calls -/

/-- A strict call is one call. It returns the tokens if the call reported nothing, and fails with all
that the call reported, in order and counted in the message, if it reported anything. Either way the
log holds what it held before, and the call ends in no other way. -/
theorem strict_isolates {lexer : Lexer σ Log τ} {state next : σ} {pending fresh : List Diagnostic}
    {tokens : List τ} (called : lexer state ⟨pending⟩ = (.ok tokens, next, ⟨pending ++ fresh⟩)) :
    (fresh = [] → lexer.strict state ⟨pending⟩ = (.ok (.ok tokens), next, ⟨pending⟩)) ∧
    (fresh ≠ [] →
      lexer.strict state ⟨pending⟩ = (.ok (.error (.malformed fresh)), next, ⟨pending⟩) ∧
      (LexFailure.malformed fresh).message =
        "input has " ++ toString fresh.length ++ " lexical error(s)") ∧
    (lexer.counted.strict (state, 0) ⟨pending⟩).2.1 = (next, 1) := by
  have strictly := strict_of_call called
  have counting : lexer.counted (state, 0) ⟨pending⟩ =
      (.ok tokens, (next, 1), Log.append ⟨pending⟩ fresh) := by
    rw [counted, called]
    rfl
  refine ⟨fun silent => ?silent, fun loud => ⟨?loud, rfl⟩, ?once⟩
  case silent => rw [strictly, if_pos silent]
  case loud => rw [strictly, if_neg loud]
  case once => rw [strict_of_call counting]

/-- A scanner that reports two faults while a diagnostic is pending, and a lexer that reports none. -/
theorem strict_isolates_pending :
    (∃ tokens next,
      Scanner.lex (.ofFile ⟨5, "$'"⟩ Lexicon.standard) ⟨[⟨none, "no rules"⟩]⟩ =
        (.ok tokens, next, ⟨[⟨none, "no rules"⟩] ++ [⟨some 5, "Unexpected char '$'"⟩,
          ⟨some 7, "Missing closing quote in character literal"⟩]⟩) ∧
      strict Scanner.lex (.ofFile ⟨5, "$'"⟩ Lexicon.standard) ⟨[⟨none, "no rules"⟩]⟩ =
        (.ok (.error (.malformed [⟨some 5, "Unexpected char '$'"⟩,
          ⟨some 7, "Missing closing quote in character literal"⟩])), next,
          ⟨[⟨none, "no rules"⟩]⟩) ∧
      (strict (counted Scanner.lex) (.ofFile ⟨5, "$'"⟩ Lexicon.standard, 0)
        ⟨[⟨none, "no rules"⟩]⟩).2.1 = (next, 1)) ∧
    strict ReplayLexer.lex ⟨["a"]⟩ ⟨[⟨none, "no rules"⟩]⟩ =
      (.ok (.ok ["a"]), ⟨["a"]⟩, ⟨[⟨none, "no rules"⟩]⟩) := by
  have reading : Reading.ofText Lexicon.standard "$'".toList =
      ⟨[⟨0, .invalid '$', true⟩, ⟨1, .character ⟨none, [], false⟩, false⟩], []⟩ := by decide +kernel
  have called : Scanner.lex (.ofFile ⟨5, "$'"⟩ Lexicon.standard) ⟨[⟨none, "no rules"⟩]⟩ =
      (.ok [⟨.invalid '$', "$", 5⟩, ⟨.character '\x00', "'", 6⟩],
        (Scanner.ofFile ⟨5, "$'"⟩ Lexicon.standard).finished,
        ⟨[⟨none, "no rules"⟩] ++ [⟨some 5, "Unexpected char '$'"⟩,
          ⟨some 7, "Missing closing quote in character literal"⟩]⟩) := by
    simp only [Scanner.lex_eq, Scanner.ofFile, reading]
    rfl
  obtain ⟨-, loud, once⟩ := strict_isolates called
  refine ⟨⟨_, _, called, (loud (List.cons_ne_nil _ _)).1, once⟩, ?_⟩
  have quiet : ReplayLexer.lex ⟨["a"]⟩ (Log.mk [⟨none, "no rules"⟩]) =
      (.ok ["a"], ⟨["a"]⟩, ⟨[⟨none, "no rules"⟩] ++ []⟩) := rfl
  exact (strict_isolates quiet).1 rfl

end Lexing.Lexer
