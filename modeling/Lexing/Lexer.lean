import Lexing.Diagnostic
import Lexing.Position
import Lexing.Source.FileTree

/-! # Lexers

A lexer is known by its step: from its state and a driver it returns a batch of tokens and both of
them afterwards. A step never fails on malformed input, which it reports to the driver. `drain` calls
a lexer until it has no more tokens; `strict` makes an error of what one call reports. -/

namespace Lexing

/-- One call of a lexer with states `σ` and tokens `τ` on a driver with states `δ`. -/
abbrev Lexer (σ δ τ : Type) := σ → δ → Except Overflow (List τ) × σ × δ

/-- Why lexing gave no tokens. -/
inductive LexFailure where
  | unreadable (path : String) (cause : Source.ReadFailure)
  | malformed (diagnostics : List Diagnostic)
  | unbounded (rounds : Nat)
  deriving DecidableEq, Repr

def LexFailure.message : LexFailure → String
  | .unreadable path cause => "cannot read " ++ path ++ ": " ++ cause.message
  | .malformed diagnostics =>
      "input has " ++ toString diagnostics.length ++ " lexical error(s)"
  | .unbounded rounds =>
      "lexer still produced tokens after " ++ toString rounds ++ " rounds"

/-- Tokens, or why there are none. -/
abbrev LexResult (τ : Type) := Except Overflow (Except LexFailure (List τ))

namespace Lexer

/-- Batches that `drain` collects unless told otherwise. -/
def defaultRounds : Nat := 65536

/-- Puts batches behind the tokens already collected. Batches are counted in `rounds`, up to a limit. -/
def drainAfter (lexer : Lexer σ δ τ) (limit rounds : Nat) (collected : Array τ) (state : σ)
    (driver : δ) : LexResult τ × σ × δ :=
  match lexer state driver with
  | (.error overflow, state, driver) => (.error overflow, state, driver)
  | (.ok [], state, driver) => (.ok (.ok collected.toList), state, driver)
  | (.ok (first :: rest), state, driver) =>
      if rounds = limit then (.ok (.error (.unbounded rounds)), state, driver)
      else if rounds + 1 < Position.limit then
        drainAfter lexer limit (rounds + 1) (collected ++ first :: rest) state driver
      else (.error .rounds, state, driver)
termination_by Position.limit - rounds

/-- Calls a lexer until it returns an empty batch, and puts the batches together. A lexer that still
has tokens after the given number of batches is given up. -/
def drain (lexer : Lexer σ δ τ) (rounds : Nat) (state : σ) (driver : δ) : LexResult τ × σ × δ :=
  drainAfter lexer rounds 0 #[] state driver

/-- Calls a lexer once and fails if the call reported anything. What it reported goes into the failure:
the log is emptied for it and split where the call began, and what was held before is put back. -/
def strict (lexer : Lexer σ Log τ) (state : σ) (log : Log) : LexResult τ × σ × Log :=
  match lexer state log with
  | (.error overflow, state, after) => (.error overflow, state, after)
  | (.ok tokens, state, after) =>
      if after.size = log.size then (.ok (.ok tokens), state, after)
      else
        let (all, emptied) := after.take
        if log.size ≤ all.length then
          let (earlier, fresh) := all.splitAt log.size
          (.ok (.error (.malformed fresh)), state, earlier.foldl Log.push emptied)
        else (.error .split, state, emptied)

/-- A strict call gives the tokens if the call reported nothing, and else what it reported. The log is
left as it was. -/
theorem strict_of_call {lexer : Lexer σ Log τ} {state next : σ} {log : Log} {tokens : List τ}
    {fresh : List Diagnostic} (called : lexer state log = (.ok tokens, next, log.append fresh)) :
    lexer.strict state log =
      (.ok (if fresh = [] then .ok tokens else .error (.malformed fresh)), next, log) := by
  rw [strict, called]
  by_cases silent : fresh = []
  · simp [silent]
  · have more : (log.append fresh).size ≠ log.size := by
      simpa [Log.size] using silent
    have inside : log.size ≤ (log.append fresh).take.1.length := by
      rw [Log.take, Log.held_append, List.length_append]
      exact Nat.le_add_right _ _
    have parts : ((log.append fresh).take.1.splitAt log.size) = (log.held, fresh) := by
      rw [List.splitAt_eq, Log.take, Log.held_append, Log.size, List.take_left, List.drop_left]
    dsimp only
    rw [if_neg more, if_neg silent, if_pos inside, parts]
    dsimp only
    rw [Log.foldl_push]
    rfl

end Lexer

end Lexing
