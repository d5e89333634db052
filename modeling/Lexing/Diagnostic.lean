/-! # Diagnostics

A diagnostic is a message with the position it is about, if it has one. Lexers report to a `Log`,
which keeps diagnostics in the order reported until they are taken. -/

namespace Lexing

/-- A message about the source text. -/
structure Diagnostic where
  position : Option Nat
  message : String
  deriving DecidableEq, Repr

/-- The diagnostics reported and not yet taken, oldest first. -/
structure Log where
  held : List Diagnostic
  deriving DecidableEq, Repr

namespace Log

def empty : Log := ⟨[]⟩

/-- Adds diagnostics after those held. -/
def append (log : Log) (fresh : List Diagnostic) : Log := ⟨log.held ++ fresh⟩

def push (log : Log) (diagnostic : Diagnostic) : Log := log.append [diagnostic]

/-- Records a message about a position. -/
def report (log : Log) (position : Nat) (message : String) : Log :=
  log.push ⟨some position, message⟩

/-- Hands over everything held. -/
def take (log : Log) : List Diagnostic × Log := (log.held, empty)

def size (log : Log) : Nat := log.held.length

@[simp] theorem held_append (log : Log) (fresh : List Diagnostic) :
    (log.append fresh).held = log.held ++ fresh := rfl

@[simp] theorem append_nil (log : Log) : log.append [] = log := by
  simp [append]

theorem append_append (log : Log) (early late : List Diagnostic) :
    (log.append early).append late = log.append (early ++ late) :=
  congrArg mk (List.append_assoc log.held early late)

/-- Pushing diagnostics one by one adds them all. -/
theorem foldl_push (fresh : List Diagnostic) (log : Log) :
    fresh.foldl push log = log.append fresh := by
  induction fresh generalizing log with
  | nil => exact (append_nil log).symm
  | cons first rest ih =>
      rw [List.foldl_cons, ih]
      exact append_append log [first] rest

end Log

end Lexing
