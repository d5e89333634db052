/-! # Positions

A position is a byte offset in one space of 64-bit words that all registered files share. Arithmetic
that would leave the space is an outcome of its own, as it is for other numbers that have a range. -/

namespace Lexing

/-- A number left the range that it has to be in. -/
inductive Overflow where
  /-- A position past the last 64-bit word was needed. -/
  | position
  /-- More rounds were counted than the last 64-bit word. -/
  | rounds
  /-- A list was to be split behind its end. -/
  | split
  /-- A larger number was to be taken from a smaller one. -/
  | below
  /-- An element behind the end of a list was to be read. -/
  | index
  /-- A text was to be cut inside a character or behind its end. -/
  | boundary
  deriving DecidableEq, Repr

namespace Position

/-- The number of positions, two to the power of 64. -/
def limit : Nat := 18446744073709551616

/-- The position some bytes further on. -/
def advance (start bytes : Nat) : Except Overflow Nat :=
  if start + bytes < limit then .ok (start + bytes) else .error .position

/-- How many bytes a position is behind another one. -/
def distance (start position : Nat) : Except Overflow Nat :=
  if start ≤ position then .ok (position - start) else .error .below

theorem distance_of_le {start position : Nat} (behind : start ≤ position) :
    distance start position = .ok (position - start) := if_pos behind

end Position

end Lexing
