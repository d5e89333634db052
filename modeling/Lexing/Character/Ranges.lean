/-! # Code-point ranges

A character class is a list of inclusive ranges of code points in ascending order. `covers` decides
membership and stops at the first range above the code point. -/

namespace Lexing.Character

/-- Membership of a code point in ascending inclusive ranges. -/
def covers : List (Nat × Nat) → Nat → Bool
  | [], _ => false
  | (first, last) :: rest, code =>
      if code < first then false else decide (code ≤ last) || covers rest code

@[simp] theorem covers_nil (code : Nat) : covers [] code = false := rfl

end Lexing.Character
