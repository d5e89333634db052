import Mathlib.Data.List.TakeWhile

/-! # Maximal runs

A run of characters of a class is maximal if what follows it does not open with another one. Cutting
such a run off the head of a text is the one choice that every rule of the lexical grammar makes, and
a text leaves no freedom in it. Of what follows only the first character matters, so a run stays
maximal if what follows is replaced by a text that opens alike. -/

namespace Lexing.Text

/-- A character of two joined runs stands in the first or behind it. -/
theorem append_eq_append_cons {left right before after : List Char} {c : Char}
    (same : left ++ right = before ++ c :: after) :
    (∃ more, left = before ++ c :: more) ∨
      ∃ between, before = left ++ between ∧ right = between ++ c :: after := by
  rcases List.append_eq_append_iff.mp same with ⟨between, beforeEq, rightEq⟩ | ⟨more, leftEq, tailEq⟩
  · exact Or.inr ⟨between, beforeEq, rightEq⟩
  · cases more with
    | nil =>
        refine Or.inr ⟨[], ?_, ?_⟩
        · rw [leftEq, List.append_nil, List.append_nil]
        · exact tailEq.symm
    | cons next rest =>
        cases tailEq
        exact Or.inl ⟨rest, leftEq⟩

/-- A run of characters of a class, and what follows it, which opens with none of them. -/
structure MaximalRun (inClass : Char → Bool) (run after : List Char) : Prop where
  inside : ∀ c ∈ run, inClass c = true
  stops : ∀ c, after.head? = some c → inClass c = false

namespace MaximalRun

variable {inClass : Char → Bool} {run after : List Char}

/-- A run that the end of the text stops. -/
theorem of_all (inside : ∀ c ∈ run, inClass c = true) : MaximalRun inClass run [] :=
  ⟨inside, fun _ impossible => by cases impossible⟩

/-- A run that one character outside the class stops. -/
theorem of_stop {stop : Char} {rest : List Char} (inside : ∀ c ∈ run, inClass c = true)
    (outside : inClass stop = false) : MaximalRun inClass run (stop :: rest) := by
  refine ⟨inside, fun c head => ?_⟩
  cases head
  exact outside

theorem of_split (inClass : Char → Bool) (text : List Char) :
    MaximalRun inClass (text.takeWhile inClass) (text.dropWhile inClass) := by
  refine ⟨fun c member => List.mem_takeWhile_imp member, fun c head => ?_⟩
  have stopped := List.head?_dropWhile_not inClass text
  rw [head] at stopped
  simpa using stopped

/-- Where the longest run of a class ends is the only place where it is maximal. -/
theorem of_takeWhile_append {text : List Char} (whole : text.takeWhile inClass ++ after = text) :
    MaximalRun inClass (text.takeWhile inClass) after := by
  have split := of_split inClass text
  have left : text.dropWhile inClass = after :=
    List.append_cancel_left (List.takeWhile_append_dropWhile.trans whole.symm)
  rw [left] at split
  exact split

theorem takeWhile_append (maximal : MaximalRun inClass run after) :
    (run ++ after).takeWhile inClass = run := by
  rw [List.takeWhile_append_of_pos maximal.inside]
  cases after with
  | nil => exact List.append_nil run
  | cons next rest =>
      rw [List.takeWhile_cons_of_neg (by simp [maximal.stops next rfl]), List.append_nil]

theorem dropWhile_append (maximal : MaximalRun inClass run after) :
    (run ++ after).dropWhile inClass = after := by
  rw [List.dropWhile_append_of_pos maximal.inside]
  cases after with
  | nil => rfl
  | cons next rest => rw [List.dropWhile_cons_of_neg (by simp [maximal.stops next rfl])]

end MaximalRun

/-! ## Replaced texts -/

/-- A text that may stand in place of another one behind a run: it opens as that one does, or with a
new line, or is empty. -/
def Replaces (other after : List Char) : Prop :=
  ∀ c, other.head? = some c → after.head? = some c ∨ c = '\n'

section

variable {after other : List Char}

theorem Replaces.nil (after : List Char) : Replaces [] after :=
  fun _ impossible => by cases impossible

theorem Replaces.refl (after : List Char) : Replaces after after := fun _ head => Or.inl head

theorem Replaces.append_left (replaces : Replaces other after) (letters : List Char) :
    Replaces (letters ++ other) (letters ++ after) := by
  cases letters with
  | nil => exact replaces
  | cons first rest => exact fun c head => Or.inl head

/-- What holds of the character behind, if there is one, still holds if it holds of a new line. -/
theorem Replaces.head (replaces : Replaces other after) {holds : Char → Prop}
    (before : ∀ c, after.head? = some c → holds c) (line : holds '\n') :
    ∀ c, other.head? = some c → holds c := by
  intro c head
  rcases replaces c head with same | rfl
  · exact before c same
  · exact line

theorem MaximalRun.of_replaces {inClass : Char → Bool} {run : List Char}
    (maximal : MaximalRun inClass run after) (replaces : Replaces other after)
    (line : inClass '\n' = false) : MaximalRun inClass run other :=
  ⟨maximal.inside, replaces.head maximal.stops line⟩

end

end Lexing.Text
