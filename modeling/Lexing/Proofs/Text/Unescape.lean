import Lexing.Proofs.Digits
import Lexing.Text.Escape

/-! # Escaped text read back

`unescape` undoes every escape that a written text has, whichever style it was written in: a letter
behind a backslash names a character, and a code point stands in hexadecimal between braces. Written
text has neither tabs nor line breaks, so both can stand around it. -/

namespace Lexing.Text.Escape

open Lexeme (Base)

/-- The character that a letter behind a backslash names. -/
def named : Char → Char
  | '0' => '\x00'
  | 't' => '\t'
  | 'r' => '\r'
  | 'n' => '\n'
  | letter => letter

/-- The character that an escape stands for, read behind its backslash, and what follows it. -/
def readBehind : List Char → Char × List Char
  | [] => ('\\', [])
  | 'u' :: '\x7b' :: rest =>
      (Char.ofNat (Base.hexadecimal.value (rest.takeWhile fun c => c != '\x7d')),
        (rest.dropWhile fun c => c != '\x7d').drop 1)
  | letter :: rest => (named letter, rest)

theorem length_readBehind_le (text : List Char) : (readBehind text).2.length ≤ text.length := by
  unfold readBehind
  split
  · exact Nat.le_refl _
  · rename_i rest
    have shorter := (List.dropWhile_sublist (l := rest) fun c => c != '\x7d').length_le
    simp only [List.length_drop, List.length_cons]
    omega
  · exact Nat.le_succ _

/-- The text that a written text stands for. -/
def unescape : List Char → List Char
  | [] => []
  | first :: rest =>
      if first = '\\' then (readBehind rest).1 :: unescape (readBehind rest).2
      else first :: unescape rest
termination_by text => text.length
decreasing_by
  · exact Nat.lt_succ_of_le (length_readBehind_le rest)
  · exact Nat.lt_succ_self _

@[simp] theorem unescape_nil : unescape [] = [] := by rw [unescape]

theorem unescape_backslash (rest : List Char) :
    unescape ('\\' :: rest) = (readBehind rest).1 :: unescape (readBehind rest).2 := by
  rw [unescape, if_pos rfl]

theorem unescape_ordinary {c : Char} (ordinary : c ≠ '\\') (rest : List Char) :
    unescape (c :: rest) = c :: unescape rest := by
  rw [unescape, if_neg ordinary]

/-! ## One character -/

section

variable {style : Style} {c : Char}

/-- A letter that names a character is no tab and no line break, and opens no code point. -/
theorem named_of_letter? {letter : Char} (names : letter? style c = some letter) :
    named letter = c ∧ letter ≠ 'u' ∧ letter ≠ '\t' ∧ letter ≠ '\n' := by
  unfold letter? at names
  split at names
  case h_7 =>
    split at names
    · cases names
      decide
    · cases names
  all_goals
    cases names
  all_goals decide

theorem readBehind_of_letter {letter : Char} (other : letter ≠ 'u') (rest : List Char) :
    readBehind (letter :: rest) = (named letter, rest) := by
  unfold readBehind
  split
  · rename_i impossible
    cases impossible
  · rename_i same
    cases same
    exact absurd rfl other
  · rename_i same
    cases same
    rfl

theorem ne_of_mem_toDigits {code : ℕ} {other : Char} (outside : Base.hexadecimal.digit? other = none) :
    ∀ d ∈ Nat.toDigits 16 code, d ≠ other := by
  rintro d member rfl
  exact Base.notMem_toDigits outside code member

theorem readBehind_codePoint (c : Char) (rest : List Char) :
    readBehind ((codePoint c).tail ++ rest) = (c, rest) := by
  have run : Text.MaximalRun (fun d => d != '\x7d') (Nat.toDigits 16 c.toNat) ('\x7d' :: rest) :=
    .of_stop (fun d member => bne_iff_ne.mpr (ne_of_mem_toDigits (by decide) d member)) (by decide)
  have whole : (codePoint c).tail ++ rest =
      'u' :: '\x7b' :: (Nat.toDigits 16 c.toNat ++ '\x7d' :: rest) := by
    simp [codePoint]
  have value : Base.hexadecimal.value (Nat.toDigits 16 c.toNat) = c.toNat :=
    Base.value_toDigits .hexadecimal c.toNat
  rw [whole, readBehind, run.takeWhile_append, run.dropWhile_append, value, Char.ofNat_toNat]
  rfl

/-- The ways to write a character: a letter that names it, its code point, and the character itself,
which is then no backslash, tab or line break. -/
@[elab_as_elim]
theorem character_cases {holds : List Char → Prop} (style : Style) (combining : Bool) (c : Char)
    (letter : ∀ letter, letter? style c = some letter → holds ['\\', letter])
    (code : holds (codePoint c)) (plain : c ≠ '\\' → c ≠ '\t' → c ≠ '\n' → holds [c]) :
    holds (character style combining c) := by
  unfold character
  split
  · rename_i named
    exact letter _ named
  · rename_i none
    split
    · exact code
    · refine plain ?_ ?_ ?_ <;> rintro rfl <;> cases none

/-- A written character is read back, whatever follows it. -/
theorem unescape_character (style : Style) (combining : Bool) (c : Char) (rest : List Char) :
    unescape (character style combining c ++ rest) = c :: unescape rest := by
  refine character_cases style combining c ?letter ?code ?plain
  case letter =>
    intro letter names
    obtain ⟨same, other, -⟩ := named_of_letter? names
    rw [List.cons_append, unescape_backslash, List.singleton_append, readBehind_of_letter other, same]
  case code =>
    have reads := readBehind_codePoint c rest
    rw [codePoint, List.tail_cons] at reads
    rw [codePoint, List.cons_append, unescape_backslash, reads]
  case plain =>
    intro ordinary _ _
    exact unescape_ordinary ordinary rest

/-- A written character has neither a tab nor a line break. -/
theorem ordinary_of_mem_character (style : Style) (combining : Bool) (c : Char) :
    ∀ d ∈ character style combining c, d ≠ '\t' ∧ d ≠ '\n' := by
  refine character_cases style combining c ?letter ?code ?plain
  case letter =>
    intro letter names
    obtain ⟨-, -, visible⟩ := named_of_letter? names
    exact List.forall_mem_cons.mpr ⟨by decide, List.forall_mem_singleton.mpr visible⟩
  case code =>
    have digits : ∀ d ∈ Nat.toDigits 16 c.toNat, d ≠ '\t' ∧ d ≠ '\n' := fun d member =>
      ⟨ne_of_mem_toDigits (by decide) d member, ne_of_mem_toDigits (by decide) d member⟩
    intro d member
    rw [codePoint] at member
    simp only [List.mem_cons, List.mem_append, List.not_mem_nil, or_false] at member
    rcases member with rfl | rfl | rfl | inside | rfl
    case inr.inr.inr.inl => exact digits d inside
    all_goals decide
  case plain =>
    intro _ tab line
    exact List.forall_mem_singleton.mpr ⟨tab, line⟩

end

/-! ## Texts -/

theorem unescape_flatMap_character (style : Style) (combining : Bool) (text rest : List Char) :
    unescape (text.flatMap (character style combining) ++ rest) = text ++ unescape rest := by
  induction text with
  | nil => rfl
  | cons c others ih =>
      rw [List.flatMap_cons, List.append_assoc, unescape_character, ih, List.cons_append]

/-- A written text is read back. -/
theorem unescape_text (style : Style) (value : List Char) :
    unescape (text style value) = value := by
  cases value with
  | nil => exact unescape_nil
  | cons first rest =>
      have others := unescape_flatMap_character style style.combiningInside rest []
      rw [List.append_nil, unescape_nil, List.append_nil] at others
      rw [text, unescape_character, others]

/-- A written text has neither tabs nor line breaks. -/
theorem ordinary_of_mem_text (style : Style) (value : List Char) :
    ∀ d ∈ text style value, d ≠ '\t' ∧ d ≠ '\n' := by
  intro d member
  cases value with
  | nil => cases member
  | cons first rest =>
      rcases List.mem_append.mp member with here | later
      · exact ordinary_of_mem_character _ _ _ d here
      · obtain ⟨c, -, inside⟩ := List.mem_flatMap.mp later
        exact ordinary_of_mem_character _ _ _ d inside

end Lexing.Text.Escape
