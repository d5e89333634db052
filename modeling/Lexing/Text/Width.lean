/-! # Widths in bytes

Offsets and columns count the bytes of the UTF-8 form. `width` measures a run of characters; it is
additive, so the offset of a character is the width of what precedes it. -/

namespace Lexing.Text

/-- Bytes taken by a run of characters. -/
def width (text : List Char) : Nat := text.foldr (fun c total => c.utf8Size + total) 0

@[simp] theorem width_nil : width [] = 0 := rfl

@[simp] theorem width_cons (first : Char) (rest : List Char) :
    width (first :: rest) = first.utf8Size + width rest := rfl

@[simp] theorem width_append (left right : List Char) :
    width (left ++ right) = width left + width right := by
  induction left with
  | nil => simp
  | cons first rest ih => simp [ih, Nat.add_assoc]

/-- The width is the size of the UTF-8 form. -/
theorem utf8ByteSize_ofList (text : List Char) : (String.ofList text).utf8ByteSize = width text := by
  induction text with
  | nil => rfl
  | cons first rest ih =>
      rw [String.ofList_cons, String.utf8ByteSize_append, String.utf8ByteSize_singleton, ih,
        width_cons]

theorem width_toList (text : String) : width text.toList = text.utf8ByteSize := by
  rw [← utf8ByteSize_ofList, String.ofList_toList]

/-- Only the empty run has no bytes. -/
theorem width_eq_zero_iff {text : List Char} : width text = 0 ↔ text = [] := by
  cases text with
  | nil => simp
  | cons first rest => simpa using fun none => absurd none (Nat.ne_of_gt first.utf8Size_pos)

/-- What a text has behind its first bytes. There is nothing behind bytes that end inside a character or
beyond the text. -/
def dropWidth? : Nat → List Char → Option (List Char)
  | 0, text => some text
  | _ + 1, [] => none
  | bytes + 1, first :: rest =>
      if first.utf8Size ≤ bytes + 1 then dropWidth? (bytes + 1 - first.utf8Size) rest else none

theorem dropWidth?_zero (text : List Char) : dropWidth? 0 text = some text := by
  cases text <;> rfl

theorem dropWidth?_eq_some_iff {bytes : Nat} {text rest : List Char} :
    dropWidth? bytes text = some rest ↔ ∃ before, text = before ++ rest ∧ width before = bytes := by
  induction text generalizing bytes with
  | nil =>
      cases bytes with
      | zero => simp [dropWidth?_zero, width_eq_zero_iff]
      | succ bytes => simp [dropWidth?]
  | cons first text ih =>
      cases bytes with
      | zero => simp [dropWidth?_zero, width_eq_zero_iff]
      | succ bytes =>
          rw [dropWidth?]
          split
          case isTrue fits =>
            rw [ih]
            constructor
            · rintro ⟨before, rfl, same⟩
              exact ⟨first :: before, rfl, by rw [width_cons, same]; omega⟩
            · rintro ⟨before, whole, same⟩
              cases before with
              | nil => cases same
              | cons c before =>
                  obtain ⟨rfl, rfl⟩ := List.cons.inj whole
                  exact ⟨before, rfl, by rw [width_cons] at same; omega⟩
          case isFalse cut =>
            refine iff_of_false (fun impossible => by cases impossible) ?_
            rintro ⟨before, whole, same⟩
            cases before with
            | nil => cases same
            | cons c before =>
                obtain ⟨rfl, -⟩ := List.cons.inj whole
                rw [width_cons] at same
                omega

/-- Offset at which the last character starts. -/
def lastOffset (text : List Char) : Nat := width text.dropLast

/-- The last character of a run behind another one stands behind all of that. -/
theorem lastOffset_append (early : List Char) {late : List Char} (nonempty : late ≠ []) :
    lastOffset (early ++ late) = width early + lastOffset late := by
  rw [lastOffset, List.dropLast_append_of_ne_nil nonempty, width_append, lastOffset]

theorem lastOffset_le_width (text : List Char) : lastOffset text ≤ width text := by
  rcases List.eq_nil_or_concat text with rfl | ⟨init, last, rfl⟩
  · exact Nat.le_refl _
  · simp [lastOffset]

/-- The last character takes at least one byte. -/
theorem lastOffset_lt_width {text : List Char} (nonempty : text ≠ []) :
    lastOffset text < width text := by
  rcases List.eq_nil_or_concat text with rfl | ⟨init, last, rfl⟩
  · exact absurd rfl nonempty
  · have positive := last.utf8Size_pos
    simp only [lastOffset, List.concat_eq_append, List.dropLast_concat, width_append, width_cons,
      width_nil]
    omega

end Lexing.Text
