import Lexing.Proofs.Pieces
import Lexing.Proofs.Run
import Lexing.Lexeme.CharacterLiteral

/-! # Rules of quoted literals

Where a quoted literal ends is said here without reference to how it is read: between its quotes stand
elements, and it ends with the first quote that no element takes, or else before the end of the line.
Each rule is met by what is read (`_read`), and by nothing else (`eq_read`). -/

namespace Lexing.Lexeme

open Text (MaximalRun)

/-- The end of the line or of the text follows. -/
def AtLineEnd (after : List Char) : Prop := ∀ c, after.head? = some c → c = '\n'

/-- One element between quotes, and what follows it. -/
inductive Element : List Char → List Char → Prop where
  | plain {c : Char} {after : List Char} (other : c ≠ '\\') : Element [c] after
  | named {letter : Char} {after : List Char} (sameLine : letter ≠ '\n') (other : letter ≠ 'x') :
      Element ['\\', letter] after
  /-- Two digits, or fewer if none follows. -/
  | hexadecimal (digits : List Char) {after : List Char} (digit : ∀ d ∈ digits, digitValue? d ≠ none)
      (most : digits.length = 2 ∨
        digits.length < 2 ∧ ∀ c, after.head? = some c → digitValue? c = none) :
      Element ('\\' :: 'x' :: digits) after
  | lone {after : List Char} (ends : AtLineEnd after) : Element ['\\'] after

/-- An element that stands on the line before the closing quote. -/
structure InnerElement (quote : Char) (element after : List Char) : Prop where
  isElement : Element element after
  opens : ∀ c, element.head? = some c → ¬ (c = quote ∨ c = '\n')

/-- The closing quote of a literal, which is missing at the end of the line, and what follows. -/
inductive Closing (quote : Char) : List Char → List Char → Prop where
  | closed {after : List Char} : Closing quote [quote] after
  | unclosed {after : List Char} (ends : AtLineEnd after) : Closing quote [] after

/-- Elements in a row up to a double quote or the end of the line, and what follows them. -/
inductive Elements : List Char → List Char → Prop where
  | done {after : List Char} (stops : StopsAt '"' after) : Elements [] after
  | more {element body after : List Char} (first : InnerElement '"' element (body ++ after))
      (behind : Elements body after) : Elements (element ++ body) after

/-- A string literal at the head of a text. -/
inductive StringRule : List Char → List Char → Prop where
  | intro {body close after : List Char} (elements : Elements body (close ++ after))
      (closes : Closing '"' close after) :
      StringRule ('"' :: (body ++ (close ++ after))) ('"' :: (body ++ close))

/-- A character literal at the head of a text: one element unless it is closed or ends at once, and
then everything up to the closing quote. -/
inductive CharacterRule : List Char → List Char → Prop where
  | empty {close after : List Char} (closes : Closing '\'' close after) :
      CharacterRule ('\'' :: (close ++ after)) ('\'' :: close)
  | filled {element extra close after : List Char}
      (first : InnerElement '\'' element (extra ++ (close ++ after)))
      (inside : ∀ c ∈ extra, c ≠ '\'' ∧ c ≠ '\n') (closes : Closing '\'' close after) :
      CharacterRule ('\'' :: (element ++ (extra ++ (close ++ after))))
        ('\'' :: (element ++ (extra ++ close)))

/-! ## Closing -/

/-- A literal that stops at its quote or the end of the line is closed exactly if the quote is there. -/
theorem closing_of_stopsAt {quote : Char} {after : List Char} (stops : StopsAt quote after) :
    ∃ rest, after = closing quote (after.head? == some quote) ++ rest ∧
      Closing quote (closing quote (after.head? == some quote)) rest := by
  cases after with
  | nil => exact ⟨[], rfl, .unclosed fun _ impossible => by cases impossible⟩
  | cons first rest =>
      by_cases same : first = quote
      · have closed : closing quote ((first :: rest).head? == some quote) = [quote] := by
          simp [closing, same]
        rw [closed, same]
        exact ⟨rest, rfl, .closed⟩
      · have unclosed : closing quote ((first :: rest).head? == some quote) = [] := by
          simp [closing, same]
        rw [unclosed]
        refine ⟨first :: rest, rfl, .unclosed fun c head => ?_⟩
        cases head
        exact (stops first rfl).resolve_left same

/-- What closes a literal can be read off what stops it. -/
theorem Closing.eq_closing {quote : Char} {close after : List Char}
    (closes : Closing quote close after) (notLine : quote ≠ '\n') :
    close = closing quote ((close ++ after).head? == some quote) := by
  cases closes with
  | closed => simp [closing]
  | unclosed ends =>
      cases after with
      | nil => rfl
      | cons first rest =>
          have line := ends first rfl
          simp [closing, line, Ne.symm notLine]

theorem Closing.stopsAt {quote : Char} {close after : List Char}
    (closes : Closing quote close after) : StopsAt quote (close ++ after) := by
  intro c head
  cases closes with
  | closed =>
      cases head
      exact Or.inl rfl
  | unclosed ends => exact Or.inr (ends c head)

/-! ## Elements -/

namespace Piece

theorem element_readHex (text : List Char) : Element (readHex text).1.text (readHex text).2 := by
  unfold readHex
  split
  · exact .hexadecimal [] (by simp) (Or.inr ⟨by decide, by simp⟩)
  · rename_i high rest
    split
    · rename_i notDigit
      refine .hexadecimal [] (by simp) (Or.inr ⟨by decide, fun c head => ?_⟩)
      cases head
      exact Option.isNone_iff_eq_none.mp notDigit
    · rename_i digit
      rw [Option.isNone_iff_eq_none] at digit
      have single : ∀ d ∈ [high], digitValue? d ≠ none := by simpa using digit
      split
      · exact .hexadecimal [high] single (Or.inr ⟨Nat.lt_succ_self 1, by simp⟩)
      · rename_i low others
        split
        · rename_i notDigit
          refine .hexadecimal [high] single (Or.inr ⟨Nat.lt_succ_self 1, fun c head => ?_⟩)
          cases head
          exact Option.isNone_iff_eq_none.mp notDigit
        · rename_i digitToo
          rw [Option.isNone_iff_eq_none] at digitToo
          exact .hexadecimal [high, low] (by simpa using ⟨digit, digitToo⟩) (Or.inl rfl)

/-- An escape that is read is an element. -/
theorem element_readEscape (text : List Char) :
    Element (readEscape text).1.text (readEscape text).2 := by
  unfold readEscape
  split
  · exact .lone fun _ impossible => by cases impossible
  · rename_i letter rest
    split
    · rename_i line
      refine .lone fun c head => ?_
      cases head
      exact line
    · rename_i sameLine
      split
      · exact element_readHex rest
      · rename_i other
        exact .named sameLine other

/-- Every piece that is read is an element that opens with a backslash. -/
theorem innerElement_readEscape (quote : Char) (notEscape : quote ≠ '\\') (text : List Char) :
    InnerElement quote (readEscape text).1.text (readEscape text).2 := by
  refine ⟨element_readEscape text, fun c head => ?_⟩
  have whole := congrArg List.head? (text_readEscape text)
  rw [List.head?_append, head] at whole
  cases whole
  simp [Ne.symm notEscape]

end Piece

theorem readHex_of_digits {digits after : List Char} (digit : ∀ d ∈ digits, digitValue? d ≠ none)
    (most : digits.length = 2 ∨
      digits.length < 2 ∧ ∀ c, after.head? = some c → digitValue? c = none) :
    (Piece.readHex (digits ++ after)).1.text = '\\' :: 'x' :: digits ∧
      (Piece.readHex (digits ++ after)).2 = after := by
  cases digits with
  | nil =>
      cases after with
      | nil => exact ⟨rfl, rfl⟩
      | cons next rest =>
          have notDigit : digitValue? next = none := by simpa using most
          simp [Piece.readHex, notDigit, Piece.text]
  | cons high others =>
      have isDigit := digit high List.mem_cons_self
      cases others with
      | nil =>
          cases after with
          | nil => simp [Piece.readHex, isDigit, Piece.text]
          | cons next rest =>
              have notDigit : digitValue? next = none := by simpa using most
              simp [Piece.readHex, isDigit, notDigit, Piece.text]
      | cons low more =>
          have isDigitToo := digit low (List.mem_cons_of_mem _ List.mem_cons_self)
          have two : more = [] := by
            rw [← List.length_eq_zero_iff]
            simp only [List.length_cons] at most
            omega
          simp [two, Piece.readHex, isDigit, isDigitToo, Piece.text]

/-- An element that opens with a backslash is the escape that is read there. -/
theorem Element.readEscape_eq {tail after : List Char} (element : Element ('\\' :: tail) after) :
    (Piece.readEscape (tail ++ after)).1.text = '\\' :: tail ∧
      (Piece.readEscape (tail ++ after)).2 = after := by
  cases element with
  | plain other => exact absurd rfl other
  | named sameLine other => simp [Piece.readEscape, sameLine, other, Piece.text]
  | hexadecimal digits digit most =>
      have hex : Piece.readEscape ('x' :: digits ++ after) = Piece.readHex (digits ++ after) := by
        simp [Piece.readEscape]
      rw [hex]
      exact readHex_of_digits digit most
  | lone ends =>
      cases after with
      | nil => exact ⟨rfl, rfl⟩
      | cons next rest => simp [Piece.readEscape, ends next rfl, Piece.text]

/-- Any other element is one character. -/
theorem Element.eq_singleton {opening : Char} {tail after : List Char}
    (element : Element (opening :: tail) after) (notEscape : opening ≠ '\\') : tail = [] := by
  cases element with
  | plain other => rfl
  | _ => exact absurd rfl notEscape

/-! ## String literals -/

theorem PiecesOf.elements {text after : List Char} {found : List Piece}
    (fallen : PiecesOf text found after) : Elements (found.flatMap Piece.text) after := by
  induction fallen with
  | stop stops => exact .done stops
  | plain inside notEscape behind ih =>
      refine .more ⟨.plain notEscape, fun c head => ?_⟩ ih
      cases head
      exact inside
  | @escape rest after found behind ih =>
      have first := Piece.innerElement_readEscape '"' (by decide) rest
      rw [← behind.append] at first
      rw [List.flatMap_cons]
      exact .more first ih

theorem Elements.exists_piecesOf {body after : List Char} (elements : Elements body after) :
    ∃ found, PiecesOf (body ++ after) found after ∧ found.flatMap Piece.text = body := by
  induction elements with
  | done stops => exact ⟨[], .stop stops, rfl⟩
  | @more element body after first behind ih =>
      obtain ⟨found, fallen, spelled⟩ := ih
      obtain ⟨isElement, opens⟩ := first
      cases element with
      | nil => exact ⟨found, fallen, spelled⟩
      | cons opening tail =>
          by_cases escape : opening = '\\'
          · rw [escape] at isElement ⊢
            obtain ⟨textEq, restEq⟩ := isElement.readEscape_eq
            have shape := PiecesOf.escape (restEq.symm ▸ fallen)
            refine ⟨(Piece.readEscape (tail ++ (body ++ after))).1 :: found, ?_, ?_⟩
            · rw [List.append_assoc]
              exact shape
            · rw [List.flatMap_cons, textEq, spelled]
          · have single := isElement.eq_singleton escape
            rw [single]
            refine ⟨.plain opening :: found, .plain (opens opening rfl) escape fallen, ?_⟩
            rw [List.flatMap_cons, spelled]
            rfl

namespace StringLiteral

theorem stringRule_read (rest : List Char) : StringRule ('"' :: rest) (read rest).text := by
  obtain ⟨after, fallen⟩ := PiecesOf.exists_after rest
  obtain ⟨others, split, closes⟩ := closing_of_stopsAt fallen.stopsAt
  have elements := fallen.elements
  have whole := fallen.append
  rw [split] at elements whole
  have rule := StringRule.intro elements closes
  rw [whole] at rule
  rw [fallen.read_eq]
  exact rule

end StringLiteral

/-- The rule of string literals leaves no choice. -/
theorem StringRule.eq_read {text value : List Char} (rule : StringRule text value) :
    value = (StringLiteral.read text.tail).text := by
  cases rule with
  | @intro body close after elements closes =>
      obtain ⟨found, fallen, spelled⟩ := elements.exists_piecesOf
      rw [List.tail_cons, fallen.read_eq, StringLiteral.text, StringLiteral.body, spelled,
        ← closes.eq_closing (by decide)]

/-! ## Character literals -/

namespace CharacterLiteral

/-- Before a closing quote or a line end there is no character inside. -/
theorem maximalRun_inside_iff {extra after : List Char} :
    MaximalRun inside extra after ↔
      (∀ c ∈ extra, c ≠ '\'' ∧ c ≠ '\n') ∧ StopsAt '\'' after := by
  have outside (c : Char) : inside c = false ↔ c = '\'' ∨ c = '\n' := by
    simp [inside, imp_iff_not_or]
  constructor
  · intro run
    exact ⟨fun c member => by simpa [inside] using run.inside c member,
      fun c head => (outside c).mp (run.stops c head)⟩
  · rintro ⟨within, stops⟩
    exact ⟨fun c member => by simpa [inside] using within c member,
      fun c head => (outside c).mpr (stops c head)⟩

theorem splitFirst_of_stopsAt {text : List Char} (stops : StopsAt '\'' text) :
    splitFirst text = (none, text) := by
  cases text with
  | nil => rfl
  | cons first rest => rw [splitFirst, if_pos (stops first rfl)]

/-- The first piece that is read is an element before the closing quote. -/
theorem splitFirst_cases (text : List Char) :
    StopsAt '\'' text ∨ ∃ piece, (splitFirst text).1 = some piece ∧
      InnerElement '\'' piece.text (splitFirst text).2 := by
  cases text with
  | nil => exact Or.inl fun _ impossible => by cases impossible
  | cons first rest =>
      by_cases stops : first = '\'' ∨ first = '\n'
      · refine Or.inl fun c head => ?_
        cases head
        exact stops
      · rw [splitFirst, if_neg stops]
        by_cases escape : first = '\\'
        · rw [if_pos escape]
          exact Or.inr ⟨_, rfl, Piece.innerElement_readEscape '\'' (by decide) rest⟩
        · rw [if_neg escape]
          refine Or.inr ⟨_, rfl, .plain escape, fun c head => ?_⟩
          cases head
          exact stops

/-- An element before the closing quote is the first piece that is read. -/
theorem splitFirst_of_element {element after : List Char}
    (first : InnerElement '\'' element after) :
    firstText (splitFirst (element ++ after)).1 = element ∧
      (splitFirst (element ++ after)).2 = after := by
  obtain ⟨isElement, opens⟩ := first
  cases element with
  | nil => cases isElement
  | cons opening tail =>
      have inner := opens opening rfl
      by_cases escape : opening = '\\'
      · rw [escape] at isElement inner ⊢
        rw [List.cons_append, splitFirst, if_neg inner, if_pos rfl]
        exact isElement.readEscape_eq
      · rw [isElement.eq_singleton escape, List.cons_append, splitFirst, if_neg inner,
          if_neg escape]
        exact ⟨rfl, rfl⟩

/-- A text falls into a first piece, what else stands before the quote, and what is left. -/
theorem exists_split (text : List Char) :
    ∃ piece extra left, splitFirst text = (piece, extra ++ left) ∧
      MaximalRun inside extra left ∧ firstText piece ++ (extra ++ left) = text := by
  refine ⟨(splitFirst text).1, (splitFirst text).2.takeWhile inside,
    (splitFirst text).2.dropWhile inside, ?_, .of_split inside _, ?_⟩
  · rw [List.takeWhile_append_dropWhile]
  · rw [List.takeWhile_append_dropWhile, firstText_splitFirst]

/-- What is read of a literal whose first piece and what follows it are known. -/
theorem read_eq {text left : List Char} {piece : Option Piece} (extra : List Char)
    (split : splitFirst text = (piece, extra ++ left)) (run : MaximalRun inside extra left) :
    read text = ⟨piece, extra, left.head? == some '\''⟩ := by
  simp only [read, split, run.takeWhile_append, run.dropWhile_append]

theorem text_mk (piece : Option Piece) (extra : List Char) (closed : Bool) :
    CharacterLiteral.text ⟨piece, extra, closed⟩ =
      '\'' :: (firstText piece ++ (extra ++ closing '\'' closed)) := by
  simp only [CharacterLiteral.text, body, List.append_assoc]

theorem characterRule_read (text : List Char) : CharacterRule ('\'' :: text) (read text).text := by
  rcases splitFirst_cases text with stops | ⟨piece, isFirst, element⟩
  · have run : MaximalRun inside [] text := maximalRun_inside_iff.mpr ⟨by simp, stops⟩
    obtain ⟨after, whole, closes⟩ := closing_of_stopsAt stops
    have rule := CharacterRule.empty closes
    rw [← whole] at rule
    have reads : read text = ⟨none, [], text.head? == some '\''⟩ :=
      read_eq [] (splitFirst_of_stopsAt stops) run
    rw [reads, text_mk]
    exact rule
  · obtain ⟨first, extra, left, split, run, parts⟩ := exists_split text
    obtain ⟨within, stops⟩ := maximalRun_inside_iff.mp run
    obtain ⟨after, whole, closes⟩ := closing_of_stopsAt stops
    rw [split] at isFirst element
    dsimp only at isFirst element
    rw [isFirst, firstText] at parts
    rw [whole] at element
    have rule := CharacterRule.filled element within closes
    rw [← whole, parts] at rule
    rw [read_eq extra split run, text_mk, isFirst]
    exact rule

end CharacterLiteral

/-- The rule of character literals leaves no choice. -/
theorem CharacterRule.eq_read {text value : List Char} (rule : CharacterRule text value) :
    value = (CharacterLiteral.read text.tail).text := by
  cases rule with
  | @empty close after closes =>
      have run : MaximalRun CharacterLiteral.inside [] (close ++ after) :=
        CharacterLiteral.maximalRun_inside_iff.mpr ⟨by simp, closes.stopsAt⟩
      have reads : CharacterLiteral.read (close ++ after) =
          ⟨none, [], (close ++ after).head? == some '\''⟩ :=
        CharacterLiteral.read_eq [] (CharacterLiteral.splitFirst_of_stopsAt closes.stopsAt) run
      rw [List.tail_cons, reads, CharacterLiteral.text_mk, ← closes.eq_closing (by decide)]
      rfl
  | filled first within closes =>
      obtain ⟨textEq, left⟩ := CharacterLiteral.splitFirst_of_element first
      have run := CharacterLiteral.maximalRun_inside_iff.mpr ⟨within, closes.stopsAt⟩
      rw [List.tail_cons, CharacterLiteral.read_eq _ (Prod.ext rfl left) run,
        CharacterLiteral.text_mk, textEq, ← closes.eq_closing (by decide)]

end Lexing.Lexeme
