import Lexing.Proofs.Rules.Quoted

/-! # Quoted literals in another context

A quoted literal is read alike if what stands behind it is replaced, but for one thing: a hexadecimal
escape that lacks a digit is said to stop at the character that follows it, and where it is the last
piece of a literal without a closing quote that character is none of the literal. `stoppingAt` says
what becomes of it. -/

namespace Lexing.Lexeme

open Text (MaximalRun Replaces)

theorem StopsAt.of_replaces {quote : Char} {after other : List Char} (stops : StopsAt quote after)
    (replaces : Replaces other after) : StopsAt quote other :=
  replaces.head stops (Or.inr rfl)

/-! ## Pieces -/

namespace Piece

/-- The piece as it is read if a given character follows it. -/
def stoppingAt (stop : Option Char) : Piece → Piece
  | .brokenHex high _ => .brokenHex high stop
  | piece => piece

@[simp] theorem text_stoppingAt (stop : Option Char) (piece : Piece) :
    (piece.stoppingAt stop).text = piece.text := by
  cases piece <;> rfl

@[simp] theorem bytes_stoppingAt (stop : Option Char) (piece : Piece) :
    (piece.stoppingAt stop).bytes = piece.bytes := by
  cases piece <;> rfl

@[simp] theorem character_stoppingAt (stop : Option Char) (piece : Piece) :
    (piece.stoppingAt stop).character = piece.character := by
  cases piece <;> rfl

/-- At most one digit, and then none: the escape stops there. -/
theorem readHex_of_stop {high : Option Char} {after : List Char}
    (digit : ∀ d, high = some d → (digitValue? d).isNone = false)
    (stops : ∀ c, after.head? = some c → (digitValue? c).isNone = true) :
    readHex (high.toList ++ after) = (.brokenHex high after.head?, after) := by
  cases high with
  | none =>
      cases after with
      | nil => rfl
      | cons next more => simp [readHex, stops next rfl]
  | some high =>
      cases after with
      | nil => simp [readHex, digit high rfl]
      | cons next more => simp [readHex, digit high rfl, stops next rfl]

/-- Two digits make an escape, and fewer stop it. -/
theorem readHex_cases (text : List Char) :
    (∃ high low after, text = high :: low :: after ∧ (digitValue? high).isNone = false ∧
      (digitValue? low).isNone = false) ∨
    ∃ (high : Option Char) (after : List Char), text = high.toList ++ after ∧
      (∀ d, high = some d → (digitValue? d).isNone = false) ∧
      ∀ c, after.head? = some c → (digitValue? c).isNone = true := by
  cases text with
  | nil => exact Or.inr ⟨none, [], rfl, by simp, by simp⟩
  | cons high rest =>
      cases isHigh : (digitValue? high).isNone with
      | true => exact Or.inr ⟨none, high :: rest, rfl, by simp, by simpa using isHigh⟩
      | false =>
          cases rest with
          | nil => exact Or.inr ⟨some high, [], rfl, by simpa using isHigh, by simp⟩
          | cons low after =>
              cases isLow : (digitValue? low).isNone with
              | true =>
                  exact Or.inr ⟨some high, low :: after, rfl, by simpa using isHigh,
                    by simpa using isLow⟩
              | false => exact Or.inl ⟨high, low, after, rfl, isHigh, isLow⟩

/-- A hexadecimal escape that is read again in another context. -/
theorem readHex_of_replaces {text other : List Char} (replaces : Replaces other (readHex text).2) :
    ∃ digits, (readHex text).1.text = '\\' :: 'x' :: digits ∧
      readHex (digits ++ other) = ((readHex text).1.stoppingAt other.head?, other) := by
  rcases readHex_cases text with ⟨high, low, after, rfl, isHigh, isLow⟩ |
    ⟨high, after, rfl, digit, stops⟩
  · refine ⟨[high, low], ?_⟩
    simp [readHex, isHigh, isLow, text, stoppingAt]
  · rw [readHex_of_stop digit stops] at replaces ⊢
    exact ⟨high.toList, rfl, readHex_of_stop digit (replaces.head stops (by decide))⟩

/-- An escape that is read again in another context. -/
theorem readEscape_of_replaces {text other : List Char}
    (replaces : Replaces other (readEscape text).2) :
    ∃ letters, (readEscape text).1.text = '\\' :: letters ∧
      readEscape (letters ++ other) = ((readEscape text).1.stoppingAt other.head?, other) := by
  have dangling (stops : ∀ c, other.head? = some c → c = '\n') :
      readEscape other = (.dangling, other) := by
    cases other with
    | nil => rfl
    | cons next more => rw [readEscape, if_pos (stops next rfl)]
  cases text with
  | nil => exact ⟨[], rfl, dangling (replaces.head (fun _ impossible => by cases impossible) rfl)⟩
  | cons letter rest =>
      by_cases line : letter = '\n'
      · rw [readEscape, if_pos line] at replaces ⊢
        refine ⟨[], rfl, dangling (replaces.head (fun c head => ?_) rfl)⟩
        cases head
        exact line
      · by_cases hexadecimal : letter = 'x'
        · rw [readEscape, if_neg line, if_pos hexadecimal] at replaces ⊢
          obtain ⟨digits, spelled, again⟩ := readHex_of_replaces replaces
          refine ⟨'x' :: digits, spelled, ?_⟩
          rw [List.cons_append, readEscape, if_neg (by decide), if_pos rfl, again]
        · refine ⟨[letter], ?_⟩
          simp [readEscape, line, hexadecimal, text, stoppingAt]

/-- An escape stops at what follows it. -/
theorem readEscape_stoppingAt (text : List Char) :
    (readEscape text).1.stoppingAt (readEscape text).2.head? = (readEscape text).1 := by
  obtain ⟨letters, spelled, again⟩ := readEscape_of_replaces (Replaces.refl (readEscape text).2)
  have whole := text_readEscape text
  rw [spelled, List.cons_append] at whole
  rw [(List.cons.inj whole).2] at again
  exact (congrArg Prod.fst again).symm

end Piece

/-- Pieces as they are read if a given character follows the last of them. -/
def lastStoppingAt (stop : Option Char) : List Piece → List Piece
  | [] => []
  | [last] => [last.stoppingAt stop]
  | piece :: next :: rest => piece :: lastStoppingAt stop (next :: rest)

@[simp] theorem text_lastStoppingAt (stop : Option Char) (pieces : List Piece) :
    (lastStoppingAt stop pieces).flatMap Piece.text = pieces.flatMap Piece.text := by
  fun_induction lastStoppingAt with
  | case1 => rfl
  | case2 last => simp
  | case3 piece next rest ih =>
      rw [List.flatMap_cons, ih]
      rfl

@[simp] theorem bytes_lastStoppingAt (stop : Option Char) (pieces : List Piece) :
    (lastStoppingAt stop pieces).flatMap Piece.bytes = pieces.flatMap Piece.bytes := by
  fun_induction lastStoppingAt with
  | case1 => rfl
  | case2 last => simp
  | case3 piece next rest ih =>
      rw [List.flatMap_cons, ih]
      rfl

namespace PiecesOf

variable {text after other : List Char} {found : List Piece}

theorem escape_of_read {rest left : List Char} {piece : Piece}
    (read : Piece.readEscape rest = (piece, left)) (behind : PiecesOf left found after) :
    PiecesOf ('\\' :: rest) (piece :: found) after := by
  have next : PiecesOf ('\\' :: rest) ((Piece.readEscape rest).1 :: found) after :=
    .escape (by rw [read]; exact behind)
  rw [read] at next
  exact next

/-- The pieces of a text in another context. -/
theorem of_replaces (fallen : PiecesOf text found after) (replaces : Replaces other after) :
    PiecesOf (found.flatMap Piece.text ++ other) (lastStoppingAt other.head? found) other := by
  induction fallen with
  | stop stops => exact .stop (stops.of_replaces replaces)
  | @plain c rest after found inside notEscape behind ih =>
      have next := PiecesOf.plain inside notEscape (ih replaces)
      cases found with
      | nil => exact next
      | cons second others => exact next
  | @escape rest after found behind ih =>
      have left := behind.append
      have moved := replaces.append_left (found.flatMap Piece.text)
      rw [left] at moved
      obtain ⟨letters, spelled, again⟩ := Piece.readEscape_of_replaces moved
      have next := escape_of_read again (ih replaces)
      rw [List.flatMap_cons, List.append_assoc, spelled]
      cases found with
      | nil => exact next
      | cons second others =>
          -- the escape is not the last piece, and what follows it opens as it did
          have same : ((second :: others).flatMap Piece.text ++ other).head? =
              (Piece.readEscape rest).2.head? := by
            rw [← left, List.flatMap_cons]
            cases letters : second.text with
            | nil => exact absurd letters second.text_ne_nil
            | cons opening tail => rfl
          rw [same, Piece.readEscape_stoppingAt] at next
          exact next

/-- The last piece stops at what follows it. -/
theorem lastStoppingAt_eq (fallen : PiecesOf text found after) :
    lastStoppingAt after.head? found = found := by
  have again := fallen.of_replaces (Replaces.refl after)
  rw [fallen.append] at again
  exact again.pieces_eq.symm.trans fallen.pieces_eq

end PiecesOf

/-! ## Quoted literals -/

namespace StringLiteral

/-- The literal as it is read if a given character follows it. -/
def stoppingAt (stop : Option Char) (literal : StringLiteral) : StringLiteral :=
  if literal.closed then literal
  else { literal with pieces := lastStoppingAt stop literal.pieces }

@[simp] theorem text_stoppingAt (stop : Option Char) (literal : StringLiteral) :
    (literal.stoppingAt stop).text = literal.text := by
  unfold stoppingAt
  split <;> simp [StringLiteral.text, body]

@[simp] theorem bytes_stoppingAt (stop : Option Char) (literal : StringLiteral) :
    (literal.stoppingAt stop).bytes = literal.bytes := by
  unfold stoppingAt
  split <;> simp [bytes]

/-- A string literal that is read again in another context. -/
theorem read_of_replaces {text after other letters : List Char}
    (whole : (read text).text ++ after = '"' :: text)
    (kept : (read text).text ++ other = '"' :: letters) (replaces : Replaces other after) :
    read letters = (read text).stoppingAt other.head? := by
  obtain ⟨left, fallen⟩ := PiecesOf.exists_after text
  generalize Lexeme.pieces text = found at fallen
  have parts := fallen.append
  rw [fallen.read_eq] at whole kept ⊢
  by_cases closed : left.head? = some '"'
  · obtain ⟨rest, rfl⟩ := List.head?_eq_some_iff.mp closed
    have moved : Replaces ('"' :: other) ('"' :: rest) := fun c head => Or.inl head
    have again := fallen.of_replaces moved
    have same := fallen.lastStoppingAt_eq
    have spelled : letters = found.flatMap Piece.text ++ '"' :: other := by
      simpa [StringLiteral.text, body, closing] using kept.symm
    rw [spelled, again.read_eq]
    simpa [stoppingAt] using same
  · have stillOpen : (left.head? == some '"') = false := by simpa using closed
    have afterEq : after = left := by
      rw [stillOpen, ← parts] at whole
      simpa [StringLiteral.text, body, closing] using whole
    have spelled : letters = found.flatMap Piece.text ++ other := by
      rw [stillOpen] at kept
      simpa [StringLiteral.text, body, closing] using kept.symm
    rw [afterEq] at replaces
    have again := fallen.of_replaces replaces
    have stops : ∀ c, other.head? = some c → c ≠ '"' :=
      replaces.head (fun c head same => closed (same ▸ head)) (by decide)
    have stillOpenToo : (other.head? == some '"') = false := by
      simpa using fun head => stops '"' head rfl
    rw [spelled, again.read_eq, stillOpen, stillOpenToo]
    rfl

end StringLiteral

namespace CharacterLiteral

/-- The literal as it is read if a given character follows it. -/
def stoppingAt (stop : Option Char) (literal : CharacterLiteral) : CharacterLiteral :=
  if literal.extra.isEmpty && !literal.closed then
    { literal with first := literal.first.map (Piece.stoppingAt stop) }
  else literal

@[simp] theorem firstText_map_stoppingAt (stop : Option Char) (first : Option Piece) :
    firstText (first.map (Piece.stoppingAt stop)) = firstText first := by
  cases first <;> simp [firstText]

@[simp] theorem text_stoppingAt (stop : Option Char) (literal : CharacterLiteral) :
    (literal.stoppingAt stop).text = literal.text := by
  unfold stoppingAt
  split <;> simp [CharacterLiteral.text, body]

@[simp] theorem value_stoppingAt (stop : Option Char) (literal : CharacterLiteral) :
    (literal.stoppingAt stop).value = literal.value := by
  unfold stoppingAt
  split
  · obtain ⟨first, extra, closed⟩ := literal
    cases first <;> simp [value]
  · rfl

/-- The first piece of a text in another context. -/
theorem splitFirst_of_replaces {text rest other : List Char} {piece : Option Piece}
    (split : splitFirst text = (piece, rest)) (replaces : Replaces other rest) :
    splitFirst (firstText piece ++ other) =
      (piece.map (Piece.stoppingAt other.head?), other) := by
  cases text with
  | nil =>
      cases split
      refine splitFirst_of_stopsAt (replaces.head (fun c impossible => ?_) (Or.inr rfl))
      cases impossible
  | cons first others =>
      by_cases stops : first = '\'' ∨ first = '\n'
      · rw [splitFirst, if_pos stops] at split
        cases split
        refine splitFirst_of_stopsAt (replaces.head (fun c head => ?_) (Or.inr rfl))
        cases head
        exact stops
      · by_cases escape : first = '\\'
        · rw [splitFirst, if_neg stops, if_pos escape] at split
          cases split
          obtain ⟨letters, spelled, again⟩ := Piece.readEscape_of_replaces replaces
          rw [firstText, spelled, List.cons_append, splitFirst, if_neg (by decide), if_pos rfl,
            again]
          rfl
        · rw [splitFirst, if_neg stops, if_neg escape] at split
          cases split
          simp [splitFirst, stops, escape, firstText, Piece.text, Piece.stoppingAt]

/-- The first piece stops at what follows it. -/
theorem splitFirst_stoppingAt {text rest : List Char} {piece : Option Piece}
    (split : splitFirst text = (piece, rest)) :
    piece.map (Piece.stoppingAt rest.head?) = piece := by
  have whole := firstText_splitFirst text
  have again := splitFirst_of_replaces split (Replaces.refl rest)
  rw [split] at whole
  rw [whole, split] at again
  exact (congrArg Prod.fst again).symm

/-- A character literal that is read again in another context. -/
theorem read_of_replaces {text after other letters : List Char}
    (whole : (read text).text ++ after = '\'' :: text)
    (kept : (read text).text ++ other = '\'' :: letters) (replaces : Replaces other after) :
    read letters = (read text).stoppingAt other.head? := by
  obtain ⟨piece, extra, left, split, run, parts⟩ := exists_split text
  have same := splitFirst_stoppingAt split
  rw [read_eq extra split run] at whole kept ⊢
  by_cases closed : left.head? = some '\''
  · obtain ⟨rest, rfl⟩ := List.head?_eq_some_iff.mp closed
    have sameHead : (extra ++ '\'' :: other).head? = (extra ++ '\'' :: rest).head? := by
      cases extra <;> rfl
    have moved : Replaces (extra ++ '\'' :: other) (extra ++ '\'' :: rest) :=
      fun c head => Or.inl (sameHead ▸ head)
    have again := splitFirst_of_replaces split moved
    rw [sameHead, same] at again
    have runAgain : MaximalRun inside extra ('\'' :: other) :=
      ⟨run.inside, fun c head => run.stops c head⟩
    have spelled : letters = firstText piece ++ (extra ++ '\'' :: other) := by
      simpa [CharacterLiteral.text, body, closing] using kept.symm
    rw [spelled, read_eq extra again runAgain]
    simp [stoppingAt]
  · have stillOpen : (left.head? == some '\'') = false := by simpa using closed
    have afterEq : after = left := by
      rw [stillOpen, ← parts] at whole
      simpa [CharacterLiteral.text, body, closing] using whole
    have spelled : letters = firstText piece ++ (extra ++ other) := by
      rw [stillOpen] at kept
      simpa [CharacterLiteral.text, body, closing] using kept.symm
    rw [afterEq] at replaces
    have again := splitFirst_of_replaces split (replaces.append_left extra)
    have reread := read_eq extra again (run.of_replaces replaces (by decide))
    have stops : ∀ c, other.head? = some c → c ≠ '\'' :=
      replaces.head (fun c head same => closed (same ▸ head)) (by decide)
    have stillOpenToo : (other.head? == some '\'') = false := by
      simpa using fun head => stops '\'' head rfl
    rw [spelled, reread, stillOpen, stillOpenToo]
    cases extra with
    | nil => rfl
    | cons second others =>
        rw [List.cons_append, List.head?_cons] at same
        rw [List.cons_append, List.head?_cons, same]
        rfl

end CharacterLiteral

end Lexing.Lexeme
