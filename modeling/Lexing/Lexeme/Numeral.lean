import Lexing.Character.Word
import Lexing.Lexeme.Fault
import Lexing.Number
import Lexing.Text.Width

/-! # Number literals

A number literal is what gives its base, then places, and in base ten optionally a fraction and an
exponent. Letters that follow at once are a suffix, which no literal may have. `read` cuts a literal
off the head of a text; its text is a prefix of what was read. -/

namespace Lexing.Lexeme

/-- The exponent of a decimal literal: the letter that opens it, a sign, and places. -/
structure Exponent where
  mark : Char
  sign : Option Char
  places : List Char
  deriving DecidableEq, Repr

def Exponent.text (exponent : Exponent) : List Char :=
  exponent.mark :: (exponent.sign.toList ++ exponent.places)

/-- The signed power of ten; zero if there is no digit. -/
def Exponent.value (exponent : Exponent) : Int :=
  let magnitude : Int := Base.decimal.value exponent.places
  if exponent.sign = some '-' then -magnitude else magnitude

/-- Whether any place is a digit. -/
def Exponent.hasDigits (exponent : Exponent) : Bool :=
  exponent.places.any fun c => (Base.decimal.digit? c).isSome

/-- A number literal, part by part. -/
structure Numeral where
  base : Base
  lead : List Char
  whole : List Char
  fraction : Option (List Char)
  exponent : Option Exponent
  suffix : List Char
  deriving DecidableEq, Repr

namespace Numeral

def fractionText : Option (List Char) → List Char
  | none => []
  | some places => '.' :: places

def exponentText : Option Exponent → List Char
  | none => []
  | some exponent => exponent.text

/-- The literal up to its suffix. -/
def body (numeral : Numeral) : List Char :=
  numeral.lead ++ numeral.whole ++ fractionText numeral.fraction ++ exponentText numeral.exponent

/-- The characters of a literal. -/
def text (numeral : Numeral) : List Char := numeral.body ++ numeral.suffix

/-! ## Reading -/

/-- A point and the places after it, in base ten. -/
def splitFraction (base : Base) : List Char → Option (List Char) × List Char
  | '.' :: rest =>
      if base = .decimal then (some (rest.takeWhile base.isPlace), rest.dropWhile base.isPlace)
      else (none, '.' :: rest)
  | rest => (none, rest)

/-- One sign, if there is one. -/
def splitSign : List Char → Option Char × List Char
  | '-' :: rest => (some '-', rest)
  | '+' :: rest => (some '+', rest)
  | rest => (none, rest)

/-- An exponent, in base ten. -/
def splitExponent (base : Base) : List Char → Option Exponent × List Char
  | [] => (none, [])
  | mark :: rest =>
      if base = .decimal ∧ (mark = 'e' ∨ mark = 'E') then
        let signed := splitSign rest
        (some ⟨mark, signed.1, signed.2.takeWhile Base.decimal.isPlace⟩,
          signed.2.dropWhile Base.decimal.isPlace)
      else (none, mark :: rest)

/-- A suffix opens with an alphabetic character and goes on as a word does. -/
def suffixOf : List Char → List Char
  | [] => []
  | first :: rest =>
      if Character.isAlphabetic first then first :: rest.takeWhile Character.continuesWord else []

/-- The literal at the head of a text. -/
def read (text : List Char) : Numeral :=
  let detected := Base.detect text
  let places := text.drop detected.2.length
  let fraction := splitFraction detected.1 (places.dropWhile detected.1.isPlace)
  let exponent := splitExponent detected.1 fraction.2
  { base := detected.1
    lead := detected.2
    whole := places.takeWhile detected.1.isPlace
    fraction := fraction.1
    exponent := exponent.1
    suffix := suffixOf exponent.2 }

theorem fractionText_splitFraction (base : Base) (text : List Char) :
    fractionText (splitFraction base text).1 ++ (splitFraction base text).2 = text := by
  unfold splitFraction
  split
  · split <;> simp [fractionText, List.takeWhile_append_dropWhile]
  · rfl

theorem sign_splitSign (text : List Char) :
    (splitSign text).1.toList ++ (splitSign text).2 = text := by
  unfold splitSign
  split <;> rfl

theorem exponentText_splitExponent (base : Base) (text : List Char) :
    exponentText (splitExponent base text).1 ++ (splitExponent base text).2 = text := by
  cases text with
  | nil => rfl
  | cons mark rest =>
      simp only [splitExponent]
      split
      · simp [exponentText, Exponent.text, List.takeWhile_append_dropWhile, sign_splitSign]
      · rfl

theorem suffixOf_isPrefix (text : List Char) : suffixOf text <+: text := by
  unfold suffixOf
  split
  · exact List.nil_prefix
  · split
    · exact (List.prefix_cons_inj _).mpr (List.takeWhile_prefix _)
    · exact List.nil_prefix

/-- Nothing of the text before the end of the literal is lost or changed. -/
theorem read_text_isPrefix (text : List Char) : (read text).text <+: text := by
  obtain ⟨afterLead, leadEq⟩ := Base.detect_isPrefix text
  have places : text.drop (Base.detect text).2.length = afterLead := by
    simpa using (congrArg (List.drop (Base.detect text).2.length) leadEq).symm
  obtain ⟨rest, suffixEq⟩ := suffixOf_isPrefix
    (splitExponent (Base.detect text).1
      (splitFraction (Base.detect text).1 (afterLead.dropWhile (Base.detect text).1.isPlace)).2).2
  refine ⟨rest, ?_⟩
  have exponentEq := exponentText_splitExponent (Base.detect text).1
    (splitFraction (Base.detect text).1 (afterLead.dropWhile (Base.detect text).1.isPlace)).2
  have fractionEq := fractionText_splitFraction (Base.detect text).1
    (afterLead.dropWhile (Base.detect text).1.isPlace)
  simp only [Numeral.text, body, read, places, List.append_assoc]
  rw [suffixEq, exponentEq, fractionEq, List.takeWhile_append_dropWhile, leadEq]

/-- A literal that opens with a digit has at least that digit before its suffix. -/
theorem read_body_ne_nil {first : Char} (digit : first.isDigit = true) (rest : List Char) :
    (read (first :: rest)).body ≠ [] := by
  intro empty
  simp only [body, read, List.append_eq_nil_iff] at empty
  obtain ⟨⟨⟨lead, whole⟩, _⟩, _⟩ := empty
  simp [lead, Base.isPlace, digit] at whole

theorem read_text_ne_nil {first : Char} (digit : first.isDigit = true) (rest : List Char) :
    (read (first :: rest)).text ≠ [] :=
  List.append_ne_nil_of_left_ne_nil (read_body_ne_nil digit rest) _

/-! ## Value -/

/-- Places of the mantissa, those of the fraction last. -/
def mantissa (numeral : Numeral) : List Char := numeral.whole ++ numeral.fraction.getD []

/-- How many digits stand after the point. -/
def fractionDigits (numeral : Numeral) : Nat :=
  ((numeral.fraction.getD []).filterMap numeral.base.digit?).length

/-- The number that a literal denotes; a suffix adds nothing to it. -/
def value (numeral : Numeral) : Number where
  val := numeral.base.value numeral.mantissa
  exp := (numeral.exponent.map Exponent.value).getD 0 - numeral.fractionDigits

/-! ## Faults -/

/-- Decimal digits among the places that the base does not have. -/
def foreignDigits (base : Base) (offset : Nat) (found : List Finding) : List Char → List Finding
  | [] => found.reverse
  | c :: rest =>
      foreignDigits base (offset + c.utf8Size)
        (if c.isDigit && (base.digit? c).isNone then ⟨offset, .foreignDigit c base⟩ :: found
          else found) rest

theorem foreignDigits_append (base : Base) (offset : Nat) (found : List Finding)
    (places : List Char) :
    foreignDigits base offset found places =
      found.reverse ++ foreignDigits base offset [] places := by
  induction places generalizing offset found with
  | nil => simp [foreignDigits]
  | cons c rest ih =>
      simp only [foreignDigits]
      split
      · rw [ih _ (_ :: found), ih _ [_]]
        simp
      · exact ih _ found

/-- What is wrong at the end of a literal: a suffix, or else an exponent without digits. -/
def endFindings (numeral : Numeral) : List Finding :=
  if numeral.suffix.isEmpty then
    match numeral.exponent with
    | some exponent =>
        if exponent.hasDigits then [] else [⟨Text.width numeral.body, .exponentWithoutDigits⟩]
    | none => []
  else [⟨Text.width numeral.body, .invalidSuffix numeral.suffix⟩]

/-- What is wrong with a literal, by offset from its start. -/
def findings (numeral : Numeral) : List Finding :=
  foreignDigits numeral.base (Text.width numeral.lead) [] numeral.whole ++ numeral.endFindings

end Numeral

end Lexing.Lexeme
