import Lexing.Character.Combining
import Lexing.Character.Unprintable

/-! # Escaped text

Listings and token displays write a text so that it stays on one line and every character of it is
visible. `Style` says which quotes are escaped and whether a combining mark is escaped wherever it
stands or only where nothing precedes it. -/

namespace Lexing.Text.Escape

/-- What differs between the two written forms of a text. -/
structure Style where
  apostrophe : Bool
  combiningInside : Bool
  deriving DecidableEq, Repr

/-- One line of a listing: both quotes are escaped, and a combining mark only where it comes first. -/
def listing : Style where
  apostrophe := true
  combiningInside := false

/-- Between double quotes: an apostrophe stands for itself, and every combining mark is escaped. -/
def quoted : Style where
  apostrophe := false
  combiningInside := true

/-- A code point in lower-case hexadecimal between braces, after a backslash and the letter `u`. -/
def codePoint (c : Char) : List Char :=
  '\\' :: 'u' :: '\x7b' :: (Nat.toDigits 16 c.toNat ++ ['\x7d'])

/-- The letter that names a character after a backslash, for the characters that have one. -/
def letter? (style : Style) : Char → Option Char
  | '\x00' => some '0'
  | '\t' => some 't'
  | '\r' => some 'r'
  | '\n' => some 'n'
  | '\\' => some '\\'
  | '"' => some '"'
  | '\'' => if style.apostrophe then some '\'' else none
  | _ => none

/-- The written form of a character; `combining` says whether a combining mark is escaped here. -/
def character (style : Style) (combining : Bool) (c : Char) : List Char :=
  match letter? style c with
  | some letter => ['\\', letter]
  | none =>
      if (combining && Character.isCombining c) || Character.isUnprintable c then codePoint c
      else [c]

/-- The written form of a text. -/
def text (style : Style) : List Char → List Char
  | [] => []
  | first :: rest =>
      character style true first ++ rest.flatMap (character style style.combiningInside)

/-- A text on a line of a listing. -/
def line (value : String) : String := String.ofList (text listing value.toList)

/-- A text between double quotes. -/
def display (value : String) : String := String.ofList ('"' :: text quoted value.toList ++ ['"'])

end Lexing.Text.Escape
