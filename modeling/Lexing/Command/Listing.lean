import Lexing.Scanner

/-! # Listings

What the program writes: a line per token, per character, or per diagnostic. -/

namespace Lexing.Command

/-- The place of a token, or question marks where no file is registered. -/
def placeText : Option Source.Location → String
  | some location => toString location.line ++ ":" ++ toString location.column
  | none => "?:?"

/-- Place, kind and escaped text of a token, between tabs. -/
def tokenLine (place : Option Source.Location) (token : Token) : String :=
  placeText place ++ "\t" ++ token.kind.name ++ "\t" ++ Text.Escape.line token.text ++ "\n"

/-- One line per token. -/
def tokenListing (registry : Source.Registry) (tokens : List Token) : Except Overflow String :=
  (tokens.mapM fun token =>
    (registry.locate token.position).map fun place => tokenLine place token).map String.join

/-- One line per character. -/
def characterListing (tokens : List String) : String :=
  String.join (tokens.map fun token => Text.Escape.line token ++ "\n")

/-- The location of a diagnostic, if it has one, and its message. -/
def diagnosticLine (directory : String) (place : Option Source.Location) (diagnostic : Diagnostic) :
    String :=
  match place with
  | some location => location.display directory ++ ": " ++ diagnostic.message ++ "\n"
  | none => diagnostic.message ++ "\n"

/-- The location of a diagnostic that has a position in a registered file. -/
def diagnosticPlace (registry : Source.Registry) (diagnostic : Diagnostic) :
    Except Overflow (Option Source.Location) :=
  match diagnostic.position with
  | some position => registry.locate position
  | none => .ok none

/-- One line per diagnostic. -/
def diagnosticListing (directory : String) (registry : Source.Registry)
    (diagnostics : List Diagnostic) : Except Overflow String :=
  (diagnostics.mapM fun diagnostic =>
    (diagnosticPlace registry diagnostic).map fun place =>
      diagnosticLine directory place diagnostic).map String.join

end Lexing.Command
