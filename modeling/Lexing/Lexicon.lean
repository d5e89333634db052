/-! # Lexicons

A lexicon says what a text is made of beyond words, numbers and quoted literals: which words are
keywords, which character sequences are symbols, and what opens a comment. Keywords and symbols keep
the place of their first insertion; matching never depends on that order. -/

namespace Lexing

/-- What is recognised in a text, and whether comments are kept. -/
structure Lexicon where
  keywords : List String
  symbols : List String
  commentMarker : Option String
  keepComments : Bool
  deriving DecidableEq, Repr

namespace Lexicon

/-- Adds an entry at the end unless it is there already. -/
def insertNew (entries : List String) (entry : String) : List String :=
  if entries.contains entry then entries else entries ++ [entry]

/-- The symbols of a lexicon that says nothing else. -/
def standardSymbols : List String :=
  ["::", ":", ";", ".", ",", "!=", "!", "==", "=", "*", "+", "-", "/", "%", "<<", "<=", "<", ">>",
    ">=", ">", "\x7b", "\x7d", "(", ")", "[", "]", "&&", "&", "||", "|", "^", "~", "@", "?", "->",
    "=>"]

/-- No keywords, the standard symbols, and comments that open with two slashes and are dropped. -/
def standard : Lexicon where
  keywords := []
  symbols := standardSymbols
  commentMarker := some "//"
  keepComments := false

def withoutSymbols (lexicon : Lexicon) : Lexicon := { lexicon with symbols := [] }

def addKeyword (lexicon : Lexicon) (keyword : String) : Lexicon :=
  { lexicon with keywords := insertNew lexicon.keywords keyword }

def addSymbol (lexicon : Lexicon) (symbol : String) : Lexicon :=
  { lexicon with symbols := insertNew lexicon.symbols symbol }

def withKeywords (lexicon : Lexicon) (keywords : List String) : Lexicon :=
  keywords.foldl addKeyword lexicon

/-- Adds the symbols that are not empty. -/
def withSymbols (lexicon : Lexicon) (symbols : List String) : Lexicon :=
  (symbols.filter fun symbol => !symbol.isEmpty).foldl addSymbol lexicon

/-- Sets what opens a comment; an empty marker is none. -/
def withCommentMarker (lexicon : Lexicon) (marker : Option String) : Lexicon :=
  { lexicon with commentMarker := marker.filter fun text => !text.isEmpty }

def keepingComments (lexicon : Lexicon) (keep : Bool) : Lexicon :=
  { lexicon with keepComments := keep }

/-- The comment marker at the head of a text. An empty marker opens nothing. -/
def markerAt? (lexicon : Lexicon) (text : List Char) : Option (List Char) :=
  (lexicon.commentMarker.map String.toList).filter fun marker =>
    !marker.isEmpty && marker.isPrefixOf text

/-- The longer of two candidates, the first if they are as long. -/
def longer (best : Option (List Char)) (candidate : List Char) : Option (List Char) :=
  match best with
  | none => some candidate
  | some current => if current.length < candidate.length then some candidate else some current

/-- The longest symbol at the head of a text. An empty symbol is never found. -/
def symbolAt? (lexicon : Lexicon) (text : List Char) : Option (List Char) :=
  ((lexicon.symbols.map String.toList).filter fun symbol =>
    !symbol.isEmpty && symbol.isPrefixOf text).foldl longer none

/-- A marker that is found is not empty and heads the text. -/
theorem markerAt?_some {lexicon : Lexicon} {text marker : List Char}
    (found : lexicon.markerAt? text = some marker) : marker ≠ [] ∧ marker <+: text := by
  have holds := (Option.filter_eq_some_iff.mp found).2
  simpa using holds

theorem foldl_longer_mem {candidates : List (List Char)} {best : Option (List Char)}
    {chosen : List Char} (found : candidates.foldl longer best = some chosen) :
    chosen ∈ candidates ∨ best = some chosen := by
  induction candidates generalizing best with
  | nil => exact Or.inr found
  | cons candidate rest ih =>
      rcases ih found with later | now
      · exact Or.inl (List.mem_cons_of_mem _ later)
      · cases best with
        | none =>
            cases now
            exact Or.inl List.mem_cons_self
        | some current =>
            simp only [longer] at now
            split at now
            · cases now
              exact Or.inl List.mem_cons_self
            · exact Or.inr now

/-- A symbol that is found is not empty and heads the text. -/
theorem symbolAt?_some {lexicon : Lexicon} {text symbol : List Char}
    (found : lexicon.symbolAt? text = some symbol) : symbol ≠ [] ∧ symbol <+: text := by
  rcases foldl_longer_mem found with member | impossible
  · have holds := (List.mem_filter.mp member).2
    simpa using holds
  · cases impossible

end Lexicon

end Lexing
