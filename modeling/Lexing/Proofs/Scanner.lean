import Lexing.Proofs.Scan.Tokens
import Lexing.Scanner

/-! # Calls of scanners

What a call of a scanner does is told by the reading of what is left: its tokens are returned and what is
wrong with it is reported, if the extent of the reading has positions. If every byte of a file and its
end have positions it has. -/

namespace Lexing

/-! ## What a call does -/

/-- The scanner with nothing left. -/
def Scanner.finished (scanner : Scanner) : Scanner :=
  { scanner with passed := scanner.passed + Text.width scanner.rest, rest := [] }

/-- A call returns the tokens of the reading of what was left and reports what is wrong with it if every
offset that is looked at has a position, and else overflows and stays where it was. -/
theorem Scanner.lex_eq (scanner : Scanner) (log : Log) :
    Scanner.lex scanner log =
      if Position.fits scanner.position (Reading.ofText scanner.lexicon scanner.rest).extent then
        (.ok ((Reading.ofText scanner.lexicon scanner.rest).tokens scanner.lexicon scanner.position),
          scanner.finished,
          log.append ((Reading.ofText scanner.lexicon scanner.rest).diagnostics scanner.position))
      else
        (.error .position, scanner,
          log.append
            ((Reading.ofText scanner.lexicon scanner.rest).diagnosticsThatFit scanner.position)) := by
  rw [lex, Scan.tokens_start]
  cases Position.fits scanner.position (Reading.ofText scanner.lexicon scanner.rest).extent <;> rfl

/-- What a call returns are the tokens of the reading of what was left. -/
theorem Scanner.tokens_of_lex {scanner : Scanner} {log : Log} {tokens : List Token}
    (called : (Scanner.lex scanner log).1 = .ok tokens) :
    tokens = (Reading.ofText scanner.lexicon scanner.rest).tokens scanner.lexicon scanner.position := by
  rw [Scanner.lex_eq] at called
  split at called
  · exact (Except.ok.inj called).symm
  · cases called

/-- Where all that is left has positions, all that a call looks at has them. -/
theorem Scanner.fits_extent {scanner : Scanner}
    (room : scanner.position + Text.width scanner.rest < Position.limit) :
    Position.fits scanner.position (Reading.ofText scanner.lexicon scanner.rest).extent = true := by
  have bound := Reading.extent_le scanner.lexicon scanner.rest
  exact Position.fits_of_le bound (Position.fits_succ.mpr room)

/-- Where all that is left has positions a call returns. -/
theorem Scanner.lex_returns {scanner : Scanner}
    (room : scanner.position + Text.width scanner.rest < Position.limit) (log : Log) :
    ∃ tokens, (Scanner.lex scanner log).1 = .ok tokens := by
  refine ⟨(Reading.ofText scanner.lexicon scanner.rest).tokens scanner.lexicon scanner.position, ?_⟩
  rw [Scanner.lex_eq, if_pos (fits_extent room)]

/-! ## Files in range -/

/-- Every byte of a file and the end of the file have positions. -/
def Source.File.InRange (file : Source.File) : Prop :=
  file.offset + file.text.utf8ByteSize < Position.limit

instance (file : Source.File) : Decidable file.InRange :=
  inferInstanceAs (Decidable (_ < _))

namespace Source.File

/-- The reading of a file under a lexicon. -/
def reading (file : File) (lexicon : Lexicon) : Reading :=
  Reading.ofText lexicon file.text.toList

/-- The tokens of a file under a lexicon. -/
def tokens (file : File) (lexicon : Lexicon) : List Token :=
  (file.reading lexicon).tokens lexicon file.offset

/-- What is wrong with a file under a lexicon. -/
def diagnostics (file : File) (lexicon : Lexicon) : List Diagnostic :=
  (file.reading lexicon).diagnostics file.offset

/-- Whether all offsets in a file up to an extent have positions. -/
def fits (file : File) (extent : Nat) : Bool := Position.fits file.offset extent

/-- What is reported of a file before a position is missing. -/
def diagnosticsThatFit (file : File) (lexicon : Lexicon) : List Diagnostic :=
  (file.reading lexicon).diagnosticsThatFit file.offset

end Source.File

/-- The first call on a file returns all tokens and reports every fault if every offset that is looked
at has a position, and else overflows and stays where it was. -/
theorem Scanner.lex_ofFile (file : Source.File) (lexicon : Lexicon) (log : Log) :
    Scanner.lex (.ofFile file lexicon) log =
      if file.fits (file.reading lexicon).extent then
        (.ok (file.tokens lexicon), (Scanner.ofFile file lexicon).finished,
          log.append (file.diagnostics lexicon))
      else
        (.error .position, .ofFile file lexicon,
          log.append (file.diagnosticsThatFit lexicon)) :=
  Scanner.lex_eq (.ofFile file lexicon) log

@[simp] theorem Segment.position_token (lexicon : Lexicon) (origin : Nat) (segment : Segment) :
    (segment.token lexicon origin).position = origin + segment.start := rfl

@[simp] theorem Segment.text_token (lexicon : Lexicon) (origin : Nat) (segment : Segment) :
    (segment.token lexicon origin).text.toList = segment.lexeme.text := String.toList_ofList

/-- A lexicon that keeps comments drops no token. -/
theorem Reading.tokens_of_keepComments (reading : Reading) {lexicon : Lexicon}
    (keeps : lexicon.keepComments = true) (origin : Nat) :
    reading.tokens lexicon origin = reading.segments.map (Segment.token lexicon origin) := by
  have all : ∀ segment ∈ reading.segments, segment.lexeme.isKept lexicon = true := by
    intro segment _
    cases segment.lexeme with
    | comment marker body => exact keeps
    | _ => rfl
  rw [Reading.tokens, List.filter_eq_self.mpr all]

theorem Source.File.tokens_of_keepComments (file : Source.File) {lexicon : Lexicon}
    (keeps : lexicon.keepComments = true) :
    file.tokens lexicon =
      (file.reading lexicon).segments.map (Segment.token lexicon file.offset) :=
  (file.reading lexicon).tokens_of_keepComments keeps file.offset

/-- All offsets in a file in range, and the one at its end, have positions. -/
theorem Source.File.fits_of_inRange {file : Source.File} (inRange : file.InRange)
    (lexicon : Lexicon) : file.fits (file.reading lexicon).extent = true := by
  have room : (Scanner.ofFile file lexicon).position + Text.width (Scanner.ofFile file lexicon).rest <
      Position.limit := by
    rw [Source.File.InRange, ← Text.width_toList] at inRange
    exact inRange
  exact Scanner.fits_extent room

/-- The first call on a file in range returns all tokens, reports every fault behind what the log
held, and leaves nothing to read. -/
theorem Scanner.lex_of_inRange {file : Source.File} (inRange : file.InRange) (lexicon : Lexicon)
    (log : Log) :
    Scanner.lex (.ofFile file lexicon) log =
      (.ok (file.tokens lexicon), (Scanner.ofFile file lexicon).finished,
        log.append (file.diagnostics lexicon)) := by
  rw [Scanner.lex_ofFile, if_pos (file.fits_of_inRange inRange lexicon)]

/-- The first call on a file returns tokens, and reports diagnostics behind what the log held. -/
def Source.File.LexesTo (file : Source.File) (lexicon : Lexicon) (tokens : List Token)
    (reported : List Diagnostic) : Prop :=
  ∀ log, Scanner.lex (.ofFile file lexicon) log =
    (.ok tokens, (Scanner.ofFile file lexicon).finished, log.append reported)

theorem Source.File.lexesTo_of_inRange {file : Source.File} (inRange : file.InRange)
    (lexicon : Lexicon) : file.LexesTo lexicon (file.tokens lexicon) (file.diagnostics lexicon) :=
  fun log => Scanner.lex_of_inRange inRange lexicon log

end Lexing
