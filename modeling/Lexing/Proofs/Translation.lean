import Lexing.Proofs.Scanner

/-! # Files that start elsewhere

Nothing that is read of a text depends on where its file starts: tokens and diagnostics stand as much
further on as the file does. A scan takes the position of every character that it looks at, but where
these positions are makes a difference only to what it reports and to whether it ends early, as
`Scan.Does` says of each of its parts. If a file starts so far on that a position is missing, the call leaves
the scanner where it was, and what it reports is the beginning of what it would have reported. No
position behind the last one is ever returned or reported. -/

namespace Lexing

/-- The same token of a file that starts further on. -/
def Token.shift (distance : Nat) (token : Token) : Token :=
  { token with position := distance + token.position }

/-- The same diagnostic about a file that starts further on. -/
def Diagnostic.shift (distance : Nat) (diagnostic : Diagnostic) : Diagnostic :=
  { diagnostic with position := diagnostic.position.map (distance + ·) }

/-- A diagnostic about a position that there is. -/
def Diagnostic.HasPosition (diagnostic : Diagnostic) : Prop :=
  ∃ position < Position.limit, diagnostic.position = some position

/-! ## What is returned was looked at -/

namespace Lexeme

/-- Only a number has a suffix, and the suffix is not empty where it is a fault. -/
theorem Numeral.offset_of_invalidSuffix {numeral : Numeral} {finding : Finding}
    (found : finding ∈ numeral.findings) {suffix : List Char}
    (isSuffix : finding.fault = .invalidSuffix suffix) :
    finding.offset ≤ Text.lastOffset numeral.text := by
  rcases List.mem_append.mp found with digit | ending
  · obtain ⟨_, _, same⟩ := exists_digit_of_mem digit
    rw [same] at isSuffix
    cases isSuffix
  · rw [endFindings] at ending
    split at ending
    · -- without a suffix only the exponent can be at fault
      cases given : numeral.exponent with
      | none =>
          rw [given] at ending
          cases ending
      | some exponent =>
          rw [given] at ending
          dsimp only at ending
          rw [List.mem_ite_nil_left, List.mem_singleton] at ending
          obtain ⟨-, rfl⟩ := ending
          cases isSuffix
    · rename_i visible
      rw [List.isEmpty_iff] at visible
      rw [List.mem_singleton.mp ending, Text.lastOffset, Numeral.text,
        List.dropLast_append_of_ne_nil visible, Text.width_append]
      exact Nat.le_add_right _ _

theorem offset_of_invalidSuffix {lexeme : Lexeme} {finding : Finding}
    (found : finding ∈ lexeme.findings) {suffix : List Char}
    (isSuffix : finding.fault = .invalidSuffix suffix) :
    finding.offset ≤ Text.lastOffset lexeme.text := by
  cases lexeme with
  | number numeral => exact numeral.offset_of_invalidSuffix found isSuffix
  | _ =>
      refine absurd isSuffix (fault_ne_invalidSuffix ?_ suffix finding found)
      exact fun numeral => Lexeme.noConfusion

end Lexeme

namespace Segment

/-- By the time a fault is reported its own offset was looked at. -/
theorem offset_lt_reach {segment : Segment} {finding : Lexeme.Finding}
    (found : finding ∈ segment.findings) : finding.offset < segment.reach finding := by
  obtain ⟨inner, member, rfl⟩ := List.mem_map.mp found
  unfold reach
  split
  · rename_i isSuffix
    have inside := Lexeme.offset_of_invalidSuffix member isSuffix
    have last := Text.lastOffset_le_width segment.lexeme.text
    simp only [finish, Lexeme.Finding.shift]
    split <;> omega
  · exact Nat.lt_succ_self _

end Segment

namespace Reading

variable {reading : Reading}

theorem start_lt_extent {segment : Segment} (member : segment ∈ reading.segments) :
    segment.start < reading.extent :=
  segment.start_lt_extent.trans_le
    ((le_foldl_max (reading.segments.map Segment.extent) _).2 _ (List.mem_map_of_mem member))

theorem offset_lt_reach {finding : Lexeme.Finding} {reach : Nat}
    (member : (finding, reach) ∈ reading.findings) : finding.offset < reach := by
  obtain ⟨segment, _, reported⟩ := List.mem_flatMap.mp member
  obtain ⟨inner, found, same⟩ := List.mem_map.mp reported
  cases same
  exact Segment.offset_lt_reach found

theorem reach_le_extent {finding : Lexeme.Finding} {reach : Nat}
    (member : (finding, reach) ∈ reading.findings) : reach ≤ reading.extent := by
  obtain ⟨segment, inside, reported⟩ := List.mem_flatMap.mp member
  obtain ⟨inner, found, same⟩ := List.mem_map.mp reported
  cases same
  have own := (le_foldl_max (segment.findings.map segment.reach)
    (segment.start + segment.lexeme.seen)).2 _ (List.mem_map_of_mem found)
  exact own.trans ((le_foldl_max (reading.segments.map Segment.extent) _).2 _
    (List.mem_map_of_mem inside))

end Reading

/-! ## Files -/

namespace Source.File

theorem tokens_shift (origin : Nat) (text : String) (lexicon : Lexicon) :
    (File.mk origin text).tokens lexicon =
      ((File.mk 0 text).tokens lexicon).map (Token.shift origin) := by
  rw [tokens, tokens, Reading.tokens, Reading.tokens, List.map_map]
  refine List.map_congr_left fun segment _ => ?_
  simp only [Function.comp_apply, Segment.token, Token.shift, Nat.zero_add]

theorem diagnostics_shift (origin : Nat) (text : String) (lexicon : Lexicon) :
    (File.mk origin text).diagnostics lexicon =
      ((File.mk 0 text).diagnostics lexicon).map (Diagnostic.shift origin) := by
  rw [diagnostics, diagnostics, Reading.diagnostics, Reading.diagnostics, List.map_map]
  refine List.map_congr_left fun entry _ => ?_
  simp only [Function.comp_apply, Lexeme.Finding.diagnostic, Diagnostic.shift, Option.map_some,
    Nat.zero_add]

/-- What is reported before a position is missing is the beginning of what there is to report. -/
theorem diagnosticsThatFit_isPrefix (file : File) (lexicon : Lexicon) :
    file.diagnosticsThatFit lexicon <+: file.diagnostics lexicon :=
  (List.takeWhile_prefix _).map _

variable {file : File} {lexicon : Lexicon}

/-- An offset before one that fits has a position. -/
theorem lt_limit_of_fits {extent offset : Nat} (fits : file.fits extent = true)
    (before : offset < extent) : file.offset + offset < Position.limit := by
  exact Position.fits_succ.mp (Position.fits_of_le before fits)

/-- No token that is returned stands behind the last position. -/
theorem position_lt_limit (fits : file.fits (file.reading lexicon).extent = true) :
    ∀ token ∈ file.tokens lexicon, token.position < Position.limit := by
  intro token member
  obtain ⟨segment, kept, rfl⟩ := List.mem_map.mp member
  exact lt_limit_of_fits fits (Reading.start_lt_extent (List.mem_filter.mp kept).1)

/-- No diagnostic that is reported is about a position behind the last one. -/
theorem hasPosition_of_fits (fits : file.fits (file.reading lexicon).extent = true) :
    ∀ diagnostic ∈ file.diagnostics lexicon, diagnostic.HasPosition := by
  intro diagnostic member
  obtain ⟨⟨finding, reach⟩, found, rfl⟩ := List.mem_map.mp member
  have before := (Reading.offset_lt_reach found).trans_le (Reading.reach_le_extent found)
  exact ⟨_, lt_limit_of_fits fits before, rfl⟩

theorem hasPosition_thatFit :
    ∀ diagnostic ∈ file.diagnosticsThatFit lexicon, diagnostic.HasPosition := by
  intro diagnostic member
  obtain ⟨⟨finding, reach⟩, kept, rfl⟩ := List.mem_map.mp member
  have before := Reading.offset_lt_reach ((List.takeWhile_prefix _).mem kept)
  have fits : file.fits reach = true := (List.mem_takeWhile_imp kept :)
  exact ⟨_, lt_limit_of_fits fits before, rfl⟩

end Source.File

/-- What is read of a text at offset zero stands as much further on where its file does, and every
position is one that there is. -/
structure Source.File.LexesMoved (file : Source.File) (lexicon : Lexicon) (tokens : List Token)
    (reported : List Diagnostic) : Prop where
  lexes : file.LexesTo lexicon (tokens.map (Token.shift file.offset))
    (reported.map (Diagnostic.shift file.offset))
  inTokens : ∀ token ∈ tokens, (token.shift file.offset).position < Position.limit
  inDiagnostics : ∀ diagnostic ∈ reported, (diagnostic.shift file.offset).HasPosition

/-- A call that overflows: the end of the file has no position, the scanner stays where it was, and what
is reported is the beginning of what there is to report, all of it about positions that there are. -/
structure Source.File.Overflows (file : Source.File) (lexicon : Lexicon)
    (reported early : List Diagnostic) : Prop where
  outside : Position.limit ≤ file.offset + file.text.utf8ByteSize
  begins : early <+: reported.map (Diagnostic.shift file.offset)
  inDiagnostics : ∀ diagnostic ∈ early, diagnostic.HasPosition
  unmoved : ∀ log, Scanner.lex (.ofFile file lexicon) log =
    (.error .position, .ofFile file lexicon, log.append early)

/-- A file gives the tokens and diagnostics of its text, moved to where it starts, or the call
overflows. It overflows only if the end of the file has no position; nothing is returned then, the
scanner stays where it was, and the beginning of the diagnostics is reported. -/
theorem Scanner.lex_translated (text : String) (lexicon : Lexicon)
    (room : (Source.File.mk 0 text).InRange) :
    ∃ tokens reported, (Source.File.mk 0 text).LexesTo lexicon tokens reported ∧
      ∀ origin, (Source.File.mk origin text).LexesMoved lexicon tokens reported ∨
        ∃ early, (Source.File.mk origin text).Overflows lexicon reported early := by
  refine ⟨_, _, Source.File.lexesTo_of_inRange room lexicon, fun origin => ?_⟩
  have lex := Scanner.lex_ofFile ⟨origin, text⟩ lexicon
  have diagnostics := Source.File.diagnostics_shift origin text lexicon
  by_cases fits : (Source.File.mk origin text).fits
      ((Source.File.mk origin text).reading lexicon).extent = true
  · have tokens := Source.File.tokens_shift origin text lexicon
    have inTokens := Source.File.position_lt_limit fits
    have inDiagnostics := Source.File.hasPosition_of_fits fits
    simp only [fits, if_true, tokens, diagnostics] at lex
    rw [tokens, List.forall_mem_map] at inTokens
    rw [diagnostics, List.forall_mem_map] at inDiagnostics
    exact Or.inl ⟨lex, inTokens, inDiagnostics⟩
  · have begins := Source.File.diagnosticsThatFit_isPrefix ⟨origin, text⟩ lexicon
    rw [diagnostics] at begins
    refine Or.inr ⟨_, ?outside, begins, Source.File.hasPosition_thatFit, fun log => ?unmoved⟩
    case outside =>
      refine Nat.le_of_not_lt fun below => fits ?_
      exact @Source.File.fits_of_inRange ⟨origin, text⟩ below lexicon
    case unmoved => rw [lex log, if_neg fits]

/-- A text with a fault in each of its tokens. -/
theorem Scanner.lex_translated_faulty :
    (Source.File.mk 0 "§ 0b2é '\\x4\n\"\\q").InRange ∧
      ∃ tokens reported,
        (Source.File.mk 0 "§ 0b2é '\\x4\n\"\\q").LexesTo Lexicon.standard tokens reported ∧
        ∀ origin,
          (Source.File.mk origin "§ 0b2é '\\x4\n\"\\q").LexesMoved Lexicon.standard tokens reported ∨
          ∃ early,
            (Source.File.mk origin "§ 0b2é '\\x4\n\"\\q").Overflows Lexicon.standard reported early :=
  ⟨by decide, Scanner.lex_translated "§ 0b2é '\\x4\n\"\\q" Lexicon.standard (by decide)⟩

end Lexing
