import Lexing.Proofs.Context.Lexeme
import Lexing.Proofs.Grammar.Number
import Lexing.Proofs.Strict
import Lexing.Proofs.Tiling

/-! # Faults in order

Faults are reported in the order in which they stand in the text, each for the one token it stands in
or at the end of. `Finding.Ordered` carries this from the parts of a literal to the whole reading:
findings between two offsets, with those between the second and a third behind them, are findings
between the first and the third. -/

namespace Lexing

namespace Lexeme

/-- Findings by offset, none before the one and none behind the other of two offsets, which are in
order even where there are no findings between them. -/
structure Finding.Ordered (least greatest : Nat) (findings : List Finding) : Prop where
  least_le_greatest : least ≤ greatest
  sorted : findings.Pairwise fun earlier later => earlier.offset ≤ later.offset
  least_le : ∀ finding ∈ findings, least ≤ finding.offset
  le_greatest : ∀ finding ∈ findings, finding.offset ≤ greatest

namespace Finding.Ordered

variable {least middle greatest : Nat} {findings behind : List Finding}

theorem nil (bounds : least ≤ greatest) : Ordered least greatest [] :=
  ⟨bounds, .nil, by simp, by simp⟩

theorem singleton (offset : Nat) (fault : Fault) : Ordered offset offset [⟨offset, fault⟩] :=
  ⟨Nat.le_refl offset, List.pairwise_singleton .., by simp, by simp⟩

theorem append (ordered : Ordered least middle findings) (next : Ordered middle greatest behind) :
    Ordered least greatest (findings ++ behind) := by
  refine ⟨Nat.le_trans ordered.least_le_greatest next.least_le_greatest, ?sorted, ?least, ?greatest⟩
  case sorted =>
    refine List.pairwise_append.mpr ⟨ordered.sorted, next.sorted, fun earlier found later foundToo => ?_⟩
    exact Nat.le_trans (ordered.le_greatest earlier found) (next.least_le later foundToo)
  case least =>
    refine List.forall_mem_append.mpr ⟨ordered.least_le, fun finding found => ?_⟩
    exact Nat.le_trans ordered.least_le_greatest (next.least_le finding found)
  case greatest =>
    refine List.forall_mem_append.mpr ⟨fun finding found => ?_, next.le_greatest⟩
    exact Nat.le_trans (ordered.le_greatest finding found) next.least_le_greatest

theorem widen {first last : Nat} (ordered : Ordered least greatest findings) (below : first ≤ least)
    (above : greatest ≤ last) : Ordered first last findings where
  least_le_greatest := Nat.le_trans below (Nat.le_trans ordered.least_le_greatest above)
  sorted := ordered.sorted
  least_le finding found := Nat.le_trans below (ordered.least_le finding found)
  le_greatest finding found := Nat.le_trans (ordered.le_greatest finding found) above

theorem shift (ordered : Ordered least greatest findings) (distance : Nat) :
    Ordered (distance + least) (distance + greatest) (findings.map (Finding.shift distance)) where
  least_le_greatest := Nat.add_le_add_left ordered.least_le_greatest distance
  sorted := List.pairwise_map.mpr (ordered.sorted.imp fun le => Nat.add_le_add_left le distance)
  least_le := List.forall_mem_map.mpr fun finding found =>
    Nat.add_le_add_left (ordered.least_le finding found) distance
  le_greatest := List.forall_mem_map.mpr fun finding found =>
    Nat.add_le_add_left (ordered.le_greatest finding found) distance

end Finding.Ordered

open Finding (Ordered)

/-! ## Quoted literals -/

/-- A piece has at most one fault. -/
theorem Piece.ordered_findings (piece : Piece) :
    Ordered 0 (Text.width piece.text) piece.findings := by
  have alone : piece.findings.length ≤ 1 := by
    cases piece with
    | named letter =>
        rw [Piece.findings]
        split <;> simp
    | brokenHex high stop => cases stop <;> simp [Piece.findings]
    | _ => simp [Piece.findings]
  refine ⟨Nat.zero_le _, ?_, fun _ _ => Nat.zero_le _, fun finding found => ?_⟩
  · generalize piece.findings = findings at alone
    cases findings with
    | nil => exact .nil
    | cons finding rest =>
        have none : rest.length = 0 := Nat.le_zero.mp (Nat.le_of_succ_le_succ alone)
        rw [List.length_eq_zero_iff.mp none]
        exact List.pairwise_singleton ..
  · have inside := (piece.isIn_findings finding found).offset_le
    rwa [Nat.zero_add] at inside

theorem ordered_pieceFindings (offset : Nat) (pieces : List Piece) :
    Ordered offset (offset + Text.width (pieces.flatMap Piece.text))
      (pieceFindings offset [] pieces) := by
  induction pieces generalizing offset with
  | nil => exact .nil (Nat.le_refl offset)
  | cons piece rest ih =>
      rw [pieceFindings, pieceFindings_append, List.append_nil, List.reverse_reverse,
        List.flatMap_cons, Text.width_append, ← Nat.add_assoc]
      exact (piece.ordered_findings.shift offset).append (ih _)

theorem StringLiteral.ordered_findings (literal : StringLiteral) :
    Ordered 1 (1 + Text.width literal.body) literal.findings := by
  refine (ordered_pieceFindings 1 literal.pieces).append ?_
  split
  · exact .nil (Nat.le_refl _)
  · exact .singleton _ _

theorem CharacterLiteral.ordered_first (literal : CharacterLiteral) :
    Ordered 1 (1 + Text.width (firstText literal.first))
      (match literal.first with
        | none => []
        | some piece => piece.findings.map (Finding.shift 1)) := by
  cases literal.first with
  | none => exact .nil (Nat.le_refl _)
  | some piece => exact piece.ordered_findings.shift 1

theorem CharacterLiteral.ordered_findings (literal : CharacterLiteral) :
    Ordered 1 (1 + Text.width literal.body) literal.findings := by
  have within : 1 + Text.width (firstText literal.first) ≤ 1 + Text.width literal.body := by
    rw [body, Text.width_append]
    omega
  have empty : Ordered 1 1
      (if literal.first.isNone && literal.closed then [⟨1, .emptyCharacter⟩] else []) := by
    split
    · exact .singleton _ _
    · exact .nil (Nat.le_refl _)
  have several : Ordered (1 + Text.width (firstText literal.first)) (1 + Text.width literal.body)
      (if literal.extra.isEmpty then []
        else [⟨1 + Text.width (firstText literal.first), .severalCharacters⟩]) := by
    split
    · exact .nil within
    · exact (Ordered.singleton _ _).widen (Nat.le_refl _) within
  refine ((empty.append literal.ordered_first).append several).append ?_
  split
  · exact .nil (Nat.le_refl _)
  · exact .singleton _ _

/-! ## Numbers -/

/-- Only base ten goes without characters that give it. -/
theorem LeadRule.eq_decimal {base : Base} {after : List Char} (rule : LeadRule base [] after) :
    base = .decimal := by
  cases rule with
  | decimal plain => rfl

namespace Numeral

theorem ordered_foreignDigits (base : Base) (offset : Nat) (places : List Char) :
    Ordered offset (offset + Text.width places) (foreignDigits base offset [] places) := by
  induction places generalizing offset with
  | nil => exact .nil (Nat.le_refl offset)
  | cons c rest ih =>
      rw [foreignDigits, foreignDigits_append, Text.width_cons, ← Nat.add_assoc]
      refine Ordered.append ?_ (ih _)
      split
      · exact (Ordered.singleton offset _).widen (Nat.le_refl _) (Nat.le_add_right _ _)
      · exact .nil (Nat.le_add_right _ _)

/-- All faults at the end of a literal are reported where its suffix would begin. -/
theorem ordered_endFindings (numeral : Numeral) :
    Ordered (Text.width numeral.body) (Text.width numeral.body) numeral.endFindings := by
  unfold endFindings
  split
  · split
    · split
      · exact .nil (Nat.le_refl _)
      · exact .singleton _ _
    · exact .nil (Nat.le_refl _)
  · exact .singleton _ _

theorem ordered_findings (numeral : Numeral) :
    Ordered (Text.width numeral.lead) (Text.width numeral.body) numeral.findings := by
  have within : Text.width numeral.lead + Text.width numeral.whole ≤ Text.width numeral.body := by
    simp only [body, Text.width_append]
    omega
  exact ((ordered_foreignDigits _ _ _).widen (Nat.le_refl _) within).append
    numeral.ordered_endFindings

/-- A literal opens with a digit that has no fault: what gives the base has none, and in base ten, where
nothing gives it, no digit is foreign. -/
theorem ordered_findings_read {first : Char} (digit : first.isDigit = true) (rest : List Char) :
    Ordered 1 (Text.width (read (first :: rest)).text) (read (first :: rest)).findings := by
  obtain ⟨after, _, stands⟩ := standsBefore_read (first :: rest)
  have opened := read_body_ne_nil digit rest
  generalize read (first :: rest) = numeral at stands opened
  have within : Text.width numeral.body ≤ Text.width numeral.text := by
    rw [Numeral.text, Text.width_append]
    exact Nat.le_add_right _ _
  by_cases lead : numeral.lead = []
  · have silent : foreignDigits numeral.base (Text.width numeral.lead) [] numeral.whole = [] := by
      have leads := stands.leads
      rw [lead] at leads
      have places := stands.places.inside
      rw [leads.eq_decimal] at places ⊢
      exact (places_iff places).mpr (Base.places_decimal places)
    have positive := Nat.pos_of_ne_zero (mt Text.width_eq_zero_iff.mp opened)
    rw [findings, silent, List.nil_append]
    exact numeral.ordered_endFindings.widen positive within
  · have positive := Nat.pos_of_ne_zero (mt Text.width_eq_zero_iff.mp lead)
    exact numeral.ordered_findings.widen positive within

end Numeral

/-! ## Lexemes -/

/-- The faults of a lexeme that is read stand in order behind its first byte, except that a character
that is part of nothing is a fault where it starts. -/
theorem invalid_or_ordered_read (lexicon : Lexicon) (first : Char) (rest : List Char) :
    read lexicon first rest = .invalid first ∨
      Ordered 1 (Text.width (read lexicon first rest).text) (read lexicon first rest).findings := by
  have silent {text : List Char} (nonempty : text ≠ []) : Ordered 1 (Text.width text) [] :=
    .nil (Nat.pos_of_ne_zero (mt Text.width_eq_zero_iff.mp nonempty))
  have quoted (quote : Char) (one : quote.utf8Size = 1) (body ending : List Char) :
      1 + Text.width body ≤ Text.width (quote :: (body ++ ending)) := by
    rw [Text.width_cons, Text.width_append, one]
    omega
  have nonempty := read_text_ne_nil lexicon first rest
  revert nonempty
  refine read_cases lexicon first rest ?comment ?word ?character ?string ?number ?symbol ?invalid
  case comment => exact fun _ _ nonempty => Or.inr (silent nonempty)
  case word => exact fun _ nonempty => Or.inr (silent nonempty)
  case character =>
    intro _ _
    exact Or.inr ((CharacterLiteral.ordered_findings _).widen (Nat.le_refl 1) (quoted _ rfl _ _))
  case string =>
    intro _ _
    exact Or.inr ((StringLiteral.ordered_findings _).widen (Nat.le_refl 1) (quoted _ rfl _ _))
  case number => exact fun digit _ => Or.inr (Numeral.ordered_findings_read digit rest)
  case symbol => exact fun _ nonempty => Or.inr (silent nonempty)
  case invalid => exact fun _ => Or.inl rfl

end Lexeme

open Lexeme.Finding (Ordered)

/-! ## Segments -/

variable {lexicon : Lexicon} {offset : Nat} {text : List Char} {segment : Segment}

/-- A segment is a character that is part of nothing, or its faults stand in order behind its first
byte. -/
theorem Segment.StandsIn.invalid_or_ordered (stands : segment.StandsIn lexicon offset text) :
    (∃ c, segment.lexeme = .invalid c) ∨
      Ordered (segment.start + 1) segment.finish segment.findings := by
  cases stands with
  | intro before first rest after visible whole =>
      rcases Lexeme.invalid_or_ordered_read lexicon first rest with invalid | ordered
      · exact Or.inl ⟨first, invalid⟩
      · exact Or.inr (ordered.shift _)

/-- The faults of a segment stand in order in it or at its end. -/
theorem Segment.StandsIn.ordered_findings (stands : segment.StandsIn lexicon offset text) :
    Ordered segment.start segment.finish segment.findings := by
  rcases stands.invalid_or_ordered with ⟨c, invalid⟩ | ordered
  · rw [Segment.finish, Segment.findings, invalid]
    exact (Ordered.singleton _ _).widen (Nat.le_refl _) (Nat.le_add_right _ _)
  · exact ordered.widen (Nat.le_succ _) (Nat.le_refl _)

/-- The faults of a text stand in it in the order in which they are found. -/
theorem Segmentation.ordered_findings {tail : List Char} {segments : List Segment}
    (segmented : Segmentation lexicon offset text segments tail) :
    Ordered offset (offset + Text.width text) (segments.flatMap Segment.findings) := by
  induction segmented with
  | tail gap => exact .nil (Nat.le_add_right _ _)
  | @lexeme offset blanks rest after tail first segments gap whole behind ih =>
      have stands : Segment.StandsIn lexicon offset (blanks ++ first :: rest)
          ⟨offset + Text.width blanks, Lexeme.read lexicon first rest, !after.isEmpty⟩ :=
        .intro blanks first rest after (gap.stops first rfl) whole
      rw [List.flatMap_cons]
      refine (stands.ordered_findings.widen (Nat.le_add_right _ _) (Nat.le_refl _)).append ?_
      rw [← whole, Text.width_append, Text.width_append, ← Nat.add_assoc, ← Nat.add_assoc]
      exact ih

/-! ## Diagnostics -/

/-- A diagnostic has the position of another one or a position before it. -/
def Diagnostic.NotBehind (earlier later : Diagnostic) : Prop :=
  ∃ position place, earlier.position = some position ∧ later.position = some place ∧ position ≤ place

/-- What may be reported on behalf of a token: between its characters or at either end, and not where
it starts unless it is a character that is part of nothing. Of such a character that alone is reported,
and nothing of words, symbols and comments. -/
structure Token.Owns (token : Token) (group : List Diagnostic) : Prop where
  inside : ∀ diagnostic ∈ group, ∃ position, diagnostic.position = some position ∧
    token.position ≤ position ∧ position ≤ token.finish
  behind : (∀ c, token.kind ≠ .invalid c) →
    ∀ diagnostic ∈ group, ∃ position, diagnostic.position = some position ∧ token.position < position
  invalid : ∀ c, token.kind = .invalid c →
    group = [⟨some token.position, "Unexpected char '" ++ c.toString ++ "'"⟩]
  silent : token.kind ∈ [TokenKind.identifier, .keyword, .symbol, .comment] → group = []

/-- Diagnostics fall into groups, one behind the other, one for each token in turn. -/
inductive Token.Share : List Token → List Diagnostic → Prop where
  | nil : Share [] []
  | cons {token : Token} {tokens : List Token} {group reported : List Diagnostic}
      (owns : token.Owns group) (others : Share tokens reported) :
      Share (token :: tokens) (group ++ reported)

/-- Tokens of which nothing is reported may be left out. -/
theorem Token.Share.filter {tokens : List Token} {reported : List Diagnostic}
    (share : Share tokens reported) {kept : Token → Bool}
    (silent : ∀ token group, kept token = false → token.Owns group → group = []) :
    Share (tokens.filter kept) reported := by
  induction share with
  | nil => exact .nil
  | @cons token tokens group reported owns others ih =>
      cases keep : kept token with
      | true =>
          rw [List.filter_cons_of_pos keep]
          exact .cons owns ih
      | false =>
          rw [List.filter_cons_of_neg (by simp [keep]), silent token group keep owns]
          exact ih

theorem Lexeme.findings_of_kind {lexeme : Lexeme}
    (kind : lexeme.kind lexicon ∈ [TokenKind.identifier, .keyword, .symbol, .comment]) :
    lexeme.findings = [] := by
  cases lexeme with
  | comment marker body => rfl
  | word letters => rfl
  | symbol letters => rfl
  | _ => simp [Lexeme.kind] at kind

theorem Segment.StandsIn.owns (stands : segment.StandsIn lexicon offset text) (origin : Nat) :
    (segment.token lexicon origin).Owns (segment.diagnostics origin) := by
  constructor
  case inside =>
    refine List.forall_mem_map.mpr fun finding found => ⟨_, rfl, ?_⟩
    have ordered := stands.ordered_findings
    rw [Segment.position_token, Segment.finish_token]
    exact ⟨Nat.add_le_add_left (ordered.least_le finding found) origin,
      Nat.add_le_add_left (ordered.le_greatest finding found) origin⟩
  case behind =>
    intro other
    refine List.forall_mem_map.mpr fun finding found => ⟨_, rfl, ?_⟩
    rcases stands.invalid_or_ordered with ⟨c, invalid⟩ | ordered
    · exact absurd (congrArg (Lexeme.kind lexicon) invalid) (other c)
    · exact Nat.add_lt_add_left (ordered.least_le finding found) origin
  case invalid =>
    intro c kind
    rw [Segment.diagnostics, Segment.findings, Lexeme.kind_eq_invalid kind]
    rfl
  case silent =>
    intro kind
    exact (segment.diagnostics_eq_nil_iff origin).mpr (Lexeme.findings_of_kind kind)

namespace Reading

/-- Every token of a text is responsible for what is reported of its segment. -/
theorem share (lexicon : Lexicon) (text : List Char) (origin : Nat) :
    Token.Share ((ofText lexicon text).segments.map (Segment.token lexicon origin))
      ((ofText lexicon text).diagnostics origin) := by
  have stands : ∀ segment ∈ (ofText lexicon text).segments, segment.StandsIn lexicon 0 text :=
    fun _ => standsIn_of_mem
  rw [diagnostics_eq]
  generalize (ofText lexicon text).segments = segments at stands ⊢
  induction segments with
  | nil => exact .nil
  | cons segment segments ih =>
      obtain ⟨here, later⟩ := List.forall_mem_cons.mp stands
      exact .cons (here.owns origin) (ih later)

theorem diagnostics_sorted (lexicon : Lexicon) (text : List Char) (origin : Nat) :
    ((ofText lexicon text).diagnostics origin).Pairwise Diagnostic.NotBehind := by
  have sorted := (segmentation lexicon 0 text).ordered_findings.sorted
  have whole : (ofText lexicon text).diagnostics origin =
      ((ofText lexicon text).segments.flatMap Segment.findings).map
        (Lexeme.Finding.diagnostic origin) := by
    rw [diagnostics_eq, List.map_flatMap]
    rfl
  rw [whole]
  exact List.pairwise_map.mpr (sorted.imp fun le => ⟨_, _, rfl, rfl, Nat.add_le_add_left le origin⟩)

/-- The tokens of a reading that are no comments are the same whether or not comments are kept. -/
theorem tokens_without_comments (reading : Reading) (lexicon : Lexicon) (origin : Nat) :
    (reading.tokens lexicon origin).filter (fun token => token.kind != .comment) =
      (reading.segments.map (Segment.token lexicon origin)).filter
        fun token => token.kind != .comment := by
  rw [tokens, List.filter_map, List.filter_map, List.filter_filter]
  refine congrArg _ (List.filter_congr fun segment _ => ?_)
  obtain ⟨start, lexeme, followed⟩ := segment
  cases lexeme <;> simp [Lexeme.isKept, Segment.token, Lexeme.kind]

end Reading

namespace Source.File

theorem share_of_keepComments (file : File) (lexicon : Lexicon)
    (keeps : lexicon.keepComments = true) :
    Token.Share (file.tokens lexicon) (file.diagnostics lexicon) := by
  rw [file.tokens_of_keepComments keeps]
  exact Reading.share lexicon file.text.toList file.offset

theorem share_without_comments (file : File) (lexicon : Lexicon) :
    Token.Share ((file.tokens lexicon).filter fun token => token.kind != .comment)
      (file.diagnostics lexicon) := by
  rw [tokens, Reading.tokens_without_comments]
  refine (Reading.share lexicon file.text.toList file.offset).filter fun token group comment owns => ?_
  have kind : token.kind = .comment := by simpa using comment
  exact owns.silent (by simp [kind])

end Source.File

/-- What is reported of a file is in the order of its positions and shared out among the tokens that are
no comments, and among all tokens if comments are kept. -/
structure Source.File.FaultsOrdered (file : Source.File) (lexicon : Lexicon) (tokens : List Token)
    (reported : List Diagnostic) : Prop where
  sorted : reported.Pairwise Diagnostic.NotBehind
  shared : Token.Share (tokens.filter fun token => token.kind != .comment) reported
  sharedByAll : ∃ all, file.LexesTo (lexicon.keepingComments true) all reported ∧
    Token.Share all reported

/-- What is reported of a file in range is in the order of its positions, and falls into groups, one
for each token in turn: each is reported in its token or at the end of it, and behind its start unless
the token is a character that is part of nothing, of which that is reported and nothing else. Words,
symbols and comments, whether or not they are kept, have no diagnostics. -/
theorem Scanner.lex_faults_ordered (file : Source.File) (inRange : file.InRange) (lexicon : Lexicon) :
    ∃ tokens reported, file.LexesTo lexicon tokens reported ∧
      file.FaultsOrdered lexicon tokens reported := by
  have keeping := Source.File.lexesTo_of_inRange inRange (lexicon.keepingComments true)
  have share := file.share_of_keepComments (lexicon.keepingComments true) rfl
  rw [file.diagnostics_keepingComments] at keeping share
  exact ⟨_, _, Source.File.lexesTo_of_inRange inRange lexicon,
    Reading.diagnostics_sorted lexicon file.text.toList file.offset,
    file.share_without_comments lexicon, _, keeping, share⟩

/-- A character that is no hexadecimal digit and, at the same position, one character too many; a
missing exponent reported where a comment starts that is dropped; a foreign digit before a suffix, and
an unknown escape before the end of the text. -/
theorem Scanner.lex_faults_ordered_dense :
    (Source.File.mk 3 "'\\x§ab\n 1e#é\n§ 0b2é \"\\q").InRange ∧
      ∃ tokens reported,
        (Source.File.mk 3 "'\\x§ab\n 1e#é\n§ 0b2é \"\\q").LexesTo ⟨[], ["<"], some "#", false⟩ tokens
          reported ∧
        (Source.File.mk 3 "'\\x§ab\n 1e#é\n§ 0b2é \"\\q").FaultsOrdered ⟨[], ["<"], some "#", false⟩
          tokens reported :=
  ⟨by decide, Scanner.lex_faults_ordered ⟨3, "'\\x§ab\n 1e#é\n§ 0b2é \"\\q"⟩ (by decide)
    ⟨[], ["<"], some "#", false⟩⟩

end Lexing
