import Lexing.Proofs.Command.Lossless
import Lexing.Proofs.Messages

/-! # Lines of diagnostics

What is written about a diagnostic is an entry: the place where the diagnostic is located, a colon
and its message. A path without line breaks is shown without them, so an entry is one line unless its
message has a line break, as it has where the end of a line cuts a hexadecimal escape short. -/

namespace Lexing

/-! ## Characters of lines and paths -/

namespace Text

/-- No line holds a line break. -/
theorem newline_notMem_of_mem_lines {text line : List Char} (member : line ∈ lines text) :
    '\n' ∉ line := by
  induction text generalizing line with
  | nil =>
      obtain rfl := List.mem_singleton.mp member
      exact List.not_mem_nil
  | cons c rest ih =>
      by_cases ordinary : c = '\n'
      · rw [ordinary, lines_newline, List.mem_cons] at member
        rcases member with rfl | later
        · exact List.not_mem_nil
        · exact ih later
      · obtain ⟨first, others, split, longer⟩ := exists_lines_cons ordinary rest
        rw [longer, List.mem_cons] at member
        rcases member with rfl | later
        · exact List.not_mem_cons_of_ne_of_not_mem (Ne.symm ordinary)
            (ih (split ▸ List.mem_cons_self))
        · exact ih (split ▸ List.mem_cons_of_mem first later)

end Text

namespace Source.Path

variable {c : Char}

theorem mem_of_mem_intercalate {pieces : List (List Char)}
    (member : c ∈ ['/'].intercalate pieces) : c = '/' ∨ ∃ piece ∈ pieces, c ∈ piece := by
  induction pieces with
  | nil => exact absurd member List.not_mem_nil
  | cons first others ih =>
      cases others with
      | nil =>
          rw [List.intercalate_singleton] at member
          exact Or.inr ⟨first, List.mem_cons_self, member⟩
      | cons second more =>
          rw [List.intercalate_cons_cons, List.append_assoc, List.mem_append, List.mem_append,
            List.mem_singleton] at member
          rcases member with here | slash | later
          · exact Or.inr ⟨first, List.mem_cons_self, here⟩
          · exact Or.inl slash
          · exact (ih later).imp_right fun ⟨piece, listed, inside⟩ =>
              ⟨piece, List.mem_cons_of_mem first listed, inside⟩

theorem mem_intercalate_of_mem {pieces : List (List Char)} {piece : List Char}
    (listed : piece ∈ pieces) (member : c ∈ piece) : c ∈ ['/'].intercalate pieces := by
  induction pieces with
  | nil => exact absurd listed List.not_mem_nil
  | cons first others ih =>
      cases others with
      | nil =>
          obtain rfl := List.mem_singleton.mp listed
          rwa [List.intercalate_singleton]
      | cons second more =>
          rw [List.intercalate_cons_cons, List.append_assoc, List.mem_append, List.mem_append]
          rcases List.mem_cons.mp listed with rfl | later
          · exact Or.inl member
          · exact Or.inr (Or.inr (ih later))

/-- The segments of a path hold characters of the path. -/
theorem mem_of_mem_segments {path segment : List Char} (listed : segment ∈ segments path)
    (member : c ∈ segment) : c ∈ path := by
  rw [← intercalate_segments path]
  exact mem_intercalate_of_mem listed member

theorem after?_isSuffix {directory path rest : List (List Char)}
    (follows : after? directory path = some rest) : rest <:+ path := by
  induction directory generalizing path with
  | nil => exact Option.some.inj follows ▸ List.suffix_rfl
  | cons name more ih =>
      rw [after?] at follows
      have shorter := List.dropWhile_suffix (l := path) isVoid
      split at follows
      · cases follows
      · rename_i segment others named
        split at follows
        · rw [named] at shorter
          exact (ih follows).trans ((List.suffix_cons segment others).trans shorter)
        · cases follows

theorem trim_sublist (path : List (List Char)) : (trim path).Sublist path := by
  have inner := List.dropWhile_sublist (l := (path.dropWhile isVoid).reverse) isVoid
  have outer := List.dropWhile_sublist (l := path) isVoid
  exact (List.reverse_sublist.mpr inner).trans (by rwa [List.reverse_reverse])

/-- A path is shown with no other characters than it has, and slashes. -/
theorem mem_of_mem_display {directory path : String}
    (member : c ∈ (display directory path).toList) : c = '/' ∨ c ∈ path.toList := by
  unfold display at member
  split at member
  · rename_i rest lies
    rw [String.toList_ofList] at member
    unfold below? at lies
    split at lies
    · obtain ⟨behind, follows, rfl⟩ := Option.map_eq_some_iff.mp lies
      refine (mem_of_mem_intercalate member).imp_right fun ⟨segment, listed, inside⟩ => ?_
      exact mem_of_mem_segments
        ((after?_isSuffix follows).subset ((trim_sublist behind).subset listed)) inside
    · cases lies
  · exact Or.inr member

end Source.Path

/-- A location is shown without line breaks if its path has none. -/
theorem Source.Location.newline_notMem_display {location : Source.Location} (directory : String)
    (within : '\n' ∉ location.path.toList) : '\n' ∉ (location.display directory).toList := by
  have number (number : ℕ) : '\n' ∉ (toString number).toList := by
    rw [Nat.toString_eq_repr, Nat.repr, String.toList_ofList]
    exact @Lexeme.Base.notMem_toDigits .decimal '\n' (by decide) number
  have path : '\n' ∉ (Path.display directory location.path).toList := fun member =>
    (Path.mem_of_mem_display member).elim (by decide) within
  have colon : '\n' ∉ ":".toList := by decide
  simp only [Location.display, String.toList_append, List.mem_append, not_or]
  exact ⟨⟨⟨⟨path, colon⟩, number location.line⟩, colon⟩, number location.column⟩

namespace Command

open Source (Document File Registration Registry)
open Source.Registry (reached)
open Text (EndsInEscape)

/-! ## Entries -/

/-- The shown place of a finding in a document, a colon and its message. -/
def entry (directory : String) (document : Document) (finding : Lexeme.Finding) : List Char :=
  ((document.locationAt finding.offset).display directory ++ ": " ++ finding.fault.message).toList

/-- An entry is about a diagnostic, which a registry locates at the shown place. -/
def Reports (directory : String) (registry : Registry) (entry : List Char)
    (diagnostic : Diagnostic) : Prop :=
  ∃ position location, diagnostic.position = some position ∧
    registry.locate position = .ok (some location) ∧
    entry = (location.display directory ++ ": " ++ diagnostic.message).toList

/-- The entries of a document. -/
def entries (directory : String) (document : Document) (lexicon : Lexicon) : List (List Char) :=
  (Reading.ofText lexicon document.text.toList).findings.map fun (finding, _) =>
    entry directory document finding

section

variable (directory : String) (document : Document) (lexicon : Lexicon)

/-- A line break stands behind every entry. -/
theorem toList_join_diagnosticLines :
    (String.join (diagnosticLines directory document lexicon)).toList =
      (entries directory document lexicon).flatMap fun entry => entry ++ ['\n'] := by
  rw [String.toList_join, diagnosticLines, entries, List.flatMap_map, List.flatMap_map]
  refine List.flatMap_congr fun finding _ => ?_
  exact String.toList_append

/-- An entry has a line break exactly if its message has one. -/
theorem newline_mem_entry_iff (within : '\n' ∉ document.path.toList) (finding : Lexeme.Finding) :
    '\n' ∈ entry directory document finding ↔ '\n' ∈ finding.fault.message.toList := by
  have place : '\n' ∉ ((document.locationAt finding.offset).display directory).toList :=
    Source.Location.newline_notMem_display directory within
  have colon : '\n' ∉ ": ".toList := by decide
  rw [entry, String.toList_append, String.toList_append, List.mem_append, List.mem_append,
    or_iff_right (not_or.mpr ⟨place, colon⟩)]

end

/-- The entries of a registered file are about its diagnostics one by one. -/
theorem forall₂_reports {before : List Registration} {call : Registration} {file : File}
    (returns : call.Returns (reached before) file)
    (inRange : (reached (before ++ [call])).next < Position.limit) (after : List Registration)
    (directory : String) (lexicon : Lexicon) :
    List.Forall₂ (Reports directory (reached (before ++ call :: after)))
      (entries directory ⟨call.path, file.text⟩ lexicon) (file.diagnostics lexicon) := by
  rw [entries, File.diagnostics, Reading.diagnostics, List.forall₂_map_left_iff,
    List.forall₂_map_right_iff]
  refine List.forall₂_same.mpr fun finding found => ?_
  exact ⟨_, _, rfl, returns.locate_eq inRange after (Reading.finding_offset_le found), rfl⟩

/-- The lines of what is written about the diagnostics of a file are its entries exactly if no message
has a line break. -/
theorem lines_entries_iff (directory : String) {path : String} (within : '\n' ∉ path.toList)
    (file : File) (lexicon : Lexicon) :
    Text.lines ((entries directory ⟨path, file.text⟩ lexicon).flatMap fun entry => entry ++ ['\n']) =
        entries directory ⟨path, file.text⟩ lexicon ++ [[]] ↔
      ∀ diagnostic ∈ file.diagnostics lexicon, '\n' ∉ diagnostic.message.toList := by
  have single : (∀ entry ∈ entries directory ⟨path, file.text⟩ lexicon, '\n' ∉ entry) ↔
      ∀ diagnostic ∈ file.diagnostics lexicon, '\n' ∉ diagnostic.message.toList := by
    rw [entries, List.forall_mem_map, File.diagnostics, Reading.diagnostics, List.forall_mem_map]
    exact forall₂_congr fun finding _ =>
      not_congr (newline_mem_entry_iff directory ⟨path, file.text⟩ within finding.1)
  rw [← single]
  constructor
  · intro lined entry listed
    have isLine := List.mem_append_left [[]] listed
    rw [← lined] at isLine
    exact Text.newline_notMem_of_mem_lines isLine
  · exact Text.lines_flatMap

/-- What a run writes about the diagnostics of a registered file is an entry for each diagnostic that
was reported, in their order, with a line break behind it; with `chars` none is reported. If the path
has no line break, the entries are the lines of what is written, unless a message has a line break.
One has if and only if the end of a line cuts a hexadecimal escape short there, so each entry is one
line if no line ends in such an escape. -/
theorem write_diagnostics_lined (arguments : Arguments) (directory : String)
    {before : List Registration} {call : Registration} {file : File}
    (returns : call.Returns (reached before) file)
    (inRange : (reached (before ++ [call])).next < Position.limit) (after : List Registration)
    (within : '\n' ∉ call.path.toList) :
    ∃ reported entries written,
      (arguments.chars = false → ∃ tokens, file.LexesTo arguments.lexicon tokens reported) ∧
      (arguments.chars = true → reported = []) ∧
      write arguments directory (reached (before ++ call :: after)) file = .ok written ∧
      List.Forall₂ (Reports directory (reached (before ++ call :: after))) entries reported ∧
      written.diagnostics.toList = entries.flatMap (fun entry => entry ++ ['\n']) ∧
      (Text.lines written.diagnostics.toList = entries ++ [[]] ↔
        ∀ diagnostic ∈ reported, '\n' ∉ diagnostic.message.toList) ∧
      (∀ diagnostic ∈ reported, '\n' ∈ diagnostic.message.toList ↔ file.CutByLine diagnostic) ∧
      ((∀ left right, file.text.toList = left ++ '\n' :: right → ¬ EndsInEscape left) →
        Text.lines written.diagnostics.toList = entries ++ [[]]) := by
  cases chars : arguments.chars with
  | true =>
      have writes : write arguments directory (reached (before ++ call :: after)) file =
          .ok ⟨true, characterListing (CharacterLexer.tokens false file.text.toList), ""⟩ := by
        rw [write, if_pos chars, CharacterLexer.lex_ofText]
        rfl
      have silent : ∀ diagnostic ∈ ([] : List Diagnostic), '\n' ∉ diagnostic.message.toList :=
        fun _ impossible => absurd impossible List.not_mem_nil
      exact ⟨[], [], _, fun impossible => absurd impossible (by decide), fun _ => rfl, writes, .nil,
        rfl, iff_of_true rfl silent, fun _ impossible => absurd impossible List.not_mem_nil,
        fun _ => rfl⟩
  | false =>
      have lined := lines_entries_iff directory within file arguments.lexicon
      have names {diagnostic : Diagnostic} :=
        @File.newline_mem_message_iff file arguments.lexicon diagnostic
      have spelled : (written arguments.strict arguments.lexicon directory
          ⟨call.path, file.text⟩).diagnostics.toList =
            (entries directory ⟨call.path, file.text⟩ arguments.lexicon).flatMap
              fun entry => entry ++ ['\n'] :=
        toList_join_diagnosticLines directory ⟨call.path, file.text⟩ arguments.lexicon
      rw [← spelled] at lined
      refine ⟨file.diagnostics arguments.lexicon, _, _,
        fun _ => ⟨_, File.lexesTo_of_inRange (returns.file_inRange inRange) arguments.lexicon⟩,
        fun impossible => absurd impossible (by decide),
        write_eq returns inRange after directory arguments chars,
        forall₂_reports returns inRange after directory arguments.lexicon, spelled, lined,
        fun diagnostic member => names member, fun uncut => ?_⟩
      refine lined.mpr fun diagnostic member line => ?_
      obtain ⟨left, right, whole, ends, -⟩ := (names member).mp line
      exact uncut left right whole ends

/-- A literal whose escape names nothing, under a path with slashes and from its own directory. -/
theorem write_diagnostics_lined_unknown :
    (Registration.add "/d/./g.y" "'\\q\n$").Returns (reached []) ⟨0, "'\\q\n$"⟩ ∧
      (reached ([] ++ [.add "/d/./g.y" "'\\q\n$"])).next < Position.limit ∧
      '\n' ∉ "/d/./g.y".toList ∧
      (∀ left right, "'\\q\n$".toList = left ++ '\n' :: right → ¬ EndsInEscape left) ∧
      ∃ reported entries written,
        (∃ tokens, (File.mk 0 "'\\q\n$").LexesTo
          (Arguments.mk "/d/./g.y" false [] [] false none false false true).lexicon tokens reported) ∧
        write ⟨"/d/./g.y", false, [], [], false, none, false, false, true⟩ "/d"
            (reached [.add "/d/./g.y" "'\\q\n$", .load "h.y" (.error .notFound)]) ⟨0, "'\\q\n$"⟩ =
          .ok written ∧
        List.Forall₂ (Reports "/d"
          (reached [.add "/d/./g.y" "'\\q\n$", .load "h.y" (.error .notFound)])) entries reported ∧
        Text.lines written.diagnostics.toList = entries ++ [[]] := by
  have returns : (Registration.add "/d/./g.y" "'\\q\n$").Returns (reached []) ⟨0, "'\\q\n$"⟩ :=
    .add _ _
  have inRange : (reached ([] ++ [.add "/d/./g.y" "'\\q\n$"])).next < Position.limit := by decide
  have within : '\n' ∉ "/d/./g.y".toList := by decide
  have uncut : ∀ left right, "'\\q\n$".toList = left ++ '\n' :: right → ¬ EndsInEscape left := by
    rintro left right whole ⟨before, digits, rfl, -⟩
    have letter : 'x' ∉ "'\\q\n$".toList := by decide
    exact letter (whole ▸ by simp)
  obtain ⟨reported, entries, written, lexes, -, writes, reports, -, -, -, lined⟩ :=
    write_diagnostics_lined ⟨"/d/./g.y", false, [], [], false, none, false, false, true⟩ "/d" returns
      inRange [.load "h.y" (.error .notFound)] within
  exact ⟨returns, inRange, within, uncut, reported, entries, written, lexes rfl, writes, reports,
    lined uncut⟩

/-- A line break behind the letter of a hexadecimal escape is written as it stands, so that two
diagnostics take three lines. -/
theorem write_diagnostics_broken :
    '\n' ∉ "g.y".toList ∧
      (File.mk 0 "'\\x\n").LexesTo Lexicon.standard ((File.mk 0 "'\\x\n").tokens Lexicon.standard)
        [⟨some 3, "Unexpected char '\n'"⟩, ⟨some 3, "Missing closing quote in character literal"⟩] ∧
      ∃ written,
        write ⟨"g.y", false, [], [], false, none, false, false, false⟩ "/"
            (reached [.add "g.y" "'\\x\n"]) ⟨0, "'\\x\n"⟩ = .ok written ∧
        Text.lines written.diagnostics.toList =
          ["g.y:1:4: Unexpected char '".toList, "'".toList,
            "g.y:1:4: Missing closing quote in character literal".toList, []] := by
  have returns : (Registration.add "g.y" "'\\x\n").Returns (reached []) ⟨0, "'\\x\n"⟩ := .add _ _
  have inRange : (reached ([] ++ [.add "g.y" "'\\x\n"])).next < Position.limit := by decide
  have found : (Reading.ofText Lexicon.standard "'\\x\n".toList).findings.map Prod.fst =
      [⟨3, .unexpected '\n'⟩, ⟨3, .unclosed .character⟩] := by decide +kernel
  have reported : (File.mk 0 "'\\x\n").diagnostics Lexicon.standard =
      ((Reading.ofText Lexicon.standard "'\\x\n".toList).findings.map Prod.fst).map
        (Lexeme.Finding.diagnostic 0) := by
    rw [List.map_map]
    rfl
  have entered : entries "/" ⟨"g.y", "'\\x\n"⟩ Lexicon.standard =
      ((Reading.ofText Lexicon.standard "'\\x\n".toList).findings.map Prod.fst).map
        (entry "/" ⟨"g.y", "'\\x\n"⟩) := by
    rw [List.map_map]
    rfl
  rw [found] at reported entered
  have lexes := File.lexesTo_of_inRange (returns.file_inRange inRange) Lexicon.standard
  rw [reported] at lexes
  refine ⟨by decide, lexes, _, write_eq returns inRange [] "/"
    ⟨"g.y", false, [], [], false, none, false, false, false⟩ rfl, ?_⟩
  have spelled := toList_join_diagnosticLines "/" ⟨"g.y", "'\\x\n"⟩ Lexicon.standard
  rw [entered] at spelled
  refine (congrArg Text.lines spelled).trans ?_
  decide

end Command

end Lexing
