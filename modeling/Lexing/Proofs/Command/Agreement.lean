import Lexing.Command.Run
import Lexing.Proofs.Source.Resolution
import Lexing.Proofs.Strict

/-! # Strict and plain runs agree

What the program writes about a file depends on the text, the path and the options only: a line for
each token and a line for each diagnostic, with places read off the text. A strict run writes the
same diagnostics, ends in the same way, and differs in that it keeps back the tokens of a file that
has diagnostics. -/

namespace Lexing

/-- A strict call fails in no other way than by what was reported. -/
theorem Lexer.malformed_of_strict {lexer : Lexer σ Log τ} {state : σ} {log : Log}
    {failure : LexFailure} (failed : (lexer.strict state log).1 = .ok (.error failure)) :
    ∃ reported, failure = .malformed reported := by
  unfold Lexer.strict at failed
  split at failed
  · cases failed
  · split at failed
    · cases failed
    · dsimp only at failed
      split at failed
      · cases failed
        exact ⟨_, rfl⟩
      · cases failed

/-- Steps that all succeed give what they give one by one. -/
theorem mapM_eq_ok {step : α → Except ε β} {result : α → β} {values : List α}
    (each : ∀ value ∈ values, step value = .ok (result value)) :
    values.mapM step = .ok (values.map result) := by
  induction values with
  | nil => rfl
  | cons first rest ih =>
      rw [List.mapM_cons, each first List.mem_cons_self,
        ih fun value member => each value (List.mem_cons_of_mem _ member)]
      rfl

namespace Command

open Source (Document File Registration)
open Source.Registry (reached)

/-! ## Listings of a document -/

/-- The lines that list the tokens of a document. -/
def tokenLines (document : Document) (lexicon : Lexicon) : List String :=
  let reading := Reading.ofText lexicon document.text.toList
  (reading.segments.filter fun segment => segment.lexeme.isKept lexicon).map fun segment =>
    tokenLine (some (document.locationAt segment.start)) (segment.token lexicon 0)

/-- The lines that list what is wrong with a document. -/
def diagnosticLines (directory : String) (document : Document) (lexicon : Lexicon) : List String :=
  let reading := Reading.ofText lexicon document.text.toList
  reading.findings.map fun (finding, _) =>
    diagnosticLine directory (some (document.locationAt finding.offset)) (finding.diagnostic 0)

/-- What is written about a document. A strict run writes no token if there is a diagnostic. -/
def written (strict : Bool) (lexicon : Lexicon) (directory : String) (document : Document) :
    Written :=
  let faults := diagnosticLines directory document lexicon
  { clean := faults.isEmpty
    out := if strict && !faults.isEmpty then "" else String.join (tokenLines document lexicon)
    diagnostics := String.join faults }

theorem diagnosticLine_ne_empty (directory : String) (place : Option Source.Location)
    (diagnostic : Diagnostic) : diagnosticLine directory place diagnostic ≠ "" := by
  intro empty
  cases place with
  | none => exact absurd (String.append_eq_empty_iff.mp empty).2 (by decide)
  | some location => exact absurd (String.append_eq_empty_iff.mp empty).2 (by decide)

theorem join_eq_empty_iff {texts : List String} (visible : ∀ text ∈ texts, text ≠ "") :
    String.join texts = "" ↔ texts = [] := by
  cases texts with
  | nil => exact iff_of_true String.join_nil rfl
  | cons first rest =>
      rw [String.join_cons, String.append_eq_empty_iff]
      exact iff_of_false (fun empty => visible first List.mem_cons_self empty.1) (List.cons_ne_nil _ _)

/-- A strict run differs from a plain one in the tokens of a document that is not clean. -/
theorem written_true (lexicon : Lexicon) (directory : String) (document : Document) :
    written true lexicon directory document =
      ⟨(written false lexicon directory document).clean,
        if (written false lexicon directory document).clean then
          (written false lexicon directory document).out
        else "",
        (written false lexicon directory document).diagnostics⟩ := by
  by_cases clean : (diagnosticLines directory document lexicon).isEmpty = true
  · simp only [written, clean, Bool.not_true, Bool.and_false, Bool.false_eq_true, if_false, if_true]
  · simp only [written, clean, Bool.not_false, Bool.and_true, if_true, if_false, Bool.false_eq_true]

/-- Nothing is written about faults exactly if there are none. -/
theorem join_diagnosticLines_eq_empty_iff (directory : String) (document : Document)
    (lexicon : Lexicon) :
    String.join (diagnosticLines directory document lexicon) = "" ↔
      (diagnosticLines directory document lexicon).isEmpty = true := by
  refine (join_eq_empty_iff fun line member => ?_).trans List.isEmpty_iff.symm
  obtain ⟨finding, _, rfl⟩ := List.mem_map.mp member
  exact diagnosticLine_ne_empty directory _ _

/-! ## What is written about a registered file -/

/-- A document is clean exactly if nothing is wrong with the file that it is. -/
theorem isEmpty_diagnosticLines (directory path : String) (file : File) (lexicon : Lexicon) :
    (diagnosticLines directory ⟨path, file.text⟩ lexicon).isEmpty =
      (file.diagnostics lexicon).isEmpty := by
  rw [diagnosticLines, List.isEmpty_map, File.diagnostics, Reading.diagnostics, List.isEmpty_map]
  rfl

section

variable {before : List Registration} {call : Registration} {file : File}
  (returns : call.Returns (reached before) file)
  (inRange : (reached (before ++ [call])).next < Position.limit)

include returns inRange

theorem tokenListing_eq (after : List Registration) (lexicon : Lexicon) :
    tokenListing (reached (before ++ call :: after)) (file.tokens lexicon) =
      .ok (String.join (tokenLines ⟨call.path, file.text⟩ lexicon)) := by
  rw [tokenListing, File.tokens, Reading.tokens, List.mapM_map, mapM_eq_ok fun segment kept => ?_]
  · rfl
  · have inside : segment.start ≤ Text.width file.text.toList :=
      Reading.start_le_of_mem (List.mem_filter.mp kept).1
    rw [Function.comp_apply, Segment.position_token, returns.locate_eq inRange after inside]
    rfl

theorem diagnosticListing_eq (after : List Registration) (directory : String) (lexicon : Lexicon) :
    diagnosticListing directory (reached (before ++ call :: after)) (file.diagnostics lexicon) =
      .ok (String.join (diagnosticLines directory ⟨call.path, file.text⟩ lexicon)) := by
  rw [diagnosticListing, File.diagnostics, Reading.diagnostics, List.mapM_map,
    mapM_eq_ok fun finding found => ?_]
  · rfl
  · rw [Function.comp_apply]
    change (Except.map _ ((reached (before ++ call :: after)).locate
      (file.offset + finding.1.offset))) = _
    rw [returns.locate_eq inRange after (Reading.finding_offset_le found)]
    rfl

theorem writeTokens_eq (after : List Registration) (directory : String) (lexicon : Lexicon)
    {log : Log} (held : log.held = file.diagnostics lexicon) :
    writeTokens directory (reached (before ++ call :: after)) (file.tokens lexicon) log =
      .ok ⟨(diagnosticLines directory ⟨call.path, file.text⟩ lexicon).isEmpty,
        String.join (tokenLines ⟨call.path, file.text⟩ lexicon),
        String.join (diagnosticLines directory ⟨call.path, file.text⟩ lexicon)⟩ := by
  rw [writeTokens, tokenListing_eq returns inRange, held, diagnosticListing_eq returns inRange,
    isEmpty_diagnosticLines]
  rfl

/-- What is written about a registered file is determined by its text, its path and the options. -/
theorem write_eq (after : List Registration) (directory : String) (arguments : Arguments)
    (scans : arguments.chars = false) :
    write arguments directory (reached (before ++ call :: after)) file =
      .ok (written arguments.strict arguments.lexicon directory ⟨call.path, file.text⟩) := by
  have lexes := File.lexesTo_of_inRange (returns.file_inRange inRange) arguments.lexicon
  have faults := isEmpty_diagnosticLines directory call.path file arguments.lexicon
  rw [write, if_neg (by rw [scans]; decide), written]
  dsimp only
  cases strict : arguments.strict with
  | false =>
      rw [if_neg (by decide), lexes Log.empty]
      exact writeTokens_eq returns inRange after directory arguments.lexicon rfl
  | true =>
      rw [if_pos rfl, lexes.strict_eq Log.empty]
      by_cases silent : file.diagnostics arguments.lexicon = []
      · rw [silent] at faults
        rw [if_pos silent, if_neg (by rw [faults]; decide)]
        exact writeTokens_eq returns inRange after directory arguments.lexicon silent.symm
      · have loud : (diagnosticLines directory ⟨call.path, file.text⟩ arguments.lexicon).isEmpty =
            false := by
          rw [faults, List.isEmpty_eq_false_iff]
          exact silent
        rw [if_neg silent, if_pos (by rw [loud]; decide), loud]
        dsimp only [writeFailure]
        rw [diagnosticListing_eq returns inRange]
        rfl

end

/-- A program that reads a file of a text leaves behind what is written about it under its path. -/
theorem outcome_run {words : List String} {directory : String} {arguments : Arguments}
    {read : String → Except Source.ReadFailure String} {text : String}
    (accepted : parse words = .ok arguments) (readable : read arguments.file = .ok text)
    (scans : arguments.chars = false) (inRange : text.utf8ByteSize + 1 < Position.limit) :
    (run words directory read).outcome =
      (Ending.written (written arguments.strict arguments.lexicon directory
        ⟨arguments.file, text⟩)).outcome := by
  have returns : (Registration.load arguments.file (.ok text)).Returns (reached []) ⟨0, text⟩ :=
    .load rfl
  have room : (reached ([] ++ [Registration.load arguments.file (.ok text)])).next < Position.limit := by
    rw [returns.next_eq, Nat.zero_add]
    exact inRange
  have loaded : Source.Registry.empty.load arguments.file (read arguments.file) =
      (.ok ⟨0, text⟩, reached ([] ++ [Registration.load arguments.file (.ok text)])) := by
    rw [readable]
    rfl
  rw [run, accepted]
  dsimp only
  rw [loaded]
  dsimp only
  rw [write_eq returns room [] directory arguments scans]
  rfl

/-- A strict and a plain run on a registered file end in the same way and write the same diagnostics,
of which there are none exactly if the file is clean; the strict run writes the same tokens, or none
if the file is not clean, and fails in no other way than by what was reported. A program that reads a
file of that text leaves these texts behind and ends with zero exactly if the file is clean. -/
theorem write_strict (arguments : Arguments) (scans : arguments.chars = false) (directory : String)
    {before : List Registration} {call : Registration} {file : File}
    (returns : call.Returns (reached before) file)
    (inRange : (reached (before ++ [call])).next < Position.limit) (after : List Registration) :
    ∃ clean out diagnostics,
      write { arguments with strict := false } directory (reached (before ++ call :: after)) file =
        .ok ⟨clean, out, diagnostics⟩ ∧
      write { arguments with strict := true } directory (reached (before ++ call :: after)) file =
        .ok ⟨clean, if clean then out else "", diagnostics⟩ ∧
      (clean = true ↔ diagnostics = "") ∧
      (∀ failure, (Lexer.strict Scanner.lex (.ofFile file arguments.lexicon) Log.empty).1 =
        .ok (.error failure) → ∃ reported, failure = .malformed reported) ∧
      (call.path = arguments.file → ∀ (words : List String) (strict : Bool)
        (read : String → Except Source.ReadFailure String),
        parse words = .ok { arguments with strict := strict } →
        read arguments.file = .ok file.text →
          (run words directory read).outcome =
            ⟨if clean then 0 else 1, if strict && !clean then "" else out, diagnostics⟩) := by
  have lexed (strict : Bool) :=
    write_eq returns inRange after directory { arguments with strict := strict } scans
  refine ⟨_, _, _, lexed false, (lexed true).trans (congrArg Except.ok (written_true _ directory _)),
    (join_diagnosticLines_eq_empty_iff directory _ _).symm,
    fun failure failed => Lexer.malformed_of_strict failed, ?program⟩
  case program =>
    intro path words strict read accepted readable
    have room : file.text.utf8ByteSize + 1 < Position.limit := by
      rw [returns.next_eq] at inRange
      omega
    rw [outcome_run accepted readable scans room, path]
    rfl

/-- A file that is not clean, beside one that could not be read, and both runs of the program on it. -/
theorem write_strict_invalid :
    (Registration.add "g.y" "a $").Returns (reached []) ⟨0, "a $"⟩ ∧
      (reached ([] ++ [.add "g.y" "a $"])).next < Position.limit ∧
      ∃ clean out diagnostics,
        write ⟨"g.y", false, [], [], false, none, false, false, false⟩ "/"
            (reached [.add "g.y" "a $", .load "h.y" (.error .notFound)]) ⟨0, "a $"⟩ =
          .ok ⟨clean, out, diagnostics⟩ ∧
        write ⟨"g.y", false, [], [], false, none, false, false, true⟩ "/"
            (reached [.add "g.y" "a $", .load "h.y" (.error .notFound)]) ⟨0, "a $"⟩ =
          .ok ⟨clean, if clean then out else "", diagnostics⟩ ∧
        (clean = true ↔ diagnostics = "") ∧
        (run ["lex", "g.y"] "/" fun _ => .ok "a $").outcome =
          ⟨if clean then 0 else 1, out, diagnostics⟩ ∧
        (run ["lex", "--strict", "g.y"] "/" fun _ => .ok "a $").outcome =
          ⟨if clean then 0 else 1, if !clean then "" else out, diagnostics⟩ := by
  have returns : (Registration.add "g.y" "a $").Returns (reached []) ⟨0, "a $"⟩ := .add _ _
  have inRange : (reached ([] ++ [.add "g.y" "a $"])).next < Position.limit := by decide
  obtain ⟨clean, out, diagnostics, plain, strict, silent, _, program⟩ :=
    write_strict ⟨"g.y", false, [], [], false, none, false, false, false⟩ rfl "/" returns inRange
      [.load "h.y" (.error .notFound)]
  refine ⟨returns, inRange, ?_⟩
  exact ⟨clean, out, diagnostics, plain, strict, silent,
    program rfl ["lex", "g.y"] false _ (by decide) rfl,
    program rfl ["lex", "--strict", "g.y"] true _ (by decide) rfl⟩

end Command

end Lexing
