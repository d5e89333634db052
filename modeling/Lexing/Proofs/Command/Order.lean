import Lexing.Proofs.Command.Lossless
import Lexing.Proofs.Source.Order

/-! # Listings in order

Tokens stand one behind the other, and later positions have later places, so the lines of a listing
come in the order of their lines and columns, each behind the one before it. -/

namespace Lexing

/-- Segments of a text start one behind the other. -/
theorem Reading.starts_ordered (lexicon : Lexicon) (text : List Char) :
    (ofText lexicon text).segments.Pairwise fun earlier later => earlier.start < later.start := by
  have ordered := (segmentation lexicon 0 text).ordered
  refine ordered.imp_of_mem fun {earlier later} member _ behind => ?_
  have visible := (standsIn_of_mem member).text_ne_nil
  have positive := Nat.pos_of_ne_zero (mt Text.width_eq_zero_iff.mp visible)
  exact Nat.lt_of_lt_of_le (Nat.lt_add_of_pos_right positive) behind

namespace Command

open Source (Document File Location Registration)
open Source.Registry (reached)

/-- The rows of a document are in the order of their places, and no two have the same place. -/
theorem rows_ordered (document : Document) (lexicon : Lexicon) :
    (rows document lexicon).Pairwise fun earlier later =>
      toLex (earlier.line, earlier.column) < toLex (later.line, later.column) := by
  have starts := Reading.starts_ordered lexicon document.text.toList
  exact List.pairwise_map.mpr ((starts.filter _).imp fun before =>
    Text.place_lt_of_lt document.text.toList before)

/-- Later positions have later places: the file in which a position is resolved comes before that of a
later position, or it is the same file and the line comes before, or the line is the same and the
column comes before. So positions with one place in one file are the same, and what a run writes of
the tokens of a file are lines in the order of their places, each behind the one before it. -/
theorem places_ordered :
    (∀ (calls : List Registration) (position later : ℕ) (location next : Location),
      position < later →
      (reached calls).locate position = .ok (some location) →
      (reached calls).locate later = .ok (some next) →
        (reached calls).place position location < (reached calls).place later next) ∧
    (∀ (calls : List Registration) (position other : ℕ) (location next : Location),
      (reached calls).locate position = .ok (some location) →
      (reached calls).locate other = .ok (some next) →
      (reached calls).fileIndex position = (reached calls).fileIndex other →
      location.line = next.line → location.column = next.column → position = other) ∧
    ∀ (arguments : Arguments) (directory : String) (before : List Registration) (call : Registration)
      (file : File) (after : List Registration), arguments.chars = false →
      call.Returns (reached before) file → (reached (before ++ [call])).next < Position.limit →
        ∃ (rows : List Row) (written : Written),
          write arguments directory (reached (before ++ call :: after)) file = .ok written ∧
          Text.lines written.out.toList = rows.map Row.letters ++ [[]] ∧
          rows.Pairwise fun earlier later =>
            toLex (earlier.line, earlier.column) < toLex (later.line, later.column) := by
  have ordered (calls : List Registration) {position later : ℕ} {location next : Location} :=
    @Source.Registry.Lists.place_lt_of_lt _ _ position location
      (Source.Registry.reached_lists calls) later next
  refine ⟨fun calls _ _ _ _ => ordered calls, ?injective, ?listing⟩
  case injective =>
    intro calls position other location next located locatedOther file line column
    have same : (reached calls).place position location = (reached calls).place other next := by
      rw [Source.Registry.place, Source.Registry.place, file, line, column]
    rcases Nat.lt_trichotomy position other with before | equal | behind
    · exact absurd same (ordered calls before located locatedOther).ne
    · exact equal
    · exact absurd same (ordered calls behind locatedOther located).ne'
  case listing =>
    intro arguments directory before call file after scans returns inRange
    have writes := write_eq returns inRange after directory arguments scans
    by_cases silenced : (arguments.strict &&
        !(diagnosticLines directory ⟨call.path, file.text⟩ arguments.lexicon).isEmpty) = true
    · refine ⟨[], _, writes, ?_, .nil⟩
      dsimp only [written]
      rw [if_pos silenced]
      rfl
    · refine ⟨_, _, writes, ?_, rows_ordered ⟨call.path, file.text⟩ arguments.lexicon⟩
      dsimp only [written]
      rw [if_neg silenced]
      exact lines_join_tokenLines ⟨call.path, file.text⟩ arguments.lexicon

/-- The end of a file, the gap behind it, an empty file under the same path, and a position behind all
files; and the lines of a file with tokens on one line and on the next. -/
theorem places_ordered_gap :
    (reached [.add "a" "\n+x", .load "b" (.error .notFound), .add "a" ""]).locate 3 =
        .ok (some ⟨"a", 2, 3⟩) ∧
      (reached [.add "a" "\n+x", .load "b" (.error .notFound), .add "a" ""]).locate 4 =
        .ok (some ⟨"a", 1, 1⟩) ∧
      (reached [.add "a" "\n+x", .load "b" (.error .notFound), .add "a" ""]).locate 9 =
        .ok (some ⟨"a", 1, 6⟩) ∧
      (reached [.add "a" "\n+x", .load "b" (.error .notFound), .add "a" ""]).place 3 ⟨"a", 2, 3⟩ <
        (reached [.add "a" "\n+x", .load "b" (.error .notFound), .add "a" ""]).place 4 ⟨"a", 1, 1⟩ ∧
      (reached [.add "a" "\n+x", .load "b" (.error .notFound), .add "a" ""]).place 4 ⟨"a", 1, 1⟩ <
        (reached [.add "a" "\n+x", .load "b" (.error .notFound), .add "a" ""]).place 9 ⟨"a", 1, 6⟩ ∧
      (∀ other, (reached [.add "a" "\n+x"]).locate other = .ok (some ⟨"a", 2, 3⟩) →
        (reached [.add "a" "\n+x"]).fileIndex 3 = (reached [.add "a" "\n+x"]).fileIndex other →
          3 = other) ∧
      ∃ (rows : List Row) (written : Written),
        write ⟨"a", false, [], [], false, none, false, false, true⟩ "/"
            (reached [.add "a" "\n+x", .load "b" (.error .notFound), .add "a" ""]) ⟨0, "\n+x"⟩ =
          .ok written ∧
        Text.lines written.out.toList = rows.map Row.letters ++ [[]] ∧
        rows.Pairwise fun earlier later =>
          toLex (earlier.line, earlier.column) < toLex (later.line, later.column) := by
  obtain ⟨later, same, listing⟩ := places_ordered
  have lists := Source.Registry.reached_lists
    [.add "a" "\n+x", .load "b" (.error .notFound), .add "a" ""]
  have atEnd : (reached [.add "a" "\n+x", .load "b" (.error .notFound), .add "a" ""]).locate 3 =
      .ok (some ⟨"a", 2, 3⟩) :=
    @Source.Registry.Lists.locate_inside _ _ ⟨"a", "\n+x"⟩ 0 lists rfl 3 (by decide) (by decide)
  have empty : (reached [.add "a" "\n+x", .load "b" (.error .notFound), .add "a" ""]).locate 4 =
      .ok (some ⟨"a", 1, 1⟩) :=
    @Source.Registry.Lists.locate_inside _ _ ⟨"a", ""⟩ 1 lists rfl 0 (by decide) (by decide)
  have behind : (reached [.add "a" "\n+x", .load "b" (.error .notFound), .add "a" ""]).locate 9 =
      .ok (some ⟨"a", 1, 6⟩) :=
    (@Source.Registry.Lists.locate_cases _ _ ⟨"a", ""⟩ 9 1 lists rfl (by decide)
      (by decide)).resolve_right fun ⟨_, _, far⟩ => absurd far (by decide)
  have alone : (reached [.add "a" "\n+x"]).locate 3 = .ok (some ⟨"a", 2, 3⟩) :=
    @Source.Registry.Lists.locate_inside _ _ ⟨"a", "\n+x"⟩ 0
      (Source.Registry.reached_lists [.add "a" "\n+x"]) rfl 3 (by decide) (by decide)
  refine ⟨atEnd, empty, behind, later _ 3 4 _ _ (by decide) atEnd empty,
    later _ 4 9 _ _ (by decide) empty behind, fun other located file => ?_, ?_⟩
  · exact same _ 3 other _ _ alone located file rfl rfl
  · exact listing _ "/" [] (.add "a" "\n+x") _ [.load "b" (.error .notFound), .add "a" ""] rfl
      (.add _ _) (by decide)

end Command

end Lexing
