import Lexing.Proofs.Source.Location
import Mathlib.Data.Set.BooleanAlgebra
import Mathlib.Order.CompletePartialOrder
import Mathlib.Order.Interval.Set.Defs

/-! # The layout of registered files

Files lie one behind the other from position zero on, with a gap of one between two of them, so that
every position handed out belongs to one file, the position at its end among them. Later calls only
add files further back: what a position was resolved to it is resolved to for ever. -/

namespace Lexing.Source

namespace Registry

/-- For each file its positions, with that of its end. -/
def ranges (registry : Registry) (documents : List Document) : List (Set Nat) :=
  List.zipWith (fun entry document => Set.Icc entry.offset (entry.offset + document.size))
    registry.entries.toList documents

/-- Files lie one behind the other and leave no position between them. -/
structure LaidOut (registry : Registry) (documents : List Document) : Prop where
  size_eq : registry.entries.size = documents.length
  first : ∀ entry, registry.entries[0]? = some entry → entry.offset = 0
  following : ∀ (index : Nat) (entry following : Entry) (document : Document),
    registry.entries[index]? = some entry → documents[index]? = some document →
    registry.entries[index + 1]? = some following →
      following.offset = entry.offset + document.size + 1
  disjoint : (registry.ranges documents).Pairwise Disjoint
  covers : ∀ position, position < registry.next ↔
    ∃ range ∈ registry.ranges documents, position ∈ range

namespace Lists

variable {registry : Registry} {documents : List Document} {document : Document} {index : Nat}

theorem offset_of_getElem? (lists : registry.Lists documents) {entry : Entry}
    (found : registry.entries[index]? = some entry) :
    entry.offset = Document.startOf documents index := by
  rw [lists.entries, Option.map_eq_some_iff] at found
  obtain ⟨document, _, rfl⟩ := found
  rfl

theorem getElem?_ranges (lists : registry.Lists documents) (index : Nat) :
    (registry.ranges documents)[index]? = documents[index]?.map fun document =>
      Set.Icc (Document.startOf documents index)
        (Document.startOf documents index + document.size) := by
  rw [ranges, List.getElem?_zipWith, Array.getElem?_toList, lists.entries]
  cases documents[index]? with
  | none => rfl
  | some document => rfl

theorem mem_ranges_iff (lists : registry.Lists documents) {range : Set Nat} :
    range ∈ registry.ranges documents ↔ ∃ index document, documents[index]? = some document ∧
      range = Set.Icc (Document.startOf documents index)
        (Document.startOf documents index + document.size) := by
  rw [List.mem_iff_getElem?]
  refine exists_congr fun index => ?_
  rw [lists.getElem?_ranges, Option.map_eq_some_iff]
  exact exists_congr fun document => and_congr_right fun _ => eq_comm

theorem pairwise_disjoint_ranges (lists : registry.Lists documents) :
    (registry.ranges documents).Pairwise Disjoint := by
  refine List.pairwise_iff_getElem.mpr fun i j first second ordered => ?_
  have earlier := lists.getElem?_ranges i
  have later := lists.getElem?_ranges j
  rw [List.getElem?_eq_getElem first, eq_comm, Option.map_eq_some_iff] at earlier
  rw [List.getElem?_eq_getElem second, eq_comm, Option.map_eq_some_iff] at later
  obtain ⟨document, found, range⟩ := earlier
  obtain ⟨other, _, otherRange⟩ := later
  have apart := Document.startOf_lt_of_lt found ordered
  rw [← range, ← otherRange]
  refine Set.disjoint_left.mpr fun position inEarlier inLater => ?_
  exact absurd (Nat.le_trans inLater.1 inEarlier.2) (Nat.not_le_of_lt apart)

theorem lt_next_iff (lists : registry.Lists documents) (position : Nat) :
    position < registry.next ↔ ∃ range ∈ registry.ranges documents, position ∈ range := by
  rw [lists.next]
  constructor
  · intro before
    obtain ⟨index, document, found, low, high⟩ := Document.exists_of_lt_startOf before
    exact ⟨_, lists.mem_ranges_iff.mpr ⟨index, document, found, rfl⟩, low, high⟩
  · rintro ⟨range, member, inside⟩
    obtain ⟨index, document, found, rfl⟩ := lists.mem_ranges_iff.mp member
    have last := Document.startOf_lt_of_lt found (List.getElem?_eq_some_iff.mp found).1
    exact Nat.lt_of_le_of_lt inside.2 last

theorem laidOut (lists : registry.Lists documents) : registry.LaidOut documents where
  size_eq := lists.size_eq
  first := fun entry found => by rw [lists.offset_of_getElem? found, Document.startOf_zero]
  following := fun index entry following document here source next => by
    rw [lists.offset_of_getElem? next, lists.offset_of_getElem? here, Document.startOf_succ source]
  disjoint := lists.pairwise_disjoint_ranges
  covers := lists.lt_next_iff

/-- A position that was handed out is resolved, and later calls do not change to what. -/
theorem exists_locate_extend (lists : registry.Lists documents)
    (inRange : registry.next < Position.limit) {position : Nat} (before : position < registry.next) :
    ∃ location, ∀ later, (registry.extend later).locate position = .ok (some location) := by
  have last := lists.next
  rw [last] at before
  obtain ⟨index, document, found, low, high⟩ := Document.exists_of_lt_startOf before
  obtain ⟨offset, rfl⟩ := Nat.exists_eq_add_of_le low
  have bound := (List.getElem?_eq_some_iff.mp found).1
  have room := Document.startOf_lt_of_lt found bound
  refine ⟨document.locationAt offset, fun later => ?_⟩
  have kept : (documents ++ registered later)[index]? = some document := by
    rw [List.getElem?_append_left bound, found]
  rw [← Document.startOf_append documents (registered later) (Nat.le_of_lt bound)]
  exact (lists.extend later).locate_inside kept (by omega) (by omega)

end Lists

/-- Calls that fail may be left out. -/
theorem extend_filter_succeeds (registry : Registry) (calls : List Registration) :
    registry.extend (calls.filter Registration.succeeds) = registry.extend calls := by
  induction calls generalizing registry with
  | nil => rfl
  | cons call rest ih =>
      cases fails : call.document? with
      | none =>
          have unchanged := call.perform_of_none fails registry
          rw [List.filter_cons_of_neg (by rw [Registration.succeeds, fails]; decide), ih, extend,
            extend, List.foldl_cons, unchanged]
      | some document =>
          rw [List.filter_cons_of_pos (by rw [Registration.succeeds, fails]; rfl)]
          exact ih (call.perform registry)

/-- Whatever calls are made, the files that were registered lie one behind the other from zero on;
calls that fail change nothing and may be left out; and a position that was handed out is resolved
to one location for ever. -/
theorem reached_laidOut (calls : List Registration)
    (inRange : (reached calls).next < Position.limit) :
    (reached calls).LaidOut (registered calls) ∧
      (∀ call ∈ calls, call.succeeds = false → ∀ registry, call.perform registry = registry) ∧
      reached (calls.filter Registration.succeeds) = reached calls ∧
      ∀ position, position < (reached calls).next →
        ∃ location, ∀ later, (reached (calls ++ later)).locate position = .ok (some location) := by
  have lists := reached_lists calls
  refine ⟨lists.laidOut, fun call _ fails => ?_, extend_filter_succeeds empty calls, ?_⟩
  · exact call.perform_of_none (Option.isSome_eq_false_iff.mp fails |> Option.isNone_iff_eq_none.mp)
  · intro position before
    obtain ⟨location, resolved⟩ := lists.exists_locate_extend inRange before
    exact ⟨location, fun later => by rw [reached_append]; exact resolved later⟩

/-- A text of more bytes than characters, a file that is not there, and an empty one. -/
theorem reached_laidOut_unread :
    ∃ calls : List Registration,
      calls = [.add "a" "é\n", .load "b" (.error .notFound), .scan "a" (.ok "") Lexicon.standard] ∧
      (reached calls).next < Position.limit ∧
      (reached calls).LaidOut (registered calls) ∧
      (∀ call ∈ calls, call.succeeds = false → ∀ registry, call.perform registry = registry) ∧
      reached (calls.filter Registration.succeeds) = reached calls ∧
      ∀ position, position < (reached calls).next →
        ∃ location, ∀ later, (reached (calls ++ later)).locate position = .ok (some location) :=
  ⟨_, rfl, by decide, reached_laidOut _ (by decide)⟩

end Registry

end Lexing.Source
