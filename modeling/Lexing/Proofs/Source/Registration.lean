import Lexing.Scanner
import Mathlib.Algebra.GroupWithZero.Nat
import Mathlib.Data.Nat.Find
import Mathlib.Order.Bounds.Defs

/-! # Registries and the calls that make them

A registry is made by calls that register a text, or that read one and register it if it was read. A
call that fails leaves the registry as it is, so a registry lists the documents of the calls that did
not fail, in order: each where the one before it ends, behind a gap of one position. -/

namespace Lexing.Source

/-- A text and the path it is registered under. -/
structure Document where
  path : String
  text : String
  deriving DecidableEq, Repr

namespace Document

/-- Bytes of a document. -/
def size (document : Document) : Nat := document.text.utf8ByteSize

/-- What a registry keeps of a document that starts at a position. -/
def entry (document : Document) (offset : Nat) : Entry :=
  ⟨document.path, offset, newlineOffsets document.text.toList⟩

/-- Where a document starts behind all that come before it in a list. -/
def startOf (documents : List Document) (index : Nat) : Nat :=
  ((documents.take index).map fun document => document.size + 1).sum

variable {documents : List Document} {document : Document} {index : Nat}

@[simp] theorem startOf_zero (documents : List Document) : startOf documents 0 = 0 := rfl

theorem startOf_cons_succ (first : Document) (rest : List Document) (index : Nat) :
    startOf (first :: rest) (index + 1) = first.size + 1 + startOf rest index := rfl

/-- Documents further back do not matter to where a document starts. -/
theorem startOf_append (documents later : List Document) (bound : index ≤ documents.length) :
    startOf (documents ++ later) index = startOf documents index := by
  rw [startOf, List.take_append_of_le_length bound, startOf]

theorem startOf_succ (found : documents[index]? = some document) :
    startOf documents (index + 1) = startOf documents index + document.size + 1 := by
  rw [startOf, List.take_add_one, found, List.map_append, List.sum_append, startOf]
  rfl

theorem startOf_le_of_le (documents : List Document) {earlier later : Nat} (ordered : earlier ≤ later) :
    startOf documents earlier ≤ startOf documents later := by
  obtain ⟨more, rfl⟩ := Nat.exists_eq_add_of_le ordered
  rw [startOf, startOf, List.take_add, List.map_append, List.sum_append]
  exact Nat.le_add_right _ _

/-- A document that comes later in a list starts behind the end of an earlier one. -/
theorem startOf_lt_of_lt {later : Nat} (found : documents[index]? = some document)
    (ordered : index < later) : startOf documents index + document.size < startOf documents later := by
  have next := startOf_le_of_le documents (Nat.succ_le_of_lt ordered)
  rw [Nat.succ_eq_add_one, startOf_succ found] at next
  exact next

/-- A position before the end of all documents is in one of them or at its end. -/
theorem exists_of_lt_startOf {position : Nat}
    (before : position < startOf documents documents.length) :
    ∃ index document, documents[index]? = some document ∧ startOf documents index ≤ position ∧
      position ≤ startOf documents index + document.size := by
  induction documents generalizing position with
  | nil => exact absurd before (Nat.not_lt_zero _)
  | cons first rest ih =>
      by_cases here : position ≤ first.size
      · exact ⟨0, first, rfl, Nat.zero_le _, by rw [startOf_zero]; omega⟩
      · obtain ⟨behind, rfl⟩ := Nat.exists_eq_add_of_lt (Nat.lt_of_not_le here)
        rw [List.length_cons, startOf_cons_succ] at before
        have deeper : behind < startOf rest rest.length := by omega
        obtain ⟨index, document, found, low, high⟩ := ih deeper
        exact ⟨index + 1, document, found, by rw [startOf_cons_succ]; omega,
          by rw [startOf_cons_succ]; omega⟩

/-- The documents that start at or before a position. -/
def startingBy (documents : List Document) (position : Nat) : Set Nat :=
  {index | index < documents.length ∧ startOf documents index ≤ position}

/-- The first document starts at or before every position, so there is a last one that does. -/
theorem exists_isGreatest_startingBy (some : documents ≠ []) (position : Nat) :
    ∃ index, IsGreatest (startingBy documents position) index := by
  have length := List.length_pos_iff.mpr some
  have first : startOf documents 0 ≤ position := Nat.zero_le _
  refine ⟨Nat.findGreatest (fun index => startOf documents index ≤ position) (documents.length - 1),
    ⟨?_, ?_⟩, ?_⟩
  · have bound := Nat.findGreatest_le (P := fun index => startOf documents index ≤ position)
      (documents.length - 1)
    omega
  · exact Nat.findGreatest_spec (P := fun index => startOf documents index ≤ position)
      (Nat.zero_le _) first
  · rintro index ⟨bound, starts⟩
    exact Nat.le_findGreatest (by omega) starts

/-- Behind the last document that starts by a position, the next one starts after it. -/
theorem lt_startOf_of_isGreatest {position : Nat}
    (greatest : IsGreatest (startingBy documents position) index)
    (next : index + 1 < documents.length) : position < startOf documents (index + 1) :=
  Nat.lt_of_not_le fun starts => Nat.not_succ_le_self index (greatest.2 ⟨next, starts⟩)

end Document

/-! ## Calls -/

/-- A call that registers a file: a text that is there, a text that is read, or a text that is read
for a scanner. What reading gives is part of the call. -/
inductive Registration where
  | add (path text : String)
  | load (path : String) (contents : Except ReadFailure String)
  | scan (path : String) (contents : Except ReadFailure String) (lexicon : Lexicon)

namespace Registration

/-- The path that a call names. -/
def path : Registration → String
  | add path _ => path
  | load path _ => path
  | scan path _ _ => path

/-- The registry that a call leaves. -/
def perform (registry : Registry) : Registration → Registry
  | add path text => (registry.add path text).2
  | load path contents => (registry.load path contents).2
  | scan path contents lexicon => (Scanner.load registry path contents lexicon).2

/-- What a call registers, if it does not fail. -/
def document? : Registration → Option Document
  | add path text => some ⟨path, text⟩
  | load path contents => contents.toOption.map (Document.mk path)
  | scan path contents _ => contents.toOption.map (Document.mk path)

/-- A call succeeds in registering a document. -/
def succeeds (call : Registration) : Bool := call.document?.isSome

/-- A call on a registry hands out a file, or a scanner at the start of it. -/
inductive Returns (registry : Registry) : Registration → File → Prop where
  | add (path text : String) : Returns registry (add path text) (registry.add path text).1
  | load {path : String} {contents : Except ReadFailure String} {file : File}
      (opened : (registry.load path contents).1 = .ok file) : Returns registry (load path contents) file
  | scan {path : String} {contents : Except ReadFailure String} {lexicon : Lexicon} {file : File}
      (opened : (Scanner.load registry path contents lexicon).1 = .ok (.ofFile file lexicon)) :
      Returns registry (scan path contents lexicon) file

/-- All that a call does to a registry is to register its document, if it has one. -/
theorem perform_eq (call : Registration) (registry : Registry) :
    call.perform registry =
      call.document?.elim registry fun document => (registry.add document.path document.text).2 := by
  cases call with
  | add path text => rfl
  | load path contents =>
      cases contents with
      | ok text => rfl
      | error cause => rfl
  | scan path contents lexicon =>
      cases contents with
      | ok text => rfl
      | error cause => rfl

/-- A call that fails leaves no trace. -/
theorem perform_of_none {call : Registration} (fails : call.document? = none) (registry : Registry) :
    call.perform registry = registry := by
  rw [perform_eq, fails, Option.elim_none]

/-- A call that does not fail registers its document. -/
theorem perform_of_some {call : Registration} {document : Document}
    (found : call.document? = some document) (registry : Registry) :
    call.perform registry = (registry.add document.path document.text).2 := by
  rw [perform_eq, found, Option.elim_some]

/-- The file that a call hands out has the text that is registered, and starts where it will. -/
theorem Returns.registers {registry : Registry} {call : Registration} {file : File}
    (returns : call.Returns registry file) :
    call.document? = some ⟨call.path, file.text⟩ ∧ file.offset = registry.next := by
  cases returns with
  | add path text => exact ⟨rfl, rfl⟩
  | @load path contents file opened =>
      cases contents with
      | ok text =>
          cases opened
          exact ⟨rfl, rfl⟩
      | error cause => cases opened
  | @scan path contents lexicon file opened =>
      cases contents with
      | ok text =>
          obtain ⟨offset, found⟩ := file
          have same := Except.ok.inj opened
          injection same with origin _ letters
          cases String.toList_inj.mp letters
          exact ⟨rfl, origin.symm⟩
      | error cause => cases opened

end Registration

namespace Registry

/-- The registry that calls make of another one. -/
def extend (registry : Registry) (calls : List Registration) : Registry :=
  calls.foldl Registration.perform registry

/-- The registry that calls make of the empty one. -/
def reached (calls : List Registration) : Registry := empty.extend calls

/-- What calls register, in order. -/
def registered (calls : List Registration) : List Document := calls.filterMap Registration.document?

theorem reached_append (calls later : List Registration) :
    reached (calls ++ later) = (reached calls).extend later :=
  List.foldl_append

/-! ## What a registry lists -/

/-- A registry lists documents: for each where it starts and where its lines end, and where the next
one will start. -/
structure Lists (registry : Registry) (documents : List Document) : Prop where
  entries : ∀ index : Nat, registry.entries[index]? =
    documents[index]?.map fun document => document.entry (Document.startOf documents index)
  next : registry.next = Document.startOf documents documents.length

namespace Lists

variable {registry : Registry} {documents : List Document}

theorem size_eq (lists : registry.Lists documents) :
    registry.entries.size = documents.length := by
  refine Nat.le_antisymm ?_ ?_
  · have none := lists.entries documents.length
    rw [List.getElem?_eq_none (Nat.le_refl _)] at none
    exact Array.getElem?_eq_none_iff.mp none
  · have none := lists.entries registry.entries.size
    rw [Array.getElem?_eq_none (Nat.le_refl _), eq_comm, Option.map_eq_none_iff] at none
    exact List.getElem?_eq_none_iff.mp none

theorem empty : Registry.empty.Lists [] := ⟨fun _ => rfl, rfl⟩

/-- A document that is added is listed behind the others. -/
theorem add (lists : registry.Lists documents) (document : Document) :
    (registry.add document.path document.text).2.Lists (documents ++ [document]) := by
  have last : (documents ++ [document])[documents.length]? = some document := by simp
  constructor
  case entries =>
    intro index
    rw [Registry.add, Array.getElem?_push, lists.size_eq]
    rcases Nat.lt_trichotomy index documents.length with before | here | behind
    · rw [if_neg (Nat.ne_of_lt before), lists.entries, List.getElem?_append_left before,
        Document.startOf_append _ _ (Nat.le_of_lt before)]
    · rw [if_pos here, here, last, Document.startOf_append _ _ (Nat.le_refl _), lists.next]
      rfl
    · rw [if_neg (Nat.ne_of_gt behind), lists.entries, List.getElem?_eq_none (Nat.le_of_lt behind),
        List.getElem?_eq_none (by simp; omega)]
      rfl
  case next =>
    rw [List.length_append, List.length_singleton, Document.startOf_succ last,
      Document.startOf_append _ _ (Nat.le_refl _), ← lists.next]
    rfl

/-- What a call registers is listed, and nothing else. -/
theorem perform (lists : registry.Lists documents) (call : Registration) :
    (call.perform registry).Lists (documents ++ registered [call]) := by
  cases found : call.document? with
  | none =>
      rw [call.perform_of_none found, registered, List.filterMap_cons_none found, List.filterMap_nil,
        List.append_nil]
      exact lists
  | some document =>
      rw [call.perform_of_some found, registered, List.filterMap_cons_some found, List.filterMap_nil]
      exact lists.add document

theorem extend (lists : registry.Lists documents) (calls : List Registration) :
    (registry.extend calls).Lists (documents ++ registered calls) := by
  induction calls generalizing registry documents with
  | nil =>
      rw [registered, List.filterMap_nil, List.append_nil]
      exact lists
  | cons call rest ih =>
      have all := ih (lists.perform call)
      rw [List.append_assoc, registered, registered, ← List.filterMap_append] at all
      exact all

end Lists

/-- A registry lists what the calls that made it registered. -/
theorem reached_lists (calls : List Registration) : (reached calls).Lists (registered calls) :=
  Lists.empty.extend calls

end Registry

end Lexing.Source
