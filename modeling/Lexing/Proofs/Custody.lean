import Lexing.Proofs.Scanner
import Lexing.ReplayLexer
import Mathlib.Data.List.Basic
import Mathlib.Data.List.Induction
import Mathlib.Logic.Function.Basic

/-! # Where diagnostics go

A log is shared. Whoever has a message reports it there, lexers among others, and two calls hand
diagnostics over: `take` gives all that are held, and a strict call that fails gives those it reported
itself. `Session.exists_fates` says that nothing is lost, duplicated or reordered on the way, by any
sequence of calls of any lexers, however they end. -/

namespace Lexing

/-- The diagnostics a result hands over, if it is a failure on account of them. -/
def LexResult.handed : LexResult τ → Option (List Diagnostic)
  | .ok (.error (.malformed diagnostics)) => some diagnostics
  | _ => none

/-! ## Lexers that report -/

namespace Lexer

variable {σ τ : Type} {lexer : Lexer σ Log τ}

/-- A call of the lexer adds to the log and changes nothing else in it. -/
def OnlyReports (lexer : Lexer σ Log τ) : Prop :=
  ∀ state log, ∃ fresh, (lexer state log).2.2 = log.append fresh

/-- The lexer that also keeps, beside its state, a record of all it has reported. -/
def recorded (lexer : Lexer σ Log τ) : Lexer (σ × List Diagnostic) Log τ :=
  fun (state, record) log =>
    let (outcome, next, after) := lexer state log
    (outcome, (next, record ++ after.held.drop log.size), after)

namespace OnlyReports

/-- What one call adds to the log is what it adds to the record. -/
theorem recorded_of_call (only : lexer.OnlyReports) {state next : σ} {log after : Log}
    {outcome : Except Overflow (List τ)} (called : lexer state log = (outcome, next, after)) :
    ∃ fresh, after = log.append fresh ∧ ∀ record,
      lexer.recorded (state, record) log = (outcome, (next, record ++ fresh), log.append fresh) := by
  obtain ⟨fresh, added⟩ := only state log
  rw [called] at added
  refine ⟨fresh, added, fun record => ?_⟩
  rw [recorded, called]
  dsimp only at added ⊢
  rw [added, Log.held_append, Log.size, List.drop_left]

/-- However it ends, draining adds to the log what it adds to the record, and hands nothing over. -/
theorem recorded_drainAfter (only : lexer.OnlyReports) (limit rounds : Nat) (collected : Array τ)
    (state : σ) (log : Log) :
    ∃ result next fresh,
      lexer.drainAfter limit rounds collected state log = (result, next, log.append fresh) ∧
      LexResult.handed result = none ∧ ∀ record,
        lexer.recorded.drainAfter limit rounds collected (state, record) log =
          (result, (next, record ++ fresh), log.append fresh) := by
  fun_induction Lexer.drainAfter lexer limit rounds collected state log
  case case1 called | case2 called =>
    obtain ⟨fresh, rfl, alike⟩ := only.recorded_of_call called
    exact ⟨_, _, fresh, rfl, rfl, fun record => by rw [drainAfter, alike]⟩
  case case3 called =>
    obtain ⟨fresh, rfl, alike⟩ := only.recorded_of_call called
    refine ⟨_, _, fresh, rfl, rfl, fun record => ?_⟩
    rw [drainAfter, alike]
    exact if_pos rfl
  case case4 log first rest next after called more room ih =>
    obtain ⟨fresh, rfl, alike⟩ := only.recorded_of_call called
    obtain ⟨result, last, later, drained, silent, alikeLater⟩ := ih
    refine ⟨result, last, fresh ++ later, by rw [drained, Log.append_append], silent, fun record => ?_⟩
    rw [drainAfter, alike]
    dsimp only
    rw [if_neg more, if_pos room, alikeLater, Log.append_append, List.append_assoc]
  case case5 called more full =>
    obtain ⟨fresh, rfl, alike⟩ := only.recorded_of_call called
    refine ⟨_, _, fresh, rfl, rfl, fun record => ?_⟩
    rw [drainAfter, alike]
    dsimp only
    rw [if_neg more, if_neg full]

/-- A strict call adds to the log what it adds to the record, or hands exactly that over. -/
theorem recorded_strict (only : lexer.OnlyReports) (state : σ) (log : Log) :
    ∃ result next fresh after,
      lexer.strict state log = (result, next, after) ∧
      (LexResult.handed result = none ∧ after = log.append fresh ∨
        LexResult.handed result = some fresh ∧ after = log) ∧
      ∀ record, (lexer.recorded.strict (state, record) log).2.1 = (next, record ++ fresh) := by
  cases called : lexer state log with
  | mk outcome rest =>
      obtain ⟨fresh, added, alike⟩ := only.recorded_of_call called
      cases outcome with
      | error overflow =>
          refine ⟨.error overflow, rest.1, fresh, rest.2, ?_, .inl ⟨rfl, added⟩, fun record => ?_⟩
          · rw [strict, called]
          · rw [strict, alike]
      | ok batch =>
          have strictly := strict_of_call (called.trans (congrArg (fun after => (_, _, after)) added))
          refine ⟨_, rest.1, fresh, log, strictly, ?_, fun record => ?_⟩
          · by_cases silent : fresh = []
            · exact .inl ⟨by rw [if_pos silent]; rfl, by rw [silent, Log.append_nil]⟩
            · exact .inr ⟨by rw [if_neg silent]; rfl, rfl⟩
          · rw [strict_of_call (alike record)]

end OnlyReports

end Lexer

/-- A scanner only reports, whether or not it overflows. -/
theorem Scanner.lex_onlyReports : Lexer.OnlyReports Scanner.lex := by
  intro scanner log
  rw [Scanner.lex_eq]
  split
  · exact ⟨_, rfl⟩
  · exact ⟨_, rfl⟩

theorem ReplayLexer.lex_onlyReports :
    Lexer.OnlyReports (ReplayLexer.lex : Lexer (ReplayLexer τ) Log τ) :=
  fun _ log => ⟨[], (Log.append_nil log).symm⟩

/-! ## Sessions -/

/-- A log and the states of the lexers that share it. -/
structure Session {ι : Type} (σ : ι → Type) where
  states : ∀ i, σ i
  log : Log

namespace Session

/-- A call that concerns the log: by whoever has a message, by whoever wants the messages, or by a lexer
`i`, which is called once, strictly, or until it has no more tokens. -/
inductive Operation (ι : Type) where
  | report (position : Nat) (message : String)
  | push (diagnostic : Diagnostic)
  | take
  | lex (i : ι)
  | strict (i : ι)
  | drain (i : ι) (rounds : Nat)
  deriving DecidableEq, Repr

variable {ι : Type} [DecidableEq ι] {σ τ : ι → Type}

/-- The session after a call of a lexer. -/
def afterCall (session : Session σ) (i : ι) (state : σ i) (log : Log) : Session σ :=
  ⟨Function.update session.states i state, log⟩

variable (lexers : ∀ i, Lexer (σ i) Log (τ i))

/-- The list an operation hands over, if it does, and the session after it. -/
def perform (session : Session σ) : Operation ι → Option (List Diagnostic) × Session σ
  | .report position message => (none, { session with log := session.log.report position message })
  | .push diagnostic => (none, { session with log := session.log.push diagnostic })
  | .take => (some session.log.take.1, { session with log := session.log.take.2 })
  | .lex i =>
      let (_, state, log) := lexers i (session.states i) session.log
      (none, session.afterCall i state log)
  | .strict i =>
      let (result, state, log) := (lexers i).strict (session.states i) session.log
      (result.handed, session.afterCall i state log)
  | .drain i rounds =>
      let (result, state, log) := (lexers i).drain rounds (session.states i) session.log
      (result.handed, session.afterCall i state log)

/-- What is reported or pushed in the course of an operation. For the calls of a lexer it is what the
lexer itself records. -/
def reported (session : Session σ) : Operation ι → List Diagnostic
  | .report position message => [⟨some position, message⟩]
  | .push diagnostic => [diagnostic]
  | .take => []
  | .lex i => ((lexers i).recorded (session.states i, []) session.log).2.1.2
  | .strict i => ((lexers i).recorded.strict (session.states i, []) session.log).2.1.2
  | .drain i rounds => ((lexers i).recorded.drain rounds (session.states i, []) session.log).2.1.2

variable {lexers}

/-- What an operation can do to the diagnostics held and to those it reports. -/
inductive Moves (held : List Diagnostic) (operation : Operation ι) (fresh : List Diagnostic)
    (list : Option (List Diagnostic)) (left : List Diagnostic) : Prop where
  | kept (silent : list = none) (grown : left = held ++ fresh)
  | taken (take : operation = .take) (quiet : fresh = []) (all : list = some held) (empty : left = [])
  | refused (strict : ∃ i, operation = .strict i) (own : list = some fresh) (same : left = held)

/-- An operation keeps all that is held and all that it reports, or hands over the one or the other. -/
theorem perform_moves (only : ∀ i, (lexers i).OnlyReports) (session : Session σ)
    (operation : Operation ι) :
    Moves session.log.held operation (reported lexers session operation)
      (perform lexers session operation).1 (perform lexers session operation).2.log.held := by
  cases operation with
  | report position message => exact .kept rfl rfl
  | push diagnostic => exact .kept rfl rfl
  | take => exact .taken rfl rfl rfl rfl
  | lex i =>
      cases call : lexers i (session.states i) session.log with
      | mk outcome rest =>
          obtain ⟨fresh, added, alike⟩ := (only i).recorded_of_call call
          simp only [perform, reported, call, alike, added]
          exact .kept rfl rfl
  | strict i =>
      obtain ⟨result, next, fresh, after, strictly, moved, alike⟩ :=
        (only i).recorded_strict (session.states i) session.log
      simp only [perform, reported, strictly, alike]
      rcases moved with ⟨silent, rfl⟩ | ⟨handed, rfl⟩
      · exact .kept silent rfl
      · exact .refused ⟨i, rfl⟩ handed rfl
  | drain i rounds =>
      obtain ⟨result, next, fresh, drained, silent, alike⟩ :=
        (only i).recorded_drainAfter rounds 0 #[] (session.states i) session.log
      simp only [perform, reported, Lexer.drain, drained, alike]
      exact .kept silent rfl

variable (lexers)

/-- The session after operations. -/
def after (session : Session σ) (operations : List (Operation ι)) : Session σ :=
  operations.foldl (fun session operation => (perform lexers session operation).2) session

/-- All that operations report, in order: the place of a diagnostic in this list is its tag. -/
def reports (session : Session σ) : List (Operation ι) → List Diagnostic
  | [] => []
  | operation :: rest =>
      reported lexers session operation ++ reports (perform lexers session operation).2 rest

/-- The list that an operation hands over which comes after others. -/
def handedBy (session : Session σ) (before : List (Operation ι)) (operation : Operation ι) :
    Option (List Diagnostic) :=
  (perform lexers (after lexers session before) operation).1

/-- What is reported by an operation which comes after others. -/
def reportedBy (session : Session σ) (before : List (Operation ι)) (operation : Operation ι) :
    List Diagnostic :=
  reported lexers (after lexers session before) operation

variable {lexers}

theorem after_concat (session : Session σ) (operations : List (Operation ι))
    (operation : Operation ι) :
    after lexers session (operations ++ [operation]) =
      (perform lexers (after lexers session operations) operation).2 :=
  List.foldl_concat _ _ _ _

theorem reports_append (session : Session σ) (before rest : List (Operation ι)) :
    reports lexers session (before ++ rest) =
      reports lexers session before ++ reports lexers (after lexers session before) rest := by
  induction before generalizing session with
  | nil => rfl
  | cons operation before ih =>
      rw [List.cons_append, reports, reports, ih, List.append_assoc]
      rfl

theorem reports_concat (session : Session σ) (operations : List (Operation ι))
    (operation : Operation ι) :
    reports lexers session (operations ++ [operation]) =
      reports lexers session operations ++
        reportedBy lexers session operations operation := by
  rw [reports_append]
  exact congrArg _ (List.append_nil _)

/-! ## Fates -/

/-- The entries of a list at the places that satisfy a test, in order. -/
def select (entries : List α) (test : Nat → Bool) : List α :=
  (entries.zipIdx.filter fun (_, place) => test place).map Prod.fst

theorem select_congr {entries : List α} {test other : Nat → Bool}
    (alike : ∀ place < entries.length, test place = other place) :
    select entries test = select entries other := by
  refine congrArg (List.map Prod.fst) (List.filter_congr fun entry member => ?_)
  exact alike entry.2 (List.mem_zipIdx' member).1

theorem select_eq_self {entries : List α} {test : Nat → Bool}
    (all : ∀ place < entries.length, test place = true) : select entries test = entries := by
  rw [select_congr all, select, List.filter_true, List.zipIdx_map_fst]

theorem select_eq_nil {entries : List α} {test : Nat → Bool}
    (none : ∀ place < entries.length, test place = false) : select entries test = [] := by
  rw [select_congr none, select, List.filter_false]
  rfl

theorem select_append (entries more : List α) (test : Nat → Bool) :
    select (entries ++ more) test =
      select entries test ++ select more fun place => test (entries.length + place) := by
  have behind : more.zipIdx (0 + entries.length) =
      more.zipIdx.map fun (entry, place) => (entry, 0 + entries.length + place) :=
    List.zipIdx_eq_map_add
  rw [select, List.zipIdx_append, List.filter_append, List.map_append, behind, List.filter_map,
    List.map_map]
  simp only [select, Function.comp_def, Nat.zero_add]

theorem select_append_eq_append {entries more : List α} {test : Nat → Bool}
    (all : ∀ place < more.length, test (entries.length + place) = true) :
    select (entries ++ more) test = select entries test ++ more := by
  rw [select_append, select_eq_self all]

theorem select_append_eq_left {entries more : List α} {test : Nat → Bool}
    (none : ∀ place < more.length, test (entries.length + place) = false) :
    select (entries ++ more) test = select entries test := by
  rw [select_append, select_eq_nil none, List.append_nil]

theorem length_lt_of_isPrefix {before entries : List α} {entry : α}
    (isPrefix : before ++ [entry] <+: entries) : before.length < entries.length := by
  have bound := isPrefix.length_le
  rwa [List.length_append] at bound

variable (lexers) in
/-- A fate says of every tag which operation hands its diagnostic over, if one does. It is the fate of
the diagnostics of a run if the log and the lists are made up as it says, at every moment of the run. -/
structure Fates (start : Session σ) (operations : List (Operation ι)) (fate : Nat → Option Nat) :
    Prop where
  /-- The log holds what has been reported and not handed over, in the order of the tags. -/
  held : ∀ before, before <+: operations →
    (after lexers start before).log.held =
      select (reports lexers start before) fun tag => (fate tag).all (before.length ≤ ·)
  /-- A list that is handed over has the diagnostics of that fate, in the order of the tags. -/
  handed : ∀ before operation list, before ++ [operation] <+: operations →
    handedBy lexers start before operation = some list →
    list = select (reports lexers start (before ++ [operation])) fun tag =>
      fate tag == some before.length
  /-- What has the fate to be handed over has been reported by then, and a list is handed over. -/
  listed : ∀ tag place, fate tag = some place → ∃ before operation,
    before ++ [operation] <+: operations ∧ before.length = place ∧
      (handedBy lexers start before operation).isSome ∧
      tag < (reports lexers start (before ++ [operation])).length
  /-- A list that is not taken is that of a strict call. It has all that the call reports and nothing
  else, and the log holds the same diagnostics after the call as before. -/
  refused : ∀ before operation list, before ++ [operation] <+: operations → operation ≠ .take →
    handedBy lexers start before operation = some list →
    (∃ i, operation = .strict i) ∧ list = reportedBy lexers start before operation ∧
      (after lexers start (before ++ [operation])).log.held = (after lexers start before).log.held ∧
      ∀ tag, fate tag = some before.length ↔ (reports lexers start before).length ≤ tag ∧
        tag < (reports lexers start (before ++ [operation])).length

namespace Fates

variable {start : Session σ} {operations : List (Operation ι)} {fate : Nat → Option Nat}

/-- Without operations nothing is reported. -/
theorem nil (states : ∀ i, σ i) : Fates lexers ⟨states, Log.empty⟩ [] fun _ => none where
  held := by
    intro before isPrefix
    rw [List.prefix_nil.mp isPrefix]
    rfl
  handed := by
    intro before operation list isPrefix
    simp at isPrefix
  listed := fun _ _ impossible => by cases impossible
  refused := by
    intro before operation list isPrefix
    simp at isPrefix

theorem place_lt (fates : Fates lexers start operations fate) {tag place : Nat}
    (found : fate tag = some place) : place < operations.length := by
  obtain ⟨before, operation, isPrefix, rfl, -, -⟩ := fates.listed tag place found
  exact length_lt_of_isPrefix isPrefix

theorem eq_none_of_le (fates : Fates lexers start operations fate) {tag : Nat}
    (later : (reports lexers start operations).length ≤ tag) : fate tag = none := by
  cases found : fate tag with
  | none => rfl
  | some place =>
      obtain ⟨before, operation, ⟨rest, rfl⟩, -, -, bound⟩ := fates.listed tag place found
      rw [reports_append, List.length_append] at later
      omega

/-- After the last operation the log holds what no operation hands over. -/
theorem held_eq (fates : Fates lexers start operations fate) :
    (after lexers start operations).log.held =
      select (reports lexers start operations) fun tag => (fate tag).isNone := by
  rw [fates.held operations List.prefix_rfl]
  refine select_congr fun tag _ => ?_
  cases found : fate tag with
  | none => rfl
  | some place => simpa using fates.place_lt found

/-- The fates of a run that goes on for one operation, which hands over some of what is left. -/
def later (fate : Nat → Option Nat) (moved : Nat → Bool) (place tag : Nat) : Option Nat :=
  (fate tag).or (if moved tag then some place else none)

theorem later_eq_some_iff {moved : Nat → Bool} {place tag other : Nat} :
    later fate moved place tag = some other ↔
      fate tag = some other ∨ fate tag = none ∧ moved tag = true ∧ place = other := by
  rw [later, Option.or_eq_some_iff]
  cases moved tag with
  | false => simp
  | true => simp

/-- To a list handed over before nothing is added. -/
theorem later_eq_some_iff_of_lt {moved : Nat → Bool} {place tag other : Nat} (bound : other < place) :
    later fate moved place tag = some other ↔ fate tag = some other := by
  rw [later_eq_some_iff]
  exact or_iff_left fun ⟨_, _, same⟩ => Nat.ne_of_gt bound same

/-- What is not handed over by a moment is the same for all that comes later. -/
theorem all_later {moved : Nat → Bool} {place tag moment : Nat} (bound : moment ≤ place) :
    (later fate moved place tag).all (moment ≤ ·) = (fate tag).all (moment ≤ ·) := by
  rw [later]
  cases fate tag with
  | some other => rfl
  | none =>
      cases moved tag with
      | false => rfl
      | true => simpa using bound

/-- The operation that comes next hands over what is moved of all that no list has. -/
theorem later_eq_length_iff (fates : Fates lexers start operations fate) {moved : Nat → Bool}
    {tag : Nat} :
    later fate moved operations.length tag = some operations.length ↔
      fate tag = none ∧ moved tag = true := by
  rw [later_eq_some_iff]
  constructor
  · rintro (found | ⟨left, chosen, -⟩)
    · exact absurd (fates.place_lt found) (Nat.lt_irrefl _)
    · exact ⟨left, chosen⟩
  · rintro ⟨left, chosen⟩
    exact .inr ⟨left, chosen, rfl⟩

/-- One operation more: the log is left with what is not moved, and what is moved makes up the list. -/
theorem extend (fates : Fates lexers start operations fate) {operation : Operation ι}
    (moved : Nat → Bool)
    (held : (after lexers start (operations ++ [operation])).log.held =
      select (reports lexers start (operations ++ [operation])) fun tag =>
        (fate tag).isNone && !moved tag)
    (handed : ∀ list, handedBy lexers start operations operation = some list →
      list = select (reports lexers start (operations ++ [operation])) fun tag =>
        (fate tag).isNone && moved tag)
    (listed : ∀ tag, moved tag = true →
      (handedBy lexers start operations operation).isSome ∧
        tag < (reports lexers start (operations ++ [operation])).length)
    (refused : operation ≠ .take → ∀ list,
      handedBy lexers start operations operation = some list →
      (∃ i, operation = .strict i) ∧ list = reportedBy lexers start operations operation ∧
        (after lexers start (operations ++ [operation])).log.held =
          (after lexers start operations).log.held ∧
        ∀ tag, fate tag = none ∧ moved tag = true ↔
          (reports lexers start operations).length ≤ tag ∧
            tag < (reports lexers start (operations ++ [operation])).length) :
    Fates lexers start (operations ++ [operation]) (later fate moved operations.length) where
  held := by
    intro before isPrefix
    rcases List.prefix_concat_iff.mp isPrefix with rfl | isPrefix
    · rw [held]
      refine select_congr fun tag _ => ?_
      rw [later]
      cases found : fate tag with
      | none => cases moved tag <;> simp
      | some place => simpa using Nat.lt_succ_of_lt (fates.place_lt found)
    · rw [fates.held before isPrefix]
      exact select_congr fun tag _ => (all_later isPrefix.length_le).symm
  handed := by
    intro before other list isPrefix given
    rcases List.prefix_concat_iff.mp isPrefix with same | isPrefix
    · obtain ⟨rfl, rfl⟩ := List.append_singleton_inj.mp same
      rw [handed list given]
      refine select_congr fun tag _ => Bool.eq_iff_iff.mpr ?_
      rw [beq_iff_eq, fates.later_eq_length_iff, Bool.and_eq_true, Option.isNone_iff_eq_none]
    · rw [fates.handed before other list isPrefix given]
      refine select_congr fun tag _ => Bool.eq_iff_iff.mpr ?_
      rw [beq_iff_eq, beq_iff_eq, later_eq_some_iff_of_lt (length_lt_of_isPrefix isPrefix)]
  listed := by
    intro tag place found
    rcases later_eq_some_iff.mp found with found | ⟨-, chosen, rfl⟩
    · obtain ⟨before, other, isPrefix, rest⟩ := fates.listed tag place found
      exact ⟨before, other, isPrefix.trans (List.prefix_append _ _), rest⟩
    · exact ⟨operations, operation, List.prefix_rfl, rfl, listed tag chosen⟩
  refused := by
    intro before other list isPrefix gone given
    rcases List.prefix_concat_iff.mp isPrefix with same | isPrefix
    · obtain ⟨rfl, rfl⟩ := List.append_singleton_inj.mp same
      obtain ⟨strict, own, kept, tags⟩ := refused gone list given
      refine ⟨strict, own, kept, fun tag => ?_⟩
      rw [fates.later_eq_length_iff, tags]
    · obtain ⟨strict, own, kept, tags⟩ := fates.refused before other list isPrefix gone given
      refine ⟨strict, own, kept, fun tag => ?_⟩
      rw [later_eq_some_iff_of_lt (length_lt_of_isPrefix isPrefix), tags]

/-- What has not been reported yet has no fate. -/
theorem isNone_add (fates : Fates lexers start operations fate) (tag : Nat) :
    (fate ((reports lexers start operations).length + tag)).isNone = true := by
  rw [fates.eq_none_of_le (Nat.le_add_right _ tag)]
  rfl

variable {operation : Operation ι}

/-- An operation that hands nothing over leaves every fate as it is. -/
theorem of_kept (fates : Fates lexers start operations fate)
    (silent : handedBy lexers start operations operation = none)
    (grown : (perform lexers (after lexers start operations) operation).2.log.held =
      (after lexers start operations).log.held ++
        reportedBy lexers start operations operation) :
    Fates lexers start (operations ++ [operation])
      (later fate (fun _ => false) operations.length) := by
  refine fates.extend _ ?held (by simp [silent]) (by simp) (by simp [silent])
  rw [after_concat, grown, reports_concat, select_append_eq_append, fates.held_eq]
  · simp
  · intro tag _
    simp [fates.isNone_add]

/-- All that no list has by then is taken. -/
theorem of_taken (fates : Fates lexers start operations fate) (take : operation = .take)
    (quiet : reportedBy lexers start operations operation = [])
    (all : handedBy lexers start operations operation =
      some (after lexers start operations).log.held)
    (empty : (perform lexers (after lexers start operations) operation).2.log.held = []) :
    Fates lexers start (operations ++ [operation])
      (later fate (fun tag => decide (tag < (reports lexers start operations).length))
        operations.length) := by
  have same : reports lexers start (operations ++ [operation]) = reports lexers start operations := by
    rw [reports_concat, quiet, List.append_nil]
  refine fates.extend _ ?held ?handed ?listed (absurd take)
  case held =>
    rw [after_concat, empty, same, select_eq_nil]
    intro tag bound
    simp [bound]
  case handed =>
    intro list given
    have whole := Option.some.inj (given.symm.trans all)
    rw [whole, fates.held_eq, same]
    apply select_congr
    intro tag bound
    simp [bound]
  case listed =>
    intro tag bound
    rw [all, same]
    exact ⟨rfl, of_decide_eq_true bound⟩

/-- A strict call that fails hands over what it reported, and what was pending stays pending. -/
theorem of_refused (fates : Fates lexers start operations fate)
    (strict : ∃ i, operation = .strict i)
    (own : handedBy lexers start operations operation =
      some (reportedBy lexers start operations operation))
    (same : (perform lexers (after lexers start operations) operation).2.log.held =
      (after lexers start operations).log.held) :
    Fates lexers start (operations ++ [operation])
      (later fate (fun tag => decide ((reports lexers start operations).length ≤ tag ∧
        tag < (reports lexers start (operations ++ [operation])).length)) operations.length) := by
  refine fates.extend _ ?held ?handed ?listed ?refused
  case held =>
    rw [after_concat, same, fates.held_eq, reports_concat, select_append_eq_left]
    · apply select_congr
      intro tag bound
      simp [Nat.not_le.mpr bound]
    · intro tag bound
      simp [bound]
  case handed =>
    intro list given
    have whole := Option.some.inj (given.symm.trans own)
    rw [whole, reports_concat, select_append_eq_append, select_eq_nil, List.nil_append]
    · intro tag bound
      simp [Nat.not_le.mpr bound]
    · intro tag bound
      simp [fates.isNone_add, bound]
  case listed =>
    intro tag bounds
    rw [own]
    exact ⟨rfl, (of_decide_eq_true bounds).2⟩
  case refused =>
    intro _ list given
    rw [after_concat]
    refine ⟨strict, Option.some.inj (given.symm.trans own), same, fun tag => ?_⟩
    rw [decide_eq_true_iff]
    exact and_iff_right_of_imp fun bounds => fates.eq_none_of_le bounds.1

/-- Whatever the next operation is, there are fates for the run that goes on with it. -/
theorem concat (only : ∀ i, (lexers i).OnlyReports) (fates : Fates lexers start operations fate)
    (operation : Operation ι) : ∃ next, Fates lexers start (operations ++ [operation]) next := by
  cases perform_moves only (after lexers start operations) operation with
  | kept silent grown => exact ⟨_, fates.of_kept silent grown⟩
  | taken take quiet all empty => exact ⟨_, fates.of_taken take quiet all empty⟩
  | refused strict own same => exact ⟨_, fates.of_refused strict own same⟩

end Fates

/-- At every moment of every run, each diagnostic reported so far is held or is in the one list that its
fate names. The log and every list have theirs in the order they were reported in, and a list that a
strict call fails with has what was reported during that call, all of it and nothing else. -/
theorem exists_fates (lexers : ∀ i, Lexer (σ i) Log (τ i)) (only : ∀ i, (lexers i).OnlyReports)
    (states : ∀ i, σ i) (operations : List (Operation ι)) :
    ∃ fate, Fates lexers ⟨states, Log.empty⟩ operations fate := by
  -- an operation decides the fates of what is pending, so the run is built up from its start
  induction operations using List.reverseRecOn with
  | nil => exact ⟨_, Fates.nil states⟩
  | append_singleton operations operation ih =>
      obtain ⟨fate, fates⟩ := ih
      exact fates.concat only operation

/-- Scanners, of which one overflows and others are called strictly or drained, and a lexer that comes
to no end, with diagnostics of all of them pending in between. -/
theorem exists_fates_mixed :
    ∃ fate, @Fates (Option Nat) _ (fun i => i.elim (ReplayLexer Token) fun _ => Scanner)
      (fun _ => Token)
      (fun
        | none => ReplayLexer.lex
        | some _ => Scanner.lex)
      ⟨fun
        | none => ⟨[⟨.identifier, "a", 0⟩]⟩
        | some distance => .ofFile ⟨Position.limit - distance, "$ a $"⟩ Lexicon.standard, Log.empty⟩
      [.report 7 "expected a rule", .lex (some 1), .strict (some 9), .drain none 3,
        .push ⟨none, "no rules"⟩, .take, .drain (some 8) 0, .strict (some 1), .strict (some 10)]
      fate := by
  apply exists_fates
  rintro (_ | distance)
  · exact ReplayLexer.lex_onlyReports
  · exact Scanner.lex_onlyReports

end Session

end Lexing
