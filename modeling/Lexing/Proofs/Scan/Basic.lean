import Lexing.Proofs.Extent
import Lexing.Scan

/-! # What a scan comes to

A part of a scan is a function of the position at which its text starts only in what it reports and in
whether it ends early. `Does` says so: from a place in a text the part comes to a value and to a place
further on, and makes findings, each with the offset after the last one looked at by then. If that has
no position the findings before are reported, and the part ends. Parts in a row do what each of them
does, so what a whole scan does is put together from what its looks do. -/

namespace Lexing

/-- A finding, and the offset after the last one looked at when it is made. -/
abbrev Made := Lexeme.Finding × Nat

namespace Scan

/-! ## Places -/

/-- Where a scan stands, and the offset after the last one it looked at. It looks no further than at
the next character. -/
@[ext]
structure Place where
  cursor : Cursor
  looked : Nat
  looked_le : looked ≤ cursor.offset + 1

namespace Place

/-- The place at which the scan of a text starts. -/
def start (text : List Char) : Place := ⟨.start text, 0, Nat.zero_le _⟩

/-- The position of the cursor is taken. -/
def look (place : Place) : Place := ⟨place.cursor, place.cursor.offset + 1, Nat.le_refl _⟩

/-- The next character is looked at, if there is one. -/
def glance (place : Place) : Place := if place.cursor.rest = [] then place else place.look

/-- Letters are passed without looking at them. -/
def pass (place : Place) (letters : List Char) : Place where
  cursor := place.cursor.pass letters
  looked := place.looked
  looked_le := place.looked_le.trans (Nat.succ_le_succ (Nat.le_add_right _ _))

theorem looked_take_le (place : Place) (letters : List Char) :
    (if letters = [] then place.looked else place.cursor.offset + Text.lastOffset letters + 1) ≤
      (place.cursor.pass letters).offset + 1 := by
  split
  · exact place.looked_le.trans (Nat.succ_le_succ (Nat.le_add_right _ _))
  · exact Nat.succ_le_succ (Nat.add_le_add_left (Text.lastOffset_le_width letters) _)

/-- Letters are passed, and each of them is looked at. -/
def take (place : Place) (letters : List Char) : Place where
  cursor := place.cursor.pass letters
  looked :=
    if letters = [] then place.looked else place.cursor.offset + Text.lastOffset letters + 1
  looked_le := place.looked_take_le letters

@[simp] theorem cursor_look (place : Place) : place.look.cursor = place.cursor := rfl

@[simp] theorem looked_look (place : Place) : place.look.looked = place.cursor.offset + 1 := rfl

@[simp] theorem cursor_glance (place : Place) : place.glance.cursor = place.cursor := by
  unfold glance
  split <;> rfl

@[simp] theorem cursor_pass (place : Place) (letters : List Char) :
    (place.pass letters).cursor = place.cursor.pass letters := rfl

@[simp] theorem cursor_take (place : Place) (letters : List Char) :
    (place.take letters).cursor = place.cursor.pass letters := rfl

theorem looked_take (place : Place) (letters : List Char) :
    (place.take letters).looked = if letters = [] then place.looked
      else place.cursor.offset + Text.lastOffset letters + 1 := rfl

theorem glance_of_nil {place : Place} (none : place.cursor.rest = []) : place.glance = place :=
  if_pos none

theorem glance_of_cons {place : Place} {c : Char} {others : List Char}
    (left : place.cursor.rest = c :: others) : place.glance = place.look :=
  if_neg (by rw [left]; exact List.cons_ne_nil c others)

@[simp] theorem glance_glance (place : Place) : place.glance.glance = place.glance := by
  by_cases none : place.cursor.rest = []
  · rw [glance_of_nil none, glance_of_nil none]
  · simp only [glance, none, if_false, cursor_look]
    rfl

theorem cursor_eq_of_glance {place other : Place} (alike : place.glance = other.glance) :
    place.cursor = other.cursor := by
  have same := congrArg cursor alike
  rwa [cursor_glance, cursor_glance] at same

@[simp] theorem look_glance (place : Place) : place.glance.look = place.look := by
  unfold glance
  split <;> rfl

@[simp] theorem take_nil (place : Place) : place.take [] = place := rfl

theorem take_append (place : Place) (early late : List Char) :
    place.take (early ++ late) = (place.take early).take late := by
  by_cases none : late = []
  · rw [none, List.append_nil, take_nil]
  · apply Place.ext
    · exact place.cursor.pass_append early late
    · simp only [take, none, List.append_eq_nil_iff, and_false, if_false, Cursor.pass,
        Text.lastOffset_append early none, Nat.add_assoc]

theorem look_congr {place other : Place} (same : place.cursor = other.cursor) :
    place.look = other.look := by
  apply Place.ext
  · exact same
  · rw [looked_look, looked_look, same]

/-- Where letters are looked at, what was looked at before makes no difference. -/
theorem take_congr {place other : Place} (same : place.cursor = other.cursor) {letters : List Char}
    (nonempty : letters ≠ []) : place.take letters = other.take letters := by
  apply Place.ext
  · rw [cursor_take, cursor_take, same]
  · simp only [take, nonempty, if_false, same]

/-- Places from which looking at the next character leads to one place are not told apart by letters
behind them. -/
theorem glance_take_congr {place other : Place} (alike : place.glance = other.glance)
    (letters : List Char) : (place.take letters).glance = (other.take letters).glance := by
  by_cases none : letters = []
  · rw [none, take_nil, take_nil, alike]
  · rw [take_congr (cursor_eq_of_glance alike) none]

/-- Letters are taken, and behind them the position is taken if something is missing there. -/
def stop (place : Place) (letters : List Char) (missing : Bool) : Place :=
  if missing then (place.take letters).look else place.take letters

@[simp] theorem cursor_stop (place : Place) (letters : List Char) (missing : Bool) :
    (place.stop letters missing).cursor = place.cursor.pass letters := by
  cases missing <;> rfl

theorem stop_append (place : Place) (early late : List Char) (missing : Bool) :
    place.stop (early ++ late) missing = (place.take early).stop late missing := by
  rw [stop, take_append, stop]

theorem glance_stop_congr {place other : Place} (alike : place.glance = other.glance)
    (letters : List Char) (missing : Bool) :
    (place.stop letters missing).glance = (other.stop letters missing).glance := by
  have behind := glance_take_congr alike letters
  cases missing with
  | false => exact behind
  | true => exact congrArg glance (look_congr (cursor_eq_of_glance behind))

end Place

/-! ## What is next -/

/-- At the end of a text nothing is next. -/
theorem forall_head_of_nil {holds : Char → Prop} {text : List Char} (atEnd : text = []) :
    ∀ c, text.head? = some c → holds c := by
  rw [atEnd]
  exact fun c found => absurd found (Option.not_mem_none c)

theorem forall_head_of_cons {holds : Char → Prop} {text others : List Char} {first : Char}
    (left : text = first :: others) (kind : holds first) : ∀ c, text.head? = some c → holds c := by
  rw [left]
  exact fun c found => Option.some.inj found ▸ kind

/-! ## Parts of a scan -/

/-- From a place a part of a scan comes to a value and another place, and makes findings. -/
structure Does (origin : Nat) (part : Scan α) (place : Place) (value : α) (next : Place)
    (made : List Made) : Prop where
  onward : place.looked ≤ next.looked
  between : ∀ entry ∈ made, place.looked ≤ entry.2 ∧ entry.2 ≤ next.looked
  run : Position.fits origin place.looked = true → ∀ log, part origin place.cursor log =
    if Position.fits origin next.looked then
      (.ok (value, next.cursor), log.append (made.map fun entry => entry.1.diagnostic origin))
    else
      (.error .position, log.append
        ((made.takeWhile fun entry => Position.fits origin entry.2).map
          fun entry => entry.1.diagnostic origin))

theorem bind_apply (part : Scan α) (follow : α → Scan β) (origin : Nat) (cursor : Cursor) (log : Log) :
    (part >>= follow) origin cursor log =
      match part origin cursor log with
      | (.ok (value, next), log) => follow value origin next log
      | (.error overflow, log) => (.error overflow, log) := by
  cases result : part origin cursor log with
  | mk outcome after =>
      simp only [Bind.bind, ReaderT.bind, StateT.bind, ExceptT.bind, ExceptT.mk, result]
      cases outcome <;> rfl

namespace Does

variable {origin : Nat} {part : Scan α} {place next last : Place} {value : α} {made more : List Made}

/-- A part that reports nothing. -/
theorem silent (onward : place.looked ≤ next.looked)
    (run : Position.fits origin place.looked = true → ∀ log, part origin place.cursor log =
      if Position.fits origin next.looked then (.ok (value, next.cursor), log)
      else (.error .position, log)) :
    Does origin part place value next [] where
  onward := onward
  between := fun _ member => absurd member List.not_mem_nil
  run := by
    intro fits log
    simp only [run fits log, List.map_nil, List.takeWhile_nil, Log.append_nil]

/-- A part that looks at nothing and reports nothing. -/
theorem quiet (onward : place.looked = next.looked)
    (run : Position.fits origin place.looked = true → ∀ log,
      part origin place.cursor log = (.ok (value, next.cursor), log)) :
    Does origin part place value next [] :=
  silent (Nat.le_of_eq onward) fun fits log => by rw [run fits log, ← onward, if_pos fits]

theorem pure (value : α) (place : Place) : Does origin (pure value) place value place [] :=
  quiet rfl fun _ _ => rfl

/-- Two parts in a row make the findings of the one and then those of the other. -/
theorem bind {f : α → Scan β} {result : β} (first : Does origin part place value next made)
    (second : Does origin (f value) next result last more) :
    Does origin (part >>= f) place result last (made ++ more) where
  onward := first.onward.trans second.onward
  between := by
    intro entry member
    rcases List.mem_append.mp member with early | late
    · exact ⟨(first.between entry early).1, (first.between entry early).2.trans second.onward⟩
    · exact ⟨first.onward.trans (second.between entry late).1, (second.between entry late).2⟩
  run := by
    intro fits log
    rw [bind_apply, first.run fits]
    by_cases inside : Position.fits origin next.looked = true
    · -- the first part comes to its end, so everything that it finds has a position
      have all : ∀ entry ∈ made, Position.fits origin entry.2 = true := fun entry member =>
        Position.fits_of_le (first.between entry member).2 inside
      rw [if_pos inside]
      dsimp only
      rw [second.run inside, List.takeWhile_append_of_pos all, List.map_append, List.map_append,
        Log.append_append, Log.append_append]
    · -- the first part ends early, and what the second finds is found too late
      have outside : ¬ Position.fits origin last.looked = true := fun fits =>
        inside (Position.fits_of_le second.onward fits)
      have late : more.takeWhile (fun entry => Position.fits origin entry.2) = [] := by
        cases more with
        | nil => rfl
        | cons entry others =>
            have reached := (second.between entry List.mem_cons_self).1
            exact List.takeWhile_cons_of_neg fun fits => inside (Position.fits_of_le reached fits)
      have early : (made ++ more).takeWhile (fun entry => Position.fits origin entry.2) =
          made.takeWhile fun entry => Position.fits origin entry.2 := by
        rw [List.takeWhile_append, late, List.append_nil]
        split
        · rename_i whole
          exact ((List.takeWhile_prefix _).eq_of_length whole).symm
        · rfl
      rw [if_neg inside, if_neg outside, early]

/-- Behind a part that reports nothing the findings are those of the other. -/
theorem before {f : α → Scan β} {result : β} (first : Does origin part place value next [])
    (second : Does origin (f value) next result last made) :
    Does origin (part >>= f) place result last made :=
  first.bind second

/-- In front of a part that reports nothing the findings are those of the one. -/
theorem before_silent {f : α → Scan β} {result : β} (first : Does origin part place value next made)
    (second : Does origin (f value) next result last []) :
    Does origin (part >>= f) place result last made := by
  have both := first.bind second
  rwa [List.append_nil] at both

/-- What a part does is known where another one runs alike. -/
theorem congr {other : Scan α} (does : Does origin part place value next made)
    (alike : Position.fits origin place.looked = true → ∀ log,
      other origin place.cursor log = part origin place.cursor log) :
    Does origin other place value next made where
  onward := does.onward
  between := does.between
  run := fun fits log => (alike fits log).trans (does.run fits log)

theorem read (place : Place) : Does origin (MonadReader.read : Scan Nat) place origin place [] :=
  quiet rfl fun _ _ => rfl

theorem get (place : Place) : Does origin (MonadState.get : Scan Cursor) place place.cursor place [] :=
  quiet rfl fun _ _ => rfl

theorem pass (place : Place) (letters : List Char) :
    Does origin (Scan.pass letters) place () (place.pass letters) [] :=
  quiet rfl fun _ _ => rfl

/-- An offset that was looked at has a position. -/
theorem advance {offset : Nat} (seen : offset < place.looked) :
    Does origin (MonadExcept.ofExcept (Position.advance origin offset) : Scan Nat) place
      (origin + offset) place [] := by
  apply quiet rfl
  intro fits log
  rw [Position.advance, if_pos (Position.fits_succ.mp (Position.fits_of_le seen fits))]
  rfl

theorem position (origin : Nat) (place : Place) :
    Does origin Scan.position place (origin + place.cursor.offset) place.look [] := by
  apply silent place.looked_le
  intro _ log
  have advanced : Scan.position origin place.cursor log =
      (MonadExcept.ofExcept (Position.advance origin place.cursor.offset) : Scan Nat)
        origin place.cursor log := rfl
  rw [advanced, Position.advance, Place.looked_look]
  by_cases inside : origin + place.cursor.offset < Position.limit
  · rw [if_pos inside, if_pos (Position.fits_succ.mpr inside)]
    rfl
  · rw [if_neg inside, if_neg fun fits => inside (Position.fits_succ.mp fits)]
    rfl

/-- A report is made by when everything so far was looked at. -/
theorem report (origin : Nat) (place : Place) (offset : Nat) (fault : Lexeme.Fault) :
    Does origin (Scan.report (origin + offset) fault) place () place
      [(⟨offset, fault⟩, place.looked)] where
  onward := Nat.le_refl _
  between := by
    intro entry member
    rw [List.mem_singleton.mp member]
    exact ⟨Nat.le_refl _, Nat.le_refl _⟩
  run := by
    intro fits log
    rw [if_pos fits]
    rfl

/-! ## Single characters -/

variable (origin) {c : Char} {others : List Char}

theorem peek_nil (atEnd : place.cursor.rest = []) : Does origin peek place none place [] := by
  apply (get place).before
  rw [atEnd]
  exact pure _ place

theorem peek_cons (left : place.cursor.rest = c :: others) :
    Does origin peek place (some (c, origin + place.cursor.offset)) place.look [] := by
  apply (get place).before
  rw [left]
  exact (position origin place).before (pure _ _)

theorem next_cons (left : place.cursor.rest = c :: others) :
    Does origin Scan.next place (some (c, origin + place.cursor.offset)) (place.take [c]) [] :=
  (peek_cons origin left).before ((pass place.look [c]).before (pure _ _))

/-- A character that was looked at already is taken as well. -/
theorem next_look (left : place.cursor.rest = c :: others) :
    Does origin Scan.next place.look (some (c, origin + place.cursor.offset)) (place.take [c]) [] :=
  next_cons origin left

theorem nextIf_holds (holds : Char → Bool) (left : place.cursor.rest = c :: others)
    (kind : holds c = true) :
    Does origin (nextIf holds) place (some (c, origin + place.cursor.offset)) (place.take [c]) [] := by
  apply (peek_cons origin left).before
  dsimp only
  rw [if_pos kind]
  exact next_cons origin left

/-- Where the next character is of another kind it was looked at. -/
theorem nextIf_fails (holds : Char → Bool)
    (other : ∀ c, place.cursor.rest.head? = some c → holds c = false) :
    Does origin (nextIf holds) place none place.glance [] := by
  cases left : place.cursor.rest with
  | nil =>
      rw [Place.glance_of_nil left]
      exact (peek_nil origin left).before (pure _ place)
  | cons c others =>
      rw [Place.glance_of_cons left]
      apply (peek_cons origin left).before
      dsimp only
      rw [other c (by rw [left]; rfl)]
      exact pure _ place.look

end Does

/-! ## Steps again and again -/

/-- A step gives values one by one, and passes something with each of them. -/
inductive Collects (origin : Nat) (step : Scan (Option α)) :
    Place → List α → Place → List Made → Prop where
  | ends {place next : Place} {made : List Made} (nothing : Does origin step place none next made) :
      Collects origin step place [] next made
  | gives {place next last : Place} {value : α} {values : List α} {made more : List Made}
      (one : Does origin step place (some value) next made)
      (shorter : next.cursor.rest.length < place.cursor.rest.length)
      (behind : Collects origin step next values last more) :
      Collects origin step place (value :: values) last (made ++ more)

/-- All that a step gives is collected. -/
theorem Collects.does {origin : Nat} {step : Scan (Option α)} {place last : Place} {values : List α}
    {made : List Made} (collects : Collects origin step place values last made) :
    Does origin (collect step) place values last made := by
  -- in the middle of a run some values are collected already
  suffices ∀ collected : List α, Does origin (collectAfter step collected) place
      (collected.reverse ++ values) last made from this []
  induction collects with
  | @ends place next made nothing =>
      intro collected
      rw [List.append_nil]
      apply (nothing.before_silent (f := fun _ => pure collected.reverse) (.pure _ next)).congr
      intro fits log
      rw [collectAfter, bind_apply, nothing.run fits]
      by_cases inside : Position.fits origin next.looked = true
      · rw [if_pos inside]
        rfl
      · rw [if_neg inside]
  | @gives place next last value values made more one shorter behind ih =>
      intro collected
      have rest := ih (value :: collected)
      rw [List.reverse_cons, List.append_assoc, List.singleton_append] at rest
      apply (one.bind (f := fun _ => collectAfter step (value :: collected)) rest).congr
      intro fits log
      rw [collectAfter, bind_apply, one.run fits]
      by_cases inside : Position.fits origin next.looked = true
      · rw [if_pos inside]
        dsimp only
        rw [if_pos shorter]
      · rw [if_neg inside]

/-- Characters of a kind are taken one by one, and the one behind them is looked at. -/
theorem Does.takeWhile (origin : Nat) (holds : Char → Bool) (place : Place) :
    Does origin (Scan.takeWhile holds) place (place.cursor.rest.takeWhile holds)
      (place.take (place.cursor.rest.takeWhile holds)).glance [] := by
  suffices ∃ taken, taken.map Prod.fst = place.cursor.rest.takeWhile holds ∧
      Collects origin (nextIf holds) place taken
        (place.take (place.cursor.rest.takeWhile holds)).glance [] by
    obtain ⟨taken, letters, collects⟩ := this
    have does := collects.does.before (f := fun taken => Pure.pure (taken.map Prod.fst)) (.pure _ _)
    rwa [letters] at does
  induction left : place.cursor.rest generalizing place with
  | nil =>
      exact ⟨[], rfl, .ends (nextIf_fails origin holds (forall_head_of_nil left))⟩
  | cons c others ih =>
      cases kind : holds c with
      | false =>
          rw [List.takeWhile_cons_of_neg (by simp [kind])]
          exact ⟨[], rfl, .ends (nextIf_fails origin holds (forall_head_of_cons left kind))⟩
      | true =>
          rw [List.takeWhile_cons_of_pos kind]
          have shorter : (place.take [c]).cursor.rest = others := by
            rw [Place.cursor_take, Cursor.pass, left]
            rfl
          obtain ⟨taken, letters, collects⟩ := ih (place.take [c]) shorter
          rw [← List.singleton_append, Place.take_append]
          refine ⟨_ :: taken, ?_, .gives (nextIf_holds origin holds left kind) ?_ collects⟩
          · rw [List.map_cons, letters]
            rfl
          · rw [shorter, left]
            exact Nat.lt_succ_self _

/-! ## Parts that take letters -/

/-- From a place a part comes to a value and to a place, or to one that looking at the next character
makes the same. What follows looks at that character anyway. -/
def Leads (origin : Nat) (part : Scan α) (place : Place) (value : α) (target : Place)
    (made : List Made) : Prop :=
  ∃ next, Does origin part place value next made ∧ next.glance = target.glance

/-- A part that takes letters and looks at each of them. -/
abbrev Takes (origin : Nat) (part : Scan α) (place : Place) (value : α) (letters : List Char)
    (made : List Made) : Prop :=
  Leads origin part place value (place.take letters) made

namespace Takes

variable {origin : Nat} {part : Scan α} {place : Place} {value : α} {letters more : List Char}
  {made others : List Made}

theorem of_does (does : Does origin part place value (place.take letters) made) :
    Takes origin part place value letters made := ⟨_, does, rfl⟩

theorem of_glance (does : Does origin part place value (place.take letters).glance made) :
    Takes origin part place value letters made := ⟨_, does, Place.glance_glance _⟩

/-- A part that only looks at the next character takes nothing. -/
theorem of_look {c : Char} {rest : List Char} (left : place.cursor.rest = c :: rest)
    (does : Does origin part place value place.look made) : Takes origin part place value [] made := by
  rw [← Place.glance_of_cons left] at does
  exact of_glance does

/-- A part that takes a letter may look at it before. -/
theorem peek {f : Option (Char × Nat) → Scan α} {c : Char} {rest : List Char}
    (left : place.cursor.rest = c :: rest) (nonempty : letters ≠ [])
    (takes : Takes origin (f (some (c, origin + place.cursor.offset))) place.look value letters made) :
    Takes origin (Scan.peek >>= f) place value letters made := by
  obtain ⟨next, does, alike⟩ := takes
  refine ⟨next, (Does.peek_cons origin left).before does, ?_⟩
  rw [alike, Place.take_congr place.cursor_look nonempty]

/-- Behind a part that takes letters another one stops behind more letters. -/
theorem stop {f : α → Scan β} {result : β} {missing : Bool}
    (first : Takes origin part place value letters made)
    (second : ∀ next : Place, next.cursor = place.cursor.pass letters →
      Leads origin (f value) next result (next.stop more missing) others) :
    Leads origin (part >>= f) place result (place.stop (letters ++ more) missing) (made ++ others) := by
  obtain ⟨next, one, alike⟩ := first
  obtain ⟨last, two, behind⟩ := second next (Place.cursor_eq_of_glance alike)
  refine ⟨last, one.bind two, ?_⟩
  rw [behind, Place.stop_append, Place.glance_stop_congr alike]

/-- Behind a part that takes letters another one takes nothing. -/
theorem stop_here {f : α → Scan β} {result : β} {missing : Bool}
    (first : Takes origin part place value letters made)
    (second : ∀ next : Place, next.cursor = place.cursor.pass letters →
      Does origin (f value) next result (next.stop [] missing) others) :
    Leads origin (part >>= f) place result (place.stop letters missing) (made ++ others) := by
  have leads := first.stop fun next moved => ⟨_, second next moved, rfl⟩
  rwa [List.append_nil] at leads

/-- Two parts in a row take the letters of the one and then those of the other. -/
theorem bind {f : α → Scan β} {result : β} (first : Takes origin part place value letters made)
    (second : ∀ next : Place, next.cursor = place.cursor.pass letters →
      Takes origin (f value) next result more others) :
    Takes origin (part >>= f) place result (letters ++ more) (made ++ others) :=
  first.stop fun next moved => show Leads origin (f value) next result (next.stop more false) others
    from second next moved

/-- Behind a part that takes letters a value is given that is known by then. -/
theorem before {f : α → Scan β} {result : β} (first : Takes origin part place value letters made)
    (second : ∀ next, Does origin (f value) next result next []) :
    Takes origin (part >>= f) place result letters made := by
  obtain ⟨next, one, alike⟩ := first
  exact ⟨next, one.before_silent (second next), alike⟩

end Takes

/-- From a place a step that takes letters gives values until it gives nothing. -/
def TakesAll (origin : Nat) (step : Scan (Option α)) (place : Place) (values : List α)
    (letters : List Char) (made : List Made) : Prop :=
  ∃ last, Collects origin step place values last made ∧ last.glance = (place.take letters).glance

namespace TakesAll

variable {origin : Nat} {step : Scan (Option α)} {place : Place} {value : α} {values : List α}
  {letters more : List Char} {made others : List Made}

theorem takes (all : TakesAll origin step place values letters made) :
    Takes origin (collect step) place values letters made := by
  obtain ⟨last, collects, alike⟩ := all
  exact ⟨last, collects.does, alike⟩

theorem ends (nothing : Takes origin step place none [] made) :
    TakesAll origin step place [] [] made := by
  obtain ⟨last, does, alike⟩ := nothing
  exact ⟨last, .ends does, alike⟩

theorem gives (one : Takes origin step place (some value) letters made)
    (nonempty : letters ≠ []) (left : place.cursor.rest ≠ [])
    (behind : ∀ next : Place, next.cursor = place.cursor.pass letters →
      TakesAll origin step next values more others) :
    TakesAll origin step place (value :: values) (letters ++ more) (made ++ others) := by
  obtain ⟨next, does, alike⟩ := one
  have moved : next.cursor = place.cursor.pass letters := Place.cursor_eq_of_glance alike
  obtain ⟨last, collects, same⟩ := behind next moved
  refine ⟨last, .gives does ?_ collects, ?_⟩
  · have some := List.length_pos_iff.mpr left
    have taken := List.length_pos_iff.mpr nonempty
    rw [moved, Cursor.pass, List.length_drop]
    omega
  · rw [same, Place.take_append, Place.glance_take_congr alike]

end TakesAll

end Scan

end Lexing
