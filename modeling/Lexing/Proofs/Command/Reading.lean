import Lexing.Proofs.Command.Spelling
import Mathlib.Data.List.Induction

/-! # Reading the arguments

Reading accepts exactly the arguments that spell items of which none is given more often than it may
be, and gives these items. While it reads, an argument that is still pending counts as read: whether it
may stand where it does is only told by what settles it. -/

namespace Lexing.Command

/-! ## Items -/

namespace Item

/-- The value that an item gives to a setting. -/
def value? (setting : Setting) : Item → Option String
  | .setting name value => if name = setting then some value else none
  | _ => none

/-- Two items of which only one may be given: the same flag, two comment prefixes, or two files. -/
def Repeats : Item → Item → Prop
  | .flag first, .flag second => first = second
  | .setting .commentPrefix _, .setting .commentPrefix _ => True
  | .file _, .file _ => True
  | _, _ => False

variable {item : Item}

theorem repeats_flag_iff {flag : Flag} : item.Repeats (.flag flag) ↔ item = .flag flag := by
  cases item with
  | flag other => simp [Repeats]
  | setting name value => simp [Repeats]
  | file path => simp [Repeats]

theorem repeats_setting_iff {setting : Setting} {value : String} :
    item.Repeats (.setting setting value) ↔
      setting = .commentPrefix ∧ ∃ other, item = .setting .commentPrefix other := by
  cases item with
  | flag flag => simp [Repeats]
  | setting name other => cases name <;> cases setting <;> simp [Repeats]
  | file path => simp [Repeats]

theorem repeats_file_iff {path : String} : item.Repeats (.file path) ↔ ∃ other, item = .file other := by
  cases item with
  | flag flag => simp [Repeats]
  | setting name value => simp [Repeats]
  | file other => simp [Repeats]

end Item

/-- No item is given more often than it may be, and no file has an empty path. -/
structure Admissible (items : List Item) : Prop where
  once : items.Pairwise fun earlier later => ¬ earlier.Repeats later
  named : Item.file "" ∉ items

namespace Admissible

variable {items more : List Item} {item : Item}

theorem nil : Admissible [] := ⟨.nil, List.not_mem_nil⟩

theorem of_append (admissible : Admissible (items ++ more)) : Admissible items :=
  ⟨(List.pairwise_append.mp admissible.once).1,
    fun member => admissible.named (List.mem_append_left more member)⟩

theorem concat_iff (admissible : Admissible items) :
    Admissible (items ++ [item]) ↔
      (∀ earlier ∈ items, ¬ earlier.Repeats item) ∧ item ≠ .file "" := by
  constructor
  · intro extended
    refine ⟨fun earlier member => ?_, fun empty => ?_⟩
    · exact (List.pairwise_append.mp extended.once).2.2 earlier member item List.mem_cons_self
    · exact extended.named (List.mem_append_right items (List.mem_singleton.mpr empty.symm))
  · rintro ⟨fresh, named⟩
    constructor
    case once =>
      refine List.pairwise_append.mpr
        ⟨admissible.once, List.pairwise_singleton _ _, fun earlier member later last => ?_⟩
      rw [List.mem_singleton.mp last]
      exact fresh earlier member
    case named =>
      intro member
      rcases List.mem_append.mp member with earlier | last
      · exact admissible.named earlier
      · exact named (List.mem_singleton.mp last).symm

/-- There is one file at most. -/
theorem no_file {path : String} (extended : Admissible (items ++ [.file path])) (other : String) :
    .file other ∉ items := fun member =>
  (extended.of_append.concat_iff.mp extended).1 _ member (Item.repeats_file_iff.mpr ⟨other, rfl⟩)

end Admissible

/-! ## What items give -/

namespace Given

/-- What is given, and an item behind it. -/
def extend (given : Given) : Item → Given
  | .flag flag => { given with flags := given.flags ++ [flag] }
  | .setting setting value => { given with settings := given.settings ++ [(setting, value)] }
  | .file path => { given with file := some path }

/-- What items give, in their order. -/
def ofItems (items : List Item) : Given := items.foldl extend nothing

variable {items : List Item} {given : Given}

theorem ofItems_concat (items : List Item) (item : Item) :
    ofItems (items ++ [item]) = (ofItems items).extend item :=
  List.foldl_concat _ _ _ _

theorem has_ofItems {flag : Flag} : (ofItems items).has flag = true ↔ .flag flag ∈ items := by
  induction items using List.reverseRecOn with
  | nil => simp [ofItems, nothing, has]
  | append_singleton items item ih =>
      rw [ofItems_concat]
      cases item with
      | flag other => simpa [extend, has] using or_congr_left ih
      | setting name value => simpa [extend, has] using ih
      | file path => simpa [extend, has] using ih

theorem values_ofItems (items : List Item) (setting : Setting) :
    (ofItems items).values setting = items.filterMap (Item.value? setting) := by
  induction items using List.reverseRecOn with
  | nil => rfl
  | append_singleton items item ih =>
      rw [ofItems_concat, List.filterMap_append, ← ih]
      cases item with
      | flag other => exact (List.append_nil _).symm
      | file path => exact (List.append_nil _).symm
      | setting name value =>
          by_cases same : name = setting
          · simp [extend, values, Item.value?, same]
          · simp [extend, values, Item.value?, same]

theorem mem_values_ofItems {setting : Setting} {value : String} :
    value ∈ (ofItems items).values setting ↔ .setting setting value ∈ items := by
  rw [values_ofItems, List.mem_filterMap]
  constructor
  · rintro ⟨item, member, found⟩
    cases item with
    | flag flag => cases found
    | file path => cases found
    | setting name other =>
        obtain ⟨rfl, same⟩ := Option.ite_none_right_eq_some.mp found
        rw [← Option.some.inj same]
        exact member
  · exact fun member => ⟨_, member, if_pos rfl⟩

theorem file_ofItems (admissible : Admissible items) {path : String} :
    (ofItems items).file = some path ↔ .file path ∈ items := by
  induction items using List.reverseRecOn with
  | nil => simp [ofItems, nothing]
  | append_singleton items item ih =>
      have earlier := ih admissible.of_append
      rw [ofItems_concat]
      cases item with
      | flag other => simpa [extend] using earlier
      | setting name value => simpa [extend] using earlier
      | file other =>
          simp [extend, admissible.no_file path, eq_comm]

/-! ## Adding an item -/

theorem ite_eq_ok_iff {condition : Prop} [Decidable condition] {error : UsageError} {value : Given} :
    (if condition then .error error else .ok value : Except UsageError Given) = .ok given ↔
      ¬ condition ∧ given = value := by
  split
  · rename_i holds
    exact iff_of_false (fun impossible => by cases impossible) fun ⟨other, _⟩ => other holds
  · rename_i fails
    rw [Except.ok.injEq, and_iff_right fails, eq_comm]

/-- A flag is taken if it may be given here. -/
theorem addFlag_eq_ok_iff (admissible : Admissible items) {flag : Flag} :
    (ofItems items).addFlag flag = .ok given ↔
      Admissible (items ++ [.flag flag]) ∧ given = ofItems (items ++ [.flag flag]) := by
  rw [addFlag, ite_eq_ok_iff, has_ofItems, ofItems_concat, admissible.concat_iff]
  refine and_congr_left fun _ => ?_
  constructor
  · intro fresh
    refine ⟨fun earlier member repeated => fresh ?_, Item.noConfusion⟩
    rw [← Item.repeats_flag_iff.mp repeated]
    exact member
  · exact fun ⟨fresh, _⟩ member => fresh _ member (Item.repeats_flag_iff.mpr rfl)

/-- A setting is taken if it may be given here. -/
theorem addSetting_eq_ok_iff (admissible : Admissible items) {setting : Setting} {value : String} :
    (ofItems items).addSetting setting value = .ok given ↔
      Admissible (items ++ [.setting setting value]) ∧
        given = ofItems (items ++ [.setting setting value]) := by
  rw [addSetting, ite_eq_ok_iff, ofItems_concat, admissible.concat_iff]
  refine and_congr_left fun _ => ?_
  constructor
  · intro fresh
    refine ⟨fun earlier member repeated => ?_, Item.noConfusion⟩
    obtain ⟨marker, other, rfl⟩ := Item.repeats_setting_iff.mp repeated
    exact fresh ⟨marker, List.ne_nil_of_mem (mem_values_ofItems.mpr member)⟩
  · rintro ⟨fresh, -⟩ ⟨marker, given⟩
    obtain ⟨other, member⟩ := List.exists_mem_of_ne_nil _ given
    exact fresh _ (mem_values_ofItems.mp member) (Item.repeats_setting_iff.mpr ⟨marker, other, rfl⟩)

/-- A file is taken if there was none and it has a path. -/
theorem addFile_eq_ok_iff (admissible : Admissible items) (none : ∀ other, .file other ∉ items)
    {path : String} :
    (ofItems items).addFile path = .ok given ↔
      Admissible (items ++ [.file path]) ∧ given = ofItems (items ++ [.file path]) := by
  rw [addFile, ite_eq_ok_iff, ofItems_concat, admissible.concat_iff, String.isEmpty_iff]
  refine and_congr_left fun _ => ?_
  constructor
  · intro named
    refine ⟨fun earlier member repeated => ?_, fun empty => named (Item.file.inj empty)⟩
    obtain ⟨other, rfl⟩ := Item.repeats_file_iff.mp repeated
    exact none other member
  · exact fun ⟨_, named⟩ empty => named (congrArg Item.file empty)

end Given

/-! ## States of reading -/

theorem bind_eq_ok_iff {α β : Type} {result : Except UsageError α} {next : α → Except UsageError β}
    {value : β} :
    (result >>= next) = .ok value ↔ ∃ middle, result = .ok middle ∧ next middle = .ok value := by
  cases result with
  | error error =>
      refine iff_of_false (fun impossible => by cases impossible) ?_
      rintro ⟨middle, impossible, -⟩
      cases impossible
  | ok middle =>
      constructor
      · exact fun found => ⟨middle, rfl, found⟩
      · rintro ⟨_, same, found⟩
        cases same
        exact found

namespace Progress

variable {progress next : Progress} {items more : List Item} {word : String} {words : List String}
  {given : Given} {setting : Setting}

/-- Settles what is pending and adds what was just read. -/
def addNow (progress : Progress) (add : Given → Except UsageError Given) :
    Except UsageError Progress := do
  let given ← progress.settle
  return { progress with given := ← add given, pending := .nothing }

/-- Reads all arguments and settles what is pending behind them. -/
def run (progress : Progress) (words : List String) : Except UsageError Given := do
  (← words.foldlM take progress).settle

theorem run_nil : progress.run [] = progress.settle := rfl

theorem run_cons_eq_ok_iff :
    progress.run (word :: words) = .ok given ↔
      ∃ next, progress.take word = .ok next ∧ next.run words = .ok given := by
  rw [run, List.foldlM_cons, bind_assoc, bind_eq_ok_iff]
  rfl

/-- Items were read, the last of which may be pending. No value is waited for. -/
structure Stands (progress : Progress) (items : List Item) : Prop where
  settle_iff : ∀ given, progress.settle = .ok given ↔ Admissible items ∧ given = .ofItems items
  seen : progress.fileSeen = true ↔ ∃ path, .file path ∈ items
  free : ∀ setting, progress.pending ≠ .setting setting none

/-- Items were read, and the value of a setting is waited for. -/
structure Waits (progress : Progress) (items : List Item) (setting : Setting) : Prop where
  admissible : Admissible items
  given : progress.given = .ofItems items
  pending : progress.pending = .setting setting none
  seen : progress.fileSeen = true ↔ ∃ path, .file path ∈ items

theorem stands_of_settled (admissible : Admissible items) (settled : progress.given = .ofItems items)
    (idle : progress.pending = .nothing)
    (seen : progress.fileSeen = true ↔ ∃ path, .file path ∈ items) :
    progress.Stands items where
  settle_iff given := by
    rw [settle, idle, Pending.settle, settled, Except.ok.injEq, and_iff_right admissible, eq_comm]
  seen := seen
  free setting := by rw [idle]; exact Pending.noConfusion

theorem stands_start : start.Stands [] :=
  stands_of_settled .nil rfl rfl (by simp [start])

/-- What comes of reading an item behind others: reading goes on with the item read, and it does go on if
the item may be given there. -/
structure Reads (progress : Progress) (items : List Item) (item : Item)
    (outcome : Except UsageError Progress) : Prop where
  stands : ∀ {next}, outcome = .ok next →
    next.Stands (items ++ [item]) ∧ next.onlyFiles = progress.onlyFiles
  accepted : Admissible (items ++ [item]) → ∃ next, outcome = .ok next

/-- What follows an item is read from where the item leads. -/
theorem Reads.run {item : Item} (reads : progress.Reads items item (progress.take word))
    (admissible : Admissible (items ++ item :: more))
    (behind : ∀ {next : Progress}, next.Stands (items ++ [item]) →
      next.onlyFiles = progress.onlyFiles → Admissible (items ++ [item] ++ more) →
      next.run words = .ok (.ofItems (items ++ [item] ++ more))) :
    progress.run (word :: words) = .ok (.ofItems (items ++ item :: more)) := by
  rw [List.append_cons] at admissible ⊢
  obtain ⟨next, taken⟩ := reads.accepted admissible.of_append
  obtain ⟨extended, same⟩ := reads.stands taken
  exact run_cons_eq_ok_iff.mpr ⟨next, taken, behind extended same admissible⟩

/-! ## One argument -/

namespace Stands

variable (stands : progress.Stands items)
include stands

theorem separated : Stands { progress with onlyFiles := true } items :=
  ⟨stands.settle_iff, stands.seen, stands.free⟩

theorem seen_concat {item : Item} (other : ∀ path, item ≠ .file path) :
    progress.fileSeen = true ↔ ∃ path, .file path ∈ items ++ [item] := by
  rw [stands.seen]
  refine exists_congr fun path => ?_
  rw [List.mem_append, List.mem_singleton, or_iff_left (other path).symm]

/-- A flag, or a setting with its value, is read if it may be given here. -/
theorem addNow {add : Given → Except UsageError Given} {item : Item} (other : ∀ path, item ≠ .file path)
    (addable : Admissible items → ∀ given, add (.ofItems items) = .ok given ↔
      Admissible (items ++ [item]) ∧ given = .ofItems (items ++ [item])) :
    progress.Reads items item (progress.addNow add) := by
  constructor
  case stands =>
    intro next taken
    obtain ⟨_, settled, taken⟩ := bind_eq_ok_iff.mp taken
    obtain ⟨admissible, rfl⟩ := (stands.settle_iff _).mp settled
    obtain ⟨given, added, taken⟩ := bind_eq_ok_iff.mp taken
    obtain ⟨extended, rfl⟩ := (addable admissible given).mp added
    obtain rfl := Except.ok.inj taken
    exact ⟨stands_of_settled extended rfl rfl (stands.seen_concat other), rfl⟩
  case accepted =>
    intro extended
    have admissible := extended.of_append
    have added := (addable admissible _).mpr ⟨extended, rfl⟩
    use { progress with given := .ofItems (items ++ [item]), pending := .nothing }
    exact bind_eq_ok_iff.mpr
      ⟨_, (stands.settle_iff _).mpr ⟨admissible, rfl⟩, bind_eq_ok_iff.mpr ⟨_, added, rfl⟩⟩

theorem takeFlag (flag : Flag) : progress.Reads items (.flag flag) (progress.takeFlag flag) :=
  stands.addNow (fun _ => Item.noConfusion) fun admissible _ => Given.addFlag_eq_ok_iff admissible

theorem takeSetting (setting : Setting) (value : String) :
    progress.Reads items (.setting setting value) (progress.takeSetting setting (some value)) :=
  stands.addNow (fun _ => Item.noConfusion) fun admissible _ => Given.addSetting_eq_ok_iff admissible

theorem takeSetting_none (taken : progress.takeSetting setting none = .ok next) :
    next.Waits items setting ∧ next.onlyFiles = progress.onlyFiles := by
  obtain ⟨_, settled, taken⟩ := bind_eq_ok_iff.mp taken
  obtain ⟨admissible, rfl⟩ := (stands.settle_iff _).mp settled
  obtain rfl := Except.ok.inj taken
  exact ⟨⟨admissible, rfl, rfl, stands.seen⟩, rfl⟩

theorem exists_takeSetting_none (admissible : Admissible items) (setting : Setting) :
    ∃ next, progress.takeSetting setting none = .ok next := by
  use { progress with given := .ofItems items, pending := .setting setting none }
  exact bind_eq_ok_iff.mpr ⟨_, (stands.settle_iff _).mpr ⟨admissible, rfl⟩, rfl⟩

/-- A file is read if there was none before. Whether it has a path is told when it is settled. -/
theorem takeFile (path : String) : progress.Reads items (.file path) (progress.takeFile path) := by
  constructor
  case stands =>
    intro next taken
    rw [Progress.takeFile] at taken
    cases seen : progress.fileSeen with
    | true =>
      rw [if_pos seen] at taken
      cases taken
    | false =>
      have none : ∀ other, .file other ∉ items := by simpa [seen] using stands.seen
      rw [if_neg (by simp [seen])] at taken
      obtain ⟨_, settled, taken⟩ := bind_eq_ok_iff.mp taken
      obtain ⟨admissible, rfl⟩ := (stands.settle_iff _).mp settled
      obtain rfl := Except.ok.inj taken
      refine ⟨⟨fun given => Given.addFile_eq_ok_iff admissible none, ?_, ?_⟩, rfl⟩
      · simp
      · exact fun _ => Pending.noConfusion
  case accepted =>
    intro extended
    use { progress with given := .ofItems items, pending := .file path, fileSeen := true }
    have seen : progress.fileSeen = false := by simpa [extended.no_file] using stands.seen
    rw [Progress.takeFile, if_neg (by simp [seen])]
    exact bind_eq_ok_iff.mpr ⟨_, (stands.settle_iff _).mpr ⟨extended.of_append, rfl⟩, rfl⟩

theorem takePlain : progress.takePlain word = progress.takeFile word := by
  unfold Progress.takePlain
  split
  case h_1 pending => exact (stands.free _ pending).elim
  case h_2 => rfl

/-- Another item is read, or the name of a setting whose value is to follow, or the two dashes behind
which all arguments are files. -/
theorem take (options : progress.onlyFiles = false) (taken : progress.take word = .ok next) :
    (word = "--" ∧ next = { progress with onlyFiles := true }) ∨
      next.onlyFiles = false ∧
        ((∃ item, next.Stands (items ++ [item]) ∧
            ∀ {more rest}, Spelled more rest → Spelled (item :: more) (word :: rest)) ∨
          ∃ setting, setting.NamedBy none word ∧ next.Waits items setting) := by
  rcases take_cases options taken with
    separator | ⟨flag, rfl, read⟩ | ⟨setting, value, named, read⟩ | ⟨plain, read⟩
  · exact .inl separator
  · obtain ⟨extended, same⟩ := (stands.takeFlag flag).stands read
    exact .inr ⟨same.trans options, .inl ⟨_, extended, .flag flag⟩⟩
  · cases value with
    | some value =>
        obtain ⟨extended, same⟩ := (stands.takeSetting setting value).stands read
        exact .inr ⟨same.trans options, .inl ⟨_, extended, .joined named⟩⟩
    | none =>
        obtain ⟨waits, same⟩ := stands.takeSetting_none read
        exact .inr ⟨same.trans options, .inr ⟨setting, named, waits⟩⟩
  · rw [stands.takePlain] at read
    obtain ⟨extended, same⟩ := (stands.takeFile word).stands read
    exact .inr ⟨same.trans options, .inl ⟨_, extended, .file plain⟩⟩

/-- Where only files may follow, every argument is one. -/
theorem run_files (closed : progress.onlyFiles = true) (words : List String) :
    progress.run words = .ok given ↔
      Admissible (items ++ words.map .file) ∧ given = .ofItems (items ++ words.map .file) := by
  induction words generalizing progress items given with
  | nil => simpa [run_nil] using stands.settle_iff given
  | cons word rest ih =>
      have reads := stands.takeFile word
      rw [← take_of_onlyFiles closed] at reads
      constructor
      · intro read
        obtain ⟨next, taken, read⟩ := run_cons_eq_ok_iff.mp read
        obtain ⟨extended, same⟩ := reads.stands taken
        rw [List.map_cons, List.append_cons]
        exact (ih extended (same.trans closed)).mp read
      · rintro ⟨admissible, rfl⟩
        exact reads.run admissible fun extended same admissible =>
          (ih extended (same.trans closed)).mpr ⟨admissible, rfl⟩

end Stands

namespace Waits

variable (waits : progress.Waits items setting)
include waits

theorem separated : Waits { progress with onlyFiles := true } items setting :=
  ⟨waits.admissible, waits.given, waits.pending, waits.seen⟩

theorem settle_ne_ok : progress.settle ≠ .ok given := by
  rw [settle, waits.pending]
  intro impossible
  cases impossible

theorem takeFile_ne_ok : progress.takeFile word ≠ .ok next := by
  intro taken
  rw [Progress.takeFile] at taken
  split at taken
  · cases taken
  · obtain ⟨given, settled, -⟩ := bind_eq_ok_iff.mp taken
    exact waits.settle_ne_ok settled

/-- What does not look like an option is the value that is waited for. -/
theorem takePlain (value : String) :
    progress.Reads items (.setting setting value) (progress.takePlain value) := by
  have read : progress.takePlain value =
      .ok { progress with pending := .setting setting (some value) } := by
    rw [Progress.takePlain, waits.pending]
  rw [read]
  refine ⟨fun same => ?_, fun _ => ⟨_, rfl⟩⟩
  obtain rfl := Except.ok.inj same
  refine ⟨⟨fun given => ?_, ?_, fun _ => ?_⟩, rfl⟩
  · rw [settle, Pending.settle, waits.given, Given.addSetting_eq_ok_iff waits.admissible]
  · simpa using waits.seen
  · simp

theorem take (options : progress.onlyFiles = false) (taken : progress.take word = .ok next) :
    (word = "--" ∧ next = { progress with onlyFiles := true }) ∨
      IsPlain word ∧ next.Stands (items ++ [.setting setting word]) ∧ next.onlyFiles = false := by
  rcases take_cases options taken with
    separator | ⟨flag, rfl, read⟩ | ⟨name, value, named, read⟩ | ⟨plain, read⟩
  · exact .inl separator
  · obtain ⟨given, settled, -⟩ := bind_eq_ok_iff.mp read
    exact (waits.settle_ne_ok settled).elim
  · obtain ⟨given, settled, -⟩ := bind_eq_ok_iff.mp read
    exact (waits.settle_ne_ok settled).elim
  · obtain ⟨extended, same⟩ := (waits.takePlain word).stands read
    exact .inr ⟨plain, extended, same.trans options⟩

/-- Where only files may follow, the value does not come. -/
theorem run_files_ne_ok (closed : progress.onlyFiles = true) : progress.run words ≠ .ok given := by
  cases words with
  | nil => exact waits.settle_ne_ok
  | cons word rest =>
      intro read
      obtain ⟨next, taken, -⟩ := run_cons_eq_ok_iff.mp read
      rw [take_of_onlyFiles closed] at taken
      exact waits.takeFile_ne_ok taken

end Waits

/-! ## All arguments -/

/-- What is read was spelled. The two states of reading depend on each other: an argument may leave a
value to the next one. -/
theorem spelled_of_run (options : progress.onlyFiles = false) (read : progress.run words = .ok given) :
    (∀ items, progress.Stands items → ∃ more, Spelled more words ∧
      Admissible (items ++ more) ∧ given = .ofItems (items ++ more)) ∧
    ∀ items setting, progress.Waits items setting → ∃ value rest more, words = value :: rest ∧
      IsPlain value ∧ Spelled more rest ∧ Admissible (items ++ .setting setting value :: more) ∧
        given = .ofItems (items ++ .setting setting value :: more) := by
  induction words generalizing progress with
  | nil =>
      constructor
      · intro items stands
        refine ⟨[], .nil, ?_⟩
        rw [List.append_nil]
        exact (stands.settle_iff given).mp read
      · exact fun items setting waits => (waits.settle_ne_ok read).elim
  | cons word rest ih =>
      obtain ⟨next, taken, read⟩ := run_cons_eq_ok_iff.mp read
      constructor
      · intro items stands
        rcases stands.take options taken with
          ⟨rfl, rfl⟩ | ⟨still, ⟨item, extended, spells⟩ | ⟨setting, named, waits⟩⟩
        · exact ⟨_, .files rest, (stands.separated.run_files rfl rest).mp read⟩
        · obtain ⟨more, spelled, admissible, rfl⟩ := (ih still read).1 _ extended
          rw [← List.append_cons] at admissible ⊢
          exact ⟨item :: more, spells spelled, admissible, rfl⟩
        · obtain ⟨value, rest, more, rfl, plain, spelled, admissible, rfl⟩ :=
            (ih still read).2 _ _ waits
          exact ⟨_, .apart named plain spelled, admissible, rfl⟩
      · intro items setting waits
        rcases waits.take options taken with ⟨rfl, rfl⟩ | ⟨plain, extended, still⟩
        · exact (waits.separated.run_files_ne_ok rfl read).elim
        · obtain ⟨more, spelled, admissible, rfl⟩ := (ih still read).1 _ extended
          rw [← List.append_cons] at admissible ⊢
          exact ⟨word, rest, more, rfl, plain, spelled, admissible, rfl⟩

/-- What is spelled is read. -/
theorem run_of_spelled (spelled : Spelled more words) (stands : progress.Stands items)
    (options : progress.onlyFiles = false) (admissible : Admissible (items ++ more)) :
    progress.run words = .ok (.ofItems (items ++ more)) := by
  induction spelled generalizing progress items with
  | nil =>
      rw [List.append_nil] at admissible ⊢
      exact (stands.settle_iff _).mpr ⟨admissible, rfl⟩
  | flag flag _ ih =>
      have reads := stands.takeFlag flag
      rw [← take_flag options] at reads
      exact reads.run admissible fun extended same => ih extended (same.trans options)
  | @joined _ _ setting value _ named _ ih =>
      have reads := stands.takeSetting setting value
      rw [← take_setting options named] at reads
      exact reads.run admissible fun extended same => ih extended (same.trans options)
  | @apart _ _ setting value _ named plain _ ih =>
      obtain ⟨waiting, taken⟩ := stands.exists_takeSetting_none admissible.of_append setting
      obtain ⟨waits, still⟩ := stands.takeSetting_none taken
      have reads := waits.takePlain value
      rw [← take_setting options named] at taken
      rw [← take_plain (still.trans options) plain] at reads
      refine run_cons_eq_ok_iff.mpr ⟨waiting, taken, reads.run admissible fun extended same => ?_⟩
      exact ih extended ((same.trans still).trans options)
  | @file _ _ path plain _ ih =>
      have reads := stands.takeFile path
      rw [← stands.takePlain, ← take_plain options plain] at reads
      exact reads.run admissible fun extended same => ih extended (same.trans options)
  | files paths =>
      exact run_cons_eq_ok_iff.mpr
        ⟨_, take_separator options, (stands.separated.run_files rfl paths).mpr ⟨admissible, rfl⟩⟩

end Progress

/-- The first argument that is found wrong decides the error, whatever follows it. -/
theorem parseLex_of_error {words : List String} {error : UsageError}
    (wrong : words.foldlM Progress.take .start = .error error) (more : List String) :
    parseLex (words ++ more) = .error error := by
  rw [parseLex, List.foldlM_append, wrong]
  rfl

theorem parseLex_eq_run (words : List String) :
    parseLex words = Progress.start.run words >>= Given.finish := by
  rw [Progress.run, bind_assoc]
  rfl

/-- The arguments after `lex` are read to the items that they spell, if these may be given together. -/
theorem parseLex_of_spelled {items : List Item} {words : List String} (spelled : Spelled items words)
    (admissible : Admissible items) : parseLex words = (Given.ofItems items).finish := by
  have read : Progress.start.run words = .ok (.ofItems items) :=
    Progress.run_of_spelled spelled Progress.stands_start rfl admissible
  rw [parseLex_eq_run, read]
  rfl

theorem parseLex_eq_ok_iff {words : List String} {arguments : Arguments} :
    parseLex words = .ok arguments ↔
      ∃ items, Spelled items words ∧ Admissible items ∧
        (Given.ofItems items).finish = .ok arguments := by
  constructor
  · intro accepted
    rw [parseLex_eq_run] at accepted
    obtain ⟨given, read, finished⟩ := bind_eq_ok_iff.mp accepted
    obtain ⟨items, spelled, admissible, rfl⟩ :=
      (Progress.spelled_of_run rfl read).1 [] Progress.stands_start
    exact ⟨items, spelled, admissible, finished⟩
  · rintro ⟨items, spelled, admissible, finished⟩
    rw [parseLex_of_spelled spelled admissible, finished]

end Lexing.Command
