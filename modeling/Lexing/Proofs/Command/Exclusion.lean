import Lexing.Proofs.Command.Reading

/-! # Options that exclude each other

Characters are listed without any other option, and a comment prefix is not given where comments are
switched off. Only one of two such options lists the other, so what a list left out would be accepted and
ignored. The lists leave nothing out: what is accepted has no such pair of options, and arguments that
could be read but for such a pair are refused for it. -/

namespace Lexing.Command

variable {items : List Item} {file : String} {arguments : Arguments}

/-! ## The lists -/

theorem mem_excludes_chars {choice : Choice} :
    choice ∈ Flag.chars.excludes ↔ choice ≠ .flag .chars := by
  cases choice with
  | flag flag => cases flag <;> decide
  | setting setting => cases setting <;> decide

theorem mem_excludes_noComments {choice : Choice} :
    choice ∈ Flag.noComments.excludes ↔ choice = .setting .commentPrefix :=
  List.mem_singleton

theorem excludes_eq_nil {flag : Flag} (chars : flag ≠ .chars) (comments : flag ≠ .noComments) :
    flag.excludes = [] := by
  cases flag with
  | chars => contradiction
  | noComments => contradiction
  | noDefaultSymbols => rfl
  | keepComments => rfl
  | strict => rfl

/-! ## Items in conflict -/

/-- Items that cannot be given together: `--chars` and any other option, or `--no-comments` and
`--comment-prefix`. -/
inductive Conflicting (items : List Item) : Prop where
  | chars {item : Item} (chars : .flag .chars ∈ items) (member : item ∈ items)
      (other : item ≠ .flag .chars) (option : ∀ path, item ≠ .file path)
  | comments {value : String} (without : .flag .noComments ∈ items)
      (marked : .setting .commentPrefix value ∈ items)

/-- The option of an item. -/
def Item.choice? : Item → Option Choice
  | .flag name => some (.flag name)
  | .setting name _ => some (.setting name)
  | .file _ => none

namespace Given

theorem gives_ofItems {choice : Choice} :
    (ofItems items).gives choice = true ↔ ∃ item ∈ items, item.choice? = some choice := by
  cases choice with
  | flag flag =>
      rw [gives, has_ofItems]
      constructor
      · exact fun member => ⟨_, member, rfl⟩
      · rintro ⟨item, member, same⟩
        cases item with
        | flag other => cases same; exact member
        | setting name value => cases same
        | file path => cases same
  | setting setting =>
      rw [gives, Bool.not_eq_true', List.isEmpty_eq_false_iff_exists_mem]
      constructor
      · rintro ⟨value, member⟩
        exact ⟨_, mem_values_ofItems.mp member, rfl⟩
      · rintro ⟨item, member, same⟩
        cases item with
        | flag other => cases same
        | setting name value => cases same; exact ⟨value, mem_values_ofItems.mpr member⟩
        | file path => cases same

/-- The lists find a conflict exactly where there is one. -/
theorem conflicts_ofItems : (ofItems items).conflicts = true ↔ Conflicting items := by
  have found : (ofItems items).conflicts = true ↔
      ∃ flag, .flag flag ∈ items ∧ ∃ choice ∈ flag.excludes,
        ∃ item ∈ items, item.choice? = some choice := by
    simp only [conflicts, List.any_eq_true, gives_ofItems, ← has_ofItems, has, List.contains_iff_mem]
  rw [found]
  constructor
  · rintro ⟨flag, given, choice, excluded, item, member, same⟩
    by_cases chars : flag = .chars
    · subst chars
      refine .chars given member ?_ ?_
      · rintro rfl
        exact mem_excludes_chars.mp excluded (Option.some.inj same).symm
      · rintro path rfl
        cases same
    · by_cases comments : flag = .noComments
      · subst comments
        obtain rfl := mem_excludes_noComments.mp excluded
        cases item with
        | flag other => cases same
        | setting name value => cases same; exact .comments given member
        | file path => cases same
      · rw [excludes_eq_nil chars comments] at excluded
        cases excluded
  · rintro (@⟨item, chars, member, other, option⟩ | ⟨without, marked⟩)
    · refine ⟨.chars, chars, ?_⟩
      cases item with
      | flag flag =>
          have different : Choice.flag flag ≠ .flag .chars := fun same => other (by cases same; rfl)
          exact ⟨.flag flag, mem_excludes_chars.mpr different, _, member, rfl⟩
      | setting name value =>
          exact ⟨.setting name, mem_excludes_chars.mpr Choice.noConfusion, _, member, rfl⟩
      | file path => exact (option path rfl).elim
    · exact ⟨.noComments, without, _, mem_excludes_noComments.mpr rfl, _, marked, rfl⟩

end Given

/-! ## What is asked for -/

/-- What items ask for. -/
def Arguments.ofItems (file : String) (items : List Item) : Arguments where
  file := file
  chars := decide (.flag .chars ∈ items)
  keywords := items.filterMap (Item.value? .keyword)
  symbols := items.filterMap (Item.value? .symbol)
  noDefaultSymbols := decide (.flag .noDefaultSymbols ∈ items)
  commentPrefix := (items.filterMap (Item.value? .commentPrefix)).head?
  noComments := decide (.flag .noComments ∈ items)
  keepComments := decide (.flag .keepComments ∈ items)
  strict := decide (.flag .strict ∈ items)

theorem Given.finish_of_conflicting (conflicting : Conflicting items) :
    (ofItems items).finish = .error .conflict := by
  rw [finish, if_pos (conflicts_ofItems.mpr conflicting)]

theorem Given.finish_eq_ok_iff (admissible : Admissible items) :
    (ofItems items).finish = .ok arguments ↔
      ¬ Conflicting items ∧ ∃ file, .file file ∈ items ∧ arguments = .ofItems file items := by
  by_cases conflicting : Conflicting items
  · rw [finish_of_conflicting conflicting]
    exact iff_of_false (fun impossible => by cases impossible) fun accepted => accepted.1 conflicting
  · have flags (flag : Flag) : (ofItems items).has flag = decide (.flag flag ∈ items) := by
      rw [Bool.eq_iff_iff, has_ofItems, decide_eq_true_eq]
    rw [finish, if_neg fun found => conflicting (conflicts_ofItems.mp found), and_iff_right conflicting]
    simp only [flags, values_ofItems, ← file_ofItems admissible]
    cases (ofItems items).file with
    | none => simp
    | some file => simp [Arguments.ofItems, eq_comm]

namespace Arguments

theorem values_eq_nil {setting : Setting} (none : ∀ value, .setting setting value ∉ items) :
    items.filterMap (Item.value? setting) = [] := by
  rw [← Given.values_ofItems, List.eq_nil_iff_forall_not_mem]
  exact fun value member => none value (Given.mem_values_ofItems.mp member)

/-- Beside `--chars` nothing is asked for. -/
theorem eq_of_chars (free : ¬ Conflicting items) (chars : (ofItems file items).chars = true) :
    ofItems file items = ⟨file, true, [], [], false, none, false, false, false⟩ := by
  have given : .flag .chars ∈ items := decide_eq_true_eq.mp chars
  have settings (setting : Setting) : items.filterMap (Item.value? setting) = [] :=
    values_eq_nil fun value member =>
      free (.chars given member Item.noConfusion fun _ => Item.noConfusion)
  have flags {flag : Flag} (other : flag ≠ .chars) : .flag flag ∉ items := fun member =>
    free (.chars given member (fun same => other (Item.flag.inj same)) fun _ => Item.noConfusion)
  simp [ofItems, given, settings, flags]

theorem commentPrefix_of_noComments (free : ¬ Conflicting items)
    (comments : (ofItems file items).noComments = true) :
    (ofItems file items).commentPrefix = none := by
  have given : .flag .noComments ∈ items := decide_eq_true_eq.mp comments
  rw [ofItems, values_eq_nil fun value marked => free (.comments given marked)]
  rfl

end Arguments

/-- A file is missed only where no options exclude each other. -/
theorem parse_of_fileless {words : List String} (spelled : Spelled items words)
    (admissible : Admissible items) (free : ¬ Conflicting items) (fileless : ∀ path, .file path ∉ items) :
    parse ("lex" :: words) = .error .fileMissing := by
  have none : (Given.ofItems items).file = none :=
    Option.eq_none_iff_forall_ne_some.mpr fun path found =>
      fileless path ((Given.file_ofItems admissible).mp found)
  apply (parseLex_of_spelled spelled admissible).trans
  rw [Given.finish, if_neg fun found => free (Given.conflicts_ofItems.mp found), none]

/-- With `--chars` no other option is accepted, and with `--no-comments` no comment prefix, in whatever
order options stand and however they are spelled. Arguments that spell items of which none is given too
often are refused as a conflict if two of the options exclude each other, and else they are accepted if
there is a file among them. Nothing but such arguments is accepted. -/
theorem options_exclude (words : List String) :
    (∀ arguments, parse ("lex" :: words) = .ok arguments →
      (arguments.chars = true →
        arguments.keywords = [] ∧ arguments.symbols = [] ∧ arguments.noDefaultSymbols = false ∧
          arguments.noComments = false ∧ arguments.keepComments = false ∧ arguments.strict = false ∧
          arguments.commentPrefix = none) ∧
      (arguments.noComments = true → arguments.commentPrefix = none)) ∧
    (∀ items, Spelled items words → Admissible items → Conflicting items →
      parse ("lex" :: words) = .error .conflict) ∧
    ∀ arguments, parse ("lex" :: words) = .ok arguments ↔
      ∃ items file, Spelled items words ∧ Admissible items ∧ .file file ∈ items ∧
        ¬ Conflicting items ∧ arguments = .ofItems file items := by
  have accepted (arguments : Arguments) : parse ("lex" :: words) = .ok arguments ↔
      ∃ items file, Spelled items words ∧ Admissible items ∧ .file file ∈ items ∧
        ¬ Conflicting items ∧ arguments = .ofItems file items := by
    refine parseLex_eq_ok_iff.trans (exists_congr fun items => ?_)
    constructor
    · rintro ⟨spelled, admissible, finished⟩
      obtain ⟨free, file, member, same⟩ := (Given.finish_eq_ok_iff admissible).mp finished
      exact ⟨file, spelled, admissible, member, free, same⟩
    · rintro ⟨file, spelled, admissible, member, free, same⟩
      exact ⟨spelled, admissible, (Given.finish_eq_ok_iff admissible).mpr ⟨free, file, member, same⟩⟩
  refine ⟨fun arguments parsed => ?_, fun items spelled admissible conflicting => ?_, accepted⟩
  · obtain ⟨items, file, -, -, -, free, rfl⟩ := (accepted arguments).mp parsed
    constructor
    · intro chars
      rw [Arguments.eq_of_chars free chars]
      exact ⟨rfl, rfl, rfl, rfl, rfl, rfl, rfl⟩
    · exact Arguments.commentPrefix_of_noComments free
  · exact (parseLex_of_spelled spelled admissible).trans (Given.finish_of_conflicting conflicting)

/-- A lone dash is a value or a file, an equals sign may belong to a value, and behind two dashes a file
may look like an option. -/
theorem options_exclude_spelled :
    parse ["lex", "-ka=b", "-", "-s", "-", "--chars"] = .error .conflict ∧
      parse ["lex", "--no-comments", "--comment-prefix==", "--", "--chars"] = .error .conflict ∧
      ∃ arguments, parse ["lex", "--no-comments", "--", "--chars"] = .ok arguments ∧
        arguments.commentPrefix = none := by
  have attached : Setting.keyword.NamedBy (some "a=b") "-ka=b" :=
    @Setting.NamedBy.attached .keyword 'k' rfl "a=b" (by decide) (by decide)
  have short : Setting.symbol.NamedBy none "-s" := @Setting.NamedBy.short .symbol 's' rfl
  have dash : IsPlain "-" := .inl rfl
  have characters : Spelled [.setting .keyword "a=b", .file "-", .setting .symbol "-", .flag .chars]
      ["-ka=b", "-", "-s", "-", "--chars"] :=
    .joined attached (.file dash (.apart short dash (.flag .chars .nil)))
  have comments : Spelled [.flag .noComments, .setting .commentPrefix "=", .file "--chars"]
      ["--no-comments", "--comment-prefix==", "--", "--chars"] :=
    .flag .noComments (.joined (.longEquals "=") (.files ["--chars"]))
  have accepted : Spelled [.flag .noComments, .file "--chars"] ["--no-comments", "--", "--chars"] :=
    .flag .noComments (.files ["--chars"])
  refine ⟨?_, ?_, ?_⟩
  · refine (options_exclude _).2.1 _ characters ⟨by simp [Item.Repeats], by decide⟩ ?_
    exact @Conflicting.chars _ (.setting .symbol "-") (by simp) (by simp) (by simp) (by simp)
  · refine (options_exclude _).2.1 _ comments ⟨by simp [Item.Repeats], by decide⟩ ?_
    exact @Conflicting.comments _ "=" (by simp) (by simp)
  · have free : ¬ Conflicting [.flag .noComments, .file "--chars"] := by
      rintro (⟨chars, -, -, -⟩ | ⟨-, marked⟩)
      · simp at chars
      · simp at marked
    have read := ((options_exclude _).2.2 _).mpr
      ⟨_, "--chars", accepted, ⟨by simp [Item.Repeats], by decide⟩, by simp, free, rfl⟩
    exact ⟨_, read, ((options_exclude _).1 _ read).2 rfl⟩

end Lexing.Command
