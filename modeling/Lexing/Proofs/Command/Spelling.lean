import Lexing.Command.Arguments
import Lexing.Proofs.Run
import Mathlib.Data.List.Basic

/-! # How options are written

The arguments after `lex` spell items, which are options and files in any order. An option has several
spellings: a long name or a letter, and a value that is the next argument or stands behind an equals
sign or directly behind the letter. `Spelled` says what arguments spell, argument by argument, without
saying how they are taken apart; what is then taken from a single argument is what it spells. -/

namespace Lexing.Command

/-- An option that is given, with its value if it takes one, or a file. -/
inductive Item where
  | flag (flag : Flag)
  | setting (setting : Setting) (value : String)
  | file (path : String)
  deriving DecidableEq, Repr

/-! ## Spellings -/

/-- The long name of a flag. -/
def Flag.name : Flag → String
  | .chars => "chars"
  | .noDefaultSymbols => "no-default-symbols"
  | .noComments => "no-comments"
  | .keepComments => "keep-comments"
  | .strict => "strict"

namespace Setting

/-- The long name of a setting. -/
def name : Setting → String
  | .keyword => "keyword"
  | .symbol => "symbol"
  | .commentPrefix => "comment-prefix"

/-- The letter of a setting, if it has one. -/
def letter? : Setting → Option Char
  | .keyword => some 'k'
  | .symbol => some 's'
  | .commentPrefix => none

/-- An argument names a setting, and gives it a value or leaves the value to the next argument. -/
inductive NamedBy (setting : Setting) : Option String → String → Prop where
  | long : NamedBy setting none ("--" ++ setting.name)
  | longEquals (value : String) : NamedBy setting (some value) ("--" ++ setting.name ++ "=" ++ value)
  | short {letter : Char} (known : setting.letter? = some letter) :
      NamedBy setting none ("-" ++ letter.toString)
  | shortEquals {letter : Char} (known : setting.letter? = some letter) (value : String) :
      NamedBy setting (some value) ("-" ++ letter.toString ++ "=" ++ value)
  | attached {letter : Char} (known : setting.letter? = some letter) {value : String}
      (nonempty : value ≠ "") (unmarked : value.toList.head? ≠ some '=') :
      NamedBy setting (some value) ("-" ++ letter.toString ++ value)

end Setting

/-- An argument that is not taken for an option: it does not start with a dash, or is only a dash. -/
def IsPlain (argument : String) : Prop := argument = "-" ∨ argument.toList.head? ≠ some '-'

/-- Arguments spell items. Behind two dashes all arguments are files, whatever they look like. -/
inductive Spelled : List Item → List String → Prop where
  | nil : Spelled [] []
  | flag {items : List Item} {rest : List String} (flag : Flag) (behind : Spelled items rest) :
      Spelled (.flag flag :: items) (("--" ++ flag.name) :: rest)
  | joined {items : List Item} {rest : List String} {setting : Setting} {value argument : String}
      (named : setting.NamedBy (some value) argument) (behind : Spelled items rest) :
      Spelled (.setting setting value :: items) (argument :: rest)
  | apart {items : List Item} {rest : List String} {setting : Setting} {value argument : String}
      (named : setting.NamedBy none argument) (plain : IsPlain value) (behind : Spelled items rest) :
      Spelled (.setting setting value :: items) (argument :: value :: rest)
  | file {items : List Item} {rest : List String} {path : String} (plain : IsPlain path)
      (behind : Spelled items rest) : Spelled (.file path :: items) (path :: rest)
  | files (paths : List String) : Spelled (paths.map Item.file) ("--" :: paths)

/-! ## Shapes -/

theorem splitEquals_eq_iff {text name : List Char} {value : Option (List Char)} :
    splitEquals text = (name, value) ↔ '=' ∉ name ∧ text = name ++ value.elim [] ('=' :: ·) := by
  constructor
  · intro split
    have run := Text.MaximalRun.of_split (fun c => c != '=') text
    have whole : text.takeWhile (fun c => c != '=') ++ text.dropWhile (fun c => c != '=') = text :=
      List.takeWhile_append_dropWhile
    have inside : '=' ∉ text.takeWhile (fun c => c != '=') := fun member =>
      absurd (run.inside '=' member) (by decide)
    rw [splitEquals] at split
    cases after : text.dropWhile (fun c => c != '=') with
    | nil =>
        rw [after, List.append_nil] at whole
        rw [after] at split
        cases split
        rw [whole] at inside
        exact ⟨inside, (List.append_nil _).symm⟩
    | cons mark rest =>
        have stop : mark = '=' := by simpa using run.stops mark (by rw [after]; rfl)
        rw [after] at split whole
        cases split
        rw [stop] at whole
        exact ⟨inside, whole.symm⟩
  · rintro ⟨inside, rfl⟩
    have letters : ∀ c ∈ name, (c != '=') = true := fun c member =>
      bne_iff_ne.mpr fun same => inside (same ▸ member)
    cases value with
    | none =>
        have run := Text.MaximalRun.of_all letters
        rw [splitEquals, Option.elim_none, run.dropWhile_append, List.append_nil]
    | some value =>
        have run : Text.MaximalRun (fun c => c != '=') name ('=' :: value) := .of_stop letters rfl
        rw [splitEquals, Option.elim_some, run.dropWhile_append, run.takeWhile_append]

theorem shapeOf_eq_separator_iff {argument : String} :
    shapeOf argument = .separator ↔ argument = "--" := by
  rw [← String.toList_inj]
  unfold shapeOf
  split <;> simp_all

theorem shapeOf_eq_plain_iff {argument : String} : shapeOf argument = .plain ↔ IsPlain argument := by
  rw [IsPlain, ← String.toList_inj]
  unfold shapeOf
  split
  case h_1 dashes => simp [dashes]
  case h_2 dashes => simp [dashes]
  case h_3 dashes => simp [dashes]
  case h_4 separator long short =>
    refine iff_of_true rfl (or_iff_not_imp_right.mpr fun dash => ?_)
    obtain ⟨rest, dashes⟩ := List.head?_eq_some_iff.mp (not_not.mp dash)
    cases rest with
    | nil => exact dashes
    | cons letter attached => exact (short letter attached dashes).elim

/-- A short option is a dash, a letter and whatever follows. -/
theorem shapeOf_eq_short_iff {argument : String} {letter : Char} {attached : List Char} :
    shapeOf argument = .short letter attached ↔
      letter ≠ '-' ∧ argument = "-" ++ letter.toString ++ String.ofList attached := by
  rw [← String.toList_inj]
  unfold shapeOf
  split
  case h_1 dashes => simp [dashes]; grind
  case h_2 dashes => simp [dashes]; grind
  case h_3 dashes => simp [dashes]; grind
  case h_4 dashes => simp; grind

theorem shapeOf_eq_long_iff_splitEquals {argument name : String} {value : Option String} :
    shapeOf argument = .long name value ↔
      ∃ text, text ≠ [] ∧ argument.toList = '-' :: '-' :: text ∧
        splitEquals text = (name.toList, value.map String.toList) := by
  unfold shapeOf
  split
  case h_1 alone => simp [alone]
  case h_2 text bare dashes =>
    rcases split : splitEquals text with ⟨before, behind⟩
    constructor
    · intro shape
      obtain ⟨rfl, rfl⟩ := Shape.long.inj shape
      exact ⟨text, bare, dashes, by simp [split]⟩
    · rintro ⟨other, -, same, found⟩
      obtain rfl : text = other := by simpa [dashes] using same
      obtain ⟨rfl, rfl⟩ := Prod.mk.inj (split.symm.trans found)
      simp
  case h_3 letter attached alone single dashes =>
    refine iff_of_false Shape.noConfusion fun found => ?_
    obtain ⟨text, -, double, -⟩ := found
    exact single (List.cons.inj (List.cons.inj (dashes.symm.trans double)).2).1
  case h_4 separator double single =>
    refine iff_of_false Shape.noConfusion fun found => ?_
    obtain ⟨text, -, dashes, -⟩ := found
    exact double text dashes

/-- A long option is two dashes and a name, and an equals sign and a value if it has one. -/
theorem shapeOf_eq_long_iff {argument name : String} {value : Option String} :
    shapeOf argument = .long name value ↔
      '=' ∉ name.toList ∧ (name = "" → value ≠ none) ∧
        argument = "--" ++ name ++ value.elim "" ("=" ++ ·) := by
  have behind : (value.map String.toList).elim [] ('=' :: ·) = (value.elim "" ("=" ++ ·)).toList := by
    cases value <;> simp
  have empty : name.toList ++ (value.elim "" ("=" ++ ·)).toList = [] ↔ name = "" ∧ value = none := by
    cases value <;> simp
  rw [shapeOf_eq_long_iff_splitEquals, ← @String.toList_inj argument]
  simp only [splitEquals_eq_iff, behind]
  constructor
  · rintro ⟨text, nonempty, dashes, inside, rfl⟩
    exact ⟨inside, fun unnamed none => nonempty (empty.mpr ⟨unnamed, none⟩), by simp [dashes]⟩
  · rintro ⟨inside, valued, whole⟩
    refine ⟨_, fun none => ?_, by simpa using whole, inside, rfl⟩
    exact valued (empty.mp none).1 (empty.mp none).2

/-! ## Names -/

theorem longOption?_eq_flag_iff {name : String} {flag : Flag} :
    longOption? name = some (.flag flag) ↔ name = flag.name := by
  constructor
  · intro known
    unfold longOption? at known
    split at known <;> cases known <;> rfl
  · rintro rfl
    cases flag <;> rfl

theorem longOption?_eq_setting_iff {name : String} {setting : Setting} :
    longOption? name = some (.setting setting) ↔ name = setting.name := by
  constructor
  · intro known
    unfold longOption? at known
    split at known <;> cases known <;> rfl
  · rintro rfl
    cases setting <;> rfl

theorem shapeOf_flag (flag : Flag) : shapeOf ("--" ++ flag.name) = .long flag.name none := by
  refine shapeOf_eq_long_iff.mpr ⟨?_, ?_, (String.append_empty).symm⟩
  · cases flag <;> decide
  · cases flag <;> decide

namespace Setting

variable {setting : Setting} {value : Option String} {argument : String}

theorem shapeOf_long (setting : Setting) (value : Option String) :
    shapeOf ("--" ++ setting.name ++ value.elim "" ("=" ++ ·)) = .long setting.name value := by
  refine shapeOf_eq_long_iff.mpr ⟨?_, ?_, rfl⟩
  · cases setting <;> decide
  · cases setting <;> exact fun unnamed => absurd unnamed (by decide)

theorem shapeOf_short {letter : Char} (known : setting.letter? = some letter) (attached : String) :
    shapeOf ("-" ++ letter.toString ++ attached) = .short letter attached.toList := by
  refine shapeOf_eq_short_iff.mpr ⟨?_, by rw [String.ofList_toList]⟩
  rintro rfl
  cases setting <;> simp [letter?] at known

/-- The two ways to name a setting, as shapes. -/
theorem namedBy_iff :
    setting.NamedBy value argument ↔
      shapeOf argument = .long setting.name value ∨
        ∃ letter attached, shapeOf argument = .short letter attached ∧
          setting.letter? = some letter ∧ attachedValue? attached = value := by
  constructor
  · rintro (_ | value | known | ⟨known, value⟩ | @⟨letter, known, value, nonempty, unmarked⟩)
    case long => exact .inl (by simpa using setting.shapeOf_long none)
    case longEquals =>
      exact .inl (by simpa [String.append_assoc] using setting.shapeOf_long (some value))
    case short letter => exact .inr ⟨letter, [], by simpa using shapeOf_short known "", known, rfl⟩
    case shortEquals letter =>
      refine .inr ⟨letter, '=' :: value.toList, ?_, known, by simp [attachedValue?]⟩
      simpa [String.append_assoc] using shapeOf_short known ("=" ++ value)
    case attached =>
      refine .inr ⟨letter, value.toList, shapeOf_short known value, known, ?_⟩
      unfold attachedValue?
      split <;> simp_all
  · rintro (shape | ⟨letter, attached, shape, known, rfl⟩)
    · obtain ⟨-, -, rfl⟩ := shapeOf_eq_long_iff.mp shape
      cases value with
      | none => simpa using NamedBy.long
      | some value =>
          have named : setting.NamedBy (some value) _ := .longEquals value
          simpa [String.append_assoc] using named
    · obtain ⟨-, rfl⟩ := shapeOf_eq_short_iff.mp shape
      unfold attachedValue?
      split
      case h_1 => simpa using NamedBy.short known
      case h_2 value =>
        simpa [String.append_assoc] using NamedBy.shortEquals known (String.ofList value)
      case h_3 nonempty unmarked =>
        refine NamedBy.attached known (by simpa using nonempty) fun marked => ?_
        rw [String.toList_ofList] at marked
        obtain ⟨rest, equals⟩ := List.head?_eq_some_iff.mp marked
        exact unmarked rest equals

end Setting

/-! ## Reading one argument -/

namespace Progress

variable {progress next : Progress} {items : List Item} {argument : String}

theorem take_of_onlyFiles (closed : progress.onlyFiles = true) :
    progress.take argument = progress.takeFile argument := by
  rw [take, if_pos closed]

theorem take_separator (options : progress.onlyFiles = false) :
    progress.take "--" = .ok { progress with onlyFiles := true } := by
  rw [take, if_neg (by simp [options])]
  rfl

theorem take_flag (options : progress.onlyFiles = false) (flag : Flag) :
    progress.take ("--" ++ flag.name) = progress.takeFlag flag := by
  rw [take, if_neg (by simp [options]), shapeOf_flag]
  simp only [takeLong, longOption?_eq_flag_iff.mpr rfl]

theorem take_setting (options : progress.onlyFiles = false) {setting : Setting}
    {value : Option String} (named : setting.NamedBy value argument) :
    progress.take argument = progress.takeSetting setting value := by
  rw [take, if_neg (by simp [options])]
  rcases Setting.namedBy_iff.mp named with shape | ⟨letter, attached, shape, known, rfl⟩
  · rw [shape]
    simp only [takeLong, longOption?_eq_setting_iff.mpr rfl]
  · rw [shape]
    cases setting with
    | keyword => cases known; rfl
    | symbol => cases known; rfl
    | commentPrefix => cases known

theorem take_plain (options : progress.onlyFiles = false) (plain : IsPlain argument) :
    progress.take argument = progress.takePlain argument := by
  rw [take, if_neg (by simp [options]), shapeOf_eq_plain_iff.mpr plain]

theorem takeHelp_ne_ok : progress.takeHelp ≠ .ok next := by
  rw [takeHelp]
  intro helped
  cases settled : progress.settle <;> rw [settled] at helped <;> cases helped

/-- The arguments that can be read. Help is not among them, since it ends the reading. -/
theorem take_cases (options : progress.onlyFiles = false) (taken : progress.take argument = .ok next) :
    (argument = "--" ∧ next = { progress with onlyFiles := true }) ∨
      (∃ flag, argument = "--" ++ flag.name ∧ progress.takeFlag flag = .ok next) ∨
      (∃ setting value, setting.NamedBy value argument ∧
        progress.takeSetting setting value = .ok next) ∨
      (IsPlain argument ∧ progress.takePlain argument = .ok next) := by
  rw [take, if_neg (by simp [options])] at taken
  cases shape : shapeOf argument with
  | separator =>
      rw [shape] at taken
      exact .inl ⟨shapeOf_eq_separator_iff.mp shape, (Except.ok.inj taken).symm⟩
  | long name value =>
      simp only [shape, takeLong] at taken
      split at taken
      case h_1 => cases taken
      case h_2 setting known =>
        rw [longOption?_eq_setting_iff.mp known] at shape
        exact .inr (.inr (.inl ⟨_, _, Setting.namedBy_iff.mpr (.inl shape), taken⟩))
      case h_3 => cases taken
      case h_4 flag known =>
        obtain ⟨-, -, rfl⟩ := shapeOf_eq_long_iff.mp shape
        rw [longOption?_eq_flag_iff.mp known]
        exact .inr (.inl ⟨flag, String.append_empty, taken⟩)
      case h_5 => exact (takeHelp_ne_ok taken).elim
  | short letter attached =>
      have named {setting : Setting} (known : setting.letter? = some letter) :
          setting.NamedBy (attachedValue? attached) argument :=
        Setting.namedBy_iff.mpr (.inr ⟨letter, attached, shape, known, rfl⟩)
      simp only [shape, takeShort] at taken
      split at taken
      case h_1 => exact (takeHelp_ne_ok taken).elim
      case h_2 => exact .inr (.inr (.inl ⟨.keyword, _, named rfl, taken⟩))
      case h_3 => exact .inr (.inr (.inl ⟨.symbol, _, named rfl, taken⟩))
      case h_4 => cases taken
  | plain =>
      rw [shape] at taken
      exact .inr (.inr (.inr ⟨shapeOf_eq_plain_iff.mp shape, taken⟩))

end Progress

end Lexing.Command
