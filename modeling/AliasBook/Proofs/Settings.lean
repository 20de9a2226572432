import AliasBook.Proofs.Error.Template
import AliasBook.Proofs.Text.Case
import AliasBook.Settings

/-! What settings an environment gives. A variable is rejected if its value is none of the words that it takes
    (`Variable.rejects`); each rejected variable is told of once, and no other is (`notices_ofEnvironment`). The words in
    the settings are always such that are taken, and an environment that spells settings out gives just these
    (`ofEnvironment_of_spells`). -/

namespace AliasBook

/-! ### The message -/

open Template in
/-- A notice of a rejected setting says what the catalogue has to say of it. -/
theorem format_rejectedSetting (key value : String) :
    let n := Notice.rejectedSetting key value
    ErrorCode.invalidSetting.format .null n.context = .ok n.message := by
  intro n
  let segs : List Segment :=
    [.literal "Invalid configuration value for ", .field { text := "key" } .plain, .literal ": ",
      .field { text := "value" } .quoted]
  have htemplate : ErrorCode.invalidSetting.template = .text (source segs) := by cbv
  have hsupplied : Supplied n.context segs := by
    have hnames : ∀ name ∈ names segs, name ∈ ["key", "value"] := by decide
    exact hnames
  have hmessage : n.message = ErrorCode.invalidSetting.code ++ ": " ++ Template.filled n.context segs :=
    congrArg (ErrorCode.invalidSetting.code ++ ": " ++ ·) (ErrorCode.message_of_supplied htemplate hsupplied)
  have hhint : ErrorCode.invalidSetting.hint .null = "" := rfl
  rw [ErrorCode.format_of_supplied htemplate hsupplied, hmessage, hhint, String.append_empty]

namespace Settings
variable {env : Environment} {c : Settings}

/-! ### Rejected variables -/

/-- A variable of the environment, and what it takes. -/
structure Variable where
  key : String
  /-- Brings the letters of a value to the case that the words have. -/
  fold : String → String
  words : List String
  /-- A blank value counts as none. -/
  skipsBlank : Bool := false
  /-- What a notice shows of a value. -/
  shown : String → String := fun raw => fold (Text.strip raw)

namespace Variable

def overriding : Variable where
  key := Environment.overridingKey
  fold := Text.lower
  words := onWords ++ offWords
  skipsBlank := true
  shown := id

def level : Variable where
  key := Environment.levelKey
  fold := Text.upper
  words := Level.numbers.map Prod.fst

def format : Variable where
  key := Environment.formatKey
  fold := Text.lower
  words := formats

/-- All variables, in the order in which they are read. -/
def all : List Variable := [overriding, level, format]

/-- The value, in one case and without the blanks around it, is none of the words. -/
def rejects (v : Variable) (raw : String) : Bool :=
  v.fold (Text.strip raw) ∉ v.words && !(v.skipsBlank && Text.isBlank raw)

def isRejected (v : Variable) (env : Environment) : Bool :=
  (env.get? v.key).any v.rejects

def notice (v : Variable) (env : Environment) : Notice :=
  .rejectedSetting v.key (v.shown ((env.get? v.key).getD ""))

def notices (v : Variable) (env : Environment) : List Notice :=
  if v.isRejected env then [v.notice env] else []

end Variable

/-- What there is to tell of an environment: one notice for each rejected variable. -/
def rejections (env : Environment) : List Notice :=
  (Variable.all.filter (·.isRejected env)).map (·.notice env)

theorem rejections_eq (env : Environment) :
    rejections env = Variable.overriding.notices env ++ Variable.level.notices env ++ Variable.format.notices env := by
  simp only [rejections, Variable.all, List.filter_cons, List.filter_nil, Variable.notices]
  split <;> split <;> split <;> rfl

/-! ### Reading one variable -/

theorem isSome_number?_iff {word : String} : (Level.number? word).isSome = true ↔ word ∈ Variable.level.words := by
  rw [Level.number?, List.lookup_isSome_iff]
  simp [Variable.level]

theorem notices_readSwitch (env : Environment) (preset : Bool) :
    (readSwitch Environment.overridingKey (env.get? Environment.overridingKey) preset).2 =
      Variable.overriding.notices env := by
  have hkey : Variable.overriding.key = Environment.overridingKey := rfl
  rw [Variable.notices, Variable.isRejected, Variable.notice, hkey]
  cases env.get? Environment.overridingKey with
  | none => rfl
  | some raw =>
    simp only [readSwitch, Option.any_some, Option.getD_some, Variable.rejects, Variable.overriding, List.mem_append]
    by_cases hblank : Text.isBlank raw = true
    · simp [hblank]
    · by_cases hon : Text.lower (Text.strip raw) ∈ onWords
      · simp [hblank, hon]
      · by_cases hoff : Text.lower (Text.strip raw) ∈ offWords
        · simp [hblank, hon, hoff]
        · simp [hblank, hon, hoff]

/-- A word that is taken is given, and for any other value the preset, which is a word that is taken itself. -/
theorem readWord_cases {v : Variable} {preset : String} {valid : String → Bool} (hskips : v.skipsBlank = false)
    (hshown : v.shown = fun raw => v.fold (Text.strip raw)) (hvalid : ∀ {word}, valid word = true ↔ word ∈ v.words)
    (hpreset : v.fold (Text.strip preset) = preset) (hmem : preset ∈ v.words) (env : Environment) :
    let word := v.fold (Text.strip ((env.get? v.key).getD preset))
    readWord v.key (env.get? v.key) preset v.fold valid =
      (if word ∈ v.words then word else preset, v.notices env) := by
  intro word
  have hvalid' : valid word = true ↔ word ∈ v.words := hvalid
  rw [readWord, Variable.notices, Variable.isRejected, Variable.notice]
  cases hraw : env.get? v.key with
  | none =>
    -- Without a value the preset is read like one.
    have hword : word = preset := by rw [← hpreset]; simp [word, hraw]
    simp [hword, hmem, hpreset, hvalid]
  | some raw =>
    have hword : word = v.fold (Text.strip raw) := by simp [word, hraw]
    by_cases hmem' : word ∈ v.words
    · simp [Variable.rejects, hvalid, ← hword, hmem']
    · simp [Variable.rejects, hvalid, ← hword, hmem', hskips, hshown]

/-! ### Reading all -/

theorem readWord_level (env : Environment) :
    let word := Text.upper (Text.strip ((env.get? Environment.levelKey).getD "WARNING"))
    readWord Environment.levelKey (env.get? Environment.levelKey) "WARNING" Text.upper
        (fun word => (Level.number? word).isSome) =
      (if word ∈ Variable.level.words then word else "WARNING", Variable.level.notices env) :=
  readWord_cases (v := .level) rfl rfl isSome_number?_iff (by decide +kernel) (by decide) env

theorem readWord_format (env : Environment) :
    let word := Text.lower (Text.strip ((env.get? Environment.formatKey).getD "json"))
    readWord Environment.formatKey (env.get? Environment.formatKey) "json" Text.lower (fun word => word ∈ formats) =
      (if word ∈ formats then word else "json", Variable.format.notices env) :=
  readWord_cases (v := .format) rfl rfl decide_eq_true_iff (by decide +kernel) (by decide) env

/-- The settings of an environment, and one notice for each variable that is rejected. -/
theorem ofEnvironment_eq (env : Environment) :
    let level := Text.upper (Text.strip ((env.get? Environment.levelKey).getD "WARNING"))
    let format := Text.lower (Text.strip ((env.get? Environment.formatKey).getD "json"))
    ofEnvironment env =
      ({ allowOverriding :=
            (readSwitch Environment.overridingKey (env.get? Environment.overridingKey) true).1
         logLevel := if level ∈ Variable.level.words then level else "WARNING"
         logFormat := if format ∈ formats then format else "json" }, rejections env) := by
  intro level format
  rw [rejections_eq, ← notices_readSwitch env true]
  simp only [ofEnvironment, readWord_level, readWord_format]
  rfl

theorem notices_ofEnvironment (env : Environment) : (ofEnvironment env).2 = rejections env := by
  rw [ofEnvironment_eq]

theorem logLevel_ofEnvironment (env : Environment) : (ofEnvironment env).1.logLevel ∈ Variable.level.words := by
  rw [ofEnvironment_eq]
  dsimp only
  split
  case isTrue h => exact h
  case isFalse => decide

theorem logFormat_ofEnvironment (env : Environment) : (ofEnvironment env).1.logFormat ∈ formats := by
  rw [ofEnvironment_eq]
  dsimp only
  split
  case isTrue h => exact h
  case isFalse => decide

/-! ### Settings that are spelled out -/

/-- The environment says what the settings are, in any case and with blanks around the words. -/
structure Spells (env : Environment) (c : Settings) : Prop where
  overriding : ∃ raw, env.get? Environment.overridingKey = some raw ∧
    Text.Spelled (if c.allowOverriding then "true" else "false") raw
  level : ∃ raw, env.get? Environment.levelKey = some raw ∧ Text.Spelled c.logLevel raw
  format : ∃ raw, env.get? Environment.formatKey = some raw ∧ Text.Spelled c.logFormat raw

theorem readSwitch_of_spelled {raw : String} {on : Bool} (h : Text.Spelled (if on then "true" else "false") raw)
    (key : String) (preset : Bool) : readSwitch key (some raw) preset = (on, []) := by
  have hword : Text.lower (Text.strip raw) = if on then "true" else "false" := by
    cases on with
    | true => exact (h.strip (by decide)).1
    | false => exact (h.strip (by decide)).1
  have hblank : Text.isBlank raw = false := by
    rw [← Bool.not_eq_true, ← Text.strip_eq_empty_iff]
    intro hempty
    rw [hempty] at hword
    cases on <;> revert hword <;> decide +kernel
  cases on with
  | true => simp [readSwitch, hblank, hword, onWords]
  | false => simp [readSwitch, hblank, hword, onWords, offWords]

theorem upper_of_spelled {word raw : String} (hword : word ∈ Variable.level.words) (h : Text.Spelled word raw) :
    Text.upper (Text.strip raw) = word := by
  have hall : ∀ w ∈ Variable.level.words, w.toList.all Char.isAlpha = true ∧
      String.ofList (w.toList.map Char.toUpper) = w := by
    decide
  obtain ⟨halpha, hupper⟩ := hall word hword
  exact (h.strip halpha).2.trans hupper

theorem lower_of_spelled {word raw : String} (hword : word ∈ formats) (h : Text.Spelled word raw) :
    Text.lower (Text.strip raw) = word := by
  have hall : ∀ w ∈ formats, w.toList.all Char.isAlpha = true ∧ String.ofList (w.toList.map Char.toLower) = w := by
    decide
  obtain ⟨halpha, hlower⟩ := hall word hword
  exact (h.strip halpha).1.trans hlower

/-- Settings that are spelled out are read as they are, and nothing is rejected. -/
theorem ofEnvironment_of_spells (hlevel : c.logLevel ∈ Variable.level.words) (hformat : c.logFormat ∈ formats)
    (h : Spells env c) : ofEnvironment env = (c, []) := by
  obtain ⟨raw₁, hraw₁, hspelled₁⟩ := h.overriding
  obtain ⟨raw₂, hraw₂, hspelled₂⟩ := h.level
  obtain ⟨raw₃, hraw₃, hspelled₃⟩ := h.format
  have hswitch := readSwitch_of_spelled hspelled₁
  have hupper := upper_of_spelled hlevel hspelled₂
  have hlower := lower_of_spelled hformat hspelled₃
  have hvalid : (Level.number? c.logLevel).isSome = true := isSome_number?_iff.mpr hlevel
  simp [ofEnvironment, hraw₁, hraw₂, hraw₃, hswitch, readWord, hupper, hlower, hvalid, hformat]

end Settings

end AliasBook
