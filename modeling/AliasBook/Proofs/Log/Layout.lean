import AliasBook.Proofs.Log.JsonLine
import AliasBook.Proofs.Settings

/-! The layout that an environment asks for. Two read it: a formatter without a layout of its own, and the settings. They
    agree but for one kind of value: the settings strip the blanks around the name of plain text, and the formatter does
    not (`Formatter.layouts_agree_iff`). -/

namespace AliasBook

/-- The environment names plain text, with blanks around the name. -/
def Environment.PadsText (env : Environment) : Prop :=
  ∃ raw, env.get? formatKey = some raw ∧ Text.strip raw ≠ raw ∧ Text.lower (Text.strip raw) = "text"

namespace Formatter
variable {env : Environment} {f g : Formatter} {raw : String}

/-- Each record that has a line has it in the layout. -/
def Renders (f : Formatter) (layout : String → Record → String) : Prop :=
  ∀ time stamp r, Instant.stamp time = .ok stamp → f.line time r = .ok (layout stamp r)

/-- Text and JSON are told apart by a record from the start of 1970. -/
theorem exists_textLine_ne_jsonLine :
    ∃ time stamp r, Instant.stamp time = .ok stamp ∧ textLine stamp r ≠ jsonLine stamp r :=
  ⟨.ofSeconds 0, "1970-01-01T00:00:00Z", ⟨Level.debug, "", "", []⟩, rfl, by decide +kernel⟩

theorem renders_iff (isText : Bool) :
    (f.Renders fun stamp r => if isText then textLine stamp r else jsonLine stamp r) ↔ f.isText = isText := by
  constructor
  · intro h
    obtain ⟨time, stamp, r, hstamp, hne⟩ := exists_textLine_ne_jsonLine
    have hline := h time stamp r hstamp
    rw [line_of_stamp hstamp] at hline
    have heq := Except.ok.inj hline
    cases htext : f.isText with
    | true =>
      cases isText with
      | true => rfl
      | false => exact absurd (by simpa [htext] using heq) hne
    | false =>
      cases isText with
      | true => exact absurd (by simpa [htext] using heq.symm) hne
      | false => rfl
  · rintro rfl time stamp r hstamp
    rw [line_of_stamp hstamp]

theorem renders_textLine_iff : f.Renders textLine ↔ f.isText = true := by simpa using renders_iff true

theorem renders_jsonLine_iff : f.Renders jsonLine ↔ f.isText = false := by simpa using renders_iff false

theorem line_eq_of_isText (h : f.isText = g.isText) (time : Instant) (r : Record) : f.line time r = g.line time r := by
  rw [line, line, h]

/-! ### What the environment names -/

theorem isText_make_none (env : Environment) :
    (make env none).isText = true ↔ ∃ raw, env.get? Environment.formatKey = some raw ∧ Text.lower raw = "text" := by
  rw [isText, make, beq_iff_eq]
  cases env.get? Environment.formatKey with
  | none => exact iff_of_false (by decide +kernel) (by simp)
  | some raw => simp

theorem logFormat_eq_text_iff (env : Environment) :
    (Settings.ofEnvironment env).1.logFormat = "text" ↔
      ∃ raw, env.get? Environment.formatKey = some raw ∧ Text.lower (Text.strip raw) = "text" := by
  rw [Settings.ofEnvironment_eq]
  dsimp only
  cases env.get? Environment.formatKey with
  | none => exact iff_of_false (by decide +kernel) (by simp)
  | some raw =>
    simp only [Option.getD_some, Option.some.injEq, exists_eq_left']
    by_cases htext : Text.lower (Text.strip raw) = "text"
    · simp [htext, Settings.formats]
    · by_cases hjson : Text.lower (Text.strip raw) = "json"
      · simp [hjson]
      · simp [htext, hjson, Settings.formats]

theorem layout_make_some {name : String} (hne : name ≠ "") : (make env (some name)).layout = Text.lower name := by
  simp [make]

/-- The formatter that is made for the settings has the layout that these name. -/
theorem isText_make_logFormat (env env' : Environment) :
    (make env (some (Settings.ofEnvironment env').1.logFormat)).isText = true ↔
      (Settings.ofEnvironment env').1.logFormat = "text" := by
  have hlower : ∀ name ∈ Settings.formats, name ≠ "" ∧ Text.lower name = name := by
    decide +kernel
  obtain ⟨hne, hname⟩ := hlower _ (Settings.logFormat_ofEnvironment env')
  rw [isText, layout_make_some hne, hname, beq_iff_eq]

/-- A name that is plain text in lower case has no blanks around it. -/
theorem strip_of_lower_eq_text (h : Text.lower raw = "text") : Text.strip raw = raw := by
  have htext : "text".toList.all (fun c => !Text.isBlankChar c) = true := by decide
  refine Text.strip_of_lower fun c hc => ?_
  simpa using List.all_eq_true.mp htext c (h ▸ hc)

/-- A formatter without a layout of its own agrees with the settings on the layout and on all lines, unless the environment
    pads the name of plain text. -/
theorem layouts_agree_iff (env : Environment) :
    let f := make env none
    let c := (Settings.ofEnvironment env).1
    ((f.Renders textLine ↔ c.logFormat = "text") ∧ (f.Renders jsonLine ↔ c.logFormat ≠ "text") ∧
        ∀ time r, f.line time r = (make env (some c.logFormat)).line time r) ↔
      ¬env.PadsText := by
  intro f c
  constructor
  · rintro ⟨htext, -, -⟩ ⟨raw, hraw, hpadded, hlower⟩
    have hnamed : c.logFormat = "text" := (logFormat_eq_text_iff env).mpr ⟨raw, hraw, hlower⟩
    obtain ⟨raw', hraw', hlower'⟩ := (isText_make_none env).mp (renders_textLine_iff.mp (htext.mpr hnamed))
    obtain rfl := Option.some.inj (hraw.symm.trans hraw')
    exact hpadded (strip_of_lower_eq_text hlower')
  · intro hpads
    have hagree : f.isText = true ↔ c.logFormat = "text" := by
      rw [isText_make_none, logFormat_eq_text_iff]
      refine exists_congr fun raw => and_congr_right fun hraw => ⟨fun hlower => ?_, fun hlower => ?_⟩
      · rwa [strip_of_lower_eq_text hlower]
      · by_contra hother
        refine hpads ⟨raw, hraw, fun hstrip => hother ?_, hlower⟩
        rwa [hstrip] at hlower
    refine ⟨renders_textLine_iff.trans hagree, ?_, line_eq_of_isText ?_⟩
    · rw [renders_jsonLine_iff, ← Bool.not_eq_true, hagree]
    · rw [Bool.eq_iff_iff, hagree, isText_make_logFormat]

/-- With blanks around the name the settings ask for plain text, and the formatter writes JSON. -/
theorem layouts_differ_padded :
    let env := [(Environment.formatKey, " text ")]
    let f := make env none
    let c := (Settings.ofEnvironment env).1
    let r : Record := ⟨Level.debug, "l", "m", []⟩
    c.logFormat = "text" ∧ ¬f.Renders textLine ∧
      (f.line (.ofSeconds 0) r).toOption = some
        ("\x7b\"timestamp\": \"1970-01-01T00:00:00Z\", \"level\": \"DEBUG\", \"module\": \"l\", " ++
          "\"message\": \"m\"\x7d") ∧
      ((make env (some c.logFormat)).line (.ofSeconds 0) r).toOption = some "1970-01-01T00:00:00Z [DEBUG] l - m" := by
  refine ⟨by decide +kernel, ?_, by decide +kernel, by decide +kernel⟩
  rw [renders_textLine_iff]
  decide +kernel

end Formatter

end AliasBook
