import AliasBook.Proofs.Log.OneLine
import AliasBook.Proofs.Registry.Logging

/-! The lines of a log against the records in it. A program that logs as it likes gets a line for each record, except that
    plain text leaves the line ends of a record as they are (`Usage.line_per_record`). -/

namespace AliasBook.Action
variable {ρ α : Type} {act : Action ρ α}

/-- A record whose time has a date becomes one line, unless the layout is plain text and there are line ends in the record.
    A log that was empty has the lines of its records and no others exactly if this holds for all of them. -/
theorem Usage.line_per_record (h : Usage act) {s : Host ρ} {setup : Option Setup} (hs : s.channel.InForce setup) :
    (∀ (f : Formatter) (time : Instant) (r : Record), (∃ year, f.line time r = .error (.yearOutOfRange year)) ∨
      ∃ line, f.line time r = .ok line ∧ (Text.OneLine line.toList ↔ (f.isText = true → r.IsOneLine))) ∧
    ∃ es, Performs act s es ∧ ∀ sink, s.channel.textOf sink = "" →
      let sent := (Event.emissions s.channel.rootLevel setup es).filter fun e => e.receiver = .sink sink
      let lines := Text.lines ((after act s).channel.textOf sink)
      (lines = sent.filterMap Emission.line? ↔
        ∀ e ∈ sent, e.line?.isSome → e.IsText → e.record.IsOneLine) ∧
      ((∀ e ∈ sent, e.line?.isSome ∧ (e.IsText → e.record.IsOneLine)) → lines.length = sent.length) := by
  refine ⟨Formatter.line_cases, ?_⟩
  obtain ⟨es, hes, hinside⟩ := h.confined s
  refine ⟨es, hes, fun sink hempty => ?_⟩
  intro sent lines
  have hsends : s.channel.Sends (after act s).channel (Event.emissions s.channel.rootLevel setup es) := by
    rw [hes.channel]
    exact (hs.replay hinside).2
  have hlines : lines = sent.filterMap Emission.line? ↔
      ∀ e ∈ sent, e.line?.isSome → e.IsText → e.record.IsOneLine := by
    rw [hsends.lines_iff hempty]
    simp [sent]
  refine ⟨hlines, fun hall => ?_⟩
  rw [hlines.mpr fun e he _ => (hall e he).2]
  exact List.filterMap_length_eq_length.mpr fun e he => (hall e he).1

/-- Tells of a message with line ends in it, in JSON. -/
def logInJson : Action Unit Unit := do
  configureLogging "debug" "json" "a.log"
  log { level := Level.warning, logger := "alias_runtime", message := "a\nb\rc" }

theorem logInJson_line_per_record :
    let s : Host Unit := { caller := () }
    let t := after logInJson s
    t.channel.delivered.length = 1 ∧ (Text.lines (t.channel.textOf (.file "a.log"))).length = 1 ∧
    ∃ es, Performs logInJson s es ∧
      let sent := (Event.emissions s.channel.rootLevel none es).filter fun e => e.receiver = .sink (.file "a.log")
      Text.lines (t.channel.textOf (.file "a.log")) = sent.filterMap Emission.line? ↔
        ∀ e ∈ sent, e.line?.isSome → e.IsText → e.record.IsOneLine := by
  intro s t
  have husage : Usage logInJson :=
    .bind (.configureLogging _ _ _) fun _ => .log _ rfl
  have hunset : s.channel.InForce none := ⟨rfl, rfl, rfl, rfl⟩
  obtain ⟨-, es, hes, hsinks⟩ := husage.line_per_record hunset
  exact ⟨by decide +kernel, by decide +kernel, es, hes, (hsinks (.file "a.log") rfl).1⟩

/-- Tells of an alias with a line feed in it, in plain text. -/
def logInText : Action Unit Unit := do
  configureLogging "debug" "text" "a.log"
  register (.text "n") (.text "a\nb")

/-- Here one record makes two lines. -/
theorem logInText_breaks_line :
    let t := after logInText { caller := () }
    t.channel.delivered.length = 1 ∧
    Text.lines (t.channel.textOf (.file "a.log")) =
      ["1970-01-01T00:00:00Z [DEBUG] alias_runtime.alias_registry - Alias definition registered [alias=a", "b name=n]"] ∧
    ((Formatter.mk "text").line (.ofSeconds 0) { level := 10, logger := "l", message := "a\nb" }).toOption =
      some "1970-01-01T00:00:00Z [DEBUG] l - a\nb" ∧
    ¬ Text.OneLine "1970-01-01T00:00:00Z [DEBUG] l - a\nb".toList := by
  exact ⟨by decide +kernel, by decide +kernel, by decide +kernel, by decide⟩

end AliasBook.Action
