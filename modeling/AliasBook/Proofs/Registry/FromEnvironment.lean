import AliasBook.Proofs.Registry.Configuring
import AliasBook.Proofs.Settings

/-! Settings from the environment. Reading them never fails, and logs a warning for each variable that is rejected; logging
    can be configured by what was read, and an environment that spells it out gives it again
    (`settingsFromEnvironment_stable`). -/

namespace AliasBook.Action
variable {ρ : Type} {s : Host ρ} {c : Settings}

open Settings

/-- The notices are logged in order, and nothing else is done. -/
theorem settingsFromEnvironment_of_eq {ns : List Notice} (h : ofEnvironment s.environment = (c, ns)) :
    result settingsFromEnvironment s = .ok c ∧
      after settingsFromEnvironment s = s.withChannel (s.channel.replay (ns.map fun n => .logged s.now n.record)) := by
  rw [← after_tellAll, settingsFromEnvironment]
  simp only [result_bind, after_bind, result_get, after_get, Except.bind, h, result_tellAll]
  exact ⟨rfl, rfl⟩

/-- The levels that settings can have are valid where logging is configured, which brings them to capitals anew. -/
theorem result_applyLogging (hlevel : c.logLevel ∈ Variable.level.words) (output : String) (s : Host ρ) :
    result (applyLogging (some c) output) s = .ok () := by
  have hvalid : ∀ word ∈ Variable.level.words, (Level.number? (Text.upper word)).isSome = true := by
    decide +kernel
  obtain ⟨number, hnumber⟩ := Option.isSome_iff_exists.mp (hvalid _ hlevel)
  have hsetup : Setup.of? s.environment c.logLevel c.logFormat output =
      some ⟨number, .make s.environment (some c.logFormat), .ofName output⟩ := by
    rw [Setup.of?, hnumber]
    rfl
  exact (configureLogging_of_setup hsetup).1

theorem mem_rejections {env : Environment} {n : Notice} (h : n ∈ rejections env) :
    ∃ key value, n = .rejectedSetting key value := by
  obtain ⟨v, -, rfl⟩ := List.mem_map.mp h
  exact ⟨_, _, rfl⟩

/-- Settings are read from any environment, with one warning for each variable that is rejected and no other. Logging can
    be configured by them, and from an environment that spells them out the same are read, without a warning. -/
theorem settingsFromEnvironment_stable (s : Host ρ) :
    let warnings := rejections s.environment
    ∃ c, result settingsFromEnvironment s = .ok c ∧
      after settingsFromEnvironment s =
        s.withChannel (s.channel.replay (warnings.map fun n => .logged s.now n.record)) ∧
      (∀ n ∈ warnings, n.level = Level.warning ∧ ErrorCode.invalidSetting.format .null n.context = .ok n.message) ∧
      (∀ output (t : Host ρ), result (applyLogging (some c) output) t = .ok ()) ∧
      ∀ t : Host ρ, Spells t.environment c →
        result settingsFromEnvironment t = .ok c ∧ after settingsFromEnvironment t = t := by
  intro warnings
  have hnotices := notices_ofEnvironment s.environment
  have hlevel := logLevel_ofEnvironment s.environment
  have hformat := logFormat_ofEnvironment s.environment
  rcases hread : ofEnvironment s.environment with ⟨c, notices⟩
  rw [hread] at hnotices hlevel hformat
  obtain rfl : notices = warnings := hnotices
  obtain ⟨hresult, hafter⟩ := settingsFromEnvironment_of_eq hread
  refine ⟨c, hresult, hafter, ?_, fun output t => result_applyLogging hlevel output t, fun t hspells => ?_⟩
  · intro n hn
    obtain ⟨key, value, rfl⟩ := mem_rejections hn
    exact ⟨rfl, format_rejectedSetting key value⟩
  · exact settingsFromEnvironment_of_eq (ofEnvironment_of_spells hlevel hformat hspells)

/-- Two values that are rejected, and between them a level with a dotless letter that is ASCII in capitals. What is read of
    them is spelled out with other blanks and letters. -/
theorem settingsFromEnvironment_spelled_out :
    let s : Host Unit :=
      { environment := [(Environment.overridingKey, "maybe"), (Environment.levelKey, " ınfo "), (Environment.formatKey, "")]
        caller := () }
    let t : Host Unit :=
      { environment := [(Environment.overridingKey, "\tTrue\n"), (Environment.levelKey, "iNFO\u3000"),
          (Environment.formatKey, "JSON")]
        caller := () }
    let c : Settings := { logLevel := "INFO" }
    result settingsFromEnvironment s = .ok c ∧
      (after settingsFromEnvironment s).channel.atRoot.map Record.message =
        ["ALIAS-SYS-001: Invalid configuration value for ALIAS_ALLOW_OVERRIDING: 'maybe'",
          "ALIAS-SYS-001: Invalid configuration value for ALIAS_LOG_FORMAT: ''"] ∧
      result (applyLogging (some c) "stderr") t = .ok () ∧
      result settingsFromEnvironment t = .ok c ∧ after settingsFromEnvironment t = t := by
  intro s t c
  obtain ⟨c', hresult, -, -, happly, hstable⟩ := settingsFromEnvironment_stable s
  have hread : (result settingsFromEnvironment s).toOption = some c := by decide +kernel
  obtain rfl : c' = c := by
    rw [hresult] at hread
    exact Option.some.inj hread
  have hspells : Spells t.environment c :=
    { overriding := ⟨_, rfl, "True".toList, ⟨['\t'], ['\n'], by decide, by decide, rfl⟩, by decide⟩
      level := ⟨_, rfl, "iNFO".toList, ⟨[], ['\u3000'], by decide, by decide, rfl⟩, by decide⟩
      format := ⟨_, rfl, "JSON".toList, .refl _, by decide⟩ }
  exact ⟨hresult, by decide +kernel, happly _ t, hstable t hspells⟩

end AliasBook.Action
