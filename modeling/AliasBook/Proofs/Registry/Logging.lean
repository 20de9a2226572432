import AliasBook.Proofs.Registry.Events

/-! Logging while a registry is used and logging is configured and reset, in any order. Every record that reaches its level
    goes to one receiver, the handler that was configured last or, if there is none, the root logger; so a file holds the
    lines of the records that were logged while it was in use (`Usage.one_receiver`). -/

namespace AliasBook

theorem Notice.isInside_logger (n : Notice) : Channel.isInside n.logger = true := by
  have hregistry : Channel.isInside (rootLogger ++ ".alias_registry") = true := by decide
  cases n with
  | malformedLine => exact (by decide : Channel.isInside (rootLogger ++ ".alias_file") = true)
  | rejectedSetting => exact (by decide : Channel.isInside (rootLogger ++ ".config") = true)
  | _ => exact hregistry

theorem Event.IsOfRegistry.isInside {e : Event} (h : e.IsOfRegistry) : e.IsInside := by
  obtain ⟨time, n, -, rfl⟩ := h
  exact n.isInside_logger

namespace Action
variable {ρ α : Type} {act : Action ρ α}

/-- Code that configures and resets logging, uses registries, and logs below the library's logger. It may go on after a
    failure, and the resolvers that it passes on are such code as well. -/
inductive Usage : {α : Type} → Action ρ α → Prop
  | configureLogging (level format : Value) (output : String) : Usage (configureLogging level format output)
  | applyLogging (settings : Option Settings) (output : String) : Usage (applyLogging settings output)
  | resetLogging : Usage resetLogging
  | log (r : Record) : Channel.isInside r.logger = true → Usage (log r)
  | register (name a : Value) : Usage (register name a)
  | registerMany (name aliases : Value) : Usage (registerMany name aliases)
  | remove (a : Value) : Usage (remove a)
  | clear : Usage clear
  | loadFile (path : String) (bytes : Option ByteArray) : Usage (loadFile path bytes)
  | resolve (resolver : Option (Resolver ρ)) : (∀ f ∈ resolver, ∀ x, Usage (f x)) → Usage (resolve resolver)
  | canonical (name : Value) : Usage (canonical name)
  | hasAlias (name a : Value) : Usage (hasAlias name a)
  | checkCircle (name a : Value) : Usage (checkCircle name a)
  | settingsFromEnvironment : Usage settingsFromEnvironment
  | openConfigured (settings : Option Settings) : Usage (openConfigured settings)
  | useShared : Usage useShared
  | resetShared (settings : Option Settings) : Usage (resetShared settings)
  /-- Anything that has nothing to do with logging, such as the other operations of a registry. -/
  | elsewhere {α : Type} (act : Action ρ α) : (∀ s, Performs act s []) → Usage act
  | bind {α β : Type} {act : Action ρ α} {f : α → Action ρ β} : Usage act → (∀ a, Usage (f a)) → Usage (act >>= f)
  | tryCatch {α : Type} {act : Action ρ α} {handle : Fault → Action ρ α} :
      Usage act → (∀ fault, Usage (handle fault)) → Usage (tryCatch act handle)

theorem Usage.confined (h : Usage act) : Confined Event.IsInside act := by
  have hown : ∀ e : Event, e.IsOfRegistry → e.IsInside := fun _ he => he.isInside
  have hnotice : ∀ (n : Notice) (time : Instant), Event.IsInside (.logged time n.record) := fun n _ => n.isInside_logger
  have hconfigure (level format : Value) (output : String) :
      Confined Event.IsInside (Action.configureLogging level format output : Action ρ Unit) :=
    .configureLogging (fun _ => trivial) (fun _ _ _ => trivial) level format output
  induction h with
  | configureLogging level format output => exact hconfigure level format output
  | applyLogging settings output =>
    cases settings with
    | none => exact .bind (.settingsFromEnvironment hnotice) fun _ => hconfigure _ _ output
    | some settings => exact .bind (.pure settings) fun _ => hconfigure _ _ output
  | resetLogging => exact .resetLogging trivial
  | log r hinside => exact .log fun _ => hinside
  | register name a => exact (Confined.register name a).mono hown
  | registerMany name aliases => exact (Confined.registerMany name aliases).mono hown
  | remove a => exact (Confined.remove a).mono hown
  | clear => exact .setMapping .empty
  | loadFile path bytes => exact .loadFile hnotice path bytes
  | resolve resolver _ ih => exact .resolve hown ih
  | canonical name => exact (Confined.canonical name).mono hown
  | hasAlias name a => exact (Confined.hasAlias name a).mono hown
  | checkCircle name a => exact (Confined.checkCircle name a).mono hown
  | settingsFromEnvironment => exact .settingsFromEnvironment hnotice
  | openConfigured settings => exact .bind (.policyOf hnotice settings) fun policy => .openRegistry policy false
  | useShared => exact .useShared hnotice
  | resetShared settings => exact .bind (.policyOf hnotice settings) fun policy => .openRegistry policy true
  | elsewhere act hact => exact .silent hact
  | bind _ _ ihact ihf => exact .bind ihact ihf
  | tryCatch _ _ ihact ihhandle => exact .tryCatch ihact ihhandle

/-- What is done to logging are events, the same ones whatever the channel is. At every point between them the setup that
    was configured last is in force, if it was not reset, and what was sent are the emissions of the events so far. -/
theorem Usage.one_receiver (h : Usage act) {s : Host ρ} {setup : Option Setup} (hs : s.channel.InForce setup) :
    ∃ es, Performs act s es ∧ (after act s).channel = s.channel.replay es ∧
      ∀ before behind, es = before ++ behind →
        (s.channel.replay before).InForce (before.foldl Event.next setup) ∧
        s.channel.Sends (s.channel.replay before) (Event.emissions s.channel.rootLevel setup before) := by
  obtain ⟨es, hes, hinside⟩ := h.confined s
  refine ⟨es, hes, hes.channel, ?_⟩
  rintro before behind rfl
  exact hs.replay fun e he => hinside e (List.mem_append_left behind he)

/-- Logs to one file and then to another, with a configuration in between that fails, and at last to nowhere. -/
def changeFiles : Action Unit Unit := do
  configureLogging "debug" "text" "a.log"
  register (.text "n") (.text "a")
  tryCatch (configureLogging "loud" "text" "b.log") fun _ => pure ()
  log { level := Level.warning, logger := "alias_runtime", message := "first" }
  configureLogging "warning" "text" "b.log"
  register (.text "n") (.text "b")
  log { level := Level.warning, logger := "alias_runtime.own", message := "second" }
  resetLogging
  log { level := Level.warning, logger := "alias_runtime.own", message := "third" }

theorem changeFiles_one_receiver :
    let s : Host Unit := { caller := () }
    let t := after changeFiles s
    t.channel.textOf (.file "a.log") =
      "1970-01-01T00:00:00Z [DEBUG] alias_runtime.alias_registry - Alias definition registered [alias=a name=n]\n" ++
        "1970-01-01T00:00:00Z [WARNING] alias_runtime - first\n" ∧
    t.channel.textOf (.file "b.log") = "1970-01-01T00:00:00Z [WARNING] alias_runtime.own - second\n" ∧
    t.channel.atRoot.map Record.message = ["third"] ∧
    ∃ es, Performs changeFiles s es ∧ s.channel.Sends t.channel (Event.emissions s.channel.rootLevel none es) := by
  intro s t
  have hinside : Channel.isInside "alias_runtime.own" = true := by decide
  have husage : Usage changeFiles := by
    refine .bind (.configureLogging _ _ _) fun _ => .bind (.register _ _) fun _ => ?_
    refine .bind (.tryCatch (.configureLogging _ _ _) fun _ => .elsewhere _ fun _ _ => ⟨rfl, rfl⟩) fun _ => ?_
    refine .bind (.log _ rfl) fun _ => .bind (.configureLogging _ _ _) fun _ => .bind (.register _ _) fun _ => ?_
    exact .bind (.log _ hinside) fun _ => .bind .resetLogging fun _ => .log _ hinside
  have hunset : s.channel.InForce none := ⟨rfl, rfl, rfl, rfl⟩
  obtain ⟨es, hes, hchannel, hpoints⟩ := husage.one_receiver hunset
  refine ⟨by decide +kernel, by decide +kernel, by decide +kernel, es, hes, ?_⟩
  obtain ⟨-, hsends⟩ := hpoints es [] (List.append_nil es).symm
  rwa [← hchannel] at hsends

end Action

end AliasBook
