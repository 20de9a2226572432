import AliasBook.Proofs.Registry.Events

/-! Configuring logging and taking the configuration back, in any order. A configuration without a valid level changes
    nothing, and a valid one takes the place of what was there. So what is in force is the configuration that worked last,
    if it was not taken back (`configureAll_in_force`). -/

namespace AliasBook

/-- What a configuration sets up, if its level is valid. -/
def Setup.of? (env : Environment) (level format output : String) : Option Setup :=
  (Level.number? (Text.upper level)).map fun number => ⟨number, .make env (some format), .ofName output⟩

namespace Action
variable {ρ : Type} {s : Host ρ} {setup : Setup} {level format output : String}

theorem levelNumber_of_some {number : Int} (hlevel : Level.number? (Text.upper level) = some number) :
    (levelNumber (.text level) : Action ρ Int) = pure number := by
  rw [levelNumber, hlevel]

theorem levelNumber_of_none (hlevel : Level.number? (Text.upper level) = none) :
    (levelNumber (.text level) : Action ρ Int) = throw (.unknownLevel level) := by
  rw [levelNumber, hlevel]

/-- With a valid level the sink is opened, and the configuration takes the place of what was there. -/
theorem configureLogging_of_setup (h : Setup.of? s.environment level format output = some setup) :
    result (configureLogging level format output) s = .ok () ∧
      after (configureLogging level format output) s =
        s.withChannel ((s.channel.openSink output).configure setup.level setup.handler.formatter output) ∧
      setup.handler.sink = .ofName output := by
  obtain ⟨number, hlevel, rfl⟩ := Option.map_eq_some_iff.mp h
  rw [configureLogging, levelNumber_of_some hlevel]
  exact ⟨rfl, rfl, rfl⟩

theorem configureLogging_of_no_setup (h : Setup.of? s.environment level format output = none) :
    result (configureLogging level format output) s = .error (.unknownLevel level) ∧
      after (configureLogging level format output) s = s := by
  rw [configureLogging, levelNumber_of_none (Option.map_eq_none_iff.mp h)]
  exact ⟨rfl, rfl⟩

end Action

/-- A call that configures logging, in words or as settings say, or that takes the configuration back. -/
inductive SetupCall where
  | configure (level format output : String)
  | apply (settings : Settings) (output : String)
  | reset
deriving DecidableEq

namespace SetupCall
variable {ρ : Type} {s : Host ρ} {c : SetupCall} {setup : Setup} {current : Option Setup}

def perform : SetupCall → Action ρ Unit
  | .configure level format output => Action.configureLogging level format output
  | .apply settings output => Action.applyLogging (some settings) output
  | .reset => Action.resetLogging

/-- What a call sets up, if it sets up anything. -/
def setup? (env : Environment) : SetupCall → Option Setup
  | .configure level format output => Setup.of? env level format output
  | .apply settings output => Setup.of? env settings.logLevel settings.logFormat output
  | .reset => none

/-- What is set up after a call. -/
def next (env : Environment) (current : Option Setup) (c : SetupCall) : Option Setup :=
  if c = .reset then none else (c.setup? env).or current

/-- What the last call that sets something up does, if there is one behind the last reset. -/
def last? (env : Environment) (calls : List SetupCall) : Option Setup :=
  (calls.reverse.takeWhile (· ≠ .reset)).findSome? (setup? env)

open AliasBook.Action

/-! ### One call -/

/-- Settings are applied by the configuration that they are words for. -/
theorem exists_configure (hc : c ≠ .reset) : ∃ level format output,
    (c.perform : Action ρ Unit) = configureLogging (.text level) (.text format) output ∧
      ∀ env, c.setup? env = Setup.of? env level format output := by
  cases c with
  | configure level format output => exact ⟨level, format, output, rfl, fun _ => rfl⟩
  | apply settings output => exact ⟨settings.logLevel, settings.logFormat, output, rfl, fun _ => rfl⟩
  | reset => exact absurd rfl hc

/-- A call takes the configuration back, puts one in force, or fails for its level and changes nothing. -/
theorem perform_cases (c : SetupCall) (s : Host ρ) :
    (c = .reset ∧ result c.perform s = .ok () ∧ after c.perform s = s.withChannel s.channel.reset) ∨
      (∃ setup output, c ≠ .reset ∧ c.setup? s.environment = some setup ∧ result c.perform s = .ok () ∧
        after c.perform s =
          s.withChannel ((s.channel.openSink output).configure setup.level setup.handler.formatter output) ∧
        setup.handler.sink = .ofName output) ∨
      ∃ level, c ≠ .reset ∧ c.setup? s.environment = none ∧ result c.perform s = .error (.unknownLevel level) ∧
        after c.perform s = s := by
  by_cases hc : c = .reset
  · subst hc
    exact Or.inl ⟨rfl, rfl, rfl⟩
  · obtain ⟨level, format, output, hperform, hsetup⟩ := exists_configure (ρ := ρ) hc
    rw [hperform]
    cases hof : Setup.of? s.environment level format output with
    | none =>
      obtain ⟨hresult, hafter⟩ := configureLogging_of_no_setup hof
      exact Or.inr (Or.inr ⟨level, hc, (hsetup _).trans hof, hresult, hafter⟩)
    | some setup =>
      obtain ⟨hresult, hafter, hsink⟩ := configureLogging_of_setup hof
      exact Or.inr (Or.inl ⟨setup, output, hc, (hsetup _).trans hof, hresult, hafter, hsink⟩)

theorem inForce_configure (channel : Channel) {output : String} (hsink : setup.handler.sink = .ofName output) :
    (channel.configure setup.level setup.handler.formatter output).InForce (some setup) := by
  refine ⟨?_, rfl, rfl, rfl⟩
  rw [Channel.configure, ← hsink]
  rfl

/-- A call that works puts in force what it sets up, and one that fails leaves in force what was there. -/
theorem inForce_perform (h : s.channel.InForce current) (c : SetupCall) :
    (after c.perform s).channel.InForce (c.next s.environment current) ∧
      (after c.perform s).environment = s.environment := by
  rcases c.perform_cases s with ⟨rfl, -, hafter⟩ | ⟨setup, output, hc, hsetup, -, hafter, hsink⟩ |
    ⟨level, hc, hsetup, -, hafter⟩
  · rw [hafter]
    exact ⟨⟨rfl, rfl, rfl, rfl⟩, rfl⟩
  · rw [hafter, next, if_neg hc, hsetup]
    exact ⟨inForce_configure _ hsink, rfl⟩
  · rw [hafter, next, if_neg hc, hsetup]
    exact ⟨h, rfl⟩

/-! ### Calls one after the other -/

theorem foldl_next (env : Environment) (calls : List SetupCall) : calls.foldl (next env) none = last? env calls := by
  induction calls using List.reverseRecOn with
  | nil => rfl
  | append_singleton calls c ih =>
    rw [List.foldl_append, List.foldl_cons, List.foldl_nil, ih, last?, last?, List.reverse_append, List.reverse_singleton,
      List.singleton_append, List.takeWhile_cons]
    by_cases hc : c = .reset
    · simp [next, hc]
    · simp only [next, hc, if_false, ne_eq, not_false_eq_true, decide_true, if_true, List.findSome?_cons]
      cases c.setup? env with
      | none => rfl
      | some setup => rfl

end SetupCall

namespace Action
variable {ρ : Type} {s : Host ρ}

/-- Makes calls one after the other, whatever becomes of those before, and gives what came of each. -/
def configureAll (calls : List SetupCall) : Action ρ (List (Except Fault Unit)) :=
  calls.mapM fun c => observing c.perform

theorem inForce_configureAll {current : Option Setup} (h : s.channel.InForce current) (calls : List SetupCall) :
    (after (configureAll calls) s).channel.InForce (calls.foldl (SetupCall.next s.environment) current) ∧
      (after (configureAll calls) s).environment = s.environment := by
  induction calls generalizing s current with
  | nil => exact ⟨h, rfl⟩
  | cons c calls ih =>
    obtain ⟨hforce, henv⟩ := SetupCall.inForce_perform h c
    obtain ⟨hforce', henv'⟩ := ih hforce
    rw [configureAll, (mapM_observing_cons SetupCall.perform c calls s).2, List.foldl_cons]
    rw [henv] at hforce' henv'
    exact ⟨hforce', henv'⟩

/-- However logging was configured and reset, there is one handler if it is configured and none else, and records go on to
    the root logger just if it is not; handler and level are those of the configuration that worked last, unless it was
    reset. A configuration works if its level is valid, and else it fails for that and leaves everything as it was. -/
theorem configureAll_in_force (hs : s.channel.InForce none) (calls : List SetupCall) :
    let t := after (configureAll calls) s
    let last := SetupCall.last? s.environment calls
    t.channel.handlers.length = (if t.channel.isConfigured then 1 else 0) ∧
      t.channel.propagates = !t.channel.isConfigured ∧
      t.channel.isConfigured = last.isSome ∧
      t.channel.handlers = (last.map Setup.handler).toList ∧
      t.channel.level = (last.map Setup.level).getD Level.unset ∧
      ∀ c : SetupCall,
        (result c.perform t = .ok () ↔ c = .reset ∨ (c.setup? s.environment).isSome) ∧
        ∀ fault, result c.perform t = .error fault →
          (∃ level, fault = .unknownLevel level) ∧ after c.perform t = t := by
  intro t last
  obtain ⟨hforce, henv⟩ := inForce_configureAll hs calls
  rw [SetupCall.foldl_next] at hforce
  refine ⟨?_, ?_, hforce.isConfigured, hforce.handlers, hforce.level, fun c => ?_⟩
  · rw [hforce.handlers, hforce.isConfigured]
    cases SetupCall.last? s.environment calls with
    | none => rfl
    | some setup => rfl
  · rw [hforce.propagates, hforce.isConfigured, Option.not_isSome]
  · have henv' : t.environment = s.environment := henv
    rcases c.perform_cases t with ⟨rfl, hresult, -⟩ | ⟨setup, output, hc, hsetup, hresult, -, -⟩ |
      ⟨level, hc, hsetup, hresult, hafter⟩
    · simp [hresult]
    · simp [hresult, hc, ← henv', hsetup]
    · simp [hresult, hc, ← henv', hsetup, hafter]

/-- Valid levels in several cases, one of them with a dotless letter that is ASCII in capitals, and two that are none. -/
def setUpAgain : List SetupCall :=
  [.configure "loud" "text" "a.log", .configure "ınfo" "json" "stderr", .reset, .configure "Critical" "text" "b.log",
    .apply { logLevel := " debug" } "c.log"]

theorem setUpAgain_in_force :
    let s : Host Unit := { caller := () }
    let t := after (configureAll setUpAgain) s
    t.channel.handlers = [⟨⟨"text"⟩, .file "b.log"⟩] ∧ t.channel.level = 50 ∧ t.channel.files = [("b.log", "")] ∧
      t.channel.propagates = !t.channel.isConfigured ∧
      result (SetupCall.perform (.configure "ınfo" "json" "stderr")) t = .ok () ∧
      after (SetupCall.perform (.configure "loud" "text" "a.log")) t = t := by
  intro s t
  have hunset : s.channel.InForce none := ⟨rfl, rfl, rfl, rfl⟩
  obtain ⟨-, hpropagates, -, -, hlevel, hcalls⟩ := configureAll_in_force hunset setUpAgain
  refine ⟨by decide +kernel, hlevel.trans (by decide +kernel), by decide +kernel, hpropagates, ?_, ?_⟩
  · exact (hcalls _).1.mpr (Or.inr (by decide +kernel))
  · exact ((hcalls _).2 (.unknownLevel "loud") rfl).2

end Action

end AliasBook
