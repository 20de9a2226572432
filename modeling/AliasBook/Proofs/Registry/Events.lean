import AliasBook.Proofs.Log.Sinks
import AliasBook.Proofs.Registry.Result
import AliasBook.Proofs.Renaming.Turn
import AliasBook.Registry.Loading
import AliasBook.Registry.Shared

/-! What operations do to the channel. They do not look at it: whatever it is, they give the same and do the same events
    to it (`Performs`). The registry only logs notices of its own (`Event.IsOfRegistry`). -/

namespace AliasBook

/-! ### Notices -/

/-- The registry tells it, and not the loading of a file or of settings. -/
def Notice.IsOfRegistry (n : Notice) : Prop := n.logger = rootLogger ++ ".alias_registry"

/-- A notice of the registry is logged. -/
def Event.IsOfRegistry (e : Event) : Prop :=
  ∃ time, ∃ n : Notice, n.IsOfRegistry ∧ e = .logged time n.record

theorem Walk.notices_isOfRegistry (w : Walk) : ∀ n ∈ w.notices, n.IsOfRegistry := by
  intro n hn
  obtain ⟨y, -, rfl⟩ := List.mem_map.mp hn
  rfl

theorem Mapping.place_isOfRegistry (m : Mapping) (name a : String) : ∀ n ∈ (m.place name a).notices, n.IsOfRegistry := by
  unfold place
  dsimp only
  split
  · simp
  · exact Walk.notices_isOfRegistry _

theorem Mapping.define_isOfRegistry (m : Mapping) (name a : String) (leave : Bool) :
    ∀ n ∈ (m.define name a leave).notices, n.IsOfRegistry := by
  have hplace := m.place_isOfRegistry name a
  unfold define
  split
  · exact List.forall_mem_singleton.mpr rfl
  · split
    · simp
    · split
      · exact hplace
      · split
        · exact List.forall_mem_cons.mpr ⟨rfl, hplace⟩
        · simp

theorem Renaming.step_isOfRegistry (p : Renaming) (a name : String) (a' name' : Option String) :
    ∀ n ∈ (p.step a name a' name').notices, n.IsOfRegistry := by
  intro n hn
  rcases mem_notices_step hn with rfl | ⟨x, y, rfl, -⟩
  · rfl
  · rfl

/-- The state with another channel. -/
def Host.withChannel {ρ : Type} (s : Host ρ) (c : Channel) : Host ρ := { s with channel := c }

theorem Host.environment_withChannel {ρ : Type} (s : Host ρ) (c : Channel) :
    (s.withChannel c).environment = s.environment := rfl

namespace Action
variable {ρ α β : Type} {act : Action ρ α} {s : Host ρ} {es es' : List Event} {Q Q' : Event → Prop}

theorem after_tellAll (ns : List Notice) (s : Host ρ) :
    after (tellAll ns) s = s.withChannel (s.channel.replay (ns.map fun n => .logged s.now n.record)) := by
  induction ns generalizing s with
  | nil => rfl
  | cons n ns ih =>
    rw [tellAll, after_bind, result_tell]
    exact ih _

/-- Whatever the channel is, the code gives the same, and does these events to the channel. -/
def Performs (act : Action ρ α) (s : Host ρ) (es : List Event) : Prop :=
  ∀ c, result act (s.withChannel c) = result act s ∧ after act (s.withChannel c) = (after act s).withChannel (c.replay es)

namespace Performs

theorem channel (h : Performs act s es) : (after act s).channel = s.channel.replay es :=
  congrArg Host.channel (h s.channel).2

theorem bind_ok {f : α → Action ρ β} {a : α} (h : Performs act s es) (hok : result act s = .ok a)
    (hf : Performs (f a) (after act s) es') : Performs (act >>= f) s (es ++ es') := by
  intro c
  obtain ⟨hresult, hafter⟩ := h c
  obtain ⟨hresult', hafter'⟩ := hf (c.replay es)
  simp only [result_bind, after_bind, hresult, hafter, hok, Except.bind]
  refine ⟨hresult', hafter'.trans ?_⟩
  rw [Channel.replay, Channel.replay, Channel.replay, List.foldl_append]

theorem bind_error {f : α → Action ρ β} {fault : Fault} (h : Performs act s es) (herror : result act s = .error fault) :
    Performs (act >>= f) s es := by
  intro c
  obtain ⟨hresult, hafter⟩ := h c
  simp only [result_bind, after_bind, hresult, hafter, herror, Except.bind, and_self]

theorem tryCatch_ok {handle : Fault → Action ρ α} {a : α} (h : Performs act s es) (hok : result act s = .ok a) :
    Performs (tryCatch act handle) s es := by
  intro c
  obtain ⟨hresult, hafter⟩ := h c
  simp only [result_tryCatch, after_tryCatch, hresult, hafter, hok, and_self]

theorem tryCatch_error {handle : Fault → Action ρ α} {fault : Fault} (h : Performs act s es)
    (herror : result act s = .error fault) (hhandle : Performs (handle fault) (after act s) es') :
    Performs (tryCatch act handle) s (es ++ es') := by
  intro c
  obtain ⟨hresult, hafter⟩ := h c
  obtain ⟨hresult', hafter'⟩ := hhandle (c.replay es)
  simp only [result_tryCatch, after_tryCatch, hresult, hafter, herror]
  refine ⟨hresult', hafter'.trans ?_⟩
  rw [Channel.replay, Channel.replay, Channel.replay, List.foldl_append]

end Performs

/-- The code does events with `Q` to the channel, and does not look at it. -/
def Confined (Q : Event → Prop) (act : Action ρ α) : Prop :=
  ∀ s, ∃ es, Performs act s es ∧ ∀ e ∈ es, Q e

namespace Confined
variable {m : Mapping}

theorem mono (h : Confined Q act) (hq : ∀ e, Q e → Q' e) : Confined Q' act := by
  intro s
  obtain ⟨es, hes, hQ⟩ := h s
  exact ⟨es, hes, fun e he => hq e (hQ e he)⟩

theorem silent (h : ∀ s, Performs act s []) : Confined Q act := fun s => ⟨[], h s, by simp⟩

theorem event {act : Action ρ Unit} {e : Host ρ → Event} (h : ∀ s, Performs act s [e s]) (hq : ∀ s, Q (e s)) :
    Confined Q act :=
  fun s => ⟨[e s], h s, by simp [hq s]⟩

theorem pure (a : α) : Confined Q (pure a : Action ρ α) := silent fun _ _ => ⟨rfl, rfl⟩

theorem throw (fault : Fault) : Confined Q (throw fault : Action ρ α) := silent fun _ _ => ⟨rfl, rfl⟩

theorem bind {f : α → Action ρ β} (h : Confined Q act) (hf : ∀ a, Confined Q (f a)) : Confined Q (act >>= f) := by
  intro s
  obtain ⟨es, hes, hq⟩ := h s
  cases hresult : result act s with
  | error fault => exact ⟨es, hes.bind_error hresult, hq⟩
  | ok a =>
    obtain ⟨es', hes', hq'⟩ := hf a (after act s)
    exact ⟨es ++ es', hes.bind_ok hresult hes', List.forall_mem_append.mpr ⟨hq, hq'⟩⟩

theorem tryCatch {handle : Fault → Action ρ α} (h : Confined Q act) (hf : ∀ fault, Confined Q (handle fault)) :
    Confined Q (tryCatch act handle) := by
  intro s
  obtain ⟨es, hes, hq⟩ := h s
  cases hresult : result act s with
  | ok a => exact ⟨es, hes.tryCatch_ok hresult, hq⟩
  | error fault =>
    obtain ⟨es', hes', hq'⟩ := hf fault (after act s)
    exact ⟨es ++ es', hes.tryCatch_error hresult hes', List.forall_mem_append.mpr ⟨hq, hq'⟩⟩

/-- Code may look at what is not the channel. -/
theorem look {f : Host ρ → Action ρ α} (hblind : ∀ s c, f (s.withChannel c) = f s) (hf : ∀ s, Confined Q (f s)) :
    Confined Q (get >>= f) := by
  intro s
  obtain ⟨es, hes, hq⟩ := hf s s
  refine ⟨es, fun c => ?_, hq⟩
  simp only [result_bind, after_bind, result_get, after_get, Except.bind, hblind]
  exact hes c

theorem mapping : Confined Q (mapping : Action ρ Mapping) := silent fun _ _ => ⟨rfl, rfl⟩

theorem setMapping (m : Mapping) : Confined Q (setMapping m : Action ρ Unit) := silent fun _ _ => ⟨rfl, rfl⟩

theorem allowsOverriding : Confined Q (allowsOverriding : Action ρ Bool) := silent fun _ _ => ⟨rfl, rfl⟩

theorem ofExcept (outcome : Except Fault α) : Confined Q (ofExcept outcome : Action ρ α) := by
  cases outcome with
  | error fault => exact throw fault
  | ok a => exact pure a

theorem ofOutcome (outcome : Except AliasError α) : Confined Q (ofOutcome outcome : Action ρ α) := by
  cases outcome with
  | error e => exact throw _
  | ok a => exact pure a

/-! ### Logging -/

theorem log {r : Record} (h : ∀ time, Q (.logged time r)) : Confined Q (log r : Action ρ Unit) :=
  event (fun _ _ => ⟨rfl, rfl⟩) fun s => h s.now

theorem tell {n : Notice} (h : ∀ time, Q (.logged time n.record)) : Confined Q (tell n : Action ρ Unit) := log h

theorem tellAll {ns : List Notice} (h : ∀ n ∈ ns, ∀ time, Q (.logged time n.record)) :
    Confined Q (tellAll ns : Action ρ Unit) := by
  induction ns with
  | nil => exact pure ()
  | cons n ns ih =>
    obtain ⟨hn, hns⟩ := List.forall_mem_cons.mp h
    exact bind (tell hn) fun _ => ih hns

theorem tellOwn {n : Notice} (h : n.IsOfRegistry) : Confined Event.IsOfRegistry (Action.tell n : Action ρ Unit) :=
  tell fun time => ⟨time, n, h, rfl⟩

theorem tellAllOwn {ns : List Notice} (h : ∀ n ∈ ns, n.IsOfRegistry) :
    Confined Event.IsOfRegistry (Action.tellAll ns : Action ρ Unit) :=
  tellAll fun n hn time => ⟨time, n, h n hn, rfl⟩

theorem ofAttempt {attempt : Attempt α} (h : ∀ n ∈ attempt.notices, n.IsOfRegistry) :
    Confined Event.IsOfRegistry (ofAttempt attempt : Action ρ α) :=
  bind (tellAllOwn h) fun _ => ofOutcome _

/-! ### Writing -/

theorem defineIn (m : Mapping) (name a : String) : Confined Event.IsOfRegistry (defineIn m name a : Action ρ _) := by
  unfold Action.defineIn
  dsimp only
  split
  · exact bind allowsOverriding fun leave => ofAttempt (m.define_isOfRegistry name a leave)
  · exact ofAttempt (m.define_isOfRegistry name a true)

theorem defineAllIn (name : String) (m : Mapping) (aliases : List String) :
    Confined Event.IsOfRegistry (defineAllIn name m aliases : Action ρ _) := by
  induction aliases generalizing m with
  | nil => exact pure _
  | cons a rest ih => exact bind (defineIn m name a) fun p => bind (ih p.1) fun q => pure _

theorem register (name a : Value) : Confined Event.IsOfRegistry (register name a : Action ρ Unit) := by
  refine bind (ofOutcome _) fun name => bind (ofOutcome _) fun a => bind mapping fun m => ?_
  refine bind (defineIn m name a) fun p => bind (setMapping _) fun _ => ?_
  split
  · exact tellOwn rfl
  · exact pure ()

theorem registerMany (name aliases : Value) : Confined Event.IsOfRegistry (registerMany name aliases : Action ρ Nat) := by
  refine bind (ofOutcome _) fun name => bind (ofExcept _) fun items => bind (ofOutcome _) fun aliases => ?_
  refine bind mapping fun m => bind (defineAllIn name m aliases) fun p => bind (setMapping _) fun _ => ?_
  split
  · exact bind (tellOwn rfl) fun _ => pure _
  · exact pure _

theorem remove (a : Value) : Confined Event.IsOfRegistry (remove a : Action ρ Unit) := by
  refine bind mapping fun m => ?_
  extract_lets removeFound
  have hremove : ∀ key, Confined Event.IsOfRegistry (removeFound key : Action ρ Unit) := by
    intro key
    unfold removeFound
    split
    · exact bind (setMapping _) fun _ => tellOwn rfl
    · exact throw _
  split
  · exact bind (pure _) hremove
  · exact bind (ofExcept _) hremove

/-! ### Looking up along chains -/

theorem canonical (name : Value) : Confined Event.IsOfRegistry (canonical name : Action ρ Value) := by
  refine bind (ofExcept _) fun key => ?_
  split
  · exact pure _
  · refine bind mapping fun m => bind (tellAllOwn fun n hn => ?_) fun _ => pure _
    obtain ⟨y, -, rfl⟩ := List.mem_map.mp hn
    rfl

theorem hasAlias (name a : Value) : Confined Event.IsOfRegistry (hasAlias name a : Action ρ Bool) := by
  refine bind (ofExcept _) fun key => ?_
  split
  · exact pure _
  · refine bind mapping fun m => ?_
    dsimp only
    split
    · exact pure _
    · exact bind (tellAllOwn (Walk.notices_isOfRegistry _)) fun _ => pure _

theorem checkCircle (name a : Value) : Confined Event.IsOfRegistry (checkCircle name a : Action ρ Unit) := by
  refine bind (hasAlias a name) fun found => ?_
  split
  · exact throw _
  · exact pure ()

/-! ### Renaming -/

theorem renameEntries (hq : ∀ e, Event.IsOfRegistry e → Q e) {f : Resolver ρ} (hf : ∀ x, Confined Q (f x)) (p : Renaming)
    (entries : List (String × String)) : Confined Q (renameEntries f p entries) := by
  induction entries generalizing p with
  | nil => exact pure p
  | cons e rest ih =>
    refine bind (hf e.1) fun a' => bind (hf e.2) fun n' => bind ?_ fun q => ih q
    exact (ofAttempt (p.step_isOfRegistry e.1 e.2 a' n')).mono hq

theorem resolve (hq : ∀ e, Event.IsOfRegistry e → Q e) {resolver : Option (Resolver ρ)}
    (hf : ∀ f ∈ resolver, ∀ x, Confined Q (f x)) : Confined Q (resolve resolver) := by
  cases resolver with
  | none => exact throw _
  | some f =>
    refine look (fun _ _ => rfl) fun s => bind (renameEntries hq (hf f rfl) _ _) fun p => look (fun _ _ => rfl) fun t => ?_
    have htell : Confined Q (if 0 < p.changed then Action.tell (.resolved p.changed) else Pure.pure () : Action ρ Unit) := by
      split
      · exact (tellOwn (n := .resolved p.changed) rfl).mono hq
      · exact pure ()
    dsimp only
    split
    · exact bind (setMapping _) fun _ => htell
    · exact htell

/-! ### Settings and files -/

theorem settingsFromEnvironment (hq : ∀ (n : Notice) time, Q (.logged time n.record)) :
    Confined Q (settingsFromEnvironment : Action ρ Settings) := by
  refine look (fun s c => by rw [Host.environment_withChannel]) fun s => ?_
  obtain ⟨settings, notices⟩ := Settings.ofEnvironment s.environment
  exact bind (tellAll fun n _ => hq n) fun _ => pure settings

theorem policyOf (hq : ∀ (n : Notice) time, Q (.logged time n.record)) (settings : Option Settings) :
    Confined Q (policyOf settings : Action ρ Policy) := by
  cases settings with
  | none => exact bind (settingsFromEnvironment hq) fun _ => pure _
  | some settings => exact pure _

theorem openRegistry (policy : Policy) (isShared : Bool) : Confined Q (openRegistry policy isShared : Action ρ Unit) :=
  silent fun _ _ => ⟨rfl, rfl⟩

theorem useShared (hq : ∀ (n : Notice) time, Q (.logged time n.record)) : Confined Q (useShared : Action ρ Unit) := by
  refine look (fun _ _ => rfl) fun s => ?_
  split
  · exact bind (policyOf hq none) fun policy => openRegistry policy true
  · exact pure ()

theorem configureLogging (hopen : ∀ output, Q (.opened output))
    (hconfigure : ∀ number formatter output, Q (.configured number formatter output)) (level format : Value)
    (output : String) : Confined Q (configureLogging level format output : Action ρ Unit) := by
  have hlevel : Confined Q (levelNumber level : Action ρ Int) := by
    unfold levelNumber
    split
    · split
      · exact pure _
      · exact throw _
    · exact throw _
  refine bind hlevel fun number => ?_
  refine bind (event (e := fun _ => .opened output) (fun _ _ => ⟨rfl, rfl⟩) fun _ => hopen output) fun _ => ?_
  refine look (fun _ _ => rfl) fun s => ?_
  split
  · exact event (e := fun _ => .configured number _ output) (fun _ _ => ⟨rfl, rfl⟩) fun _ => hconfigure number _ output
  · exact throw _

theorem resetLogging (h : Q .reset) : Confined Q (resetLogging : Action ρ Unit) :=
  event (e := fun _ => .reset) (fun _ _ => ⟨rfl, rfl⟩) fun _ => h

theorem loadLines (hq : ∀ (n : Notice) time, Q (.logged time n.record)) (path : String) (number : Nat)
    (lines : List String) : Confined Q (loadLines path number lines : Action ρ Nat) := by
  induction lines generalizing number with
  | nil => exact pure 0
  | cons line rest ih =>
    rw [Action.loadLines]
    split
    · refine bind ((registerMany _ _).mono ?_) fun _ => bind (ih (number + 1)) fun _ => pure _
      rintro _ ⟨time, n, -, rfl⟩
      exact hq n time
    · dsimp only
      split
      · exact bind (tell (hq _)) fun _ => ih (number + 1)
      · exact ih (number + 1)

theorem loadFile (hq : ∀ (n : Notice) time, Q (.logged time n.record)) (path : String) (bytes : Option ByteArray) :
    Confined Q (loadFile path bytes : Action ρ Nat) := by
  unfold Action.loadFile
  split
  · exact pure 0
  · refine bind (loadLines hq path 1 _) fun count => ?_
    split
    · exact pure count
    · exact throw _

end Confined

end Action

end AliasBook
