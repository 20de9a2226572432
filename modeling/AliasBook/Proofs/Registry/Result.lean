import AliasBook.Registry.Operations

/-! What operations give, and the state that they leave. An operation that ends early leaves a state, too, so
    a property of states is kept by an operation if it holds of what is left in either case (`Keeps`). -/

namespace AliasBook.Action
variable {ρ α β : Type} {s : Host ρ}

/-- What an operation gives, or how it ends early. -/
def result (act : Action ρ α) (s : Host ρ) : Except Fault α :=
  (StateT.run (ExceptT.run act) s).run.1

/-- The state that an operation leaves. -/
def after (act : Action ρ α) (s : Host ρ) : Host ρ :=
  (StateT.run (ExceptT.run act) s).run.2

/-! ### Results of composed operations -/

@[simp] theorem result_pure (a : α) : result (pure a) s = .ok a := rfl

@[simp] theorem after_pure (a : α) : after (pure a) s = s := rfl

@[simp] theorem result_throw (fault : Fault) : result (throw fault : Action ρ α) s = .error fault := rfl

@[simp] theorem after_throw (fault : Fault) : after (throw fault : Action ρ α) s = s := rfl

@[simp] theorem result_get : result (get : Action ρ (Host ρ)) s = .ok s := rfl

@[simp] theorem after_get : after (get : Action ρ (Host ρ)) s = s := rfl

@[simp] theorem result_modify (f : Host ρ → Host ρ) : result (modify f : Action ρ Unit) s = .ok () := rfl

@[simp] theorem after_modify (f : Host ρ → Host ρ) : after (modify f : Action ρ Unit) s = f s := rfl

@[simp] theorem result_bind (act : Action ρ α) (f : α → Action ρ β) :
    result (act >>= f) s = (result act s).bind fun a => result (f a) (after act s) := by
  show (StateT.run (ExceptT.run act) s >>= fun p => StateT.run (ExceptT.bindCont f p.1) p.2).run.1 = _
  unfold result after
  generalize StateT.run (ExceptT.run act) s = p
  obtain ⟨x, t⟩ := p
  cases x <;> rfl

theorem after_bind (act : Action ρ α) (f : α → Action ρ β) :
    after (act >>= f) s = match result act s with
      | .ok a => after (f a) (after act s)
      | .error _ => after act s := by
  show (StateT.run (ExceptT.run act) s >>= fun p => StateT.run (ExceptT.bindCont f p.1) p.2).run.2 = _
  unfold result after
  generalize StateT.run (ExceptT.run act) s = p
  obtain ⟨x, t⟩ := p
  cases x <;> rfl

theorem result_discard (act : Action ρ α) : result (do let _ ← act) s = (result act s).map fun _ => () := by
  rw [result_bind]
  cases result act s with
  | error fault => rfl
  | ok a => rfl

theorem after_discard (act : Action ρ α) : after (do let _ ← act) s = after act s := by
  rw [after_bind]
  split
  · rfl
  · rfl

theorem mapM_cons_of_ok {ι : Type} {f : ι → Action ρ α} {x : ι} {a : α} (xs : List ι) (h : result (f x) s = .ok a) :
    result ((x :: xs).mapM f) s = (result (xs.mapM f) (after (f x) s)).map (a :: ·) ∧
      after ((x :: xs).mapM f) s = after (xs.mapM f) (after (f x) s) := by
  rw [List.mapM_cons]
  simp only [result_bind, after_bind, h, Except.bind]
  refine ⟨rfl, ?_⟩
  split
  · rfl
  · rfl

theorem result_tryCatch (act : Action ρ α) (handle : Fault → Action ρ α) :
    result (tryCatch act handle) s = match result act s with
      | .ok a => .ok a
      | .error fault => result (handle fault) (after act s) := by
  unfold result after ExceptT.run
  simp only [tryCatch, tryCatchThe, MonadExceptOf.tryCatch, ExceptT.tryCatch, ExceptT.mk, StateT.run_bind]
  generalize StateT.run act s = p
  obtain ⟨x, t⟩ := p
  cases x <;> rfl

theorem after_tryCatch (act : Action ρ α) (handle : Fault → Action ρ α) :
    after (tryCatch act handle) s = match result act s with
      | .ok _ => after act s
      | .error fault => after (handle fault) (after act s) := by
  unfold result after ExceptT.run
  simp only [tryCatch, tryCatchThe, MonadExceptOf.tryCatch, ExceptT.tryCatch, ExceptT.mk, StateT.run_bind]
  generalize StateT.run act s = p
  obtain ⟨x, t⟩ := p
  cases x <;> rfl

@[simp] theorem result_observing (act : Action ρ α) : result (observing act) s = .ok (result act s) := by
  rw [observing, result_tryCatch, result_bind]
  cases result act s with
  | error fault => rfl
  | ok a => rfl

@[simp] theorem after_observing (act : Action ρ α) : after (observing act) s = after act s := by
  rw [observing, after_tryCatch, result_bind, after_bind]
  cases result act s with
  | error fault => rfl
  | ok a => rfl

/-- Code that is observed is done one after the other, whatever becomes of what was done before. -/
theorem mapM_observing_cons {ι : Type} (f : ι → Action ρ α) (x : ι) (xs : List ι) (s : Host ρ) :
    let t := after (f x) s
    result ((x :: xs).mapM fun y => observing (f y)) s =
        (result (xs.mapM fun y => observing (f y)) t).map (result (f x) s :: ·) ∧
      after ((x :: xs).mapM fun y => observing (f y)) s = after (xs.mapM fun y => observing (f y)) t := by
  have hcons := mapM_cons_of_ok (f := fun y => observing (f y)) (x := x) xs (result_observing (s := s) _)
  rwa [after_observing] at hcons

theorem map_eq_ok_iff {f : α → β} {outcome : Except Fault α} {b : β} :
    outcome.map f = .ok b ↔ ∃ a, outcome = .ok a ∧ f a = b := by
  cases outcome with
  | error fault => simp [Except.map]
  | ok a => simp [Except.map]

theorem map_eq_error_iff {f : α → β} {outcome : Except Fault α} {fault : Fault} :
    outcome.map f = .error fault ↔ outcome = .error fault := by
  cases outcome with
  | error fault => simp [Except.map]
  | ok a => simp [Except.map]

/-! ### Telling -/

@[simp] theorem result_tell (n : Notice) : result (tell n) s = .ok () := rfl

@[simp] theorem registry_after_tell (n : Notice) : (after (tell n) s).registry = s.registry := rfl

@[simp] theorem result_tellAll (ns : List Notice) : result (tellAll ns) s = .ok () := by
  induction ns generalizing s with
  | nil => rfl
  | cons n ns ih => rw [tellAll, result_bind, result_tell, Except.bind, ih]

@[simp] theorem registry_after_tellAll (ns : List Notice) : (after (tellAll ns) s).registry = s.registry := by
  induction ns generalizing s with
  | nil => rfl
  | cons n ns ih =>
    rw [tellAll, after_bind, result_tell]
    exact ih

@[simp] theorem result_ofAttempt (attempt : Attempt α) :
    result (ofAttempt attempt) s = attempt.outcome.mapError .refused := by
  rw [ofAttempt, result_bind, result_tellAll, Except.bind]
  cases attempt.outcome with
  | error e => rfl
  | ok a => rfl

theorem after_ofAttempt (attempt : Attempt α) : after (ofAttempt attempt) s = after (tellAll attempt.notices) s := by
  rw [ofAttempt, after_bind, result_tellAll]
  cases attempt.outcome with
  | error e => rfl
  | ok a => rfl

@[simp] theorem registry_after_ofAttempt (attempt : Attempt α) :
    (after (ofAttempt attempt) s).registry = s.registry := by
  rw [after_ofAttempt, registry_after_tellAll]

/-! ### The entries -/

@[simp] theorem result_mapping : result (mapping : Action ρ Mapping) s = .ok s.registry.mapping := rfl

@[simp] theorem after_mapping : after (mapping : Action ρ Mapping) s = s := rfl

@[simp] theorem result_setMapping (m : Mapping) : result (setMapping m : Action ρ Unit) s = .ok () := rfl

@[simp] theorem registry_after_setMapping (m : Mapping) :
    (after (setMapping m : Action ρ Unit) s).registry = { s.registry with mapping := m } := rfl

/-! ### What operations keep -/

/-- From a state with `I` the operation leaves a state with `I`, and what it gives if it does not end early
    has `Q`. -/
def Keeps (I : Host ρ → Prop) (act : Action ρ α) (Q : α → Prop) : Prop :=
  ∀ s, I s → I (after act s) ∧ ∀ a, result act s = .ok a → Q a

namespace Keeps
variable {I : Host ρ → Prop} {act : Action ρ α} {Q Q' : α → Prop} {f : α → Action ρ β} {R : β → Prop}

theorem mono (h : Keeps I act Q) (hq : ∀ a, Q a → Q' a) : Keeps I act Q' :=
  fun s hs => ⟨(h s hs).1, fun a ha => hq a ((h s hs).2 a ha)⟩

theorem pure {a : α} (ha : Q a) : Keeps I (pure a) Q := by
  intro s hs
  refine ⟨hs, fun b hb => ?_⟩
  cases hb
  exact ha

theorem throw (fault : Fault) : Keeps I (throw fault : Action ρ α) Q :=
  fun _ hs => ⟨hs, fun _ hb => by cases hb⟩

theorem bind (h : Keeps I act Q) (hf : ∀ a, Q a → Keeps I (f a) R) : Keeps I (act >>= f) R := by
  intro s hs
  obtain ⟨hI, hQ⟩ := h s hs
  rw [after_bind, result_bind]
  cases hres : result act s with
  | error fault => exact ⟨hI, fun b hb => by cases hb⟩
  | ok a => exact hf a (hQ a hres) (after act s) hI

theorem tryCatch {handle : Fault → Action ρ α} (h : Keeps I act Q) (hf : ∀ fault, Keeps I (handle fault) Q) :
    Keeps I (tryCatch act handle) Q := by
  intro s hs
  obtain ⟨hI, hQ⟩ := h s hs
  rw [after_tryCatch, result_tryCatch]
  cases hres : result act s with
  | error fault => exact hf fault (after act s) hI
  | ok a =>
    refine ⟨hI, fun b hb => ?_⟩
    cases hb
    exact hQ a hres

theorem ite {c : Prop} [Decidable c] {act' : Action ρ α} (h : c → Keeps I act Q) (h' : ¬c → Keeps I act' Q) :
    Keeps I (if c then act else act') Q := by
  split
  · exact h ‹_›
  · exact h' ‹_›

theorem modify {g : Host ρ → Host ρ} (h : ∀ s, I s → I (g s)) : Keeps I (modify g) fun _ => True :=
  fun s hs => ⟨h s hs, fun _ _ => trivial⟩

theorem get {Q : Host ρ → Prop} (h : ∀ s, I s → Q s) : Keeps I (get : Action ρ (Host ρ)) Q := by
  intro s hs
  refine ⟨hs, fun t ht => ?_⟩
  cases ht
  exact h s hs

theorem ofOutcome {outcome : Except AliasError α} (h : ∀ a, outcome = .ok a → Q a) :
    Keeps I (ofOutcome outcome) Q := by
  cases outcome with
  | error e => exact throw _
  | ok a => exact pure (h a rfl)

theorem ofExcept {outcome : Except Fault α} (h : ∀ a, outcome = .ok a → Q a) : Keeps I (ofExcept outcome) Q := by
  cases outcome with
  | error fault => exact throw fault
  | ok a => exact pure (h a rfl)

end Keeps

end AliasBook.Action
