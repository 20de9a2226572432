import AliasBook.Proofs.Mapping.Fresh
import AliasBook.Proofs.Registry.Result

/-! What registering does to the registry. Defining an alias asks the policy at most once and leaves the entries alone;
    it is registering that puts the new ones in use, and it does so only if nothing was refused. -/

namespace AliasBook

/-- The permission that a policy gives: its answer if it is asked, and else the permission nobody has to ask for. -/
def Policy.leave (policy : Policy) (asks : Bool) : Bool :=
  if asks then policy.answer policy.asked else true

/-- The policy when it was asked, or when it was not. -/
def Policy.next (policy : Policy) (asks : Bool) : Policy :=
  if asks then { policy with asked := policy.asked + 1 } else policy

namespace Action
variable {ρ : Type} {m : Mapping} {name a : String} {aliases : List String} {fault : Fault}
  {es : List (String × String)} {e : String × String}

/-! ### Defining -/

theorem result_defineIn (m : Mapping) (name a : String) (s : Host ρ) : result (defineIn m name a) s =
    (m.define name a (s.registry.policy.leave (m.overridden? name a).isSome)).outcome.mapError .refused := by
  unfold defineIn Policy.leave
  cases (m.overridden? name a).isSome with
  | true => exact (result_bind _ _).trans (result_ofAttempt _)
  | false => exact result_ofAttempt _

theorem registry_after_defineIn (m : Mapping) (name a : String) (s : Host ρ) :
    (after (defineIn m name a) s).registry =
      { s.registry with policy := s.registry.policy.next (m.overridden? name a).isSome } := by
  unfold defineIn Policy.next
  cases (m.overridden? name a).isSome with
  | true => exact (congrArg Host.registry (after_bind _ _)).trans (registry_after_ofAttempt _)
  | false => exact registry_after_ofAttempt _

/-- Of the registry, only the policy has a part in defining. -/
theorem defineIn_congr {s t : Host ρ} (m : Mapping) (name a : String) (h : s.registry.policy = t.registry.policy) :
    result (defineIn m name a) s = result (defineIn m name a) t ∧
      (after (defineIn m name a) s).registry.policy = (after (defineIn m name a) t).registry.policy := by
  rw [result_defineIn, result_defineIn, registry_after_defineIn, registry_after_defineIn, h]
  exact ⟨rfl, rfl⟩

theorem define_of_defineIn {p : Mapping × Bool} {s : Host ρ} (h : result (defineIn m name a) s = .ok p) :
    (m.define name a (s.registry.policy.leave (m.overridden? name a).isSome)).outcome = .ok p := by
  rw [result_defineIn] at h
  cases hout : (m.define name a (s.registry.policy.leave (m.overridden? name a).isSome)).outcome with
  | error refusal =>
    rw [hout] at h
    cases h
  | ok q =>
    rw [hout] at h
    cases h
    rfl

/-! ### Defining several aliases -/

theorem defineAllIn_cons_of_ok {p : Mapping × Bool} {s : Host ρ} (rest : List String)
    (h : result (defineIn m name a) s = .ok p) :
    result (defineAllIn name m (a :: rest)) s = (result (defineAllIn name p.1 rest) (after (defineIn m name a) s)).map
        (fun q => (q.1, q.2 + if p.2 then 1 else 0)) ∧
      after (defineAllIn name m (a :: rest)) s = after (defineAllIn name p.1 rest) (after (defineIn m name a) s) := by
  rw [defineAllIn, result_bind, after_bind, h]
  dsimp only [Except.bind]
  rw [result_bind, after_bind]
  refine ⟨rfl, ?_⟩
  split
  · rfl
  · rfl

theorem defineAllIn_cons_of_error {s : Host ρ} (rest : List String)
    (h : result (defineIn m name a) s = .error fault) :
    result (defineAllIn name m (a :: rest)) s = .error fault ∧
      after (defineAllIn name m (a :: rest)) s = after (defineIn m name a) s := by
  rw [defineAllIn, result_bind, after_bind, h]
  exact ⟨rfl, rfl⟩

theorem mapping_after_defineAllIn (name : String) (m : Mapping) (aliases : List String) (s : Host ρ) :
    (after (defineAllIn name m aliases) s).registry.mapping = s.registry.mapping := by
  induction aliases generalizing m s with
  | nil => rfl
  | cons a rest ih =>
    have hfirst := congrArg Registry.mapping (registry_after_defineIn m name a s)
    cases h : result (defineIn m name a) s with
    | error fault => rw [(defineAllIn_cons_of_error rest h).2, hfirst]
    | ok p => rw [(defineAllIn_cons_of_ok rest h).2, ih, hfirst]

/-! ### Arguments -/

theorem items?_list (items : List Value) : (Value.list items).items? = .ok items := rfl

theorem requireText_eq_ok_iff {v : Value} {field x : String} :
    requireText v field = .ok x ↔ v = .text x ∧ Text.isBlank x = false := by
  cases v with
  | text t =>
    rw [requireText]
    by_cases h : Text.isBlank t = true
    · simp only [h, if_true, reduceCtorEq, Value.text.injEq, false_iff, not_and]
      rintro rfl
      simp [h]
    · simp only [h, Bool.false_eq_true, if_false, Except.ok.injEq, Value.text.injEq]
      constructor
      · rintro rfl
        exact ⟨rfl, by simpa using h⟩
      · exact And.left
  | _ => simp [requireText]

theorem requireText_text {field x : String} (h : Text.isBlank x = false) : requireText (.text x) field = .ok x :=
  requireText_eq_ok_iff.mpr ⟨rfl, h⟩

theorem requireTexts_text {field : String} (h : ∀ a ∈ aliases, Text.isBlank a = false) :
    requireTexts field (aliases.map Value.text) = .ok aliases := by
  induction aliases with
  | nil => rfl
  | cons a rest ih =>
    rw [List.map_cons, requireTexts, requireText_text (h a List.mem_cons_self),
      ih fun b hb => h b (List.mem_cons_of_mem a hb)]
    rfl

theorem requireTexts_eq_ok_iff {vs : List Value} {field : String} :
    requireTexts field vs = .ok aliases ↔ vs = aliases.map Value.text ∧ ∀ a ∈ aliases, Text.isBlank a = false := by
  refine ⟨fun h => ?_, fun ⟨hvs, hfilled⟩ => hvs ▸ requireTexts_text hfilled⟩
  induction vs generalizing aliases with
  | nil =>
    cases h
    simp
  | cons v vs ih =>
    rw [requireTexts] at h
    cases hv : requireText v field with
    | error e => rw [hv] at h; cases h
    | ok x =>
      cases hvs : requireTexts field vs with
      | error e => rw [hv, hvs] at h; cases h
      | ok rest =>
        rw [hv, hvs] at h
        cases h
        obtain ⟨rfl, hx⟩ := requireText_eq_ok_iff.mp hv
        obtain ⟨rfl, hrest⟩ := ih hvs
        exact ⟨rfl, List.forall_mem_cons.mpr ⟨hx, hrest⟩⟩

/-! ### Registering one alias -/

theorem register_of_ok {p : Mapping × Bool} {s : Host ρ} (hn : Text.isBlank name = false)
    (ha : Text.isBlank a = false) (h : result (defineIn s.registry.mapping name a) s = .ok p) :
    result (register (.text name) (.text a)) s = .ok () ∧
      (after (register (.text name) (.text a)) s).registry =
        { (after (defineIn s.registry.mapping name a) s).registry with mapping := p.1 } := by
  rw [register, requireText_text hn, requireText_text ha]
  simp only [ofOutcome, pure_bind, result_bind, after_bind, result_mapping, after_mapping, h, Except.bind,
    result_setMapping]
  split
  · exact ⟨rfl, rfl⟩
  · exact ⟨rfl, rfl⟩

theorem register_of_error {s : Host ρ} (hn : Text.isBlank name = false) (ha : Text.isBlank a = false)
    (h : result (defineIn s.registry.mapping name a) s = .error fault) :
    result (register (.text name) (.text a)) s = .error fault ∧
      (after (register (.text name) (.text a)) s).registry =
        (after (defineIn s.registry.mapping name a) s).registry := by
  rw [register, requireText_text hn, requireText_text ha]
  simp only [ofOutcome, pure_bind, result_bind, after_bind, result_mapping, after_mapping, h, Except.bind, and_self]

/-! ### Registering a new entry -/

theorem defineIn_of_fresh (h : m.Fresh (e :: es)) (hlead : ¬m.Leads e.2 e.1) (s : Host ρ) :
    result (defineIn m e.2 e.1) s = .ok (m.insert e.1 e.2, true) := by
  rw [result_defineIn, Mapping.define_of_free (h.proper e List.mem_cons_self) (h.free e List.mem_cons_self) hlead]
  rfl

/-- A new entry comes behind the ones that are there, unless it closes a circle. -/
theorem register_of_fresh {s : Host ρ} (h : s.registry.mapping.Fresh (e :: es))
    (hlead : ¬s.registry.mapping.Leads e.2 e.1) :
    result (register (.text e.2) (.text e.1)) s = .ok () ∧
      (after (register (.text e.2) (.text e.1)) s).registry.mapping = s.registry.mapping.insert e.1 e.2 := by
  obtain ⟨ha, hn⟩ := h.filled e List.mem_cons_self
  obtain ⟨hok, hregistry⟩ := register_of_ok hn ha (defineIn_of_fresh h hlead s)
  refine ⟨hok, ?_⟩
  rw [hregistry]

theorem register_of_leads {s : Host ρ} (h : s.registry.mapping.Fresh (e :: es))
    (hlead : s.registry.mapping.Leads e.2 e.1) :
    result (register (.text e.2) (.text e.1)) s = .error (.refused (.circular e.1 e.2)) ∧
      (after (register (.text e.2) (.text e.1)) s).registry.mapping = s.registry.mapping := by
  obtain ⟨ha, hn⟩ := h.filled e List.mem_cons_self
  have hdefine : result (defineIn s.registry.mapping e.2 e.1) s = .error (.refused (.circular e.1 e.2)) := by
    rw [result_defineIn, Mapping.define_of_leads (h.proper e List.mem_cons_self) (h.free e List.mem_cons_self) hlead]
    rfl
  obtain ⟨hrefused, hregistry⟩ := register_of_error hn ha hdefine
  refine ⟨hrefused, ?_⟩
  rw [hregistry, registry_after_defineIn]

/-! ### Registering several aliases -/

theorem registerMany_of_ok {v : Value} {p : Mapping × Nat} {s : Host ρ} (hitems : v.items? = .ok (aliases.map Value.text))
    (hn : Text.isBlank name = false) (ha : ∀ a ∈ aliases, Text.isBlank a = false)
    (h : result (defineAllIn name s.registry.mapping aliases) s = .ok p) :
    result (registerMany (.text name) v) s = .ok p.2 ∧ (after (registerMany (.text name) v) s).registry =
      { (after (defineAllIn name s.registry.mapping aliases) s).registry with mapping := p.1 } := by
  rw [registerMany, requireText_text hn]
  simp only [hitems, requireTexts_text ha, ofOutcome, ofExcept, pure_bind, result_bind, after_bind,
    result_mapping, after_mapping, h, Except.bind, result_setMapping]
  split
  · exact ⟨rfl, rfl⟩
  · exact ⟨rfl, rfl⟩

theorem registerMany_of_error {v : Value} {s : Host ρ} (hitems : v.items? = .ok (aliases.map Value.text))
    (hn : Text.isBlank name = false) (ha : ∀ a ∈ aliases, Text.isBlank a = false)
    (h : result (defineAllIn name s.registry.mapping aliases) s = .error fault) :
    result (registerMany (.text name) v) s = .error fault ∧ (after (registerMany (.text name) v) s).registry =
      (after (defineAllIn name s.registry.mapping aliases) s).registry := by
  rw [registerMany, requireText_text hn]
  simp only [hitems, requireTexts_text ha, ofOutcome, ofExcept, pure_bind, result_bind, after_bind,
    result_mapping, after_mapping, h, Except.bind, and_self]

/-! ### Registering whatever it is -/

/-- Registering is refused and leaves the entries alone, or its arguments are texts and it puts in use what defining the
    alias makes of the entries. -/
theorem register_cases (name a : Value) (s : Host ρ) :
    (∃ fault, result (register name a) s = .error fault ∧
      (after (register name a) s).registry.mapping = s.registry.mapping) ∨
    ∃ n x p, name = .text n ∧ a = .text x ∧ result (register name a) s = .ok () ∧
      result (defineIn s.registry.mapping n x) s = .ok p ∧ (after (register name a) s).registry.mapping = p.1 := by
  cases hname : requireText name "name" with
  | error e => exact Or.inl ⟨.refused e, by rw [register, hname]; exact ⟨rfl, rfl⟩⟩
  | ok n =>
    cases halias : requireText a "alias" with
    | error e => exact Or.inl ⟨.refused e, by rw [register, hname, halias]; exact ⟨rfl, rfl⟩⟩
    | ok x =>
      obtain ⟨rfl, hn⟩ := requireText_eq_ok_iff.mp hname
      obtain ⟨rfl, hx⟩ := requireText_eq_ok_iff.mp halias
      cases hdefine : result (defineIn s.registry.mapping n x) s with
      | error fault =>
        obtain ⟨hresult, hregistry⟩ := register_of_error hn hx hdefine
        exact Or.inl ⟨fault, hresult, by rw [hregistry, registry_after_defineIn]⟩
      | ok p =>
        obtain ⟨hresult, hregistry⟩ := register_of_ok hn hx hdefine
        exact Or.inr ⟨n, x, p, rfl, rfl, hresult, hdefine, by rw [hregistry]⟩

theorem registerMany_cases (name aliases : Value) (s : Host ρ) :
    (∃ fault, result (registerMany name aliases) s = .error fault ∧
      (after (registerMany name aliases) s).registry.mapping = s.registry.mapping) ∨
    ∃ n xs p, name = .text n ∧ aliases.items? = .ok (xs.map Value.text) ∧
      result (registerMany name aliases) s = .ok p.2 ∧ result (defineAllIn n s.registry.mapping xs) s = .ok p ∧
      (after (registerMany name aliases) s).registry.mapping = p.1 := by
  cases hname : requireText name "name" with
  | error e => exact Or.inl ⟨.refused e, by rw [registerMany, hname]; exact ⟨rfl, rfl⟩⟩
  | ok n =>
    cases hitems : aliases.items? with
    | error fault => exact Or.inl ⟨fault, by rw [registerMany, hname, hitems]; exact ⟨rfl, rfl⟩⟩
    | ok items =>
      cases htexts : requireTexts "alias" items with
      | error e =>
        refine Or.inl ⟨.refused e, ?_⟩
        simp only [registerMany, hname, hitems, ofOutcome, ofExcept, pure_bind, htexts]
        exact ⟨rfl, rfl⟩
      | ok xs =>
        obtain ⟨rfl, hn⟩ := requireText_eq_ok_iff.mp hname
        obtain ⟨rfl, hxs⟩ := requireTexts_eq_ok_iff.mp htexts
        cases hdefine : result (defineAllIn n s.registry.mapping xs) s with
        | error fault =>
          obtain ⟨hresult, hregistry⟩ := registerMany_of_error hitems hn hxs hdefine
          exact Or.inl ⟨fault, hresult, by rw [hregistry, mapping_after_defineAllIn]⟩
        | ok p =>
          obtain ⟨hresult, hregistry⟩ := registerMany_of_ok hitems hn hxs hdefine
          exact Or.inr ⟨n, xs, p, rfl, rfl, hresult, hdefine, by rw [hregistry]⟩

/-! ### Registering several new entries -/

/-- New entries for one name are written all, without asking the policy, unless they close a circle. -/
theorem defineAllIn_of_fresh (h : m.Fresh (aliases.map (·, name)))
    (hacyclic : (m.insertAll (aliases.map (·, name))).Acyclic) (s : Host ρ) :
    result (defineAllIn name m aliases) s = .ok (m.insertAll (aliases.map (·, name)), aliases.length) := by
  induction aliases generalizing m s with
  | nil => rfl
  | cons a rest ih =>
    have hfirst := defineIn_of_fresh h (h.not_leads hacyclic) s
    rw [(defineAllIn_cons_of_ok rest hfirst).1, ih h.insert hacyclic]
    rfl

theorem registerMany_of_fresh {s : Host ρ} (hn : Text.isBlank name = false)
    (h : s.registry.mapping.Fresh (aliases.map (·, name)))
    (hacyclic : (s.registry.mapping.insertAll (aliases.map (·, name))).Acyclic) :
    result (registerMany (.text name) (.list (aliases.map Value.text))) s = .ok aliases.length ∧
      (after (registerMany (.text name) (.list (aliases.map Value.text))) s).registry.mapping =
        s.registry.mapping.insertAll (aliases.map (·, name)) := by
  have ha : ∀ a ∈ aliases, Text.isBlank a = false := fun a ha =>
    (h.filled (a, name) (List.mem_map_of_mem ha)).1
  obtain ⟨hok, hregistry⟩ := registerMany_of_ok (items?_list _) hn ha (defineAllIn_of_fresh h hacyclic s)
  refine ⟨hok, ?_⟩
  rw [hregistry]

end Action

end AliasBook
