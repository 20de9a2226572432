import AliasBook.Proofs.Registry.Lookup
import AliasBook.Proofs.Registry.Reachable

/-! When a registry refuses an alias because of a circle. The entries are searched before the alias is written, while its
    old entry is still there, and the search tells nevertheless whether there would be a circle afterwards
    (`circular_iff`). -/

namespace AliasBook.Action
variable {ρ : Type} {s : Host ρ} {name a : String}

/-- The code ends with the refusal of an alias that would close a circle. -/
def RefusesCircle (act : Action ρ Unit) (s : Host ρ) : Prop :=
  ∃ x n, result act s = .error (.refused (.circular x n))

theorem result_checkCircle (name a : String) (s : Host ρ) : result (checkCircle (.text name) (.text a)) s =
    if s.registry.mapping.hasAlias a name then .error (.refused (.circular a name)) else .ok () := by
  rw [checkCircle, result_bind, result_hasAlias]
  dsimp only [Except.bind]
  split <;> rfl

theorem checkCircle_eq_error_iff {fault : Fault} : result (checkCircle (.text name) (.text a)) s = .error fault ↔
    fault = .refused (.circular a name) ∧ s.registry.mapping.Leads name a := by
  have hlead : s.registry.mapping.hasAlias a name = true ↔ s.registry.mapping.Leads name a :=
    Mapping.reaches_walk_iff _ _ _
  rw [result_checkCircle, ← hlead]
  cases s.registry.mapping.hasAlias a name with
  | true => simp [eq_comm]
  | false => simp

/-- Where overriding is allowed, registering an alias is only refused if the name leads to it. -/
theorem register_eq_error_iff (hacyclic : s.registry.mapping.Acyclic) (hn : Text.isBlank name = false)
    (ha : Text.isBlank a = false) (hallowed : s.registry.policy.answer s.registry.policy.asked = true) {fault : Fault} :
    result (register (.text name) (.text a)) s = .error fault ↔
      fault = .refused (.circular a name) ∧ s.registry.mapping.Leads name a := by
  have hleave : s.registry.policy.leave (s.registry.mapping.overridden? name a).isSome = true := by
    rw [Policy.leave, hallowed, ite_self]
  have hdefine := result_defineIn s.registry.mapping name a s
  rw [hleave] at hdefine
  cases hout : (s.registry.mapping.define name a true).outcome with
  | error refusal =>
    obtain ⟨rfl, hlead⟩ := (Mapping.define_eq_error_iff hacyclic).mp hout
    rw [hout] at hdefine
    rw [(register_of_error hn ha hdefine).1]
    simp [hlead, eq_comm]
  | ok p =>
    have hlead : ¬s.registry.mapping.Leads name a := by
      intro hlead
      rw [(Mapping.define_eq_error_iff hacyclic).mpr ⟨rfl, hlead⟩] at hout
      cases hout
    rw [hout] at hdefine
    rw [(register_of_ok hn ha hdefine).1]
    simp [hlead]

/-- If overriding is allowed, registering an alias and checking it beforehand are both refused exactly if the alias is
    not the name and some name would lead to itself once the alias has the new entry. Nothing else is refused. -/
theorem circular_iff (hm : Reachable s.registry.mapping) (hn : Text.isBlank name = false) (ha : Text.isBlank a = false)
    (hallowed : s.registry.policy.answer s.registry.policy.asked = true) :
    let closes := name ≠ a ∧ ∃ x, (s.registry.mapping.insert a name).Leads x x
    (RefusesCircle (register (.text name) (.text a)) s ↔ closes) ∧
      (RefusesCircle (checkCircle (.text name) (.text a)) s ↔ closes) ∧
      ∀ act ∈ [register (.text name) (.text a), checkCircle (.text name) (.text a)], ∀ fault,
        result act s = .error fault ↔ fault = .refused (.circular a name) ∧ closes := by
  intro closes
  have hacyclic := hm.sound.acyclic
  have hcloses : s.registry.mapping.Leads name a ↔ closes := by
    have hinsert := (hacyclic.insert_iff (a := a) (n := name)).not
    simp only [Mapping.Acyclic, not_forall, not_not, not_and_or] at hinsert
    constructor
    · intro hlead
      refine ⟨?_, hinsert.mpr (Or.inr hlead)⟩
      rintro rfl
      exact hacyclic name hlead
    · rintro ⟨hne, hround⟩
      exact (hinsert.mp hround).resolve_left hne.symm
  have hfault : ∀ act ∈ [register (.text name) (.text a), checkCircle (.text name) (.text a)], ∀ fault,
      result act s = .error fault ↔ fault = .refused (.circular a name) ∧ closes := by
    rw [← hcloses]
    refine List.forall_mem_cons.mpr ⟨fun _ => register_eq_error_iff hacyclic hn ha hallowed, ?_⟩
    exact List.forall_mem_singleton.mpr fun _ => checkCircle_eq_error_iff
  have hrefuses : ∀ act ∈ [register (.text name) (.text a), checkCircle (.text name) (.text a)],
      RefusesCircle act s ↔ closes := by
    intro act hact
    constructor
    · rintro ⟨x, n, hresult⟩
      exact ((hfault act hact _).mp hresult).2
    · exact fun hround => ⟨a, name, (hfault act hact _).mpr ⟨rfl, hround⟩⟩
  exact ⟨hrefuses _ (by simp), hrefuses _ (by simp), hfault⟩

/-- An alias in the middle of a chain is taken to the front of it, over its old entry. -/
theorem circular_overriding :
    let m : Mapping := { entries := [("a", "b"), ("b", "c")] }
    let s : Host Unit := { registry := { mapping := m, policy := .always true }, caller := () }
    Reachable m ∧ (m.insert "b" "a").entries = [("a", "b"), ("b", "a")] ∧
      RefusesCircle (register (.text "a") (.text "b")) s ∧ RefusesCircle (checkCircle (.text "a") (.text "b")) s ∧
      ¬RefusesCircle (register (.text "c") (.text "a")) s := by
  intro m s
  have hm : Reachable m :=
    ⟨Unit, { caller := { own := () } }, registerAll m.entries, client_registerAll _, rfl, rfl, Or.inl (by decide)⟩
  have hround : ∃ x, (m.insert "b" "a").Leads x x := ⟨"a", (Mapping.Leads.single rfl).tail rfl⟩
  obtain ⟨hregister, hcheck, -⟩ := @circular_iff Unit s "a" "b" hm (by decide) (by decide) rfl
  refine ⟨hm, by decide, hregister.mpr ⟨by decide, hround⟩, hcheck.mpr ⟨by decide, hround⟩, ?_⟩
  rintro ⟨x, n, hresult⟩
  cases hresult

end AliasBook.Action
