import AliasBook.Mapping.Attempt
import AliasBook.Proofs.Mapping.Walk
import AliasBook.Text.Blank

/-! The mappings that registries work with: no circles and no blank texts. Taking an entry away and trying to
    write one keep a mapping so, whatever is in it. -/

namespace AliasBook.Mapping
variable {m m' : Mapping} {name a n x : String}

/-- No name leads to itself, and no alias or name is blank. -/
structure Sound (m : Mapping) : Prop where
  acyclic : m.Acyclic
  filled : ∀ a n, m.get? a = some n → Text.isBlank a = false ∧ Text.isBlank n = false

/-! ### What trying to write does -/

/-- An entry is written exactly if its name does not lead to its alias. -/
theorem place_eq_ok_iff : (m.place name a).outcome = .ok m' ↔ ¬m.Leads name a ∧ m' = m.insert a name := by
  rw [place, ← reaches_walk_iff]
  by_cases h : (m.walk name).reaches a = true
  · simp [h]
  · simp [h, eq_comm]

theorem place_eq_error_iff {refusal : AliasError} :
    (m.place name a).outcome = .error refusal ↔ refusal = .circular a name ∧ m.Leads name a := by
  rw [place, ← reaches_walk_iff]
  by_cases h : (m.walk name).reaches a = true
  · simp [h, eq_comm]
  · simp [h]

/-- A definition that is not refused takes an entry away, leaves all as it is, or writes an entry that closes no
    circle. -/
theorem define_inv {leave wrote : Bool} (h : (m.define name a leave).outcome = .ok (m', wrote)) :
    (a = name ∧ m' = m.erase a ∧ wrote = false) ∨ (m.get? a = some name ∧ m' = m ∧ wrote = false) ∨
      (a ≠ name ∧ m.get? a ≠ some name ∧ ¬m.Leads name a ∧ m' = m.insert a name ∧ wrote = true) := by
  have written : ∀ {outcome : Except AliasError Mapping}, outcome = (m.place name a).outcome → a ≠ name →
      m.get? a ≠ some name → outcome.map (·, true) = .ok (m', wrote) →
      a ≠ name ∧ m.get? a ≠ some name ∧ ¬m.Leads name a ∧ m' = m.insert a name ∧ wrote = true := by
    intro outcome hout hne hget hmap
    cases outcome with
    | error e => cases hmap
    | ok w =>
      obtain ⟨hlead, rfl⟩ := place_eq_ok_iff.mp hout.symm
      cases hmap
      exact ⟨hne, hget, hlead, rfl, rfl⟩
  unfold define at h
  split at h
  · cases h
    exact Or.inl ⟨‹_›, rfl, rfl⟩
  · rename_i hne
    split at h
    · cases h
      exact Or.inr (Or.inl ⟨‹_›, rfl, rfl⟩)
    · rename_i hget
      split at h
      · exact Or.inr (Or.inr (written rfl hne hget h))
      · split at h
        · exact Or.inr (Or.inr (written rfl hne hget h))
        · cases h

/-- With permission to override, a definition is only refused because its name leads to its alias: where nothing is
    written the name does not. -/
theorem define_eq_error_iff (h : m.Acyclic) {refusal : AliasError} :
    (m.define name a true).outcome = .error refusal ↔ refusal = .circular a name ∧ m.Leads name a := by
  have hplace : (m.place name a).outcome.map (·, true) = .error refusal ↔
      refusal = .circular a name ∧ m.Leads name a := by
    rw [← place_eq_error_iff]
    cases (m.place name a).outcome with
    | error e => simp [Except.map]
    | ok m' => simp [Except.map]
  unfold define
  split
  · rename_i hself
    subst hself
    simp [h a]
  · split
    · rename_i hget
      have hlead : ¬m.Leads name a := fun hlead => h a ((Leads.single hget).trans hlead)
      simp [hlead]
    · split
      · exact hplace
      · rw [if_pos rfl]
        exact hplace

/-! ### Sound mappings -/

theorem sound_empty : Sound empty := ⟨acyclic_empty, fun _ _ h => by cases h⟩

namespace Sound

theorem erase (h : m.Sound) : (m.erase a).Sound := by
  refine ⟨h.acyclic.erase, fun k n hk => ?_⟩
  rw [get?_erase] at hk
  split at hk
  · cases hk
  · exact h.filled k n hk

theorem insert (h : m.Sound) (hne : a ≠ n) (hlead : ¬m.Leads n a) (ha : Text.isBlank a = false)
    (hn : Text.isBlank n = false) : (m.insert a n).Sound := by
  refine ⟨h.acyclic.insert hne hlead, fun k l hk => ?_⟩
  rw [get?_insert] at hk
  split at hk
  · rename_i heq
    cases hk
    exact ⟨heq ▸ ha, hn⟩
  · exact h.filled k l hk

theorem perm (h : m.Sound) (horder : m.entries.Perm m'.entries) : m'.Sound := by
  have hget : ∀ a n, m'.get? a = some n → m.get? a = some n := by
    intro a n ha
    rw [get?_eq_some_iff] at ha ⊢
    exact horder.mem_iff.mpr ha
  exact ⟨h.acyclic.mono hget, fun a n ha => h.filled a n (hget a n ha)⟩

end Sound

end AliasBook.Mapping
