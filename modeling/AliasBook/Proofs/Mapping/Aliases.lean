import AliasBook.Mapping.Aliases
import AliasBook.Proofs.Mapping.Leads

/-! The aliases that are found backwards from a name are exactly the other names that lead to it
    (`mem_aliasesOf`), in any mapping: an entry waits at most once, so the search comes to its end before it runs out
    of fuel (`collects_aliasesOf`). -/

namespace AliasBook.Mapping
variable {m : Mapping} {name a b : String} {seen pending found : List String}

theorem mem_directAliases : b ∈ m.directAliases a ↔ m.get? b = some a := by
  simp [directAliases, get?_eq_some_iff]

/-! ### The search up to its end -/

/-- The search ends with what it found: each name that waits is passed over if it was seen, else it is found, and its
    direct aliases come to wait. -/
inductive Collects (m : Mapping) : List String → List String → List String → Prop
  | done {seen : List String} : Collects m seen [] []
  | again {seen pending found : List String} {a : String} : a ∈ seen → Collects m seen pending found →
      Collects m seen (a :: pending) found
  | new {seen pending found : List String} {a : String} : a ∉ seen →
      Collects m (a :: seen) (m.directAliases a ++ pending) found → Collects m seen (a :: pending) (a :: found)

namespace Collects

/-- What is found is new and leads to something that waited. -/
theorem sound (h : m.Collects seen pending found) (hb : b ∈ found) :
    b ∉ seen ∧ ∃ p ∈ pending, b = p ∨ m.Leads b p := by
  induction h with
  | done => cases hb
  | again _ _ ih =>
    obtain ⟨hnew, p, hp, hl⟩ := ih hb
    exact ⟨hnew, p, List.mem_cons_of_mem _ hp, hl⟩
  | @new seen pending found a ha _ ih =>
    rcases List.mem_cons.mp hb with rfl | hb
    · exact ⟨ha, b, List.mem_cons_self, Or.inl rfl⟩
    · obtain ⟨hnew, p, hp, hl⟩ := ih hb
      refine ⟨fun hseen => hnew (List.mem_cons_of_mem a hseen), ?_⟩
      rcases List.mem_append.mp hp with hp | hp
      · have hpa := Leads.single (mem_directAliases.mp hp)
        refine ⟨a, List.mem_cons_self, Or.inr ?_⟩
        rcases hl with rfl | hl
        · exact hpa
        · exact hl.trans hpa
      · exact ⟨p, List.mem_cons_of_mem a hp, hl⟩

/-- All that waited is found and, with a name, its direct aliases. -/
theorem closed (h : m.Collects seen pending found) : (∀ p ∈ pending, p ∈ seen ∨ p ∈ found) ∧
    ∀ a ∈ found, ∀ b, m.get? b = some a → b ∈ seen ∨ b ∈ found := by
  induction h with
  | done => exact ⟨fun p hp => (List.not_mem_nil hp).elim, fun a ha => (List.not_mem_nil ha).elim⟩
  | again ha _ ih =>
    obtain ⟨hpending, hclosed⟩ := ih
    refine ⟨fun p hp => ?_, hclosed⟩
    rcases List.mem_cons.mp hp with rfl | hp
    · exact Or.inl ha
    · exact hpending p hp
  | @new seen pending found c hc _ ih =>
    obtain ⟨hpending, hclosed⟩ := ih
    have hmove : ∀ {p}, p ∈ c :: seen ∨ p ∈ found → p ∈ seen ∨ p ∈ c :: found := by
      rintro p (hp | hp)
      · rcases List.mem_cons.mp hp with rfl | hp
        · exact Or.inr List.mem_cons_self
        · exact Or.inl hp
      · exact Or.inr (List.mem_cons_of_mem c hp)
    refine ⟨fun p hp => ?_, fun a ha b hb => hmove ?_⟩
    · rcases List.mem_cons.mp hp with rfl | hp
      · exact Or.inr List.mem_cons_self
      · exact hmove (hpending p (List.mem_append_right _ hp))
    · rcases List.mem_cons.mp ha with rfl | ha
      · exact hpending b (List.mem_append_left _ (mem_directAliases.mpr hb))
      · exact hclosed a ha b hb

theorem nodup (h : m.Collects seen pending found) : found.Nodup := by
  induction h with
  | done => exact List.nodup_nil
  | again _ _ ih => exact ih
  | new _ hrest ih => exact List.nodup_cons.mpr ⟨fun ha => (hrest.sound ha).1 List.mem_cons_self, ih⟩

end Collects

/-! ### The search with fuel -/

/-- The entries whose names were not met yet; none of them has waited so far. -/
def unmet (m : Mapping) (seen : List String) : Nat :=
  (m.entries.filter fun e => e.2 ∉ seen).length

theorem unmet_eq (ha : a ∉ seen) : m.unmet seen = (m.directAliases a).length + m.unmet (a :: seen) := by
  rw [unmet, unmet, directAliases, List.length_reverse, List.length_map]
  induction m.entries with
  | nil => rfl
  | cons e es ih =>
    by_cases he : e.2 = a
    · have hseen : e.2 ∉ seen := he ▸ ha
      grind
    · by_cases hseen : e.2 ∈ seen
      · grind
      · grind

/-- Fuel for what waits and what may still come to wait is enough. -/
theorem collects_collect {fuel : Nat} (hfuel : pending.length + m.unmet seen ≤ fuel) :
    m.Collects seen pending (m.collect fuel seen pending) := by
  induction fuel generalizing seen pending with
  | zero =>
    have hnil : pending = [] := List.length_eq_zero_iff.mp (by omega)
    subst hnil
    exact .done
  | succ fuel ih =>
    cases pending with
    | nil => exact .done
    | cons a pending =>
      rw [List.length_cons] at hfuel
      rw [collect]
      split
      · rename_i ha
        exact .again ha (ih (by omega))
      · rename_i ha
        have hmet := m.unmet_eq ha
        refine .new ha (ih ?_)
        rw [List.length_append]
        omega

theorem collects_aliasesOf (m : Mapping) (name : String) :
    m.Collects [name] (m.directAliases name) (m.aliasesOf name) := by
  refine collects_collect (Nat.le_of_eq ?_)
  rw [← m.unmet_eq List.not_mem_nil, unmet, size]
  simp

/-- The aliases of a name are the other names that lead to it. -/
theorem mem_aliasesOf : a ∈ m.aliasesOf name ↔ a ≠ name ∧ m.Leads a name := by
  have hsearch := m.collects_aliasesOf name
  constructor
  · intro ha
    obtain ⟨hne, p, hp, hl⟩ := hsearch.sound ha
    refine ⟨fun heq => hne (heq ▸ List.mem_cons_self), ?_⟩
    have hpn := Leads.single (mem_directAliases.mp hp)
    rcases hl with rfl | hl
    · exact hpn
    · exact hl.trans hpn
  · rintro ⟨hne, hl⟩
    obtain ⟨hpending, hclosed⟩ := hsearch.closed
    have hfound : a ∈ [name] ∨ a ∈ m.aliasesOf name := by
      induction hl using Relation.TransGen.head_induction_on with
      | single ha => exact hpending _ (mem_directAliases.mpr ha)
      | @head b c ha _ ih =>
        by_cases hc : c = name
        · exact hpending _ (mem_directAliases.mpr (hc ▸ ha))
        · exact hclosed c ((ih hc).resolve_left fun h => hc (List.mem_singleton.mp h)) _ ha
    exact hfound.resolve_left fun h => hne (List.mem_singleton.mp h)

end AliasBook.Mapping
