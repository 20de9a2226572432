import AliasBook.Proofs.Mapping.Aliases
import AliasBook.Proofs.Mapping.Fresh
import Mathlib.Algebra.GroupWithZero.Nat
import Mathlib.Data.List.Nodup
import Mathlib.Data.String.Basic

/-! The listing of a mapping without circles puts every alias under its canonical name (`groups_listing`). What the
    canonical names are is all that it depends on (`listing_eq_of_canonical`). -/

namespace AliasBook.Mapping
variable {m m' : Mapping} {a c n x : String} {names names' : List String}

/-! ### Texts in order -/

theorem mem_sorted : x ∈ sorted names ↔ x ∈ names := List.mem_mergeSort

theorem pairwise_sorted (h : names.Nodup) : (sorted names).Pairwise (· < ·) := by
  have hle : (sorted names).Pairwise (· ≤ ·) := by
    refine (List.pairwise_mergeSort (fun a b c hab hbc => ?_) (fun a b => ?_) names).imp of_decide_eq_true
    · exact decide_eq_true ((of_decide_eq_true hab).trans (of_decide_eq_true hbc))
    · simpa using le_total a b
  have hnodup : (sorted names).Nodup := (List.mergeSort_perm names _).nodup_iff.mpr h
  exact (hle.and hnodup).imp fun ⟨hab, hne⟩ => lt_of_le_of_ne hab hne

theorem eq_of_pairwise_lt (h : names.Pairwise (· < ·)) (h' : names'.Pairwise (· < ·))
    (hmem : ∀ x, x ∈ names ↔ x ∈ names') : names = names' := by
  have hperm : names.Perm names' :=
    (List.perm_ext_iff_of_nodup (h.imp ne_of_lt) (h'.imp ne_of_lt)).mpr hmem
  exact hperm.eq_of_pairwise (fun _ _ _ _ hab hba => absurd hab (not_lt_of_gt hba)) h h'

theorem nodup_eraseDups : ∀ names : List String, names.eraseDups.Nodup
  | [] => by simp
  | x :: names => by
    rw [List.eraseDups_cons, List.nodup_cons]
    exact ⟨by simp, nodup_eraseDups _⟩
termination_by names => names.length
decreasing_by
  have := List.length_filter_le (fun y => !y == x) names
  rw [List.length_cons]
  omega

/-! ### Canonical names -/

theorem mem_canonicals : n ∈ m.canonicals ↔ (∃ a, m.get? a = some n) ∧ m.get? n = none := by
  rw [canonicals, mem_sorted, List.mem_eraseDups, List.mem_filter]
  simp [Mapping.names, contains, get?_eq_some_iff]

theorem pairwise_canonicals (m : Mapping) : m.canonicals.Pairwise (· < ·) :=
  pairwise_sorted (nodup_eraseDups _)

/-- An alias and its canonical name differ, and the canonical name is one of the listed ones. -/
theorem canonical_of_alias (acyclic : m.Acyclic) (ha : a ∈ m.aliases) :
    m.canonical a ∈ m.canonicals ∧ m.canonical a ≠ a := by
  obtain ⟨hlead, hend⟩ := (canonical_eq_iff acyclic).mp (rfl : m.canonical a = _)
  have hne : m.canonical a ≠ a := by
    intro heq
    rw [heq] at hend
    exact get?_eq_none_iff.mp hend ha
  have hlead := hlead.resolve_left hne.symm
  exact ⟨mem_canonicals.mpr ⟨hlead.exists_last, hend⟩, hne⟩

theorem mem_aliases_iff (acyclic : m.Acyclic) : a ∈ m.aliases ↔ m.canonical a ≠ a := by
  refine ⟨fun ha => (canonical_of_alias acyclic ha).2, fun hne => ?_⟩
  obtain ⟨hlead, -⟩ := (canonical_eq_iff acyclic).mp (rfl : m.canonical a = _)
  obtain ⟨n, hn⟩ := (hlead.resolve_left hne.symm).exists_first
  exact List.mem_map_of_mem (get?_eq_some_iff.mp hn)

theorem mem_canonicals_iff (acyclic : m.Acyclic) : c ∈ m.canonicals ↔ ∃ a ∈ m.aliases, m.canonical a = c := by
  constructor
  · intro hc
    obtain ⟨⟨a, ha⟩, hend⟩ := mem_canonicals.mp hc
    refine ⟨a, List.mem_map_of_mem (get?_eq_some_iff.mp ha), ?_⟩
    exact (canonical_eq_iff acyclic).mpr ⟨Or.inr (.single ha), hend⟩
  · rintro ⟨a, ha, rfl⟩
    exact (canonical_of_alias acyclic ha).1

/-- Backwards from a canonical name all aliases are found that have it. -/
theorem mem_aliasesOf_canonical (acyclic : m.Acyclic) (hc : m.get? c = none) :
    a ∈ m.aliasesOf c ↔ a ∈ m.aliases ∧ m.canonical a = c := by
  rw [mem_aliasesOf, canonical_eq_iff acyclic, mem_aliases_iff acyclic]
  constructor
  · rintro ⟨hne, hlead⟩
    have hcanonical := (canonical_eq_iff acyclic).mpr ⟨Or.inr hlead, hc⟩
    exact ⟨hcanonical ▸ hne.symm, Or.inr hlead, hc⟩
  · rintro ⟨hne, hlead, -⟩
    have hcanonical := (canonical_eq_iff acyclic).mpr ⟨hlead, hc⟩
    rw [hcanonical] at hne
    exact ⟨hne.symm, hlead.resolve_left hne.symm⟩

/-! ### The listing -/

/-- The groups hold the aliases of the mapping under their canonical names, both in order. -/
structure Groups (m : Mapping) (groups : List (String × List String)) : Prop where
  sorted : (groups.map Prod.fst).Pairwise (· < ·)
  mem_iff : ∀ c, c ∈ groups.map Prod.fst ↔ (∃ a, (a, c) ∈ m.entries) ∧ c ∉ m.aliases
  nonempty : ∀ g ∈ groups, g.2 ≠ []
  group_sorted : ∀ g ∈ groups, g.2.Pairwise (· < ·)
  existsUnique : ∀ a ∈ m.aliases, ∃ g ∈ groups, a ∈ g.2 ∧ g.1 = m.canonical a ∧ ∀ g' ∈ groups, a ∈ g'.2 → g' = g
  registered : ∀ g ∈ groups, ∀ a ∈ g.2, a ∈ m.aliases
  sum_length : (groups.map fun g => g.2.length).sum = m.size

theorem mem_listing {g : String × List String} :
    g ∈ m.listing ↔ g.1 ∈ m.canonicals ∧ g.2 = Mapping.sorted (m.aliasesOf g.1) := by
  obtain ⟨c, as⟩ := g
  simp only [listing, List.mem_map, Prod.mk.injEq]
  constructor
  · rintro ⟨_, hc, rfl, rfl⟩
    exact ⟨hc, rfl⟩
  · rintro ⟨hc, rfl⟩
    exact ⟨c, hc, rfl, rfl⟩

theorem map_fst_listing (m : Mapping) : m.listing.map Prod.fst = m.canonicals := by
  rw [listing, List.map_map]
  exact List.map_id _

theorem mem_group_iff (acyclic : m.Acyclic) {g : String × List String} (hg : g ∈ m.listing) :
    a ∈ g.2 ↔ a ∈ m.aliases ∧ m.canonical a = g.1 := by
  obtain ⟨hc, hgroup⟩ := mem_listing.mp hg
  rw [hgroup, mem_sorted, mem_aliasesOf_canonical acyclic (mem_canonicals.mp hc).2]

theorem exists_group (acyclic : m.Acyclic) (ha : a ∈ m.aliases) : ∃ g ∈ m.listing, a ∈ g.2 ∧ g.1 = m.canonical a := by
  have hg : (m.canonical a, sorted (m.aliasesOf (m.canonical a))) ∈ m.listing :=
    mem_listing.mpr ⟨(canonical_of_alias acyclic ha).1, rfl⟩
  exact ⟨_, hg, (mem_group_iff acyclic hg).mpr ⟨ha, rfl⟩, rfl⟩

/-- The groups together are the aliases in another order. -/
theorem flatten_listing_perm (acyclic : m.Acyclic) : (m.listing.map Prod.snd).flatten.Perm m.aliases := by
  have hnodup : (m.listing.map Prod.snd).flatten.Nodup := by
    refine List.nodup_flatten.mpr ⟨fun group hgroup => ?_, ?_⟩
    · obtain ⟨g, hg, rfl⟩ := List.mem_map.mp hgroup
      rw [(mem_listing.mp hg).2]
      exact (List.mergeSort_perm _ _).nodup_iff.mpr (m.collects_aliasesOf g.1).nodup
    -- An alias of two groups would have two canonical names.
    · have hkeys : m.listing.Pairwise fun g g' => g.1 ≠ g'.1 := by
        have hlt := m.pairwise_canonicals
        rw [← map_fst_listing, List.pairwise_map] at hlt
        exact hlt.imp ne_of_lt
      rw [List.pairwise_map]
      refine hkeys.imp_of_mem fun {g g'} hg hg' hne a ha ha' => hne ?_
      exact ((mem_group_iff acyclic hg).mp ha).2.symm.trans ((mem_group_iff acyclic hg').mp ha').2
  refine (List.perm_ext_iff_of_nodup hnodup m.nodup).mpr fun a => ⟨fun ha => ?_, fun ha => ?_⟩
  · obtain ⟨_, hgroup, ha⟩ := List.mem_flatten.mp ha
    obtain ⟨g, hg, rfl⟩ := List.mem_map.mp hgroup
    exact ((mem_group_iff acyclic hg).mp ha).1
  · obtain ⟨g, hg, ha, -⟩ := exists_group acyclic ha
    exact List.mem_flatten.mpr ⟨g.2, List.mem_map_of_mem hg, ha⟩

theorem groups_listing (acyclic : m.Acyclic) : m.Groups m.listing where
  sorted := m.map_fst_listing.symm ▸ m.pairwise_canonicals
  mem_iff c := by
    simp only [map_fst_listing, mem_canonicals, get?_eq_none_iff, get?_eq_some_iff, aliases]
  nonempty g hg hnil := by
    obtain ⟨a, ha, hcanonical⟩ := (mem_canonicals_iff acyclic).mp (mem_listing.mp hg).1
    have hmem := (mem_group_iff acyclic hg).mpr ⟨ha, hcanonical⟩
    rw [hnil] at hmem
    cases hmem
  group_sorted g hg := by
    rw [(mem_listing.mp hg).2]
    exact pairwise_sorted (m.collects_aliasesOf g.1).nodup
  existsUnique a ha := by
    obtain ⟨g, hg, ha, hcanonical⟩ := exists_group acyclic ha
    refine ⟨g, hg, ha, hcanonical, fun g' hg' ha' => ?_⟩
    have hkey : g'.1 = g.1 := ((mem_group_iff acyclic hg').mp ha').2.symm.trans hcanonical.symm
    refine Prod.ext hkey ?_
    rw [(mem_listing.mp hg').2, (mem_listing.mp hg).2, hkey]
  registered g hg a ha := ((mem_group_iff acyclic hg).mp ha).1
  sum_length := by
    have hlength := (flatten_listing_perm acyclic).length_eq
    rw [List.length_flatten, List.map_map] at hlength
    exact hlength.trans (List.length_map _)

/-- Mappings without circles that agree in canonical names have the same listing. -/
theorem listing_eq_of_canonical (h : m.Acyclic) (h' : m'.Acyclic) (hsame : ∀ x, m.canonical x = m'.canonical x) :
    m.listing = m'.listing := by
  have haliases : ∀ a, a ∈ m.aliases ↔ a ∈ m'.aliases := by
    intro a
    rw [mem_aliases_iff h, mem_aliases_iff h', hsame]
  have hcanonicals : m.canonicals = m'.canonicals := by
    refine eq_of_pairwise_lt m.pairwise_canonicals m'.pairwise_canonicals fun c => ?_
    simp only [mem_canonicals_iff h, mem_canonicals_iff h', haliases, hsame]
  rw [listing, listing, hcanonicals]
  refine List.map_congr_left fun c hc => ?_
  -- The two searches may find the aliases of a group in different orders, so the groups are compared by their members.
  have hend' := (mem_canonicals.mp hc).2
  have hend := (mem_canonicals.mp (hcanonicals.symm ▸ hc)).2
  refine Prod.ext rfl (eq_of_pairwise_lt (pairwise_sorted (m.collects_aliasesOf c).nodup)
    (pairwise_sorted (m'.collects_aliasesOf c).nodup) fun a => ?_)
  rw [mem_sorted, mem_sorted, mem_aliasesOf_canonical h hend, mem_aliasesOf_canonical h' hend', haliases, hsame]

/-! ### Entries out of groups -/

/-- Every alias of a group with the name of the group. -/
def ungrouped (groups : List (String × List String)) : List (String × String) :=
  groups.flatMap fun g => g.2.map (·, g.1)

/-- The aliases of `m` stand for their canonical names directly in `m'`. -/
def Flattens (m m' : Mapping) : Prop :=
  ∀ a c, m'.get? a = some c ↔ a ∈ m.aliases ∧ m.canonical a = c

section Ungrouped
variable {order : List (String × List String)}

theorem mem_ungrouped (acyclic : m.Acyclic) (horder : order.Perm m.listing) :
    (a, c) ∈ ungrouped order ↔ a ∈ m.aliases ∧ m.canonical a = c := by
  simp only [ungrouped, List.mem_flatMap, List.mem_map, Prod.mk.injEq]
  constructor
  · rintro ⟨g, hg, b, hb, rfl, rfl⟩
    exact (mem_group_iff acyclic (horder.mem_iff.mp hg)).mp hb
  · rintro ⟨ha, rfl⟩
    obtain ⟨g, hg, ha, hcanonical⟩ := exists_group acyclic ha
    exact ⟨g, horder.mem_iff.mpr hg, a, ha, rfl, hcanonical⟩

theorem map_fst_ungrouped (groups : List (String × List String)) :
    (ungrouped groups).map Prod.fst = (groups.map Prod.snd).flatten := by
  simp [ungrouped, List.flatMap, List.map_flatten, Function.comp_def]

/-- The groups of a sound mapping, in any order, can be written into one without entries. -/
theorem fresh_ungrouped (h : m.Sound) (horder : order.Perm m.listing) : empty.Fresh (ungrouped order) where
  filled := by
    rintro ⟨a, c⟩ hmem
    obtain ⟨ha, rfl⟩ := (mem_ungrouped h.acyclic horder).mp hmem
    obtain ⟨⟨b, hb⟩, -⟩ := mem_canonicals.mp (canonical_of_alias h.acyclic ha).1
    obtain ⟨⟨k, n⟩, hentry, rfl⟩ := List.mem_map.mp ha
    exact ⟨(h.filled k n (get?_eq_some_iff.mpr hentry)).1, (h.filled b _ hb).2⟩
  proper := by
    rintro ⟨a, c⟩ hmem
    obtain ⟨ha, rfl⟩ := (mem_ungrouped h.acyclic horder).mp hmem
    exact (canonical_of_alias h.acyclic ha).2.symm
  free := fun _ _ => rfl
  nodup := by
    rw [map_fst_ungrouped, ((horder.map Prod.snd).flatten.trans (flatten_listing_perm h.acyclic)).nodup_iff]
    exact m.nodup

theorem flattens_ungrouped (h : m.Sound) (horder : order.Perm m.listing) :
    m.Flattens (empty.insertAll (ungrouped order)) := by
  intro a c
  rw [(fresh_ungrouped h horder).get?_insertAll, mem_ungrouped h.acyclic horder]
  simp

end Ungrouped

namespace Flattens

/-- After one step there is no other one. -/
theorem get?_of_leads (h : m.Flattens m') (acyclic : m.Acyclic) (hlead : m'.Leads x n) : m'.get? x = some n := by
  obtain ⟨c, hc, hrest⟩ := Relation.TransGen.head'_iff.mp hlead
  rcases Relation.ReflTransGen.cases_head hrest with rfl | ⟨d, hd, -⟩
  · exact hc
  · obtain ⟨hx, rfl⟩ := (h x c).mp hc
    obtain ⟨halias, -⟩ := (h _ d).mp hd
    have hend := (mem_canonicals.mp (canonical_of_alias acyclic hx).1).2
    exact absurd halias (get?_eq_none_iff.mp hend)

theorem acyclic (h : m.Flattens m') (acyclic : m.Acyclic) : m'.Acyclic := by
  intro x hx
  obtain ⟨halias, heq⟩ := (h x x).mp (h.get?_of_leads acyclic hx)
  exact (canonical_of_alias acyclic halias).2 heq

theorem canonical_eq (h : m.Flattens m') (acyclic : m.Acyclic) (x : String) : m'.canonical x = m.canonical x := by
  obtain ⟨-, hend⟩ := (canonical_eq_iff acyclic).mp (rfl : m.canonical x = _)
  refine (canonical_eq_iff (h.acyclic acyclic)).mpr ⟨?_, ?_⟩
  · by_cases hx : x ∈ m.aliases
    · exact Or.inr (.single ((h x _).mpr ⟨hx, rfl⟩))
    · rw [mem_aliases_iff acyclic, not_not] at hx
      exact Or.inl hx.symm
  · rw [Option.eq_none_iff_forall_ne_some]
    intro d hd
    exact get?_eq_none_iff.mp hend ((h _ d).mp hd).1

end Flattens

end AliasBook.Mapping
