import AliasBook.Proofs.Mapping.Aliases
import AliasBook.Proofs.Renaming.Pass

/-! Passes by a function that gives every text of the mapping a new one of its own. Midway the copy has old
    and new texts side by side; read back (`undo`), each of its entries is one of the mapping, so that no
    turn is refused. What the pass leaves is the mapping under the new texts, with its chains and its
    sets of aliases. -/

namespace AliasBook

def Mapping.Occurs (m : Mapping) (x : String) : Prop :=
  x ∈ m.aliases ∨ x ∈ m.names

namespace Renaming

/-- Every text of the mapping gets a usable one of its own, which is the same or does not occur. -/
structure Relabels (r : String → Option String) (m : Mapping) : Prop where
  defined : ∀ x, m.Occurs x → ∃ y, r x = some y ∧ Text.isBlank y = false
  injective : ∀ x y, m.Occurs x → m.Occurs y → r x = r y → x = y
  fresh : ∀ x y, m.Occurs x → r x = some y → y = x ∨ ¬m.Occurs y

open Classical in
/-- The text that a new one is for; a text that is not new is for itself. -/
noncomputable def undo (r : String → Option String) (m : Mapping) (y : String) : String :=
  if h : ∃ x, m.Occurs x ∧ r x = some y then h.choose else y

variable {r : String → Option String} {done rest : List (String × String)} {e : String × String}
  {m w v : Mapping} {a b n x y t : String}

theorem occurs_alias (h : m.get? a = some n) : m.Occurs a :=
  Or.inl (List.mem_map.mpr ⟨(a, n), Mapping.get?_eq_some_iff.mp h, rfl⟩)

theorem occurs_name (h : m.get? a = some n) : m.Occurs n :=
  Or.inr (List.mem_map.mpr ⟨(a, n), Mapping.get?_eq_some_iff.mp h, rfl⟩)

theorem occurs_perm (horder : m.entries.Perm v.entries) : m.Occurs x ↔ v.Occurs x := by
  simp only [Mapping.Occurs, Mapping.aliases, Mapping.names, (horder.map _).mem_iff]

namespace Relabels

theorem perm (hr : Relabels r m) (horder : m.entries.Perm v.entries) : Relabels r v := by
  constructor
  · exact fun x hx => hr.defined x ((occurs_perm horder).mpr hx)
  · exact fun x y hx hy => hr.injective x y ((occurs_perm horder).mpr hx) ((occurs_perm horder).mpr hy)
  · intro x y hx hy
    rw [← occurs_perm horder]
    exact hr.fresh x y ((occurs_perm horder).mpr hx) hy

theorem undo_of_eq (hr : Relabels r m) (hx : m.Occurs x) (hy : r x = some y) : undo r m y = x := by
  have h : ∃ x, m.Occurs x ∧ r x = some y := ⟨x, hx, hy⟩
  rw [undo, dif_pos h]
  exact hr.injective _ _ h.choose_spec.1 hx (h.choose_spec.2.trans hy.symm)

theorem undo_of_occurs (hr : Relabels r m) (hx : m.Occurs x) : undo r m x = x := by
  by_cases h : ∃ z, m.Occurs z ∧ r z = some x
  · obtain ⟨z, hz, hzx⟩ := h
    rcases hr.fresh z x hz hzx with rfl | hnew
    · exact hr.undo_of_eq hx hzx
    · exact absurd hx hnew
  · rw [undo, dif_neg h]

theorem image_eq (hr : Relabels r m) (acyclic : m.Acyclic) (h : m.get? a = some n) :
    ∃ x t, r a = some x ∧ r n = some t ∧ image r (a, n) = some (x, t) := by
  obtain ⟨x, hx, hxb⟩ := hr.defined a (occurs_alias h)
  obtain ⟨t, ht, htb⟩ := hr.defined n (occurs_name h)
  have hne : x ≠ t := by
    rintro rfl
    exact acyclic.ne h (hr.injective a n (occurs_alias h) (occurs_name h) (hx.trans ht.symm))
  exact ⟨x, t, hx, ht, target_eq_some_iff.mpr ⟨hx, ht, hxb, htb, hne⟩⟩

/-- Entries that others become are settled: such an entry becomes itself. -/
theorem settled (hr : Relabels r m) : Settled r m.entries := by
  rintro ⟨a, n⟩ he ⟨x, t⟩ he' himage
  have ha := Mapping.get?_eq_some_iff.mpr he
  have hx := Mapping.get?_eq_some_iff.mpr he'
  obtain ⟨hax, -⟩ := target_eq_some_iff.mp himage
  rcases hr.fresh a x (occurs_alias ha) hax with rfl | hnew
  · rw [ha] at hx
    cases hx
    exact himage
  · exact absurd (occurs_alias hx) hnew

/-- Read back, every entry of the copy is one of the mapping. -/
theorem get?_undo (hr : Relabels r m) (hmid : Midway r done rest w) (hm : done ++ rest = m.entries)
    (h : w.get? x = some t) : m.get? (undo r m x) = some (undo r m t) := by
  rcases hmid.origin x t h with hmem | ⟨⟨a, n⟩, hmem, himage⟩
  · have hx : m.get? x = some t := Mapping.get?_eq_some_iff.mpr (hm ▸ List.mem_append_right _ hmem)
    rw [hr.undo_of_occurs (occurs_alias hx), hr.undo_of_occurs (occurs_name hx), hx]
  · have ha : m.get? a = some n := Mapping.get?_eq_some_iff.mpr (hm ▸ List.mem_append_left _ hmem)
    obtain ⟨hax, hnt, -⟩ := target_eq_some_iff.mp himage
    rw [hr.undo_of_eq (occurs_alias ha) hax, hr.undo_of_eq (occurs_name ha) hnt, ha]

/-- The new alias of an entry that waits is free, unless it is the old one. -/
theorem free (hr : Relabels r m) (hmid : Midway r done (e :: rest) w) (hm : done ++ e :: rest = m.entries)
    (hx : r e.1 = some x) (hne : x ≠ e.1) : w.get? x = none := by
  have he : m.get? e.1 = some e.2 := Mapping.get?_eq_some_iff.mpr (hm ▸ by simp)
  rw [Option.eq_none_iff_forall_ne_some]
  intro l hl
  rcases hmid.origin x l hl with hmem | ⟨d, hmem, himage⟩
  · have hxl : m.get? x = some l := Mapping.get?_eq_some_iff.mpr (hm ▸ List.mem_append_right _ hmem)
    rcases hr.fresh e.1 x (occurs_alias he) hx with heq | hnew
    · exact hne heq
    · exact hnew (occurs_alias hxl)
  · -- Only the entry of the same alias becomes this one, and its turn is not over.
    have hd : m.get? d.1 = some d.2 := Mapping.get?_eq_some_iff.mpr (hm ▸ List.mem_append_left _ hmem)
    obtain ⟨hdx, -⟩ := target_eq_some_iff.mp himage
    have hde : d.1 = e.1 := hr.injective d.1 e.1 (occurs_alias hd) (occurs_alias he) (hdx.trans hx.symm)
    have hnodup := m.nodup
    rw [← hm, List.map_append, List.nodup_append] at hnodup
    exact hnodup.2.2 d.1 (List.mem_map_of_mem hmem) e.1 (by simp) hde

/-- No turn is refused: the new alias is free, and a circle that it closed would be one of the mapping. -/
theorem exists_moves (hr : Relabels r m) (acyclic : m.Acyclic) (hmid : Midway r done (e :: rest) w)
    (hm : done ++ e :: rest = m.entries) : ∃ w', Moves w e.1 e.2 (image r e) w' := by
  have he : m.get? e.1 = some e.2 := Mapping.get?_eq_some_iff.mpr (hm ▸ by simp)
  obtain ⟨x, t, hx, ht, himage⟩ := hr.image_eq acyclic he
  have hlead : ¬w.Leads t x := by
    intro h
    have hback := h.map fun u v => hr.get?_undo hmid hm
    rw [hr.undo_of_eq (occurs_alias he) hx, hr.undo_of_eq (occurs_name he) ht] at hback
    exact acyclic e.1 (.trans (.single he) hback)
  rw [himage]
  by_cases hxe : x = e.1
  · subst hxe
    by_cases hte : t = e.2
    · subst hte
      exact ⟨w, .keep⟩
    · exact ⟨_, .retarget hte hlead⟩
  · exact ⟨_, .move hxe (hr.free hmid hm hx hxe) hlead⟩

theorem exists_passes (hr : Relabels r m) (acyclic : m.Acyclic) (hmid : Midway r done rest w)
    (hm : done ++ rest = m.entries) : ∃ v, Passes w (turns r rest) v := by
  induction rest generalizing done w with
  | nil => exact ⟨w, .nil⟩
  | cons e rest ih =>
    obtain ⟨u, hu⟩ := hr.exists_moves acyclic hmid hm
    have hnodup := m.nodup
    rw [← hm, List.map_append, List.nodup_append] at hnodup
    obtain ⟨v, hv⟩ := ih (hmid.step hnodup.2.1 hu) (by simpa using hm)
    exact ⟨v, .cons hu hv⟩

end Relabels

/-! ### What the pass leaves -/

/-- The entries are those of the mapping under the new texts. -/
def Relabelled (r : String → Option String) (m v : Mapping) : Prop :=
  ∀ x t, v.get? x = some t ↔ ∃ a n, m.get? a = some n ∧ r a = some x ∧ r n = some t

namespace Relabels

theorem relabelled (hr : Relabels r m) (acyclic : m.Acyclic) (h : Passes m (turns r m.entries) v) :
    Relabelled r m v := by
  intro x t
  rw [h.get?_iff hr.settled]
  constructor
  · rintro ⟨⟨a, n⟩, he, himage⟩
    obtain ⟨hax, hnt, -⟩ := target_eq_some_iff.mp himage
    exact ⟨a, n, Mapping.get?_eq_some_iff.mpr he, hax, hnt⟩
  · rintro ⟨a, n, ha, hax, hnt⟩
    obtain ⟨x', t', hax', hnt', himage⟩ := hr.image_eq acyclic ha
    rw [hax] at hax'
    rw [hnt] at hnt'
    cases hax'
    cases hnt'
    exact ⟨(a, n), Mapping.get?_eq_some_iff.mp ha, himage⟩

theorem leads_iff (hr : Relabels r m) (hv : Relabelled r m v) (hx : m.Occurs x) (hy : m.Occurs y)
    (ha : r x = some a) (hb : r y = some b) : v.Leads a b ↔ m.Leads x y := by
  constructor
  · intro h
    have edge : ∀ u l, v.get? u = some l → m.get? (undo r m u) = some (undo r m l) := by
      intro u l hul
      obtain ⟨k, n, hk, hku, hnl⟩ := (hv u l).mp hul
      rw [hr.undo_of_eq (occurs_alias hk) hku, hr.undo_of_eq (occurs_name hk) hnl, hk]
    have hback := h.map edge
    rwa [hr.undo_of_eq hx ha, hr.undo_of_eq hy hb] at hback
  · intro h
    have edge : ∀ k n, m.get? k = some n → v.get? ((r k).getD k) = some ((r n).getD n) := by
      intro k n hk
      obtain ⟨u, hu, -⟩ := hr.defined k (occurs_alias hk)
      obtain ⟨l, hl, -⟩ := hr.defined n (occurs_name hk)
      rw [hu, hl]
      exact (hv u l).mpr ⟨k, n, hk, hu, hl⟩
    have hforth := h.map edge
    rwa [ha, hb] at hforth

theorem canonical_eq (hr : Relabels r m) (hv : Relabelled r m v) (hm : m.Acyclic) (hva : v.Acyclic)
    (hx : m.Occurs x) (ha : r x = some a) : r (m.canonical x) = some (v.canonical a) := by
  obtain ⟨hend, hfree⟩ := (Mapping.canonical_eq_iff hm).mp (rfl : m.canonical x = m.canonical x)
  have hc : m.Occurs (m.canonical x) := by
    rcases hend with heq | hlead
    · rwa [← heq]
    · obtain ⟨k, hk⟩ := hlead.exists_last
      exact occurs_name hk
  obtain ⟨c, hrc, -⟩ := hr.defined _ hc
  rw [hrc, Option.some_inj, eq_comm, Mapping.canonical_eq_iff hva]
  constructor
  · rcases hend with heq | hlead
    · rw [← heq, ha] at hrc
      exact Or.inl (Option.some.inj hrc)
    · exact Or.inr ((hr.leads_iff hv hx hc ha hrc).mpr hlead)
  · rw [Option.eq_none_iff_forall_ne_some]
    intro l hl
    obtain ⟨k, n, hk, hkc, -⟩ := (hv c l).mp hl
    rw [hr.injective _ k hc (occurs_alias hk) (hrc.trans hkc.symm), hk] at hfree
    cases hfree

theorem mem_aliasesOf (hr : Relabels r m) (hv : Relabelled r m v) (hx : m.Occurs x) (ha : r x = some a) :
    b ∈ v.aliasesOf a ↔ ∃ k ∈ m.aliasesOf x, r k = some b := by
  simp only [Mapping.mem_aliasesOf]
  constructor
  · rintro ⟨hne, hlead⟩
    obtain ⟨l, hl⟩ := hlead.exists_first
    obtain ⟨k, n, hk, hkb, -⟩ := (hv b l).mp hl
    refine ⟨k, ⟨?_, (hr.leads_iff hv (occurs_alias hk) hx hkb ha).mp hlead⟩, hkb⟩
    rintro rfl
    rw [ha] at hkb
    exact hne (Option.some.inj hkb).symm
  · rintro ⟨k, ⟨hne, hlead⟩, hkb⟩
    obtain ⟨n, hk⟩ := hlead.exists_first
    refine ⟨?_, (hr.leads_iff hv (occurs_alias hk) hx hkb ha).mpr hlead⟩
    rintro rfl
    exact hne (hr.injective k x (occurs_alias hk) hx (hkb.trans ha.symm))

end Relabels

end Renaming

end AliasBook
