import AliasBook.Proofs.Renaming.Obstacle
import AliasBook.Proofs.Renaming.Relabelling

/-! Passes over the same entries in two orders, by a function that gives every text one of its own. The outcome
    is the same unless an entry that waits is in the way in one order only, or an entry becomes, as it is, an
    entry that waits in one order and has had its turn in the other (`orders_agree_iff`). -/

namespace AliasBook.Renaming
variable {r : String → Option String} {es : List (String × String)} {d e y : String × String}
  {m m' v v' : Mapping} {x t t' : String}

/-- Every text of the mapping gets a usable one of its own. -/
structure Distinguishes (r : String → Option String) (m : Mapping) : Prop where
  defined : ∀ x, m.Occurs x → ∃ y, r x = some y ∧ Text.isBlank y = false
  injective : ∀ x y, m.Occurs x → m.Occurs y → r x = r y → x = y

/-- The entry becomes one that comes after it. The two are one entry from its turn on, and go on as the later
    one does. -/
def Absorbed (r : String → Option String) (es : List (String × String)) (e : String × String) : Prop :=
  ∃ y, image r e = some y ∧ [e, y].Sublist es

theorem distinguishes_iff : Distinguishes r m ↔
    (∀ x ∈ m.aliases ++ m.names, ∃ y ∈ r x, Text.isBlank y = false) ∧
      ∀ x ∈ m.aliases ++ m.names, ∀ y ∈ m.aliases ++ m.names, r x = r y → x = y := by
  simp only [List.mem_append]
  constructor
  · intro h
    exact ⟨h.defined, fun x hx y hy => h.injective x y hx hy⟩
  · rintro ⟨hdefined, hinjective⟩
    exact ⟨hdefined, fun x y hx hy => hinjective x hx y hy⟩

namespace Distinguishes

theorem perm (hr : Distinguishes r m) (horder : m.entries.Perm m'.entries) : Distinguishes r m' := by
  constructor
  · exact fun x hx => hr.defined x ((occurs_perm horder).mpr hx)
  · exact fun x y hx hy => hr.injective x y ((occurs_perm horder).mpr hx) ((occurs_perm horder).mpr hy)

theorem eq_of_alias (hr : Distinguishes r m) (hd : d ∈ m.entries) (he : e ∈ m.entries) (h : r d.1 = r e.1) :
    d = e := by
  have hd' : m.get? d.1 = some d.2 := Mapping.get?_eq_some_iff.mpr hd
  have he' : m.get? e.1 = some e.2 := Mapping.get?_eq_some_iff.mpr he
  have halias : d.1 = e.1 := hr.injective _ _ (occurs_alias hd') (occurs_alias he') h
  rw [halias, he'] at hd'
  exact Prod.ext halias (Option.some.inj hd').symm

theorem eq_of_image (hr : Distinguishes r m) (hd : d ∈ m.entries) (he : e ∈ m.entries) (hdy : image r d = some y)
    (hey : image r e = some y) : d = e := by
  obtain ⟨hdx, -⟩ := target_eq_some_iff.mp hdy
  obtain ⟨hex, -⟩ := target_eq_some_iff.mp hey
  exact hr.eq_of_alias hd he (hdx.trans hex.symm)

theorem intended_unique (hr : Distinguishes r m) (h : Intended r m.entries x t) (h' : Intended r m.entries x t') :
    t = t' := by
  obtain ⟨a, n, he, hax, hnt, -⟩ := h
  obtain ⟨a', n', he', hax', hnt', -⟩ := h'
  obtain ⟨rfl, rfl⟩ := Prod.mk.inj (hr.eq_of_alias he he' (hax.trans hax'.symm))
  rw [hnt] at hnt'
  exact Option.some.inj hnt'

/-- A circle of what the entries are to become would be one of the mapping. -/
theorem intended_acyclic (hr : Distinguishes r m) (hm : m.Acyclic) : ¬Relation.TransGen (Intended r m.entries) x x := by
  have hback : ∀ {x y}, Relation.TransGen (Intended r m.entries) x y →
      ∃ a b, m.Occurs a ∧ m.Occurs b ∧ r a = some x ∧ r b = some y ∧ m.Leads a b := by
    intro x y h
    induction h with
    | single h =>
      obtain ⟨a, n, he, hax, hny, -⟩ := h
      have ha := Mapping.get?_eq_some_iff.mpr he
      exact ⟨a, n, occurs_alias ha, occurs_name ha, hax, hny, .single ha⟩
    | tail _ h ih =>
      obtain ⟨a, b, hoa, hob, hax, hby, hlead⟩ := ih
      obtain ⟨b', n, he, hb'y, hnz, -⟩ := h
      have hb' := Mapping.get?_eq_some_iff.mpr he
      obtain rfl := hr.injective b b' hob (occurs_alias hb') (hby.trans hb'y.symm)
      exact ⟨a, n, hoa, occurs_name hb', hax, hnz, hlead.tail hb'⟩
  intro h
  obtain ⟨a, b, ha, hb, hax, hbx, hlead⟩ := hback h
  obtain rfl := hr.injective a b ha hb (hax.trans hbx.symm)
  exact hm a hlead

theorem passes_iff_clear (hr : Distinguishes r m) (hm : m.Sound) :
    (∃ v, Passes m (turns r m.entries) v) ↔ Clear r m.entries :=
  Renaming.passes_iff_clear hm (fun _ _ _ => hr.intended_unique) fun _ => hr.intended_acyclic hm.acyclic

end Distinguishes

theorem Passes.absorbed_of_same (h : Passes m (turns r m.entries) v) (h' : Passes m' (turns r m'.entries) v')
    (horder : m.entries.Perm m'.entries) (hr : Distinguishes r m) (hsame : ∀ y, y ∈ v.entries ↔ y ∈ v'.entries)
    (he : Absorbed r m.entries e) : Absorbed r m'.entries e := by
  obtain ⟨y, himage, hbefore⟩ := he
  have hmem : e ∈ m.entries := hbefore.subset List.mem_cons_self
  refine ⟨y, himage, ?_⟩
  by_contra hnot
  have hy : y ∈ v.entries := (hsame y).mpr (h'.mem_iff.mpr ⟨e, horder.mem_iff.mp hmem, himage, hnot⟩)
  obtain ⟨d, hd, hdy, hlast⟩ := h.mem_iff.mp hy
  rw [hr.eq_of_image hd hmem hdy himage] at hlast
  exact hlast hbefore

theorem Passes.mem_of_absorbed (h : Passes m (turns r m.entries) v) (h' : Passes m' (turns r m'.entries) v')
    (horder : m.entries.Perm m'.entries) (habsorbed : ∀ e, Absorbed r m'.entries e → Absorbed r m.entries e)
    (hy : y ∈ v.entries) : y ∈ v'.entries := by
  obtain ⟨d, hd, himage, hlast⟩ := h.mem_iff.mp hy
  refine h'.mem_iff.mpr ⟨d, horder.mem_iff.mp hd, himage, fun hbefore => ?_⟩
  obtain ⟨z, hdz, hz⟩ := habsorbed d ⟨y, himage, hbefore⟩
  rw [himage] at hdz
  exact hlast (Option.some.inj hdz ▸ hz)

/-- Two passes leave the same entries exactly if they absorb the same ones. -/
theorem Passes.same_iff_absorbed (h : Passes m (turns r m.entries) v) (h' : Passes m' (turns r m'.entries) v')
    (horder : m.entries.Perm m'.entries) (hr : Distinguishes r m) :
    (∀ y, y ∈ v.entries ↔ y ∈ v'.entries) ↔ ∀ e, Absorbed r m.entries e ↔ Absorbed r m'.entries e := by
  constructor
  · intro hsame e
    exact ⟨h.absorbed_of_same h' horder hr hsame,
      h'.absorbed_of_same h horder.symm (hr.perm horder) fun y => (hsame y).symm⟩
  · intro habsorbed y
    exact ⟨h.mem_of_absorbed h' horder fun e => (habsorbed e).mpr,
      h'.mem_of_absorbed h horder.symm fun e => (habsorbed e).mp⟩

/-- In two orders a pass has the same outcome exactly if it is clear in both or in none, and absorbs the same
    entries if it is clear. -/
theorem orders_agree_iff (hm : m.Sound) (horder : m.entries.Perm m'.entries) (hr : Distinguishes r m) :
    ((¬∃ v, Passes m (turns r m.entries) v) ∧ ¬∃ v, Passes m' (turns r m'.entries) v) ∨
      (∃ v v', Passes m (turns r m.entries) v ∧ Passes m' (turns r m'.entries) v' ∧
        ∀ y, y ∈ v.entries ↔ y ∈ v'.entries) ↔
    (Clear r m.entries ↔ Clear r m'.entries) ∧
      (Clear r m.entries → ∀ e, Absorbed r m.entries e ↔ Absorbed r m'.entries e) := by
  have hclear := hr.passes_iff_clear hm
  have hclear' := (hr.perm horder).passes_iff_clear (hm.perm horder)
  constructor
  · rintro (⟨hnone, hnone'⟩ | ⟨v, v', hpass, hpass', hsame⟩)
    · rw [hclear] at hnone
      rw [hclear'] at hnone'
      exact ⟨iff_of_false hnone hnone', fun h => absurd h hnone⟩
    · exact ⟨iff_of_true (hclear.mp ⟨v, hpass⟩) (hclear'.mp ⟨v', hpass'⟩),
        fun _ => (hpass.same_iff_absorbed hpass' horder hr).mp hsame⟩
  · rintro ⟨hboth, habsorbed⟩
    by_cases h : Clear r m.entries
    · obtain ⟨v, hpass⟩ := hclear.mpr h
      obtain ⟨v', hpass'⟩ := hclear'.mpr (hboth.mp h)
      exact Or.inr ⟨v, v', hpass, hpass', (hpass.same_iff_absorbed hpass' horder hr).mpr (habsorbed h)⟩
    · exact Or.inl ⟨fun hpass => h (hclear.mp hpass), fun hpass => h (hboth.mpr (hclear'.mp hpass))⟩

end AliasBook.Renaming
