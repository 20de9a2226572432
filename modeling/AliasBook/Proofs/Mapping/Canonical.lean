import AliasBook.Proofs.Mapping.Walk

/-! The canonical name of a name. In any mapping the walk is the longest beginning of the chain that comes to no name
    twice (`front_walk`), and going up the chain turn by turn ends where the walk does (`climbs_iff`). Another entry
    for one alias changes the canonical names of those that lead to the alias, and no others (`SameBut.canonical_of_near`,
    `SameBut.canonical_of_far`). -/

namespace AliasBook.Mapping
variable {m m' : Mapping} {a c n x y : String} {l path seen : List String} {again beyond : Option String}

/-! ### Beginnings of a chain -/

/-- The longest beginning of the chain that comes to no name twice. -/
structure Front (m : Mapping) (x : String) (path : List String) : Prop where
  begins : m.Begins x path
  distinct : (x :: path).Nodup
  longest : ∀ l, m.Begins x l → (x :: l).Nodup → l <+: path

/-- The chain comes to some name twice. -/
def Revisits (m : Mapping) (x : String) : Prop :=
  ∃ path, m.Begins x path ∧ ¬(x :: path).Nodup

theorem not_mem_of_nodup (h : (x :: (path ++ y :: l)).Nodup) : y ∉ x :: path := by
  rw [← List.cons_append] at h
  exact fun hy => (List.nodup_append.mp h).2.2 y hy y List.mem_cons_self rfl

theorem Begins.snoc (h : m.Begins x path) (hy : m.get? (path.getLastD x) = some y) : m.Begins x (path ++ [y]) := by
  refine List.isChain_append.mpr ⟨h, List.isChain_singleton y, fun z hz w hw => ?_⟩
  cases hw
  rw [List.getLast?_cons, ← List.getLastD_eq_getLast?] at hz
  cases hz
  exact hy

theorem canonical_eq_getLastD (m : Mapping) (x : String) : m.canonical x = (m.walk x).path.getLastD x := by
  rw [canonical, Walk.last, start_walk]

theorem front_walk (m : Mapping) (x : String) : m.Front x (m.walk x).path := by
  obtain ⟨hbegins, hahead, hnext⟩ := m.begins_walk x
  refine ⟨hbegins, hahead.nodup, fun l hl hnodup => ?_⟩
  rcases hl.prefix_or_prefix hbegins with hpre | ⟨rest, rfl⟩
  · exact hpre
  · cases rest with
    | nil => simp
    | cons y rest =>
      have hold := hahead.back y (hnext.symm.trans hl.next)
      exact absurd (hold.resolve_left List.not_mem_nil) (not_mem_of_nodup hnodup)

theorem isSome_again_iff : (m.walk x).again.isSome = true ↔ m.Revisits x := by
  obtain ⟨hbegins, hahead, hnext⟩ := m.begins_walk x
  constructor
  · intro hsome
    obtain ⟨y, hy⟩ := Option.isSome_iff_exists.mp hsome
    have hold := (hahead.back y hy).resolve_left List.not_mem_nil
    exact ⟨_, hbegins.snoc (hnext.trans hy), fun hnodup => not_mem_of_nodup hnodup hold⟩
  · rintro ⟨l, hl, hdouble⟩
    rcases hl.prefix_or_prefix hbegins with hpre | ⟨rest, rfl⟩
    · exact absurd (hahead.nodup.sublist ((List.prefix_cons_inj x).mpr hpre).sublist) hdouble
    · cases rest with
      | nil => exact absurd (by simpa using hahead.nodup) hdouble
      | cons y rest => rw [← hnext, hl.next, Option.isSome_some]

/-! ### Going up the chain -/

/-- Going up a chain ends at a name: from the name that it is at it goes on to what that stands for, unless there is
    nothing, or it was there before. It tells the name that it would have come to again. -/
inductive Climbs (m : Mapping) : List String → String → String → Option String → Prop
  | ends {seen : List String} {x : String} : m.get? x = none → Climbs m seen x x none
  | again {seen : List String} {x y : String} : m.get? x = some y → y ∈ seen → Climbs m seen x x (some y)
  | goes {seen : List String} {x y c : String} {again : Option String} : m.get? x = some y → y ∉ seen →
      Climbs m (y :: seen) y c again → Climbs m seen x c again

theorem Climbs.unique (h : m.Climbs seen x c again) (h' : m.Climbs seen x n beyond) : n = c ∧ beyond = again := by
  induction h with
  | ends hx => cases h' <;> simp_all
  | again hx hold => cases h' <;> simp_all
  | goes hx hnew _ ih =>
    cases h' with
    | ends hx' => simp_all
    | again hx' hold' => simp_all
    | goes hx' _ hrest' =>
      obtain rfl := Option.some.inj (hx.symm.trans hx')
      exact ih hrest'

theorem Begins.climbs (h : m.Begins x path) (hahead : Ahead seen path beyond)
    (hnext : m.get? (path.getLastD x) = beyond) : m.Climbs seen x (path.getLastD x) beyond := by
  induction path generalizing x seen with
  | nil =>
    rw [List.getLastD_nil] at hnext ⊢
    subst hnext
    cases hx : m.get? x with
    | none => exact .ends hx
    | some y => exact .again hx (by simpa using hahead.back y hx)
  | cons u path ih =>
    obtain ⟨hx, hrest⟩ := List.isChain_cons_cons.mp h
    rw [List.getLastD_cons] at hnext ⊢
    exact .goes hx (hahead.new u List.mem_cons_self) (ih hrest hahead.tail hnext)

/-- Going up from a name ends where the walk ends, and nowhere else. -/
theorem climbs_iff : m.Climbs [x] x c again ↔ c = m.canonical x ∧ again = (m.walk x).again := by
  obtain ⟨hbegins, hahead, hnext⟩ := m.begins_walk x
  have hclimb : m.Climbs [x] x (m.canonical x) (m.walk x).again := by
    rw [canonical_eq_getLastD]
    exact hbegins.climbs hahead.tail hnext
  constructor
  · exact hclimb.unique
  · rintro ⟨rfl, rfl⟩
    exact hclimb

/-! ### Without circles -/

theorem canonical_of_free (h : m.Acyclic) (hx : m.get? x = none) : m.canonical x = x :=
  (canonical_eq_iff h).mpr ⟨Or.inl rfl, hx⟩

/-- What a name leads to has the same canonical name. -/
theorem canonical_eq_of_leads (h : m.Acyclic) (hl : m.Leads x y) : m.canonical x = m.canonical y := by
  obtain ⟨hlead, hend⟩ := (canonical_eq_iff h).mp (rfl : m.canonical y = _)
  refine (canonical_eq_iff h).mpr ⟨Or.inr ?_, hend⟩
  rcases hlead with heq | hlead
  · exact heq ▸ hl
  · exact hl.trans hlead

namespace SameBut

/-- The alias and the names that lead to it have one canonical name. -/
theorem canonical_of_near (h : m.SameBut m' a) (hm' : m'.Acyclic) (hnear : x = a ∨ m.Leads x a) :
    m'.canonical x = m'.canonical a := by
  by_cases hne : x = a
  · rw [hne]
  · exact canonical_eq_of_leads hm' (h.leads_to (hnear.resolve_left hne) hne)

theorem canonical_of_far (h : m.SameBut m' a) (hm : m.Acyclic) (hm' : m'.Acyclic) (hfar : ¬(x = a ∨ m.Leads x a)) :
    m'.canonical x = m.canonical x := by
  obtain ⟨hlead, hend⟩ := (canonical_eq_iff hm).mp (rfl : m.canonical x = _)
  obtain ⟨hne, hnot⟩ := not_or.mp hfar
  have hother : m.canonical x ≠ a := fun heq => hfar (heq ▸ hlead)
  refine (canonical_eq_iff hm').mpr ⟨hlead.imp_right fun hlead => h.leads hlead hne hnot, ?_⟩
  rw [h _ hother, hend]

/-- What the alias stands for now does not lead to it, so its canonical name is the one that it had. -/
theorem canonical_alias (h : m.SameBut m' a) (hm : m.Acyclic) (hm' : m'.Acyclic) (ha : m'.get? a = some n) :
    m'.canonical a = m.canonical n := by
  have hne : n ≠ a := (hm'.ne ha).symm
  have hfar : ¬m.Leads n a := fun hlead => hm' a ((Leads.single ha).trans (h.leads_to hlead hne))
  rw [canonical_eq_of_leads hm' (.single ha), h.canonical_of_far hm hm' (not_or.mpr ⟨hne, hfar⟩)]

end SameBut

end AliasBook.Mapping
