import AliasBook.Proofs.Mapping.Canonical
import AliasBook.Proofs.Registry.Events
import AliasBook.Proofs.Registry.Lookup
import AliasBook.Proofs.Registry.Reachable
import AliasBook.Proofs.Registry.Unharmed

/-! The canonical names that a registry gives. A chain is followed as long as it comes to no name twice, and there is a
    warning if it would go on (`canonical_ends_chain`). One edit takes the names that lead to its alias to another
    canonical name, all of them to the same one, and leaves the others theirs (`canonical_after_edit`). -/

namespace AliasBook

theorem Mapping.contains_eq_false_iff {m : Mapping} {x : String} : m.contains x = false ↔ m.get? x = none := by
  simp [contains]

/-- A definition that is not refused changes the entry of its alias only, and closes no circle. -/
theorem Mapping.define_edits {m m' : Mapping} {name a : String} {leave wrote : Bool} (hm : m.Acyclic)
    (h : (m.define name a leave).outcome = .ok (m', wrote)) :
    m'.Acyclic ∧ m.SameBut m' a ∧ m'.get? a = if a = name then none else some name := by
  rcases define_inv h with ⟨hself, rfl, -⟩ | ⟨hget, rfl, -⟩ | ⟨hne, -, hlead, rfl, -⟩
  · exact ⟨hm.erase, .erase, by rw [get?_erase, if_pos rfl, if_pos hself]⟩
  · exact ⟨hm, .refl, by rw [hget, if_neg (hm.ne hget)]⟩
  · exact ⟨hm.insert hne hlead, .insert, by rw [get?_insert, if_pos rfl, if_neg hne]⟩

namespace Action
variable {ρ : Type} {s : Host ρ} {n a : String}

/-! ### Following a chain -/

theorem after_canonical (x : String) (s : Host ρ) :
    after (canonical (.text x)) s = s.withChannel (s.channel.replay
      ((s.registry.mapping.walk x).again.toList.map fun y => .logged s.now (Notice.chainRevisits x y).record)) := by
  have htell := after_tellAll ((s.registry.mapping.walk x).again.toList.map (Notice.chainRevisits x)) s
  rw [List.map_map] at htell
  rw [canonical]
  simp only [Value.key?, ofExcept, pure_bind, after_bind, result_mapping, after_mapping, result_tellAll, after_pure, htell]
  rfl

/-- A canonical name is found in any entries: it is the last name of the longest beginning of the chain that comes to no
    name twice. It is warned of a name that the chain comes to twice, and of nothing else. In entries that can be met it
    is the one name without an entry that is the name itself or has it as an alias, and it is its own canonical name. -/
theorem canonical_ends_chain (s : Host ρ) :
    let m := s.registry.mapping
    let has (name a : String) : Prop := result (hasAlias (.text name) (.text a)) s = .ok true
    (∀ x, ∃ path again, m.Front x path ∧ (again.isSome = true ↔ m.Revisits x) ∧
      (∀ c again', m.Climbs [x] x c again' ↔ c = path.getLastD x ∧ again' = again) ∧
      result (canonical (.text x)) s = .ok (.text (path.getLastD x)) ∧
      after (canonical (.text x)) s = s.withChannel (s.channel.replay
        (again.toList.map fun y => .logged s.now (Notice.chainRevisits x y).record))) ∧
    (Reachable m → ∀ x, ∃ c, result (canonical (.text x)) s = .ok (.text c) ∧
      (∀ y, (result (isAlias (.text y)) s = .ok false ∧ (y = x ∨ has y x)) ↔ y = c) ∧
      (result (isAlias (.text x)) s = .ok true → has c x) ∧ result (canonical (.text c)) s = .ok (.text c)) := by
  intro m has
  constructor
  · intro x
    refine ⟨(m.walk x).path, (m.walk x).again, m.front_walk x, Mapping.isSome_again_iff, fun c again' => ?_, ?_,
      after_canonical x s⟩
    · rw [Mapping.climbs_iff, m.canonical_eq_getLastD]
    · rw [result_canonical, m.canonical_eq_getLastD]
  · intro hm x
    have hacyclic := hm.sound.acyclic
    obtain ⟨hlead, hend⟩ := (Mapping.canonical_eq_iff hacyclic).mp (rfl : m.canonical x = _)
    refine ⟨m.canonical x, result_canonical x s, fun y => ?_, fun halias => ?_, ?_⟩
    · have hhas : has y x ↔ m.Leads x y := result_hasAlias_iff
      rw [result_isAlias, Except.ok.injEq, Mapping.contains_eq_false_iff, hhas, eq_comm (a := y), eq_comm (a := y),
        Mapping.canonical_eq_iff hacyclic]
      exact and_comm
    · refine result_hasAlias_iff.mpr (hlead.resolve_left fun heq => ?_)
      rw [result_isAlias, Except.ok.injEq] at halias
      rw [← heq, ← Mapping.contains_eq_false_iff, halias] at hend
      cases hend
    · rw [result_canonical, Mapping.canonical_of_free hacyclic hend]

/-- A chain that can be met, and a circle of two names with a name in front of it that cannot. -/
theorem canonical_chain_and_circle :
    let m : Mapping := { entries := [("a", "b"), ("b", "c")] }
    let k : Mapping := { entries := [("x", "y"), ("y", "z"), ("z", "y")] }
    let s : Host Unit := { registry := { mapping := m }, caller := () }
    let t : Host Unit := { registry := { mapping := k }, caller := () }
    Reachable m ∧ result (canonical (.text "a")) s = .ok (.text "c") ∧
      (∀ y, result (isAlias (.text y)) s = .ok false ∧
        (y = "a" ∨ result (hasAlias (.text y) (.text "a")) s = .ok true) ↔ y = "c") ∧
      k.Front "x" ["y", "z"] ∧ k.Revisits "x" ∧ result (canonical (.text "x")) t = .ok (.text "z") ∧
      (after (canonical (.text "x")) t).channel.atRoot.map Record.message =
        ["Alias chain revisits a name; returning last name reached"] := by
  intro m k s t
  have hm : Reachable m :=
    ⟨Unit, { caller := { own := () } }, registerAll m.entries, client_registerAll _, rfl, rfl, Or.inl (by decide)⟩
  obtain ⟨-, hreachable⟩ := canonical_ends_chain s
  obtain ⟨c, hc, hfree, -, -⟩ := hreachable hm "a"
  obtain rfl : c = "c" := by
    cases hc
    rfl
  obtain ⟨hanswers, -⟩ := canonical_ends_chain t
  obtain ⟨path, again, hfront, hrevisits, hclimbs, -, -⟩ := hanswers "x"
  have hclimb : k.Climbs ["x"] "x" "z" (some "y") :=
    .goes rfl (by decide) (.goes rfl (by decide) (.again rfl (by decide)))
  obtain ⟨-, rfl⟩ := (hclimbs _ _).mp hclimb
  refine ⟨hm, hc, hfree, k.front_walk "x", hrevisits.mp rfl, rfl, by decide⟩

/-! ### One edit -/

/-- After an edit of the entry of an alias, the names that lead to the alias have its canonical name. -/
theorem canonical_of_edit {t : Host ρ} (hm : s.registry.mapping.Acyclic) (ht : t.registry.mapping.Acyclic)
    (h : s.registry.mapping.SameBut t.registry.mapping a) (x : String) :
    let through := x = a ∨ result (hasAlias (.text a) (.text x)) s = .ok true
    (through → result (canonical (.text x)) t = result (canonical (.text a)) t) ∧
      (¬through → result (canonical (.text x)) t = result (canonical (.text x)) s) := by
  intro through
  have hthrough : through ↔ x = a ∨ s.registry.mapping.Leads x a := or_congr_right result_hasAlias_iff
  rw [hthrough]
  simp only [result_canonical]
  exact ⟨fun hnear => by rw [h.canonical_of_near ht hnear], fun hfar => by rw [h.canonical_of_far hm ht hfar]⟩

theorem register_edits (hm : s.registry.mapping.Acyclic) (hok : result (register (.text n) (.text a)) s = .ok ()) :
    let m' := (after (register (.text n) (.text a)) s).registry.mapping
    m'.Acyclic ∧ s.registry.mapping.SameBut m' a ∧ m'.get? a = if a = n then none else some n := by
  intro m'
  rcases register_cases (.text n) (.text a) s with ⟨fault, hfault, -⟩ | ⟨n', a', p, hn, ha, -, hdefine, hmapping⟩
  · cases hok.symm.trans hfault
  · cases hn
    cases ha
    have hedits := Mapping.define_edits hm (define_of_defineIn hdefine)
    rwa [← hmapping] at hedits

theorem remove_edits (hm : s.registry.mapping.Acyclic) (hok : result (remove (.text a)) s = .ok ()) :
    let m' := (after (remove (.text a)) s).registry.mapping
    m'.Acyclic ∧ s.registry.mapping.SameBut m' a ∧ m'.get? a = none := by
  intro m'
  rcases remove_cases (.text a) s with ⟨fault, hfault, -⟩ | ⟨x, n, hx, -, -, hmapping⟩
  · cases hok.symm.trans hfault
  · cases hx
    simp only [m', hmapping]
    exact ⟨hm.erase, .erase, by rw [Mapping.get?_erase, if_pos rfl]⟩

/-- When an alias is registered for another name, the names that lead to the alias get the canonical name which that name
    has. When it loses its entry they get the alias itself. All other names keep their canonical names. -/
theorem canonical_after_edit (hm : Reachable s.registry.mapping) (n a : String) :
    let before (x : String) := result (canonical (.text x)) s
    let through (x : String) : Prop := x = a ∨ result (hasAlias (.text a) (.text x)) s = .ok true
    let registered := after (register (.text n) (.text a)) s
    (∀ x, ∃ c, before x = .ok (.text c)) ∧
    (n ≠ a → result (register (.text n) (.text a)) s = .ok () → ∀ x,
      (through x → result (canonical (.text x)) registered = before n) ∧
      (¬through x → result (canonical (.text x)) registered = before x)) ∧
    ∀ act ∈ [remove (.text a), register (.text a) (.text a)], result act s = .ok () → ∀ x,
      (through x → result (canonical (.text x)) (after act s) = .ok (.text a)) ∧
      (¬through x → result (canonical (.text x)) (after act s) = before x) := by
  intro before through registered
  have hacyclic := hm.sound.acyclic
  refine ⟨fun x => ⟨_, result_canonical x s⟩, fun hne hok x => ?_, fun act hact hok x => ?_⟩
  · obtain ⟨hafter, hsame, hget⟩ := register_edits hacyclic hok
    obtain ⟨hnear, hfar⟩ := canonical_of_edit hacyclic hafter hsame x
    rw [if_neg hne.symm] at hget
    refine ⟨fun hx => (hnear hx).trans ?_, hfar⟩
    rw [result_canonical, hsame.canonical_alias hacyclic hafter hget]
    exact (result_canonical n s).symm
  · have hedits : (after act s).registry.mapping.Acyclic ∧
        s.registry.mapping.SameBut (after act s).registry.mapping a ∧ (after act s).registry.mapping.get? a = none := by
      rcases List.mem_pair.mp hact with rfl | rfl
      · exact remove_edits hacyclic hok
      · obtain ⟨hafter, hsame, hget⟩ := register_edits hacyclic hok
        exact ⟨hafter, hsame, hget.trans (if_pos rfl)⟩
    obtain ⟨hafter, hsame, hget⟩ := hedits
    obtain ⟨hnear, hfar⟩ := canonical_of_edit hacyclic hafter hsame x
    refine ⟨fun hx => (hnear hx).trans ?_, hfar⟩
    rw [result_canonical, Mapping.canonical_of_free hafter hget]

/-- An alias in the middle of a chain gets another name over its old one, and loses its entry. -/
theorem canonical_after_rerouting :
    let m : Mapping := { entries := [("a", "b"), ("b", "c"), ("d", "e"), ("x", "c")] }
    let s : Host Unit := { registry := { mapping := m }, caller := () }
    let t := after (register (.text "d") (.text "b")) s
    let u := after (remove (.text "b")) s
    Reachable m ∧ result (register (.text "d") (.text "b")) s = .ok () ∧ result (remove (.text "b")) s = .ok () ∧
      t.registry.mapping.entries = [("a", "b"), ("b", "d"), ("d", "e"), ("x", "c")] ∧
      result (canonical (.text "a")) s = .ok (.text "c") ∧ result (canonical (.text "a")) t = .ok (.text "e") ∧
      result (canonical (.text "x")) t = .ok (.text "c") ∧ result (canonical (.text "a")) u = .ok (.text "b") := by
  intro m s t u
  have hm : Reachable m :=
    ⟨Unit, { caller := { own := () } }, registerAll m.entries, client_registerAll _, rfl, rfl, Or.inl (by decide)⟩
  have hregister : result (register (.text "d") (.text "b")) s = .ok () := rfl
  have hremove : result (remove (.text "b")) s = .ok () := rfl
  obtain ⟨-, hregistered, hlost⟩ := canonical_after_edit (s := s) hm "d" "b"
  have hnear : result (hasAlias (.text "b") (.text "a")) s = .ok true := rfl
  have hfar : ¬("x" = "b" ∨ result (hasAlias (.text "b") (.text "x")) s = .ok true) := by
    rintro (h | h)
    · exact absurd h (by decide)
    · cases h
  refine ⟨hm, hregister, hremove, by decide, rfl, ?_, ?_, ?_⟩
  · exact (hregistered (by decide) hregister "a").1 (Or.inr hnear)
  · exact (hregistered (by decide) hregister "x").2 hfar
  · exact (hlost _ List.mem_cons_self hremove "a").1 (Or.inr hnear)

end Action

end AliasBook
