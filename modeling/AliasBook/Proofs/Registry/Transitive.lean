import AliasBook.Proofs.Mapping.Seek
import AliasBook.Proofs.Registry.Lookup
import AliasBook.Proofs.Registry.Reachable

/-! Asking whether an alias leads to a name. The answer says whether a number of steps comes from the one to the other,
    and the search for it comes to its end in any entries; in those that a registry can come to have it is a strict
    order of names (`hasAlias_transitive_closure`). -/

namespace AliasBook.Action
variable {ρ : Type}

/-- The search ends with one answer, whatever the entries are: yes if one or more steps come from the alias to the name.
    In entries that can be met no name has itself as an alias, and what has an alias has the aliases of that. -/
theorem hasAlias_transitive_closure (s : Host ρ) :
    let m := s.registry.mapping
    let has (name a : String) : Prop := result (hasAlias (.text name) (.text a)) s = .ok true
    (∀ name a, ∃ b, result (hasAlias (.text name) (.text a)) s = .ok b ∧
      (∀ b', m.Seeks name [] a b' ↔ b' = b) ∧ (b = true ↔ ∃ count ≥ 1, m.steps count a = some name)) ∧
    (Reachable m → (∀ x, ¬has x x) ∧ ∀ x y z, has x y → has y z → has x z) := by
  intro m has
  have hleads : ∀ name a, has name a ↔ m.Leads a name := by
    intro name a
    show result (hasAlias (.text name) (.text a)) s = .ok true ↔ _
    rw [result_hasAlias, Except.ok.injEq, Mapping.hasAlias, Mapping.reaches_walk_iff]
  constructor
  · exact fun name a => ⟨_, result_hasAlias name a s, fun _ => Mapping.seeks_iff, Mapping.hasAlias_iff_steps⟩
  · intro hm
    refine ⟨fun x hx => hm.sound.acyclic x ((hleads x x).mp hx), fun x y z hxy hyz => ?_⟩
    rw [hleads] at hxy hyz ⊢
    exact hyz.trans hxy

/-- A chain that can be met, and a circle through the empty text that cannot. -/
theorem hasAlias_chain_and_circle :
    let m : Mapping := { entries := [("a", "b"), ("b", "c")] }
    let k : Mapping := { entries := [("x", ""), ("", "x"), ("z", "z")] }
    let s : Host Unit := { registry := { mapping := m }, caller := () }
    let t : Host Unit := { registry := { mapping := k }, caller := () }
    Reachable m ∧ result (hasAlias (.text "c") (.text "a")) s = .ok true ∧
      result (hasAlias (.text "a") (.text "a")) s ≠ .ok true ∧
      result (hasAlias (.text "x") (.text "x")) t = .ok true ∧
      result (hasAlias (.text "z") (.text "z")) t = .ok true ∧ k.Seeks "z" [] "x" false := by
  intro m k s t
  have hm : Reachable m :=
    ⟨Unit, { caller := { own := () } }, registerAll m.entries, client_registerAll _, rfl, rfl, Or.inl (by decide)⟩
  obtain ⟨-, hstrict⟩ := hasAlias_transitive_closure s
  obtain ⟨hirreflexive, htransitive⟩ := hstrict hm
  obtain ⟨hanswers, -⟩ := hasAlias_transitive_closure t
  obtain ⟨b, hb, hseeks, -⟩ := hanswers "z" "x"
  have hmissed : b = false := by
    cases hb
    rfl
  exact ⟨hm, htransitive "c" "b" "a" rfl rfl, hirreflexive "a", rfl, rfl, (hseeks false).mpr hmissed.symm⟩

end AliasBook.Action
