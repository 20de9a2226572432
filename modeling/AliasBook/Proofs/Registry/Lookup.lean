import AliasBook.Proofs.Mapping.Aliases
import AliasBook.Proofs.Mapping.Walk
import AliasBook.Proofs.Registry.Result

/-! What the operations that look names up give. They leave the entries alone and always give an answer, whatever the
    entries are. The two ways to ask who leads to a name, backwards from the name and forwards from an alias, agree
    (`aliasesOf_agrees`). -/

namespace AliasBook.Action
variable {ρ : Type}

theorem result_canonical (x : String) (s : Host ρ) :
    result (canonical (.text x)) s = .ok (.text (s.registry.mapping.canonical x)) := by
  rw [canonical]
  simp only [Value.key?, ofExcept, pure_bind, result_bind, result_mapping, after_mapping, Except.bind, result_tellAll,
    result_pure]
  rfl

theorem result_aliasesOf (x : String) (s : Host ρ) :
    result (aliasesOf (.text x)) s = .ok (s.registry.mapping.aliasesOf x) := rfl

theorem result_hasAlias (name a : String) (s : Host ρ) :
    result (hasAlias (.text name) (.text a)) s = .ok (s.registry.mapping.hasAlias name a) := by
  have hvalue : (s.registry.mapping.walk a).reachesValue (.text name) = s.registry.mapping.hasAlias name a := rfl
  rw [hasAlias]
  simp only [Value.key?, ofExcept, pure_bind, result_bind, result_mapping, after_mapping, Except.bind, hvalue]
  split
  · rename_i hreaches
    rw [hreaches]
    rfl
  · rename_i hreaches
    rw [Bool.not_eq_true] at hreaches
    rw [hreaches, result_bind, result_tellAll]
    rfl

theorem result_hasAlias_iff {name a : String} {s : Host ρ} :
    result (hasAlias (.text name) (.text a)) s = .ok true ↔ s.registry.mapping.Leads a name := by
  rw [result_hasAlias, Except.ok.injEq, Mapping.hasAlias, Mapping.reaches_walk_iff]

theorem result_isAlias (x : String) (s : Host ρ) :
    result (isAlias (.text x)) s = .ok (s.registry.mapping.contains x) := rfl

/-- The search backwards from a name comes to its end, whatever circles there are. It finds no name twice and not the
    name itself, and it finds another name exactly if the walk from there says that it leads to the name. -/
theorem aliasesOf_agrees (name : String) (s : Host ρ) :
    ∃ as, result (aliasesOf (.text name)) s = .ok as ∧
      s.registry.mapping.Collects [name] (s.registry.mapping.directAliases name) as ∧ as.Nodup ∧ name ∉ as ∧
      ∀ a, a ≠ name → ∃ b, result (hasAlias (.text name) (.text a)) s = .ok b ∧ (a ∈ as ↔ b = true) := by
  have hsearch := s.registry.mapping.collects_aliasesOf name
  refine ⟨_, result_aliasesOf name s, hsearch, hsearch.nodup, fun hname => ?_, fun a ha => ?_⟩
  · exact (Mapping.mem_aliasesOf.mp hname).1 rfl
  · refine ⟨_, result_hasAlias name a s, ?_⟩
    rw [Mapping.mem_aliasesOf, Mapping.hasAlias, Mapping.reaches_walk_iff]
    exact ⟨fun h => h.2, fun h => ⟨ha, h⟩⟩

end AliasBook.Action
