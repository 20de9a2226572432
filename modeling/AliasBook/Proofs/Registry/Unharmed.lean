import AliasBook.Proofs.Registry.Query
import AliasBook.Proofs.Registry.Register

/-! What is left of a request that fails. The entries are as they were, with their order, at whatever item it failed;
    so whoever asks the registry afterwards gets the answers of before (`failed_request_unharmed`). -/

namespace AliasBook.Action
variable {ρ : Type}

/-- Removing fails and leaves all as it was, or its argument is an alias and the entry of that is taken away. -/
theorem remove_cases (a : Value) (s : Host ρ) :
    (∃ fault, result (remove a) s = .error fault ∧ after (remove a) s = s) ∨
    ∃ x n, a = .text x ∧ s.registry.mapping.get? x = some n ∧ result (remove a) s = .ok () ∧
      (after (remove a) s).registry.mapping = s.registry.mapping.erase x := by
  unfold remove
  simp only [result_bind, after_bind, result_mapping, after_mapping, Except.bind]
  by_cases hempty : s.registry.mapping.size = 0
  · -- Nothing is looked up, so that what could not be looked up is just no alias.
    exact Or.inl ⟨.refused (.unknown a), by simp [hempty], by simp [hempty]⟩
  · rw [if_neg hempty]
    cases a with
    | text x =>
      cases hget : s.registry.mapping.get? x with
      | none =>
        refine Or.inl ⟨.refused (.unknown (.text x)), ?_⟩
        simp [Value.key?, ofExcept, hget]
      | some n =>
        refine Or.inr ⟨x, n, rfl, hget, ?_⟩
        simp [Value.key?, ofExcept, hget, after_bind, Except.bind]
    | list items => exact Or.inl ⟨.unusableKey (.list items), rfl, rfl⟩
    | object fields => exact Or.inl ⟨.unusableKey (.object fields), rfl, rfl⟩
    | _ => exact Or.inl ⟨_, rfl, rfl⟩

/-- One of the operations that check what they are asked for. -/
inductive Request where
  | register (name a : Value)
  | registerMany (name aliases : Value)
  | remove (a : Value)
  | checkCircle (name a : Value)

def Request.perform : Request → Action ρ Unit
  | .register name a => Action.register name a
  | .registerMany name aliases => do let _ ← Action.registerMany name aliases
  | .remove a => Action.remove a
  | .checkCircle name a => Action.checkCircle name a

theorem mapping_of_failed {r : Request} {s : Host ρ} {fault : Fault} (h : result r.perform s = .error fault) :
    (after r.perform s).registry.mapping = s.registry.mapping := by
  cases r with
  | register name a =>
    rcases register_cases name a s with ⟨_, -, hsame⟩ | ⟨_, _, _, -, -, hok, -⟩
    · exact hsame
    · cases h.symm.trans hok
  | registerMany name aliases =>
    rw [Request.perform, result_discard, map_eq_error_iff] at h
    rw [Request.perform, after_discard]
    rcases registerMany_cases name aliases s with ⟨_, -, hsame⟩ | ⟨_, _, _, -, -, hok, -⟩
    · exact hsame
    · cases h.symm.trans hok
  | remove a =>
    rcases remove_cases a s with ⟨_, -, hsame⟩ | ⟨_, _, -, -, hok, -⟩
    · exact congrArg (·.registry.mapping) hsame
    · cases h.symm.trans hok
  | checkCircle name a => rw [Request.perform, (Looks.checkCircle name a s).1]

/-- A request that fails leaves the entries and their order, so that code that asks the registry gets the same from it as
    if there had been no request. -/
theorem failed_request_unharmed {r : Request} {s : Host ρ} {fault : Fault} (h : result r.perform s = .error fault) :
    (after r.perform s).registry.mapping = s.registry.mapping ∧
      ∀ {α : Type} (q : Action ρ α), Query q → result q (after r.perform s) = result q s := by
  have hsame := mapping_of_failed h
  exact ⟨hsame, fun q hq => (hq.looks s).2 _ hsame⟩

/-- Before the last alias is refused, one was new, one has given up its entry and one has got another name. -/
theorem refused_midway_unharmed :
    let s : Host Unit :=
      { registry :=
          { mapping := { entries := [("a", "x"), ("n", "t"), ("b", "y")] }, policy := .inTurn [true, false] }
        caller := () }
    let r : Request := .registerMany (.text "n") (.list [.text "c", .text "n", .text "a", .text "b"])
    let t := after r.perform s
    result r.perform s = .error (.refused (.conflict "b" "n" "y")) ∧ t.registry.mapping = s.registry.mapping ∧
      result (canonical (.text "n")) t = .ok (.text "t") ∧ result (hasAlias (.text "x") (.text "a")) t = .ok true := by
  intro s r t
  have hrefused : result r.perform s = .error (.refused (.conflict "b" "n" "y")) := rfl
  obtain ⟨hmapping, hquery⟩ := failed_request_unharmed hrefused
  refine ⟨hrefused, hmapping, ?_, ?_⟩
  · rw [hquery _ (.canonical _)]
    rfl
  · rw [hquery _ (.hasAlias _ _)]
    rfl

end AliasBook.Action
