import AliasBook.Proofs.Registry.Result

/-! Code that asks a registry for what it holds. It leaves the registry alone, and its answers follow from the entries:
    two registries with the same entries in the same order cannot be told apart by it (`Query.looks`). -/

namespace AliasBook.Action
variable {ρ α β : Type} {act : Action ρ α}

/-- The code leaves the registry alone, and of the registry only the entries have a part in what it gives. -/
def Looks (act : Action ρ α) : Prop :=
  ∀ s, (after act s).registry = s.registry ∧
    ∀ t, t.registry.mapping = s.registry.mapping → result act t = result act s

namespace Looks

theorem pure (a : α) : Looks (pure a : Action ρ α) := fun _ => ⟨rfl, fun _ _ => rfl⟩

theorem throw (fault : Fault) : Looks (throw fault : Action ρ α) := fun _ => ⟨rfl, fun _ _ => rfl⟩

theorem mapping : Looks (mapping : Action ρ Mapping) := fun _ => ⟨rfl, fun _ h => congrArg Except.ok h⟩

theorem tellAll (ns : List Notice) : Looks (tellAll ns : Action ρ Unit) :=
  fun _ => ⟨registry_after_tellAll ns, fun _ _ => (result_tellAll ns).trans (result_tellAll ns).symm⟩

theorem ofExcept (outcome : Except Fault α) : Looks (ofExcept outcome : Action ρ α) := by
  cases outcome with
  | error fault => exact throw fault
  | ok a => exact pure a

theorem bind {f : α → Action ρ β} (h : Looks act) (hf : ∀ a, Looks (f a)) : Looks (act >>= f) := by
  intro s
  obtain ⟨hregistry, hresult⟩ := h s
  constructor
  · rw [after_bind]
    split
    · rw [(hf _ _).1, hregistry]
    · exact hregistry
  · intro t ht
    rw [result_bind, result_bind, hresult t ht]
    cases result act s with
    | error fault => rfl
    | ok a =>
      refine (hf a (after act s)).2 (after act t) ?_
      rw [(h t).1, hregistry, ht]

theorem tryCatch {handle : Fault → Action ρ α} (h : Looks act) (hf : ∀ fault, Looks (handle fault)) :
    Looks (tryCatch act handle) := by
  intro s
  obtain ⟨hregistry, hresult⟩ := h s
  constructor
  · rw [after_tryCatch]
    split
    · exact hregistry
    · rw [(hf _ _).1, hregistry]
  · intro t ht
    rw [result_tryCatch, result_tryCatch, hresult t ht]
    cases result act s with
    | ok a => rfl
    | error fault =>
      refine (hf fault (after act s)).2 (after act t) ?_
      rw [(h t).1, hregistry, ht]

theorem hasAlias (name a : Value) : Looks (hasAlias name a : Action ρ Bool) := by
  refine bind (ofExcept _) fun key => ?_
  cases key with
  | none => exact pure false
  | some start =>
    refine bind mapping fun m => ?_
    dsimp only
    split
    · exact pure true
    · exact bind (tellAll _) fun _ => pure false

theorem checkCircle (name a : Value) : Looks (checkCircle name a : Action ρ Unit) := by
  refine bind (hasAlias a name) fun found => ?_
  split
  · exact throw _
  · exact pure ()

theorem canonical (name : Value) : Looks (canonical name : Action ρ Value) := by
  refine bind (ofExcept _) fun key => ?_
  cases key with
  | none => exact pure name
  | some key => exact bind mapping fun m => bind (tellAll _) fun _ => pure _

theorem aliasesOf (name : Value) : Looks (aliasesOf name : Action ρ (List String)) := by
  refine bind (ofExcept _) fun key => ?_
  cases key with
  | none => exact pure []
  | some key => exact bind mapping fun m => pure _

end Looks

/-- Code that asks a registry for what it holds, as often as it likes. -/
inductive Query : {α : Type} → Action ρ α → Prop
  | entries : Query mapping
  | size : Query size
  | isAlias (name : Value) : Query (isAlias name)
  | lookUp (name : Value) : Query (lookUp name)
  | canonical (name : Value) : Query (canonical name)
  | hasAlias (name a : Value) : Query (hasAlias name a)
  | checkCircle (name a : Value) : Query (checkCircle name a)
  | aliasesOf (name : Value) : Query (aliasesOf name)
  | listing : Query listing
  | pure {α : Type} (a : α) : Query (pure a)
  | throw {α : Type} (fault : Fault) : Query (throw fault : Action ρ α)
  | bind {α β : Type} {act : Action ρ α} {f : α → Action ρ β} : Query act → (∀ a, Query (f a)) → Query (act >>= f)
  | tryCatch {α : Type} {act : Action ρ α} {handle : Fault → Action ρ α} :
      Query act → (∀ fault, Query (handle fault)) → Query (tryCatch act handle)

theorem Query.looks (h : Query act) : Looks act := by
  induction h with
  | entries => exact .mapping
  | size => exact .bind .mapping fun _ => .pure _
  | isAlias name => exact .bind (.ofExcept _) fun _ => .bind .mapping fun _ => .pure _
  | lookUp name => exact .bind (.ofExcept _) fun _ => .bind .mapping fun _ => .pure _
  | canonical name => exact .canonical name
  | hasAlias name a => exact .hasAlias name a
  | checkCircle name a => exact .checkCircle name a
  | aliasesOf name => exact .aliasesOf name
  | listing => exact .bind .mapping fun _ => .pure _
  | pure a => exact .pure a
  | throw fault => exact .throw fault
  | bind _ _ ihact ihf => exact .bind ihact ihf
  | tryCatch _ _ ihact ihhandle => exact .tryCatch ihact ihhandle

end AliasBook.Action
