import AliasBook.Proofs.Registry.Client
import AliasBook.Proofs.Registry.Register

/-! The entries that a registry can come to have are the sound ones: registered one by one in their order,
    they come out as they are (`reachable_iff_sound`). -/

namespace AliasBook.Action
variable {ρ α : Type} {m : Mapping} {es : List (String × String)}

@[simp] theorem result_noted (act : Action (Diary ρ) α) (s : Host (Diary ρ)) :
    result (noted act) s = result act s := by
  rw [noted, result_tryCatch, result_bind]
  cases result act s with
  | error fault => rfl
  | ok a => rfl

theorem registry_after_noted (act : Action (Diary ρ) α) (s : Host (Diary ρ)) :
    (after (noted act) s).registry = (after act s).registry := by
  rw [noted, after_tryCatch, result_bind, after_bind]
  cases result act s with
  | error fault => rfl
  | ok a => rfl

def registerAll : List (String × String) → Action (Diary Unit) Unit
  | [] => pure ()
  | e :: es => do
    noted (register (.text e.2) (.text e.1))
    registerAll es

theorem client_registerAll (es : List (String × String)) : Client (registerAll es) := by
  induction es with
  | nil => exact .elsewhere _ fun _ => ⟨rfl, rfl⟩
  | cons e es ih => exact .bind (.register _ _) fun _ => ih

theorem registerAll_fresh {s : Host (Diary Unit)} (h : s.registry.mapping.Fresh es)
    (hacyclic : (s.registry.mapping.insertAll es).Acyclic) :
    (after (registerAll es) s).registry.mapping = s.registry.mapping.insertAll es := by
  induction es generalizing s with
  | nil => rfl
  | cons e es ih =>
    obtain ⟨hok, hmapping⟩ := register_of_fresh h (h.not_leads hacyclic)
    rw [← registry_after_noted] at hmapping
    rw [registerAll, after_bind, result_noted, hok]
    show (after (registerAll es) _).registry.mapping = (s.registry.mapping.insert e.1 e.2).insertAll es
    rw [ih (hmapping ▸ h.insert) (hmapping ▸ hacyclic), hmapping]

/-- The entries can be met by some code that starts without entries. -/
def Reachable (m : Mapping) : Prop :=
  ∃ (ρ : Type) (s : Host (Diary ρ)) (act : Action (Diary ρ) Unit), Client act ∧ s.registry.mapping = .empty ∧
    s.caller.seen = [] ∧ (m = (after act s).registry.mapping ∨ m ∈ (after act s).caller.seen)

theorem Reachable.sound (h : Reachable m) : m.Sound := by
  obtain ⟨ρ, s, act, hclient, hempty, hseen, hm⟩ := h
  exact hclient.sound hempty hseen hm

theorem reachable_iff_sound : Reachable m ↔ m.Sound := by
  refine ⟨Reachable.sound, fun h => ?_⟩
  have hsame : Mapping.empty.insertAll m.entries = m := Mapping.ext h.fresh.entries_insertAll
  have hregister : (after (registerAll m.entries) { caller := { own := () } }).registry.mapping = m :=
    (registerAll_fresh h.fresh (hsame.symm ▸ h.acyclic)).trans hsame
  exact ⟨Unit, _, _, client_registerAll m.entries, rfl, rfl, Or.inl hregister.symm⟩

theorem Reachable.perm {m' : Mapping} (h : Reachable m) (horder : m.entries.Perm m'.entries) : Reachable m' := by
  rw [reachable_iff_sound] at h ⊢
  exact h.perm horder

end AliasBook.Action
