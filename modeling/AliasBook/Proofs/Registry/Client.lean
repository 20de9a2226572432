import AliasBook.Proofs.Registry.Lasting
import AliasBook.Registry.Shared

/-! Code that works with a registry through its operations. It may go on after a refusal, and it may be a
    resolver that is called in the middle of a pass. The entries that it meets are sound at every moment
    (`Client.mapping_inv`). -/

namespace AliasBook

/-- What a caller keeps: things of its own, and the entries after each operation, the latest first. -/
structure Diary (ρ : Type) where
  own : ρ
  seen : List Mapping := []

namespace Action
variable {ρ α β : Type}

def note : Action (Diary ρ) Unit :=
  modify fun s => { s with caller := { s.caller with seen := s.registry.mapping :: s.caller.seen } }

/-- Performs an operation, and notes the entries that it leaves, also if it ends early. -/
def noted (act : Action (Diary ρ) α) : Action (Diary ρ) α :=
  tryCatch (do let a ← act; note; return a) fun fault => do note; throw fault

/-- Code that reaches the entries through operations only, and notes what each of them leaves. Resolvers that
    it passes on are such code as well. -/
inductive Client : {α : Type} → Action (Diary ρ) α → Prop
  | register (name a : Value) : Client (noted (register name a))
  | registerMany (name aliases : Value) : Client (noted (registerMany name aliases))
  | remove (a : Value) : Client (noted (remove a))
  | clear : Client (noted clear)
  | loadFile (path : String) (bytes : Option ByteArray) : Client (noted (loadFile path bytes))
  | resolve (resolver : Option (Resolver (Diary ρ))) :
      (∀ f ∈ resolver, ∀ x, Client (f x)) → Client (noted (resolve resolver))
  | openRegistry (policy : Policy) (isShared : Bool) : Client (noted (openRegistry policy isShared))
  /-- Anything else may do what it likes, but not to the entries. -/
  | elsewhere {α : Type} (act : Action (Diary ρ) α) :
      (∀ s, (after act s).registry.mapping = s.registry.mapping ∧ (after act s).caller.seen = s.caller.seen) →
      Client act
  | bind {α β : Type} {act : Action (Diary ρ) α} {f : α → Action (Diary ρ) β} :
      Client act → (∀ a, Client (f a)) → Client (act >>= f)
  | tryCatch {α : Type} {act : Action (Diary ρ) α} {handle : Fault → Action (Diary ρ) α} :
      Client act → (∀ fault, Client (handle fault)) → Client (tryCatch act handle)

/-- The entries are sound, and so are all that were noted. -/
def Tidy (s : Host (Diary ρ)) : Prop :=
  s.registry.mapping.Sound ∧ ∀ m ∈ s.caller.seen, m.Sound

theorem lasts_tidy : Lasts Mapping.Sound (fun n => n.isAlarm = false) (Tidy (ρ := ρ)) where
  toRules := .sound
  entries _ hs := hs.1
  write _ _ hs hm := ⟨hm, hs.2⟩
  ask _ hs := hs
  told _ _ hs _ := hs

theorem keeps_note : Keeps Tidy (note : Action (Diary ρ) Unit) fun _ => True := by
  refine Keeps.modify fun s hs => ⟨hs.1, fun m hm => ?_⟩
  rcases List.mem_cons.mp hm with rfl | hm
  · exact hs.1
  · exact hs.2 m hm

theorem keeps_noted {act : Action (Diary ρ) α} (h : Keeps Tidy act fun _ => True) :
    Keeps Tidy (noted act) fun _ => True := by
  refine Keeps.tryCatch ?_ fun fault => Keeps.bind keeps_note fun _ _ => Keeps.throw fault
  exact Keeps.bind h fun _ _ => Keeps.bind keeps_note fun _ _ => Keeps.pure trivial

theorem Client.keeps {act : Action (Diary ρ) α} (h : Client act) : Keeps Tidy act fun _ => True := by
  induction h with
  | register name a => exact keeps_noted (lasts_tidy.register name a)
  | registerMany name aliases => exact keeps_noted (lasts_tidy.registerMany name aliases)
  | remove a => exact keeps_noted (lasts_tidy.remove a)
  | clear => exact keeps_noted lasts_tidy.clear
  | loadFile path bytes => exact keeps_noted (lasts_tidy.loadFile path bytes)
  | resolve resolver _ ih => exact keeps_noted (lasts_tidy.resolve ih)
  | openRegistry policy isShared => exact keeps_noted (Keeps.modify fun _ hs => ⟨Mapping.sound_empty, hs.2⟩)
  | elsewhere act hact =>
    intro s hs
    obtain ⟨hmapping, hseen⟩ := hact s
    exact ⟨⟨hmapping ▸ hs.1, fun m hm => hs.2 m (hseen ▸ hm)⟩, fun _ _ => trivial⟩
  | bind _ _ ihact ihf => exact Keeps.bind ihact fun a _ => ihf a
  | tryCatch _ _ ihact ihhandle => exact Keeps.tryCatch ihact ihhandle

theorem Client.sound {act : Action (Diary ρ) α} (h : Client act) {s : Host (Diary ρ)}
    (hempty : s.registry.mapping = .empty) (hseen : s.caller.seen = []) {m : Mapping}
    (hm : m = (after act s).registry.mapping ∨ m ∈ (after act s).caller.seen) : m.Sound := by
  have hstart : Tidy s := ⟨hempty ▸ Mapping.sound_empty, by simp [hseen]⟩
  obtain ⟨hlive, hnoted⟩ := (h.keeps s hstart).1
  rcases hm with rfl | hm
  · exact hlive
  · exact hnoted m hm

/-- Starting without entries, the entries after every operation have no circle, no alias for itself, and no blank
    text. -/
theorem Client.mapping_inv {act : Action (Diary ρ) α} (h : Client act) {s : Host (Diary ρ)}
    (hempty : s.registry.mapping = .empty) (hseen : s.caller.seen = []) {m : Mapping}
    (hm : m = (after act s).registry.mapping ∨ m ∈ (after act s).caller.seen) :
    m.Acyclic ∧ (∀ a n, m.get? a = some n → a ≠ n) ∧
      ∀ a n, m.get? a = some n → Text.strip a ≠ "" ∧ Text.strip n ≠ "" := by
  have hsound := h.sound hempty hseen hm
  refine ⟨hsound.acyclic, fun _ _ => hsound.acyclic.ne, fun a n hget => ?_⟩
  obtain ⟨ha, hn⟩ := hsound.filled a n hget
  rw [Ne, Ne, Text.strip_eq_empty_iff, Text.strip_eq_empty_iff, ha, hn]
  simp

/-- Renames an alias with a resolver that lets texts stand for another name in the middle of the pass. -/
def renameMeanwhile : Action (Diary Unit) Unit := do
  noted (register (.text "b") (.text "a"))
  noted (resolve (some fun x => do
    noted (register (.text "c") (.text x))
    return some (x ++ "2")))

theorem renameMeanwhile_inv :
    let s : Host (Diary Unit) := after renameMeanwhile { caller := { own := () } }
    s.caller.seen.map (·.entries) = [[("a2", "b2")], [("a", "c"), ("b", "c")], [("a", "c")], [("a", "b")]] ∧
      ∀ m ∈ s.caller.seen, m.Acyclic ∧ (∀ a n, m.get? a = some n → a ≠ n) ∧
        ∀ a n, m.get? a = some n → Text.strip a ≠ "" ∧ Text.strip n ≠ "" := by
  have hclient : Client renameMeanwhile := by
    refine .bind (.register _ _) fun _ => .resolve _ fun f hf x => ?_
    cases hf
    exact .bind (.register _ _) fun _ => .elsewhere _ fun _ => ⟨rfl, rfl⟩
  exact ⟨by decide, fun m hm => hclient.mapping_inv rfl rfl (Or.inr hm)⟩

end Action

end AliasBook
