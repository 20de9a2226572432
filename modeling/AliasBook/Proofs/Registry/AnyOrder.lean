import AliasBook.Proofs.Registry.Reachable

/-! Registering new entries in any order. Each of them is refused at most for a circle, and one of them is exactly where
    all together, with the entries that were there, have a circle. That does not depend on the order, and neither
    do the entries in the end (`registerEach_orders`). -/

namespace AliasBook.Action
variable {ρ : Type} {s : Host ρ} {es : List (String × String)}

/-- Registers entries one after the other, whatever becomes of those before, and gives what came of each. -/
def registerEach (es : List (String × String)) : Action ρ (List (Except Fault Unit)) :=
  es.mapM fun e => observing (register (.text e.2) (.text e.1))

/-- The entry was registered, or it was refused since its name leads to its alias. -/
def AddedOrCircular (e : String × String) (outcome : Except Fault Unit) : Prop :=
  outcome = .ok () ∨ outcome = .error (.refused (.circular e.1 e.2))

theorem registerEach_cons (e : String × String) (es : List (String × String)) (s : Host ρ) :
    let t := after (register (.text e.2) (.text e.1)) s
    result (registerEach (e :: es)) s =
        (result (registerEach es) t).map (result (register (.text e.2) (.text e.1)) s :: ·) ∧
      after (registerEach (e :: es)) s = after (registerEach es) t :=
  mapM_observing_cons (fun e : String × String => register (.text e.2) (.text e.1)) e es s

/-- All new entries are registered if they close no circle, and else one of them is refused. -/
theorem registerEach_fresh (hm : s.registry.mapping.Acyclic) (h : s.registry.mapping.Fresh es) :
    ∃ outcomes, result (registerEach es) s = .ok outcomes ∧ List.Forall₂ AddedOrCircular es outcomes ∧
      ((s.registry.mapping.insertAll es).Acyclic → outcomes = .replicate es.length (.ok ()) ∧
        (after (registerEach es) s).registry.mapping = s.registry.mapping.insertAll es) ∧
      (¬(s.registry.mapping.insertAll es).Acyclic → ∃ e ∈ es, .error (.refused (.circular e.1 e.2)) ∈ outcomes) := by
  induction es generalizing s with
  | nil => exact ⟨[], rfl, .nil, fun _ => ⟨rfl, rfl⟩, fun hcircle => absurd hm hcircle⟩
  | cons e es ih =>
    obtain ⟨hresult, hafter⟩ := registerEach_cons e es s
    by_cases hlead : s.registry.mapping.Leads e.2 e.1
    · -- The others have their turns from the entries that were there before, and may be refused as well.
      obtain ⟨hrefused, hmapping⟩ := register_of_leads h hlead
      obtain ⟨outcomes, hrest, hall, -, -⟩ := ih (hmapping.symm ▸ hm) (hmapping.symm ▸ h.tail)
      rw [hrest, hrefused] at hresult
      exact ⟨_, hresult, .cons (Or.inr rfl) hall, fun hacyclic => absurd hlead (h.not_leads hacyclic),
        fun _ => ⟨e, List.mem_cons_self, List.mem_cons_self⟩⟩
    · obtain ⟨hok, hmapping⟩ := register_of_fresh h hlead
      have hm' : (s.registry.mapping.insert e.1 e.2).Acyclic := hm.insert (h.proper e List.mem_cons_self) hlead
      obtain ⟨outcomes, hrest, hall, hadded, hcircle⟩ := ih (hmapping.symm ▸ hm') (hmapping.symm ▸ h.insert)
      rw [hrest, hok] at hresult
      rw [hmapping] at hadded hcircle
      refine ⟨_, hresult, .cons (Or.inl rfl) hall, fun hacyclic => ?_, fun hcyclic => ?_⟩
      · obtain ⟨rfl, hput⟩ := hadded hacyclic
        exact ⟨rfl, hafter ▸ hput⟩
      · obtain ⟨d, hd, hmem⟩ := hcircle hcyclic
        exact ⟨d, List.mem_cons_of_mem e hd, List.mem_cons_of_mem _ hmem⟩

/-- New entries with a circle, together with those that are there, or without one: without one all are registered in
    every order, and the entries in the end are the same; with one, some entry is refused in every order. -/
theorem registerEach_orders (hm : Reachable s.registry.mapping) (h : s.registry.mapping.Fresh es) :
    let m := s.registry.mapping.insertAll es
    (m.Acyclic ∧ ∀ order : List (String × String), order.Perm es →
        result (registerEach order) s = .ok (.replicate order.length (.ok ())) ∧
          (after (registerEach order) s).registry.mapping.entries.Perm m.entries) ∨
      (¬m.Acyclic ∧ ∀ order : List (String × String), order.Perm es →
        ∃ outcomes, result (registerEach order) s = .ok outcomes ∧ List.Forall₂ AddedOrCircular order outcomes ∧
          ∃ e ∈ order, .error (.refused (.circular e.1 e.2)) ∈ outcomes) := by
  intro m
  have hsound := (reachable_iff_sound.mp hm).acyclic
  by_cases hacyclic : m.Acyclic
  · refine Or.inl ⟨hacyclic, fun order horder => ?_⟩
    obtain ⟨outcomes, hresult, -, hadded, -⟩ := registerEach_fresh hsound (h.perm horder)
    obtain ⟨rfl, hput⟩ := hadded ((h.acyclic_perm horder).mpr hacyclic)
    refine ⟨hresult, ?_⟩
    rw [hput, (h.perm horder).entries_insertAll, h.entries_insertAll]
    exact horder.append_left _
  · refine Or.inr ⟨hacyclic, fun order horder => ?_⟩
    obtain ⟨outcomes, hresult, hall, -, hcircle⟩ := registerEach_fresh hsound (h.perm horder)
    exact ⟨outcomes, hresult, hall, hcircle fun hacyclic' => hacyclic ((h.acyclic_perm horder).mp hacyclic')⟩

/-- Two new entries close a circle with one that is there, and the policy has no say in it. -/
theorem registerEach_ring :
    let s : Host Unit :=
      { registry := { mapping := { entries := [("a", "b"), ("d", "e")] }, policy := .always false }, caller := () }
    let es := [("b", "c"), ("e", "a"), ("c", "a")]
    Reachable s.registry.mapping ∧ s.registry.mapping.Fresh es ∧
      ∀ order : List (String × String), order.Perm es → ∃ outcomes, result (registerEach order) s = .ok outcomes ∧
        List.Forall₂ AddedOrCircular order outcomes ∧
        ∃ e ∈ order, .error (.refused (.circular e.1 e.2)) ∈ outcomes := by
  intro s es
  have hm : Reachable s.registry.mapping :=
    ⟨Unit, { caller := { own := () } }, registerAll s.registry.mapping.entries, client_registerAll _, rfl, rfl,
      Or.inl (by decide)⟩
  have h : s.registry.mapping.Fresh es := ⟨by decide, by decide, by decide, by decide⟩
  refine ⟨hm, h, ?_⟩
  rcases registerEach_orders hm h with ⟨hacyclic, -⟩ | ⟨-, hcircle⟩
  · have hring : (s.registry.mapping.insertAll es).Leads "a" "a" :=
      ((Mapping.Leads.single (by decide : _ = some "b")).tail (by decide : _ = some "c")).tail
        (by decide : _ = some "a")
    exact absurd hring (hacyclic "a")
  · exact hcircle

end AliasBook.Action
