import AliasBook.Proofs.Mapping.Listing
import AliasBook.Proofs.Registry.Lookup
import AliasBook.Proofs.Registry.Reachable
import Mathlib

/-! The listing of a registry, and another registry that is made from it. Each group of the listing is registered for
    its canonical name. The chains become entries of one step, and canonical names and the listing stay what they are
    (`listing_registered_back`). -/

namespace AliasBook.Action
open Mapping
variable {ρ ρ' : Type} {s : Host ρ} {t : Host ρ'} {groups order : List (String × List String)}

theorem result_listing (s : Host ρ) : result listing s = .ok s.registry.mapping.listing := rfl

theorem result_size (s : Host ρ) : result size s = .ok s.registry.mapping.size := rfl

/-- The listing parts the aliases by their canonical names. -/
theorem listing_groups (hm : Reachable s.registry.mapping) : ∃ groups, result listing s = .ok groups ∧
    s.registry.mapping.Groups groups ∧ result size s = .ok (groups.map fun g => g.2.length).sum ∧
    ∀ x, result (canonical (.text x)) s = .ok (.text (s.registry.mapping.canonical x)) := by
  have hgroups := groups_listing hm.sound.acyclic
  refine ⟨_, result_listing s, hgroups, ?_, fun x => result_canonical x s⟩
  rw [result_size, hgroups.sum_length]

theorem listing_two_roots :
    let m : Mapping := { entries := [("c", "b"), ("z", "x"), ("d", "a"), ("b", "a")] }
    let s : Host Unit := { registry := { mapping := m }, caller := () }
    Reachable m ∧ result listing s = .ok [("a", ["b", "c", "d"]), ("x", ["z"])] ∧
      m.Groups [("a", ["b", "c", "d"]), ("x", ["z"])] := by
  intro m s
  have hm : Reachable s.registry.mapping :=
    ⟨Unit, { caller := { own := () } }, registerAll m.entries, client_registerAll _, rfl, rfl, Or.inl (by decide)⟩
  have hlisting : m.listing = [("a", ["b", "c", "d"]), ("x", ["z"])] := by cbv
  obtain ⟨groups, hresult, hgroups, -⟩ := listing_groups hm
  rw [result_listing] at hresult
  cases hresult
  exact ⟨hm, congrArg Except.ok hlisting, hlisting ▸ hgroups⟩

/-! ### Registering groups -/

/-- Registers the aliases of each group for its name, and gives how many entries were written for each. -/
def registerGroups (groups : List (String × List String)) : Action ρ (List Nat) :=
  groups.mapM fun g => registerMany (.text g.1) (.list (g.2.map Value.text))

/-- Groups of new entries are all registered, whatever the policy, unless they close a circle. -/
theorem registerGroups_of_fresh (hn : ∀ g ∈ groups, Text.isBlank g.1 = false)
    (h : s.registry.mapping.Fresh (ungrouped groups))
    (hacyclic : (s.registry.mapping.insertAll (ungrouped groups)).Acyclic) :
    result (registerGroups groups) s = .ok (groups.map fun g => g.2.length) ∧
      (after (registerGroups groups) s).registry.mapping = s.registry.mapping.insertAll (ungrouped groups) := by
  induction groups generalizing s with
  | nil => exact ⟨rfl, rfl⟩
  | cons g groups ih =>
    obtain ⟨hn, hrest⟩ := List.forall_mem_cons.mp hn
    have hsplit : ungrouped (g :: groups) = g.2.map (·, g.1) ++ ungrouped groups := rfl
    rw [hsplit] at h hacyclic ⊢
    obtain ⟨hok, hmapping⟩ :=
      registerMany_of_fresh hn (h.sublist (List.sublist_append_left _ _)) (h.acyclic_front hacyclic)
    obtain ⟨hresult, hafter⟩ :=
      mapM_cons_of_ok (f := fun g : String × List String => registerMany (.text g.1) (.list (g.2.map Value.text))) groups hok
    have hboth : s.registry.mapping.insertAll (g.2.map (·, g.1) ++ ungrouped groups) =
        (s.registry.mapping.insertAll (g.2.map (·, g.1))).insertAll (ungrouped groups) := List.foldl_append
    rw [hboth] at hacyclic ⊢
    obtain ⟨hok', hmapping'⟩ := ih hrest (hmapping ▸ h.behind) (hmapping ▸ hacyclic)
    refine ⟨?_, ?_⟩
    · rw [registerGroups, hresult, ← registerGroups, hok']
      rfl
    · rw [registerGroups, hafter, ← registerGroups, hmapping', hmapping]

/-- The groups of a listing, registered in any order where there are no entries, are registered all and give the same
    number of entries, the same canonical names and the same listing. -/
theorem listing_registered_back (hm : Reachable s.registry.mapping) (hempty : t.registry.mapping = .empty)
    (hlisting : result listing s = .ok groups) (horder : order.Perm groups) :
    ∃ counts, result (registerGroups order) t = .ok counts ∧ result size s = .ok counts.sum ∧
      let u := after (registerGroups order) t
      (∀ x, result (canonical (.text x)) u = result (canonical (.text x)) s) ∧
        result listing u = result listing s := by
  rw [result_listing] at hlisting
  cases hlisting
  have hsound := hm.sound
  have hflat := flattens_ungrouped hsound horder
  have hfresh := fresh_ungrouped hsound horder
  have hnames : ∀ g ∈ order, Text.isBlank g.1 = false := by
    intro g hg
    obtain ⟨⟨a, ha⟩, -⟩ := mem_canonicals.mp (mem_listing.mp (horder.mem_iff.mp hg)).1
    exact (hsound.filled a g.1 ha).2
  -- New entries ask no policy, and names that are canonical close no circle.
  rw [← hempty] at hfresh hflat
  obtain ⟨hok, hmapping⟩ := registerGroups_of_fresh hnames hfresh (hflat.acyclic hsound.acyclic)
  refine ⟨_, hok, ?_, fun x => ?_, ?_⟩
  · rw [result_size, (horder.map _).sum_nat, (groups_listing hsound.acyclic).sum_length]
  · rw [result_canonical, result_canonical, hmapping, hflat.canonical_eq hsound.acyclic]
  · rw [result_listing, result_listing, hmapping]
    exact congrArg Except.ok
      (listing_eq_of_canonical (hflat.acyclic hsound.acyclic) hsound.acyclic (hflat.canonical_eq hsound.acyclic))

/-- A chain and a branch, under a policy that never lets anything be overridden. -/
theorem listing_flattened :
    let m : Mapping := { entries := [("c", "b"), ("z", "x"), ("d", "a"), ("b", "a")] }
    let s : Host Unit := { registry := { mapping := m }, caller := () }
    let t : Host Unit := { registry := { policy := .always false }, caller := () }
    let order := [("x", ["z"]), ("a", ["b", "c", "d"])]
    let u := after (registerGroups order) t
    Reachable m ∧ result (registerGroups order) t = .ok [1, 3] ∧
      u.registry.mapping.entries = [("z", "x"), ("b", "a"), ("c", "a"), ("d", "a")] ∧
      (∀ x, result (canonical (.text x)) u = result (canonical (.text x)) s) ∧
      result listing u = result listing s := by
  intro m s t order u
  have hm : Reachable s.registry.mapping :=
    ⟨Unit, { caller := { own := () } }, registerAll m.entries, client_registerAll _, rfl, rfl, Or.inl (by decide)⟩
  have hlisting : result listing s = .ok [("a", ["b", "c", "d"]), ("x", ["z"])] :=
    congrArg Except.ok (by cbv : m.listing = _)
  obtain ⟨counts, -, -, hsame⟩ := listing_registered_back (t := t) hm rfl hlisting (.swap _ _ [])
  exact ⟨hm, rfl, by decide, hsame⟩

end AliasBook.Action
