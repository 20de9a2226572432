import AliasBook.Proofs.Registry.Resolve
import AliasBook.Proofs.Renaming.Order

/-! When renaming by a function is refused, and what the order of the entries has to do with it. A refusal can
    come from entries that wait and would not be in the way at the end; where no turn is held up by one of
    them, the refusal is right (`resolve_refused_rightly`), and the order of the entries matters only in so far
    as it decides on this (`resolve_orders_agree_iff`). -/

namespace AliasBook.Action
open Renaming
variable {ρ : Type} {s s' : Host ρ} {r : String → Option String} {m : Mapping}

/-! ### Refusals -/

theorem refused_iff : (∃ refusal, result (resolveBy r) s = .error (.refused refusal)) ↔
    ¬∃ v, Passes s.registry.mapping (turns r s.registry.mapping.entries) v := by
  constructor
  · rintro ⟨refusal, hrefused⟩ ⟨v, hpass⟩
    rw [(resolve_ok_iff.mpr hpass).1] at hrefused
    cases hrefused
  · intro hno
    obtain ⟨refusal, hrefused, -⟩ := resolve_refused fun hok => hno ⟨_, resolve_ok_iff.mp ⟨hok, rfl⟩⟩
    exact ⟨refusal, hrefused⟩

/-- Where no turn is held up, renaming fails only with a conflict if two entries are to become one alias with
    different names, or with a circle if there is one in what the entries are to become. -/
theorem resolve_refused_rightly (hclear : Clear r s.registry.mapping.entries) {fault : Fault}
    (h : result (resolveBy r) s = .error fault) :
    ∃ refusal, fault = .refused refusal ∧
      ((refusal.report.kind = .conflict ∧ ∃ x t t', Intended r s.registry.mapping.entries x t ∧
          Intended r s.registry.mapping.entries x t' ∧ t ≠ t') ∨
        (refusal.report.kind = .circular ∧ ∃ x, Relation.TransGen (Intended r s.registry.mapping.entries) x x)) := by
  cases hrun : (start s.registry.mapping).run (turns r s.registry.mapping.entries) with
  | ok q =>
    rw [(resolve_of_run_ok hrun).1] at h
    cases h
  | error refusal =>
    rw [(resolve_of_run_error hrun).1] at h
    cases h
    refine ⟨refusal, rfl, ?_⟩
    rcases hclear.cause hrun with ⟨x, t, l, a, rfl, hxt, t', hxt', hne⟩ | ⟨x, t, rfl, hround⟩
    · exact Or.inl ⟨rfl, x, t', t, hxt', hxt, hne⟩
    · exact Or.inr ⟨rfl, x, hround⟩

def closeRound (x : String) : Option String :=
  if x = "X" then some "A" else some x

theorem resolve_closeRound :
    let m : Mapping := { entries := [("B", "A"), ("X", "B")] }
    let s : Host Unit := { registry := { mapping := m }, caller := () }
    result (resolveBy closeRound) s = .error (.refused (.circular "A" "B")) ∧
      ∃ x, Relation.TransGen (Intended closeRound m.entries) x x := by
  intro m s
  have hclear : Clear closeRound m.entries := clear_of_steady (by decide) (by decide)
  have hresult : result (resolveBy closeRound) s = .error (.refused (.circular "A" "B")) := rfl
  obtain ⟨refusal, hrefusal, ⟨hkind, -⟩ | ⟨-, hround⟩⟩ := resolve_refused_rightly hclear hresult
  · cases hrefusal
    cases hkind
  · exact ⟨hresult, hround⟩

def shift (x : String) : Option String :=
  some (if x = "a" then "x" else if x = "x" then "y" else x)

def swap (x : String) : Option String :=
  some (if x = "a" then "b" else if x = "b" then "a" else x)

/-- An alias is to be that of an entry that moves on, and an alias is to change places with its name. Neither makes a
    clash or a circle, and both are refused. -/
theorem resolve_refused_needlessly :
    let m : Mapping := { entries := [("a", "n"), ("x", "m")] }
    let k : Mapping := { entries := [("a", "b")] }
    (Reachable m ∧ result (resolveBy shift) { registry := { mapping := m }, caller := () } =
        .error (.refused (.resolvedConflict "x" "n" "m" "a")) ∧
      ∀ x t t', Intended shift m.entries x t → Intended shift m.entries x t' → t = t') ∧
    (Reachable k ∧ result (resolveBy swap) { registry := { mapping := k }, caller := () } =
        .error (.refused (.circular "b" "a")) ∧
      ∀ x, ¬Relation.TransGen (Intended swap k.entries) x x) := by
  intro m k
  have hm : Reachable m :=
    ⟨Unit, { caller := { own := () } }, registerAll m.entries, client_registerAll _, rfl, rfl, Or.inl (by decide)⟩
  have hk : Reachable k :=
    ⟨Unit, { caller := { own := () } }, registerAll k.entries, client_registerAll _, rfl, rfl, Or.inl (by decide)⟩
  have hshift : Distinguishes shift m := distinguishes_iff.mpr (by decide)
  have hswap : Distinguishes swap k := distinguishes_iff.mpr (by decide)
  exact ⟨⟨hm, rfl, fun _ _ _ => hshift.intended_unique⟩, hk, rfl, fun _ => hswap.intended_acyclic hk.sound.acyclic⟩

/-! ### The order of the entries -/

/-- By a function that gives every text one of its own, two registries with the same entries in two orders are both
    refused, or both get the same entries, exactly if the turns are held up in both orders or in none and, if in none,
    the same entries are absorbed. -/
theorem resolve_orders_agree_iff (hm : Reachable m) (horder : m.entries.Perm s.registry.mapping.entries)
    (horder' : m.entries.Perm s'.registry.mapping.entries) (hr : Distinguishes r m) :
    let es := s.registry.mapping.entries
    let es' := s'.registry.mapping.entries
    ((∃ refusal refusal', result (resolveBy r) s = .error (.refused refusal) ∧
          result (resolveBy r) s' = .error (.refused refusal')) ∨
        (result (resolveBy r) s = .ok () ∧ result (resolveBy r) s' = .ok () ∧
          ∀ e, e ∈ (after (resolveBy r) s).registry.mapping.entries ↔
            e ∈ (after (resolveBy r) s').registry.mapping.entries)) ↔
      (Clear r es ↔ Clear r es') ∧ (Clear r es → ∀ e, Absorbed r es e ↔ Absorbed r es' e) := by
  intro es es'
  refine Iff.trans ?_ (orders_agree_iff (hm.sound.perm horder) (horder.symm.trans horder') (hr.perm horder))
  constructor
  · rintro (⟨refusal, refusal', hno, hno'⟩ | ⟨hok, hok', hsame⟩)
    · exact Or.inl ⟨refused_iff.mp ⟨refusal, hno⟩, refused_iff.mp ⟨refusal', hno'⟩⟩
    · exact Or.inr ⟨_, _, resolve_ok_iff.mp ⟨hok, rfl⟩, resolve_ok_iff.mp ⟨hok', rfl⟩, hsame⟩
  · rintro (⟨hno, hno'⟩ | ⟨v, v', hpass, hpass', hsame⟩)
    · obtain ⟨refusal, hrefused⟩ := refused_iff.mpr hno
      obtain ⟨refusal', hrefused'⟩ := refused_iff.mpr hno'
      exact Or.inl ⟨refusal, refusal', hrefused, hrefused'⟩
    · obtain ⟨hok, rfl⟩ := resolve_ok_iff.mpr hpass
      obtain ⟨hok', rfl⟩ := resolve_ok_iff.mpr hpass'
      exact Or.inr ⟨hok, hok', hsame⟩

/-- Names that become those of others, as long as no alias is in the way. -/
def passOn (x : String) : Option String :=
  some (if x = "n" then "m" else if x = "m" then "k" else x)

theorem resolve_passOn :
    let m : Mapping := { entries := [("a", "n"), ("b", "m")] }
    let m' : Mapping := { entries := [("b", "m"), ("a", "n")] }
    Reachable m ∧ m.entries.Perm m'.entries ∧ Distinguishes passOn m ∧
      (Clear passOn m.entries ↔ Clear passOn m'.entries) ∧
      (Clear passOn m.entries → ∀ e, Absorbed passOn m.entries e ↔ Absorbed passOn m'.entries e) := by
  intro m m'
  let s : Host Unit := { registry := { mapping := m }, caller := () }
  let s' : Host Unit := { registry := { mapping := m' }, caller := () }
  have hm : Reachable m :=
    ⟨Unit, { caller := { own := () } }, registerAll m.entries, client_registerAll _, rfl, rfl, Or.inl (by decide)⟩
  have horder : m.entries.Perm s.registry.mapping.entries := .refl _
  have horder' : m.entries.Perm s'.registry.mapping.entries := .swap _ _ []
  have hr : Distinguishes passOn m := distinguishes_iff.mpr (by decide)
  have hentries : (after (resolveBy passOn) s).registry.mapping.entries = [("a", "m"), ("b", "k")] := by decide
  have hentries' : (after (resolveBy passOn) s').registry.mapping.entries = [("b", "k"), ("a", "m")] := by decide
  refine ⟨hm, horder', hr, (resolve_orders_agree_iff hm horder horder' hr).mp ?_⟩
  refine Or.inr ⟨rfl, rfl, fun e => ?_⟩
  rw [hentries, hentries']
  exact (List.Perm.swap _ _ []).mem_iff

/-- In one order an alias is to be that of an entry that waits, and is refused; in the other that entry has moved
    on before. -/
theorem resolve_order_matters :
    let m : Mapping := { entries := [("a", "n"), ("x", "m")] }
    let s : Host Unit := { registry := { mapping := m }, caller := () }
    let s' : Host Unit := { registry := { mapping := { entries := [("x", "m"), ("a", "n")] } }, caller := () }
    Reachable m ∧ m.entries.Perm s'.registry.mapping.entries ∧ Distinguishes shift m ∧
      result (resolveBy shift) s = .error (.refused (.resolvedConflict "x" "n" "m" "a")) ∧
      result (resolveBy shift) s' = .ok () ∧
      (after (resolveBy shift) s').registry.mapping.entries = [("y", "m"), ("x", "n")] := by
  refine ⟨?_, .swap _ _ [], distinguishes_iff.mpr (by decide), rfl, rfl, by decide⟩
  exact ⟨Unit, { caller := { own := () } }, registerAll [("a", "n"), ("x", "m")], client_registerAll _, rfl, rfl,
    Or.inl (by decide)⟩

end AliasBook.Action
