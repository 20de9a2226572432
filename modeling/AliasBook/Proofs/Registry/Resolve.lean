import AliasBook.Proofs.Registry.Lookup
import AliasBook.Proofs.Registry.Reachable
import AliasBook.Proofs.Renaming.Collision
import AliasBook.Proofs.Renaming.Relabelling

/-! Renaming the entries of a registry by a function. The operation succeeds exactly where the pass does, and
    puts what the pass leaves in use (`resolve_ok_iff`); a refusal leaves the entries alone. -/

namespace AliasBook

def Resolver.answering {ρ : Type} (r : String → Option String) : Resolver ρ := fun x => pure (r x)

namespace Action

/-- Renames all entries by a function. -/
def resolveBy {ρ : Type} (r : String → Option String) : Action ρ Unit :=
  resolve (some (Resolver.answering r))

open Renaming
variable {ρ : Type} {s : Host ρ} {r : String → Option String} {m : Mapping}

/-! ### The operation and its pass -/

theorem renameEntries_answering (r : String → Option String) (p : Renaming) (es : List (String × String))
    (s : Host ρ) :
    result (renameEntries (Resolver.answering r) p es) s = (p.run (turns r es)).mapError .refused ∧
      (after (renameEntries (Resolver.answering r) p es) s).registry = s.registry := by
  induction es generalizing p s with
  | nil => exact ⟨rfl, rfl⟩
  | cons e es ih =>
    simp only [renameEntries, Resolver.answering, pure_bind, result_bind, after_bind, result_ofAttempt]
    rw [turns, List.map_cons, run]
    cases (p.step e.1 e.2 (r e.1) (r e.2)).outcome with
    | error refusal => exact ⟨rfl, registry_after_ofAttempt _⟩
    | ok q =>
      obtain ⟨hresult, hregistry⟩ := ih q (after (ofAttempt (p.step e.1 e.2 (r e.1) (r e.2))) s)
      exact ⟨hresult, hregistry.trans (registry_after_ofAttempt _)⟩

theorem resolve_of_run_ok {q : Renaming}
    (h : (start s.registry.mapping).run (turns r s.registry.mapping.entries) = .ok q) :
    result (resolveBy r) s = .ok () ∧ (after (resolveBy r) s).registry.mapping = q.working := by
  obtain ⟨hresult, hregistry⟩ := renameEntries_answering r (start s.registry.mapping) s.registry.mapping.entries s
  rw [h] at hresult
  unfold resolveBy resolve
  simp only [result_bind, after_bind, result_get, after_get, hresult, hregistry, Except.mapError, Except.bind, if_true,
    result_setMapping]
  split
  · exact ⟨rfl, rfl⟩
  · exact ⟨rfl, rfl⟩

theorem resolve_of_run_error {refusal : AliasError}
    (h : (start s.registry.mapping).run (turns r s.registry.mapping.entries) = .error refusal) :
    result (resolveBy r) s = .error (.refused refusal) ∧
      (after (resolveBy r) s).registry.mapping = s.registry.mapping := by
  obtain ⟨hresult, hregistry⟩ := renameEntries_answering r (start s.registry.mapping) s.registry.mapping.entries s
  rw [h] at hresult
  unfold resolveBy resolve
  simp only [result_bind, after_bind, result_get, after_get, hresult, Except.mapError, Except.bind, hregistry,
    and_self]

/-- The operation succeeds exactly where the pass does, and the entries are those that the pass leaves. -/
theorem resolve_ok_iff : (result (resolveBy r) s = .ok () ∧ (after (resolveBy r) s).registry.mapping = m) ↔
    Passes s.registry.mapping (turns r s.registry.mapping.entries) m := by
  rw [show s.registry.mapping = (start s.registry.mapping).working from rfl, ← run_iff_passes]
  constructor
  · rintro ⟨hok, rfl⟩
    cases hrun : (start s.registry.mapping).run (turns r s.registry.mapping.entries) with
    | error refusal =>
      rw [(resolve_of_run_error hrun).1] at hok
      cases hok
    | ok q => exact ⟨q, hrun, (resolve_of_run_ok hrun).2.symm⟩
  · rintro ⟨q, hrun, rfl⟩
    exact resolve_of_run_ok hrun

/-- If the operation does not succeed it is refused, and the entries are as they were. -/
theorem resolve_refused (h : result (resolveBy r) s ≠ .ok ()) :
    ∃ refusal, result (resolveBy r) s = .error (.refused refusal) ∧
      (after (resolveBy r) s).registry.mapping = s.registry.mapping := by
  cases hrun : (start s.registry.mapping).run (turns r s.registry.mapping.entries) with
  | error refusal => exact ⟨refusal, resolve_of_run_error hrun⟩
  | ok q => exact absurd (resolve_of_run_ok hrun).1 h

/-! ### Functions that collide -/

/-- Two entries that would become the same alias with different names are refused, unless the first one is
    swallowed. Then the second one finds no conflict (`conflict_iff_not_swallows`). -/
theorem resolve_distinct_targets {pre mid post : List (String × String)} {a₁ n₁ a₂ n₂ x t₁ t₂ : String}
    (hsplit : s.registry.mapping.entries = pre ++ (a₁, n₁) :: (mid ++ (a₂, n₂) :: post))
    (ha₁ : r a₁ = some x) (ha₂ : r a₂ = some x) (hn₁ : r n₁ = some t₁) (hn₂ : r n₂ = some t₂)
    (hx : Text.isBlank x = false) (ht₁ : Text.isBlank t₁ = false) (ht₂ : Text.isBlank t₂ = false)
    (hne₁ : x ≠ t₁) (hne₂ : x ≠ t₂) (hne : t₁ ≠ t₂) (hkept : ¬Swallows r (mid ++ [(a₂, n₂)]) x t₁ t₂) :
    ∃ refusal, result (resolveBy r) s = .error (.refused refusal) ∧
      (after (resolveBy r) s).registry.mapping = s.registry.mapping := by
  refine resolve_refused fun hok => hkept ?_
  have hpass := resolve_ok_iff.mp ⟨hok, rfl⟩
  exact hpass.swallows hsplit (target_eq_some_iff.mpr ⟨ha₁, hn₁, hx, ht₁, hne₁⟩)
    (target_eq_some_iff.mpr ⟨ha₂, hn₂, hx, ht₂, hne₂⟩) hne

def toSame (x : String) : Option String :=
  if x = "a" ∨ x = "b" then some "c" else some x

theorem resolve_toSame :
    let s : Host Unit := { registry := { mapping := { entries := [("a", "m"), ("b", "n")] } }, caller := () }
    ∃ refusal, result (resolveBy toSame) s = .error (.refused refusal) ∧
      (after (resolveBy toSame) s).registry.mapping = s.registry.mapping := by
  intro s
  have hsplit : s.registry.mapping.entries = [] ++ ("a", "m") :: ([] ++ ("b", "n") :: []) := rfl
  have hkept : ¬Swallows toSame ([] ++ [("b", "n")]) "c" "m" "n" := fun h => by simpa using h.1
  exact resolve_distinct_targets hsplit rfl rfl rfl rfl (by decide) (by decide) (by decide) (by decide) (by decide)
    (by decide) hkept

/-- Takes two aliases to one that is taken and moves on itself. -/
def moveOn (x : String) : Option String :=
  some (if x = "b" ∨ x = "c" then "x" else if x = "x" then "y" else if x = "l" then "m" else x)

/-- The first entry goes into the second one, which then moves on, so that the third one finds its place free. The
    first and the third become the same alias with different names, and nothing is refused. -/
theorem resolve_moveOn :
    let m : Mapping := { entries := [("b", "l"), ("x", "m"), ("c", "n")] }
    let s : Host Unit := { registry := { mapping := m }, caller := () }
    Reachable m ∧ moveOn "b" = some "x" ∧ moveOn "l" = some "m" ∧ moveOn "c" = some "x" ∧ moveOn "n" = some "n" ∧
      result (resolveBy moveOn) s = .ok () ∧
      (after (resolveBy moveOn) s).registry.mapping.entries = [("y", "m"), ("x", "n")] := by
  refine ⟨?_, by decide, by decide, by decide, by decide, rfl, by decide⟩
  exact ⟨Unit, { caller := { own := () } }, registerAll [("b", "l"), ("x", "m"), ("c", "n")], client_registerAll _, rfl,
    rfl, Or.inl (by decide)⟩

/-! ### Functions that are idempotent -/

theorem settled_of_idempotent {es : List (String × String)} (hr : ∀ x y, r x = some y → r y = some y) :
    Settled r es := by
  intro e _ e' _ himage
  obtain ⟨ha, hn, hx, ht, hne⟩ := target_eq_some_iff.mp himage
  exact target_eq_some_iff.mpr ⟨hr _ _ ha, hr _ _ hn, hx, ht, hne⟩

/-- With an idempotent function the entries become exactly what it makes of them, and a second time nothing
    changes, not even the order. -/
theorem resolve_idempotent (hr : ∀ x y, r x = some y → r y = some y)
    (hok : result (resolveBy r) s = .ok ()) :
    let t := after (resolveBy r) s
    (∀ x n, (x, n) ∈ t.registry.mapping.entries ↔ ∃ a l, (a, l) ∈ s.registry.mapping.entries ∧
      r a = some x ∧ r l = some n ∧ Text.isBlank x = false ∧ Text.isBlank n = false ∧ x ≠ n) ∧
    result (resolveBy r) t = .ok () ∧
      (after (resolveBy r) t).registry.mapping = t.registry.mapping := by
  intro t
  have hpass := resolve_ok_iff.mp ⟨hok, (rfl : _ = t.registry.mapping)⟩
  have hentries : ∀ x n, (x, n) ∈ t.registry.mapping.entries ↔ ∃ a l, (a, l) ∈ s.registry.mapping.entries ∧
      r a = some x ∧ r l = some n ∧ Text.isBlank x = false ∧ Text.isBlank n = false ∧ x ≠ n := by
    intro x n
    rw [← Mapping.get?_eq_some_iff, hpass.get?_iff (settled_of_idempotent hr)]
    simp only [Prod.exists, image, target_eq_some_iff]
  refine ⟨hentries, resolve_ok_iff.mpr (passes_self fun turn hturn => ?_)⟩
  obtain ⟨⟨x, n⟩, hmem, rfl⟩ := List.mem_map.mp hturn
  obtain ⟨a, l, -, ha, hl, hx, hn, hne⟩ := (hentries x n).mp hmem
  exact target_eq_some_iff.mpr ⟨hr a x ha, hr l n hl, hx, hn, hne⟩

def settle (x : String) : Option String :=
  if x = "d" then none else if x = "b" then some "a" else some x

theorem resolve_settle :
    let s : Host Unit :=
      { registry := { mapping := { entries := [("b", "n"), ("d", "n"), ("a", "n")] } }, caller := () }
    let t := after (resolveBy settle) s
    t.registry.mapping.entries = [("a", "n")] ∧ result (resolveBy settle) t = .ok () ∧
      (after (resolveBy settle) t).registry.mapping = t.registry.mapping := by
  intro s t
  have hr : ∀ x y, settle x = some y → settle y = some y := by
    intro x y h
    unfold settle at h
    split at h
    · cases h
    · split at h
      · cases h
        rfl
      · cases h
        rename_i hd hb
        rw [settle, if_neg hd, if_neg hb]
  obtain ⟨-, htwice⟩ := resolve_idempotent (s := s) hr rfl
  exact ⟨by decide, htwice⟩

/-! ### Functions that only give new texts -/

/-- A function that gives every text a new one of its own makes of the entries the same ones under the new
    texts, in whatever order they are, and canonical names and aliases follow. -/
theorem resolve_relabels (hm : Reachable m) (horder : m.entries.Perm s.registry.mapping.entries)
    (hr : Relabels r m) :
    let t := after (resolveBy r) s
    result (resolveBy r) s = .ok () ∧
    (∀ x n, (x, n) ∈ t.registry.mapping.entries ↔ ∃ a l, (a, l) ∈ m.entries ∧ r a = some x ∧ r l = some n) ∧
    ∀ x y, m.Occurs x → r x = some y →
      (∃ c d, result (canonical (.text x)) s = .ok (.text c) ∧ result (canonical (.text y)) t = .ok (.text d) ∧
        r c = some d) ∧
      ∃ as bs, result (aliasesOf (.text x)) s = .ok as ∧ result (aliasesOf (.text y)) t = .ok bs ∧
        ∀ b, b ∈ bs ↔ ∃ a ∈ as, r a = some b := by
  intro t
  have hsound := (hm.perm horder).sound
  have hr' := hr.perm horder
  obtain ⟨w, hpass⟩ := hr'.exists_passes hsound.acyclic (midway_start r s.registry.mapping) rfl
  obtain ⟨hok, hw⟩ := resolve_ok_iff.mpr hpass
  have htw : t.registry.mapping = w := hw
  have hv := hr'.relabelled hsound.acyclic hpass
  refine ⟨hok, fun x n => ?_, fun x y hx hy => ⟨?_, ?_⟩⟩
  · rw [htw, ← Mapping.get?_eq_some_iff, hv x n]
    simp only [Mapping.get?_eq_some_iff, horder.mem_iff]
  · have hc := hr'.canonical_eq hv hsound.acyclic (hpass.sound hsound).acyclic ((occurs_perm horder).mp hx) hy
    exact ⟨_, _, result_canonical x s, by rw [result_canonical, htw], hc⟩
  · refine ⟨_, _, result_aliasesOf x s, by rw [result_aliasesOf, htw], fun b => ?_⟩
    exact hr'.mem_aliasesOf hv ((occurs_perm horder).mp hx) hy

def renumber (x : String) : String :=
  if x = "a" then "1" else if x = "b" then "2" else if x = "c" then "3" else x

theorem resolve_renumber :
    let s : Host Unit := { registry := { mapping := { entries := [("b", "c"), ("a", "b")] } }, caller := () }
    let t := after (resolveBy fun x => some (renumber x)) s
    result (resolveBy fun x => some (renumber x)) s = .ok () ∧
      t.registry.mapping.entries = [("2", "3"), ("1", "2")] ∧
      (∃ c d, result (canonical (.text "a")) s = .ok (.text c) ∧ result (canonical (.text "1")) t = .ok (.text d) ∧
        some (renumber c) = some d) ∧
      ∃ as bs, result (aliasesOf (.text "c")) s = .ok as ∧ result (aliasesOf (.text "3")) t = .ok bs ∧
        ∀ b, b ∈ bs ↔ ∃ a ∈ as, some (renumber a) = some b := by
  intro s t
  let m : Mapping := { entries := [("a", "b"), ("b", "c")] }
  have hm : Reachable m :=
    ⟨Unit, { caller := { own := () } }, registerAll m.entries, client_registerAll _, rfl, rfl, Or.inl (by decide)⟩
  have horder : m.entries.Perm s.registry.mapping.entries := .swap ("b", "c") ("a", "b") []
  have occurs_iff : ∀ x, m.Occurs x ↔ x ∈ ["a", "b", "c"] := by
    intro x
    simp only [m, Mapping.Occurs, Mapping.aliases, Mapping.names, List.map_cons, List.map_nil, List.mem_cons,
      List.not_mem_nil, or_false]
    tauto
  have hr : Relabels (fun x => some (renumber x)) m := by
    constructor
    · intro x hx
      exact ⟨_, rfl, (by decide : ∀ x ∈ ["a", "b", "c"], Text.isBlank (renumber x) = false) x ((occurs_iff x).mp hx)⟩
    · intro x y hx hy heq
      exact (by decide : ∀ x ∈ ["a", "b", "c"], ∀ y ∈ ["a", "b", "c"], some (renumber x) = some (renumber y) → x = y)
        x ((occurs_iff x).mp hx) y ((occurs_iff y).mp hy) heq
    · intro x y hx hy
      cases hy
      rw [occurs_iff] at hx ⊢
      exact (by decide : ∀ x ∈ ["a", "b", "c"], renumber x = x ∨ renumber x ∉ ["a", "b", "c"]) x hx
  obtain ⟨hok, -, hlook⟩ := resolve_relabels hm horder hr
  exact ⟨hok, by decide, (hlook "a" "1" ((occurs_iff "a").mpr (by decide)) rfl).1,
    (hlook "c" "3" ((occurs_iff "c").mpr (by decide)) rfl).2⟩

end Action

end AliasBook
