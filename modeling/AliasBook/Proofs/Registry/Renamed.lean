import AliasBook.Proofs.Registry.Isolation
import AliasBook.Proofs.Registry.Logging
import AliasBook.Proofs.Registry.Refusal
import AliasBook.Proofs.Renaming.Places
import AliasBook.Proofs.Renaming.Unchanged

/-! What a renaming by a function that succeeds leaves in a registry, and what it tells. The entries that kept their alias
    come first and those that moved come behind them, both in their old order (`resolve_stayed_then_moved`). The entries
    are the ones of before only if the function left each of them alone, and else the renaming tells once how many it did
    not (`resolve_same_iff`). -/

namespace AliasBook

/-! ### The notice at the end of a pass -/

/-- Tells that a pass changed entries. -/
def Record.isSummary (r : Record) : Bool := r.message == "Alias definitions resolved"

/-- A record that tells that a pass changed entries is logged. -/
def Event.isSummary : Event → Bool
  | .logged _ r => r.isSummary
  | _ => false

/-- No turn tells how the pass ends. -/
theorem Renaming.step_isSummary (p : Renaming) (a name : String) (a' name' : Option String) :
    ∀ n ∈ (p.step a name a' name').notices, n.record.isSummary = false := by
  intro n hn
  rcases mem_notices_step hn with rfl | ⟨x, y, rfl, -⟩
  · rfl
  · rfl

namespace Event
variable {es : List Event}

/-- What the registry logs leaves the setup in force, so that each record is sent or not whatever the others are. -/
theorem emissions_eq_filterMap (h : ∀ e ∈ es, e.IsOfRegistry) (rootLevel : Int) (setup : Option Setup) :
    emissions rootLevel setup es = es.filterMap (emission? rootLevel setup) := by
  induction es with
  | nil => rfl
  | cons e es ih =>
    obtain ⟨he, hes⟩ := List.forall_mem_cons.mp h
    obtain ⟨time, n, -, rfl⟩ := he
    rw [emissions, next, ih hes, List.filterMap_cons]
    cases emission? rootLevel setup (.logged time n.record) <;> rfl

/-- The summaries that are sent are those of the summaries that are logged. -/
theorem filter_emissions (h : ∀ e ∈ es, e.IsOfRegistry) (rootLevel : Int) (setup : Option Setup) :
    (emissions rootLevel setup es).filter (fun e => e.record.isSummary) =
      emissions rootLevel setup (es.filter isSummary) := by
  rw [emissions_eq_filterMap h, emissions_eq_filterMap fun e he => h e (List.mem_of_mem_filter he),
    List.filter_filterMap, List.filterMap_filter]
  refine List.filterMap_congr fun e he => ?_
  obtain ⟨time, n, -, rfl⟩ := h e he
  have hsummary : isSummary (.logged time n.record) = n.record.isSummary := rfl
  simp only [hsummary, emission?]
  by_cases hlow : threshold rootLevel setup ≤ n.record.level
  · rw [if_pos hlow, Option.filter_some]
  · rw [if_neg hlow, Option.filter_none, ite_self]

end Event

namespace Action
open Renaming
variable {ρ α : Type} {s : Host ρ} {r : String → Option String}

theorem Performs.look {f : Host ρ → Action ρ α} {es : List Event} (h : Performs (f s) s es)
    (hblind : ∀ c, f (s.withChannel c) = f s) : Performs (get >>= f) s es := by
  intro c
  simp only [result_bind, after_bind, result_get, after_get, Except.bind, hblind]
  exact h c

theorem performs_commit (number : Nat) (p : Renaming) (s : Host ρ) : Performs (commit number p) s
    (if p.changed = 0 then [] else [.logged s.now (Notice.resolved p.changed).record]) := by
  have htell : ∀ t : Host ρ, Performs (if 0 < p.changed then tell (.resolved p.changed) else pure ()) t
      (if p.changed = 0 then [] else [.logged t.now (Notice.resolved p.changed).record]) := by
    intro t
    by_cases hnone : p.changed = 0
    · rw [if_neg (by omega), if_pos hnone]
      exact fun _ => ⟨rfl, rfl⟩
    · rw [if_pos (by omega), if_neg hnone]
      exact fun _ => ⟨rfl, rfl⟩
  refine Performs.look ?_ fun _ => rfl
  dsimp only
  split
  · have hset : Performs (setMapping p.working) s [] := fun _ => ⟨rfl, rfl⟩
    exact hset.bind_ok rfl (htell _)
  · exact htell s

theorem confined_renameEntries (r : String → Option String) (p : Renaming) (es : List (String × String)) :
    Confined (fun e => e.IsOfRegistry ∧ e.isSummary = false)
      (renameEntries (Resolver.answering r) p es : Action ρ Renaming) := by
  induction es generalizing p with
  | nil => exact .pure p
  | cons e es ih =>
    refine .bind (.pure _) fun a' => .bind (.pure _) fun n' => ?_
    refine .bind (.bind (.tellAll fun n hn time => ?_) fun _ => .ofOutcome _) fun q => ih q
    exact ⟨⟨time, n, p.step_isOfRegistry e.1 e.2 a' n' n hn, rfl⟩, p.step_isSummary e.1 e.2 a' n' n hn⟩

theorem now_after_renameEntries (r : String → Option String) (p : Renaming) (es : List (String × String)) (s : Host ρ) :
    (after (renameEntries (Resolver.answering r) p es) s).now = s.now := by
  have hlasts : Lasts (fun _ => True) (fun _ => True) (fun t : Host ρ => t.now = s.now) :=
    { toRules := .any, entries := fun _ _ => trivial, write := fun _ _ h _ => h, ask := fun _ h => h,
      told := fun _ _ h _ => h }
  exact (hlasts.renameEntries (fun _ => Keeps.pure trivial) trivial s rfl).1

/-- A renaming does to the channel what its pass does, and then tells how many entries it did not leave alone. -/
theorem performs_resolveBy (hok : result (resolveBy r) s = .ok ()) : ∃ es,
    Performs (resolveBy r) s es ∧ (∀ e ∈ es, e.IsOfRegistry) ∧
      es.filter Event.isSummary = if changes r s.registry.mapping.entries = 0 then []
        else [.logged s.now (Notice.resolved (changes r s.registry.mapping.entries)).record] := by
  obtain ⟨es, hes, hturns⟩ := confined_renameEntries r (start s.registry.mapping) s.registry.mapping.entries s
  obtain ⟨hresult, -⟩ := renameEntries_answering r (start s.registry.mapping) s.registry.mapping.entries s
  cases hrun : (start s.registry.mapping).run (turns r s.registry.mapping.entries) with
  | error refusal =>
    rw [(resolve_of_run_error hrun).1] at hok
    cases hok
  | ok q =>
    have hchanged : q.changed = changes r s.registry.mapping.entries := by
      rw [run_changed hrun, countP_turns]
      exact Nat.zero_add _
    rw [hrun] at hresult
    have hcommit := performs_commit s.registry.number q (after (renameAll (Resolver.answering r) s) s)
    have hnow : (after (renameAll (Resolver.answering r) s) s).now = s.now := now_after_renameEntries r _ _ s
    rw [hnow, hchanged] at hcommit
    have hresolve : Performs (resolveBy r) s _ := Performs.look (Performs.bind_ok hes hresult hcommit) fun _ => rfl
    refine ⟨_, hresolve, List.forall_mem_append.mpr ⟨fun e he => (hturns e he).1, ?_⟩, ?_⟩
    · split
      · exact List.forall_mem_nil _
      · exact List.forall_mem_singleton.mpr ⟨s.now, .resolved _, rfl, rfl⟩
    · have hnone : es.filter Event.isSummary = [] :=
        List.filter_eq_nil_iff.mpr fun e he => by simp [(hturns e he).2]
      rw [List.filter_append, hnone, List.nil_append]
      split <;> rfl

/-! ### The entries -/

/-- The entries that kept their alias come first, all of them, and those that moved come behind them, both in the order
    that they had. What an entry became is gone only if the same pair had a place of its own behind the entry. -/
theorem resolve_stayed_then_moved (hok : result (resolveBy r) s = .ok ()) :
    let es := s.registry.mapping.entries
    let es' := (after (resolveBy r) s).registry.mapping.entries
    (∃ late, late.Sublist (es.filterMap (moved r)) ∧ es' = es.filterMap (stayed r) ++ late) ∧
      (∀ y, y ∈ es' ↔ ∃ e ∈ es, image r e = some y ∧ ¬[e, y].Sublist es) ∧
      (es'.map Prod.fst).Nodup ∧
      ∀ e ∈ es', Text.isBlank e.1 = false ∧ Text.isBlank e.2 = false ∧ e.1 ≠ e.2 := by
  intro es es'
  have hpass := resolve_ok_iff.mp ⟨hok, rfl⟩
  refine ⟨hpass.entries_eq, fun y => hpass.mem_iff, Mapping.nodup _, fun e he => ?_⟩
  obtain ⟨d, -, himage, -⟩ := hpass.mem_iff.mp he
  obtain ⟨-, -, ha, hn, hne⟩ := target_eq_some_iff.mp himage
  exact ⟨ha, hn, hne⟩

/-- Takes two aliases to one, drops another one, and renames a name. -/
def gather (x : String) : Option String :=
  if x = "c" then none else some (if x = "b" ∨ x = "d" then "x" else if x = "n" then "k" else x)

theorem resolve_gather :
    let es := [("b", "n"), ("a", "n"), ("c", "m"), ("d", "n")]
    let s : Host Unit := { registry := { mapping := { entries := es, nodup := by decide } }, caller := () }
    let es' := (after (resolveBy gather) s).registry.mapping.entries
    result (resolveBy gather) s = .ok () ∧ es' = [("a", "k"), ("x", "k")] ∧
      es.filterMap (stayed gather) = [("a", "k")] ∧ es.filterMap (moved gather) = [("x", "k"), ("x", "k")] ∧
      ∃ late, late.Sublist (es.filterMap (moved gather)) ∧ es' = es.filterMap (stayed gather) ++ late := by
  intro es s es'
  have hok : result (resolveBy gather) s = .ok () := rfl
  exact ⟨hok, by decide, by decide, by decide, (resolve_stayed_then_moved hok).1⟩

/-! ### Entries that are left alone -/

/-- The entries are the ones of before only if each of them was left alone, and then nothing at all has changed. Else it
    is told once how many of them were not, to whoever gets what is logged for debugging. -/
theorem resolve_same_iff (hok : result (resolveBy r) s = .ok ()) :
    let m := s.registry.mapping
    let t := after (resolveBy r) s
    let told := if ∀ e ∈ m.entries, Fixes r e then [] else [(Notice.resolved (changes r m.entries)).record]
    ((∀ e, e ∈ t.registry.mapping.entries ↔ e ∈ m.entries) ↔ ∀ e ∈ m.entries, Fixes r e) ∧
      ((∀ e ∈ m.entries, Fixes r e) → t.registry.mapping = m) ∧
      ∃ es, Performs (resolveBy r) s es ∧ es.filter Event.isSummary = told.map (.logged s.now) ∧
        ∀ setup, s.channel.InForce setup → ∃ sent, s.channel.Sends t.channel sent ∧
          sent.filter (fun e => e.record.isSummary) =
            if Event.threshold s.channel.rootLevel setup ≤ Level.debug then told.map fun n => ⟨s.now, n, setup⟩ else [] := by
  intro m t told
  have hpass := resolve_ok_iff.mp ⟨hok, rfl⟩
  have hsame : (∀ e ∈ m.entries, Fixes r e) → t.registry.mapping = m := by
    intro hfixes
    refine (resolve_ok_iff.mpr (passes_self fun u hu => ?_)).2
    obtain ⟨e, he, rfl⟩ := List.mem_map.mp hu
    exact fixes_iff.mp (hfixes e he)
  obtain ⟨es, hes, hregistry, htold⟩ := performs_resolveBy hok
  have htold : es.filter Event.isSummary = told.map (.logged s.now) := by
    simp only [htold, told, ← changes_eq_zero_iff]
    split <;> rfl
  refine ⟨⟨hpass.fixes, fun hfixes => by simp [hsame hfixes]⟩, hsame, es, hes, htold, fun setup hs => ?_⟩
  have hsends := (hs.replay fun e he => (hregistry e he).isInside).2
  rw [← hes.channel] at hsends
  refine ⟨_, hsends, ?_⟩
  rw [Event.filter_emissions hregistry, htold]
  by_cases hall : ∀ e ∈ m.entries, Fixes r e
  · simp only [told, if_pos hall, List.map_nil, Event.emissions, ite_self]
  · have hlevel : (Notice.resolved (changes r m.entries)).record.level = Level.debug := rfl
    simp only [told, if_neg hall, List.map_cons, List.map_nil, Event.emissions, Event.emission?, List.append_nil, hlevel]
    split <;> rfl

/-- Two aliases of one name change places. The first entry merges with the second one, which then takes the place that is
    free. -/
theorem resolve_swap :
    let m : Mapping := { entries := [("a", "n"), ("b", "n")] }
    let s : Host Unit := { registry := { mapping := m }, channel := { rootLevel := Level.debug }, caller := () }
    let t := after (resolveBy swap) s
    result (resolveBy swap) s = .ok () ∧ t.registry.mapping.entries = [("a", "n")] ∧
      ¬(∀ e, e ∈ t.registry.mapping.entries ↔ e ∈ m.entries) ∧ s.channel.InForce none ∧
      ∃ sent, s.channel.Sends t.channel sent ∧
        sent.filter (fun e => e.record.isSummary) = [⟨s.now, (Notice.resolved 2).record, none⟩] := by
  intro m s t
  have hok : result (resolveBy swap) s = .ok () := rfl
  have hunset : s.channel.InForce none := ⟨rfl, rfl, rfl, rfl⟩
  have hmoves : ¬∀ e ∈ m.entries, Fixes swap e := by decide
  obtain ⟨hsame, -, es, -, -, hsent⟩ := resolve_same_iff hok
  obtain ⟨sent, hsends, hsummary⟩ := hsent none hunset
  refine ⟨hok, by decide, fun h => hmoves (hsame.mp h), hunset, sent, hsends, ?_⟩
  rw [hsummary, if_neg hmoves]
  rfl

end Action

end AliasBook
