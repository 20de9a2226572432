import AliasBook.Proofs.Placeholder.Expansion

/-! Expanding with fewer limits. Whatever was expanded is expanded in the same way if values may be deeper inside each
    other, or if unknown placeholders may stay (`placeholders_relaxed`). A value in a value that is too deep counts as
    one that cannot be expanded, and never as one that is unknown, so neither limit hides the other. -/

namespace AliasBook.Placeholder.Expander
variable {x y : Expander} {cs s t : List Char} {inProgress : List String} {depth deeper : Nat}

/-- The second expander knows the same keys, and keeps unknown placeholders if the first one does. -/
structure Relaxes (x y : Expander) : Prop where
  values : ∀ k, y.lookUp k = x.lookUp k
  keeps : x.keepsUnknown = true → y.keepsUnknown = true

namespace Relaxes

/-- A placeholder is replaced in the same way if this is so for the texts that are one level below. -/
theorem expandPart (h : x.Relaxes y)
    (hbelow : ∀ {inside cs s}, x.expandText depth inside cs = some s → y.expandText deeper inside cs = some s)
    {key : List Char} {default : Option (List Char)}
    (hpart : x.expandPart depth inProgress (.hole key default) = some t) :
    y.expandPart deeper inProgress (.hole key default) = some t := by
  have hfree : nameOf key ∉ inProgress := by
    intro hin
    rw [expandPart_inProgress hin] at hpart
    cases hpart
  have hlook := h.values (nameOf key)
  cases hraw : x.lookUp (nameOf key) with
  | some raw =>
    rw [expandPart_value hfree hraw] at hpart
    rw [expandPart_value hfree (hlook.trans hraw)]
    exact hbelow hpart
  | none =>
    cases default with
    | some text =>
      rw [expandPart_default hfree hraw] at hpart
      rw [expandPart_default hfree (hlook.trans hraw)]
      exact hbelow hpart
    | none =>
      rw [expandPart_unknown hfree hraw] at hpart
      rw [expandPart_unknown hfree (hlook.trans hraw)]
      split at hpart
      · rename_i hkeeps
        rwa [if_pos (h.keeps hkeeps)]
      · cases hpart

theorem expandText (h : x.Relaxes y) (hdepth : depth ≤ deeper) (hfound : x.expandText depth inProgress cs = some s) :
    y.expandText deeper inProgress cs = some s := by
  induction depth generalizing deeper inProgress cs s with
  | zero => cases hfound
  | succ depth ihdepth =>
    obtain ⟨deeper, rfl⟩ : ∃ below, deeper = below + 1 := ⟨deeper - 1, by omega⟩
    induction cs using text_induction generalizing s with
    | nil =>
      rw [expandText_nil] at hfound ⊢
      exact hfound
    | char c cs hchar ih =>
      rw [expandText_char hchar, Option.map_eq_some_iff] at hfound
      obtain ⟨s', hrest, rfl⟩ := hfound
      rw [expandText_char hchar, ih hrest]
      rfl
    | hole key default rest hform ih =>
      obtain ⟨t, s', hpart, hrest, rfl⟩ := (expandText_written_iff hform).mp hfound
      have hpart' := h.expandPart (ihdepth (Nat.le_of_succ_le_succ hdepth)) hpart
      exact (expandText_written_iff hform).mpr ⟨t, s', hpart', ih hrest, rfl⟩

theorem expand (h : x.Relaxes y) (hdepth : x.maxDepth ≤ y.maxDepth) {v t : String} (hfound : x.expand v = some t) :
    y.expand v = some t := by
  have htext := map_toList_expand x v
  rw [hfound] at htext
  have hlevels : (x.maxDepth + 1).toNat ≤ (y.maxDepth + 1).toNat := by omega
  have hmore := map_toList_expand y v
  rw [h.expandText hlevels htext.symm, Option.map_eq_some_iff] at hmore
  obtain ⟨t', hmore, heq⟩ := hmore
  rw [hmore, String.toList_injective heq]

end Relaxes

end AliasBook.Placeholder.Expander

namespace AliasBook.Resolver
open Placeholder AliasBook.Action
variable {ρ : Type}

/-- An answer stays the same if more levels are allowed, and if unknown placeholders are kept or it is left at what becomes
    of them. What is declined then is declined with the old limits, too. -/
theorem placeholders_relaxed (x : Expander) (fromEnvironment : Bool) (v : String) (host : Host ρ) {limit : Int}
    {keeps : Bool} (hlimit : x.maxDepth ≤ limit) (hkeeps : keeps = x.keepsUnknown ∨ keeps = true) :
    let strict := result (placeholders x fromEnvironment v) host
    let relaxed := result (placeholders { x with maxDepth := limit, keepsUnknown := keeps } fromEnvironment v) host
    (∀ t, strict = .ok (some t) → relaxed = .ok (some t)) ∧ (relaxed = .ok none → strict = .ok none) := by
  intro strict relaxed
  have hstrict : strict = .ok ((within x fromEnvironment host).expand v) := result_placeholders x fromEnvironment v host
  have hanswer : ∀ t, strict = .ok (some t) → relaxed = .ok (some t) := by
    intro t ht
    have hrelaxes : (within x fromEnvironment host).Relaxes
        (within { x with maxDepth := limit, keepsUnknown := keeps } fromEnvironment host) :=
      ⟨fun _ => rfl, fun hx => hkeeps.elim (fun heq => heq.trans hx) id⟩
    rw [hstrict, Except.ok.injEq] at ht
    exact (result_placeholders _ fromEnvironment v host).trans (congrArg Except.ok (hrelaxes.expand hlimit ht))
  refine ⟨hanswer, fun hdeclined => ?_⟩
  cases hfound : (within x fromEnvironment host).expand v with
  | none => rw [hstrict, hfound]
  | some t =>
    rw [hfound] at hstrict
    cases hdeclined.symm.trans (hanswer t hstrict)

/-- A value three levels deep, and one that asks for itself. -/
def nested : Expander where
  values := [("a", .text "$\x7bb\x7d"), ("b", .text "$\x7bk:d\x7d"), ("c", .text "$\x7bc\x7d")]
  maxDepth := 3

theorem placeholders_nested :
    let host : Host Unit := { environment := [("k", "y")], caller := () }
    let loose : Expander := { nested with maxDepth := 7, keepsUnknown := true }
    nested.maxDepth ≤ 7 ∧ result (placeholders nested true "p$\x7ba\x7d") host = .ok (some "py") ∧
      result (placeholders loose true "p$\x7ba\x7d") host = .ok (some "py") ∧
      result (placeholders loose true "$\x7bc\x7d") host = .ok none ∧
      result (placeholders nested true "$\x7bc\x7d") host = .ok none := by
  intro host loose
  have hlimit : nested.maxDepth ≤ 7 := by decide
  have hanswer : result (placeholders nested true "p$\x7ba\x7d") host = .ok (some "py") := by
    rw [result_placeholders]
    exact congrArg Except.ok (by decide +kernel)
  have hround : result (placeholders loose true "$\x7bc\x7d") host = .ok none := by
    rw [result_placeholders]
    exact congrArg Except.ok (by decide +kernel)
  obtain ⟨hsame, -⟩ := placeholders_relaxed nested true "p$\x7ba\x7d" host hlimit (Or.inr rfl)
  obtain ⟨-, hdeclined⟩ := placeholders_relaxed nested true "$\x7bc\x7d" host hlimit (Or.inr rfl)
  exact ⟨hlimit, hanswer, hsame _ hanswer, hround, hdeclined hround⟩

end AliasBook.Resolver
