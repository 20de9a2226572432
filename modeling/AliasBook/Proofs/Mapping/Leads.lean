import AliasBook.Mapping.Basic
import Mathlib.Logic.Relation

/-! Which names a name leads to, and mappings in which no name leads to itself. A new entry adds the walks
    that pass through it and no others, so an entry whose name does not lead to its alias closes no circle
    (`Acyclic.insert`). Any other entry closes one (`Acyclic.insert_iff`). -/

namespace AliasBook.Mapping

/-- `x` leads to `y`: `y` is what `x` stands for, or what that stands for, and so on. -/
def Leads (m : Mapping) : String → String → Prop :=
  Relation.TransGen fun a n => m.get? a = some n

/-- No name leads to itself. -/
def Acyclic (m : Mapping) : Prop := ∀ x, ¬m.Leads x x

namespace Leads
variable {m m' : Mapping} {x y z : String}

theorem single (h : m.get? x = some y) : m.Leads x y := Relation.TransGen.single h

theorem tail (h : m.Leads x y) (hy : m.get? y = some z) : m.Leads x z := Relation.TransGen.tail h hy

theorem trans (h₁ : m.Leads x y) (h₂ : m.Leads y z) : m.Leads x z := Relation.TransGen.trans h₁ h₂

theorem mono (h : ∀ a n, m.get? a = some n → m'.get? a = some n) (hl : m.Leads x y) : m'.Leads x y :=
  Relation.TransGen.mono (fun a n => h a n) _ _ hl

/-- A map of names that takes entries to entries takes walks to walks. -/
theorem map {f : String → String} (h : ∀ a n, m.get? a = some n → m'.get? (f a) = some (f n))
    (hl : m.Leads x y) : m'.Leads (f x) (f y) :=
  Relation.TransGen.lift f (fun a n => h a n) _ _ hl

theorem exists_first (h : m.Leads x y) : ∃ n, m.get? x = some n := by
  obtain ⟨n, hn, -⟩ := Relation.TransGen.head'_iff.mp h
  exact ⟨n, hn⟩

theorem exists_last (h : m.Leads x y) : ∃ a, m.get? a = some y := by
  obtain ⟨a, -, ha⟩ := Relation.TransGen.tail'_iff.mp h
  exact ⟨a, ha⟩

/-- Two walks from one name: the end of one of them lies on the other. -/
theorem total (hy : m.Leads x y) (hz : m.Leads x z) : y = z ∨ m.Leads y z ∨ m.Leads z y := by
  have unique : Relator.RightUnique fun a n => m.get? a = some n := by
    intro a n k hn hk
    rw [hn] at hk
    exact Option.some.inj hk
  rcases Relation.ReflTransGen.total_of_right_unique unique hy.to_reflTransGen hz.to_reflTransGen with h | h
  · rcases Relation.reflTransGen_iff_eq_or_transGen.mp h with rfl | h
    · exact Or.inl rfl
    · exact Or.inr (Or.inl h)
  · rcases Relation.reflTransGen_iff_eq_or_transGen.mp h with rfl | h
    · exact Or.inl rfl
    · exact Or.inr (Or.inr h)

theorem erase {a : String} (h : (m.erase a).Leads x y) : m.Leads x y := by
  refine h.mono fun k n hk => ?_
  rw [get?_erase] at hk
  split at hk
  · cases hk
  · exact hk

/-- A walk along a new entry is one from before, or it passes through the new entry. -/
theorem insert_cases {a n : String} (h : (m.insert a n).Leads x y) :
    m.Leads x y ∨ ((x = a ∨ m.Leads x a) ∧ (n = y ∨ m.Leads n y)) := by
  have step : ∀ {u v}, (m.insert a n).get? u = some v → (u = a ∧ n = v) ∨ m.get? u = some v := by
    intro u v huv
    rw [get?_insert] at huv
    split at huv
    · exact Or.inl ⟨‹_›, Option.some.inj huv⟩
    · exact Or.inr huv
  induction h with
  | single hxy =>
    rcases step hxy with ⟨rfl, rfl⟩ | hxy
    · exact Or.inr ⟨Or.inl rfl, Or.inl rfl⟩
    · exact Or.inl (single hxy)
  | tail _ hyz ih =>
    rcases step hyz with ⟨rfl, rfl⟩ | hyz
    · rcases ih with h | ⟨h, -⟩
      · exact Or.inr ⟨Or.inr h, Or.inl rfl⟩
      · exact Or.inr ⟨h, Or.inl rfl⟩
    · rcases ih with h | ⟨h, rfl | h'⟩
      · exact Or.inl (h.tail hyz)
      · exact Or.inr ⟨h, Or.inr (single hyz)⟩
      · exact Or.inr ⟨h, Or.inr (h'.tail hyz)⟩

end Leads

/-! ### Other entries for one alias -/

/-- The mappings differ at most in what one alias stands for. -/
def SameBut (m m' : Mapping) (a : String) : Prop :=
  ∀ k, k ≠ a → m'.get? k = m.get? k

namespace SameBut
variable {m m' : Mapping} {a n x y : String}

theorem refl : m.SameBut m a := fun _ _ => rfl

theorem symm (h : m.SameBut m' a) : m'.SameBut m a := fun k hk => (h k hk).symm

theorem insert : m.SameBut (m.insert a n) a := fun k hk => by rw [get?_insert, if_neg hk]

theorem erase : m.SameBut (m.erase a) a := fun k hk => by rw [get?_erase, if_neg hk]

/-- A walk to the alias does not use its entry before it gets there, so it stays whatever the alias stands for. -/
theorem leads_to (h : m.SameBut m' a) (hl : m.Leads x a) (hne : x ≠ a) : m'.Leads x a := by
  induction hl using Relation.TransGen.head_induction_on with
  | single hxa => exact .single ((h _ hne).trans hxa)
  | @head x y hxy _ ih =>
    have hstep : m'.get? x = some y := (h x hne).trans hxy
    by_cases hy : y = a
    · exact .single (hy ▸ hstep)
    · exact (Leads.single hstep).trans (ih hy)

/-- A walk that never comes to the alias stays as well. -/
theorem leads (h : m.SameBut m' a) (hl : m.Leads x y) (hne : x ≠ a) (hfar : ¬m.Leads x a) : m'.Leads x y := by
  induction hl with
  | single hxy => exact .single ((h x hne).trans hxy)
  | @tail y z hxy hyz ih =>
    have hy : y ≠ a := fun heq => hfar (heq ▸ hxy)
    exact ih.tail ((h y hy).trans hyz)

end SameBut

/-! ### Mappings without circles -/

theorem acyclic_empty : Acyclic empty := by
  intro x h
  obtain ⟨n, hn⟩ := h.exists_first
  rw [get?_empty] at hn
  cases hn

namespace Acyclic
variable {m m' : Mapping} {a n : String}

theorem mono (h : m'.Acyclic) (hentry : ∀ a n, m.get? a = some n → m'.get? a = some n) : m.Acyclic :=
  fun x hx => h x (hx.mono hentry)

theorem erase (h : m.Acyclic) : (m.erase a).Acyclic := fun x hx => h x hx.erase

theorem ne (h : m.Acyclic) (ha : m.get? a = some n) : a ≠ n := by
  rintro rfl
  exact h a (Leads.single ha)

/-- An entry closes no circle if its name does not lead to its alias. -/
theorem insert (h : m.Acyclic) (hne : a ≠ n) (hn : ¬m.Leads n a) : (m.insert a n).Acyclic := by
  intro x hx
  rcases hx.insert_cases with hx | ⟨rfl | hxa, rfl | hnx⟩
  · exact h x hx
  · exact hne rfl
  · exact hn hnx
  · exact hn hxa
  · exact hn (hnx.trans hxa)

/-- It closes one in every other case, whatever the alias stood for. -/
theorem insert_iff (h : m.Acyclic) : (m.insert a n).Acyclic ↔ a ≠ n ∧ ¬m.Leads n a := by
  refine ⟨fun hinsert => ?_, fun ⟨hne, hn⟩ => h.insert hne hn⟩
  have hget : (m.insert a n).get? a = some n := by rw [get?_insert, if_pos rfl]
  have hne : a ≠ n := hinsert.ne hget
  exact ⟨hne, fun hn => hinsert a ((Leads.single hget).trans (SameBut.insert.leads_to hn hne.symm))⟩

end Acyclic

end AliasBook.Mapping
