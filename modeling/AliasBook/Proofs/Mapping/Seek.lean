import AliasBook.Proofs.Mapping.Walk
import Mathlib.Logic.Function.Iterate

/-! The search along a chain, turn by turn. Whatever circles there are, it comes to its end with one answer, the one that
    the walk gives (`seeks_iff`), and it finds the names that some number of steps comes to (`leads_iff_steps`). -/

namespace AliasBook.Mapping
variable {m : Mapping} {name x y : String} {seen l : List String} {next : Option String} {b b' : Bool}

/-! ### The search -/

/-- The search for a name ends with an answer: from the name that it is at it goes on to what that stands for, unless
    there is nothing, or this is what it looks for, or it was there before. It sees each name that it is at. -/
inductive Seeks (m : Mapping) (name : String) : List String → String → Bool → Prop
  | ends {seen : List String} {x : String} : m.get? x = none → Seeks m name seen x false
  | finds {seen : List String} {x : String} : m.get? x = some name → Seeks m name seen x true
  | again {seen : List String} {x y : String} : m.get? x = some y → y ≠ name → y ∈ x :: seen →
      Seeks m name seen x false
  | goes {seen : List String} {x y : String} {b : Bool} : m.get? x = some y → y ≠ name → y ∉ x :: seen →
      Seeks m name (x :: seen) y b → Seeks m name seen x b

/-- There is one way to search. -/
theorem Seeks.unique (h : m.Seeks name seen x b) (h' : m.Seeks name seen x b') : b' = b := by
  induction h with
  | ends hx => cases h' <;> simp_all
  | finds hx => cases h' <;> simp_all
  | again hx hne hold => cases h' <;> simp_all
  | goes hx hne hnew _ ih =>
    cases h' with
    | ends hx' => simp_all
    | finds hx' => simp_all
    | again hx' hne' hold' => simp_all
    | goes hx' hne' hnew' hrest' =>
      obtain rfl := Option.some.inj (hx.symm.trans hx')
      exact ih hrest'

/-- Along what lies ahead the search goes as far as that goes, and where it ends the search ends. -/
theorem seeks_of_chain (name : String) (hchain : m.Begins x l) (hahead : Ahead seen (x :: l) next)
    (hnext : m.get? (l.getLastD x) = next) : m.Seeks name seen x (l.contains name || next == some name) := by
  induction l generalizing x seen with
  | nil =>
    subst hnext
    rw [List.getLastD_nil] at hahead ⊢
    cases hx : m.get? x with
    | none => exact .ends hx
    | some y =>
      by_cases hy : y = name
      · subst hy
        simpa using Seeks.finds hx
      · have hold : y ∈ x :: seen := by simpa [or_comm] using hahead.back y hx
        have hother : (y == name) = false := by simpa using hy
        simpa [hother] using Seeks.again hx hy hold
  | cons u l ih =>
    obtain ⟨hx, hrest⟩ := List.isChain_cons_cons.mp hchain
    rw [List.getLastD_cons] at hnext
    by_cases hu : u = name
    · subst hu
      simpa using Seeks.finds hx
    · have hseek := Seeks.goes hx hu (hahead.tail.new u List.mem_cons_self) (ih hrest hahead.tail hnext)
      simpa [Ne.symm hu] using hseek

/-- The search from an alias ends with the answer of the walk, and with no other. -/
theorem seeks_iff : m.Seeks name [] x b ↔ b = m.hasAlias name x := by
  obtain ⟨hbegins, hahead, hnext⟩ := m.begins_walk x
  have hseek : m.Seeks name [] x (m.hasAlias name x) := seeks_of_chain name hbegins hahead hnext
  exact ⟨hseek.unique, fun h => h ▸ hseek⟩

/-! ### Steps -/

/-- The name that so many steps come to, if they do not come to an end before. -/
def steps (m : Mapping) (count : Nat) (x : String) : Option String :=
  (fun current => current.bind m.get?)^[count] (some x)

theorem steps_succ (count : Nat) : m.steps (count + 1) x = (m.steps count x).bind m.get? :=
  Function.iterate_succ_apply' _ _ _

theorem leads_iff_steps : m.Leads x y ↔ ∃ count ≥ 1, m.steps count x = some y := by
  constructor
  · intro h
    induction h with
    | single hy => exact ⟨1, Nat.le_refl 1, hy⟩
    | @tail y z _ hz ih =>
      obtain ⟨count, -, hy⟩ := ih
      exact ⟨count + 1, Nat.succ_pos count, by rw [steps_succ, hy, Option.bind_some, hz]⟩
  · rintro ⟨count, hcount, hy⟩
    induction count, hcount using Nat.le_induction generalizing y with
    | base => exact Leads.single hy
    | succ count _ ih =>
      rw [steps_succ] at hy
      obtain ⟨z, hz, hzy⟩ := Option.bind_eq_some_iff.mp hy
      exact (ih hz).tail hzy

theorem hasAlias_iff_steps : m.hasAlias name x = true ↔ ∃ count ≥ 1, m.steps count x = some name := by
  rw [hasAlias, reaches_walk_iff, leads_iff_steps]

end AliasBook.Mapping
