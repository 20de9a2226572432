import AliasBook.Proofs.Placeholder.Pieces
import Mathlib.Logic.Relation

/-! What the expansion of a text is, without saying how it is found: the value of each placeholder is expanded in its
    turn, to any depth. A key refers to the keys in its value. A text that leads to keys that refer to each other in
    a circle has no expansion (`Expands.not_circular`). -/

namespace AliasBook.Placeholder
variable {key cs rest : List Char} {default : Option (List Char)} {name : String} {c : Char}

/-- The name that a placeholder asks for. -/
def nameOf (key : List Char) : String :=
  Text.strip (String.ofList key)

/-- A placeholder of the text asks for the name. -/
def Mentions (name : String) (cs : List Char) : Prop :=
  ∃ key default, Piece.hole key default ∈ pieces cs ∧ nameOf key = name

theorem not_mentions_nil : ¬Mentions name [] := by
  simp [Mentions, pieces]

theorem mentions_char (h : ¬Opens (c :: cs)) : Mentions name (c :: cs) ↔ Mentions name cs := by
  simp [Mentions, pieces_char h]

theorem mentions_written (h : WellFormed key default) :
    Mentions name (written key default ++ rest) ↔ name = nameOf key ∨ Mentions name rest := by
  unfold Mentions
  rw [pieces_written h]
  constructor
  · rintro ⟨key', default', hmem, hname⟩
    rcases List.mem_cons.mp hmem with heq | hmem
    · cases heq
      exact Or.inl hname.symm
    · exact Or.inr ⟨key', default', hmem, hname⟩
  · rintro (rfl | ⟨key', default', hmem, hname⟩)
    · exact ⟨key, default, List.mem_cons_self, rfl⟩
    · exact ⟨key', default', List.mem_cons_of_mem _ hmem, hname⟩

namespace Expander
variable {x : Expander} {s : List Char} {k k' : String}

/-- A text and its expansion. A placeholder becomes the expansion of its value. Without a value it becomes its default,
    and without a default it stays, if unknown ones are kept. -/
inductive Expands (x : Expander) : List Char → List Char → Prop
  | nil : Expands x [] []
  | char {c : Char} {cs s : List Char} : ¬Opens (c :: cs) → Expands x cs s → Expands x (c :: cs) (c :: s)
  | value {key rest t s : List Char} {default : Option (List Char)} {raw : String} : WellFormed key default →
      x.lookUp (nameOf key) = some raw → Expands x raw.toList t → Expands x rest s →
        Expands x (written key default ++ rest) (t ++ s)
  | default {key text rest s : List Char} : WellFormed key (some text) → x.lookUp (nameOf key) = none →
      Expands x rest s → Expands x (written key (some text) ++ rest) (text ++ s)
  | kept {key rest s : List Char} : WellFormed key none → x.lookUp (nameOf key) = none → x.keepsUnknown = true →
      Expands x rest s → Expands x (written key none ++ rest) (written key none ++ s)

theorem Expands.same {y : Expander} (h : x.Expands cs s) (hlook : ∀ k, x.lookUp k = y.lookUp k)
    (hkeeps : x.keepsUnknown = y.keepsUnknown) : y.Expands cs s := by
  induction h with
  | nil => exact .nil
  | char hchar _ ih => exact .char hchar ih
  | value hform hraw _ _ ihvalue ih => exact .value hform (hlook _ ▸ hraw) ihvalue ih
  | default hform hnone _ ih => exact .default hform (hlook _ ▸ hnone) ih
  | kept hform hnone hkept _ ih => exact .kept hform (hlook _ ▸ hnone) (hkeeps ▸ hkept) ih

/-- The value of the first key asks for the second. -/
def Refers (x : Expander) (k k' : String) : Prop :=
  ∃ raw, x.lookUp k = some raw ∧ Mentions k' raw.toList

/-- The key leads to a key that refers to itself, at once or through others. -/
def Circular (x : Expander) (k : String) : Prop :=
  ∃ c, Relation.ReflTransGen x.Refers k c ∧ Relation.TransGen x.Refers c c

/-- A circle is entered or gone on with through a value. -/
theorem Circular.next (h : x.Circular k) : ∃ k', x.Refers k k' ∧ x.Circular k' := by
  obtain ⟨c, hto, hround⟩ := h
  rcases hto.cases_head with rfl | ⟨k', hstep, hto⟩
  · obtain ⟨k', hstep, hback⟩ := Relation.TransGen.head'_iff.mp hround
    exact ⟨k', hstep, k, hback, hround⟩
  · exact ⟨k', hstep, c, hto, hround⟩

theorem not_circular_of_unknown (h : x.lookUp k = none) : ¬x.Circular k := by
  intro hcircular
  obtain ⟨k', ⟨raw, hraw, -⟩, -⟩ := hcircular.next
  rw [h] at hraw
  cases hraw

/-- A text with an expansion leads into no circle. -/
theorem Expands.not_circular (h : x.Expands cs s) : ∀ k, Mentions k cs → ¬x.Circular k := by
  induction h with
  | nil => exact fun k hk => absurd hk not_mentions_nil
  | char hchar _ ih => exact fun k hk => ih k ((mentions_char hchar).mp hk)
  | value hform hraw _ _ ihvalue ih =>
    intro k hk hcircular
    rcases (mentions_written hform).mp hk with rfl | hk
    · obtain ⟨k', ⟨raw, hraw', hmentions⟩, hnext⟩ := hcircular.next
      rw [hraw] at hraw'
      cases hraw'
      exact ihvalue k' hmentions hnext
    · exact ih k hk hcircular
  | default hform hnone _ ih =>
    intro k hk
    rcases (mentions_written hform).mp hk with rfl | hk
    · exact not_circular_of_unknown hnone
    · exact ih k hk
  | kept hform hnone _ _ ih =>
    intro k hk
    rcases (mentions_written hform).mp hk with rfl | hk
    · exact not_circular_of_unknown hnone
    · exact ih k hk

end Expander

end AliasBook.Placeholder
