import AliasBook.Placeholder
import Mathlib.Data.List.TakeWhile

/-! The placeholders of a text, told from their written form: a text begins with a placeholder or with a character
    that belongs to none, and goes on behind it (`text_induction`). The pieces that are read are these
    (`pieces_written`, `pieces_char`). -/

namespace AliasBook.Placeholder
variable {key cs rest : List Char} {default : Option (List Char)} {piece : Piece} {c : Char}

/-- The parts of a placeholder: a key of at least one character, without braces and colons, and perhaps a default
    without braces. -/
structure WellFormed (key : List Char) (default : Option (List Char)) : Prop where
  nonempty : key ≠ []
  key : ∀ c ∈ key, c ≠ '\x7b' ∧ c ≠ '\x7d' ∧ c ≠ ':'
  default : ∀ text ∈ default, ∀ c ∈ text, c ≠ '\x7b' ∧ c ≠ '\x7d'

/-- A placeholder as it is written. -/
def written (key : List Char) (default : Option (List Char)) : List Char :=
  (Piece.hole key default).source

/-- The text begins with a placeholder. -/
def Opens (cs : List Char) : Prop :=
  ∃ key default rest, WellFormed key default ∧ cs = written key default ++ rest

theorem inKey_iff : inKey c = true ↔ c ≠ '\x7b' ∧ c ≠ '\x7d' ∧ c ≠ ':' := by
  simp [inKey, isBrace, and_assoc]

theorem inDefault_iff : inDefault c = true ↔ c ≠ '\x7b' ∧ c ≠ '\x7d' := by
  simp [inDefault, isBrace]

theorem not_opens_of_head (h : c ≠ '$') : ¬Opens (c :: cs) := by
  rintro ⟨key, default, rest, -, heq⟩
  cases default <;> simp [written, Piece.source, h] at heq

theorem written_eq (key : List Char) (default : Option (List Char)) :
    ∃ inside, written key default = '$' :: '\x7b' :: inside := by
  cases default <;> exact ⟨_, rfl⟩

/-- A placeholder stands somewhere in the text. -/
def Holds (cs : List Char) : Prop :=
  ∃ front rest, Opens rest ∧ cs = front ++ rest

theorem holds_written (h : WellFormed key default) (front rest : List Char) :
    Holds (front ++ (written key default ++ rest)) :=
  ⟨front, _, ⟨key, default, rest, h, rfl⟩, rfl⟩

theorem holds_cons_iff : Holds (c :: cs) ↔ Opens (c :: cs) ∨ Holds cs := by
  constructor
  · rintro ⟨front, rest, hopens, heq⟩
    cases front with
    | nil =>
      rw [List.nil_append] at heq
      exact Or.inl (heq ▸ hopens)
    | cons d front =>
      rw [List.cons_append, List.cons.injEq] at heq
      exact Or.inr ⟨front, rest, hopens, heq.2⟩
  · rintro (hopens | ⟨front, rest, hopens, rfl⟩)
    · exact ⟨[], c :: cs, hopens, rfl⟩
    · exact ⟨c :: front, rest, hopens, rfl⟩

theorem Holds.mem (h : Holds cs) : '$' ∈ cs := by
  obtain ⟨front, _, ⟨key, default, rest, -, rfl⟩, rfl⟩ := h
  obtain ⟨inside, hinside⟩ := written_eq key default
  simp [hinside]

theorem not_holds_of_plain (h : ∀ c ∈ cs, c ≠ '\x7b' ∧ c ≠ '\x7d') : ¬Holds cs := by
  rintro ⟨front, rest, ⟨key, default, behind, -, rfl⟩, rfl⟩
  obtain ⟨inside, hinside⟩ := written_eq key default
  exact (h '\x7b' (by simp [hinside])).1 rfl

theorem not_holds_nil : ¬Holds [] := not_holds_of_plain (by simp)

/-! ### Reading a placeholder -/

theorem takeWhile_dropWhile_of_stop {p : Char → Bool} {front : List Char} (hfront : ∀ c ∈ front, p c = true)
    (hc : p c = false) (rest : List Char) :
    (front ++ c :: rest).takeWhile p = front ∧ (front ++ c :: rest).dropWhile p = c :: rest := by
  rw [List.takeWhile_append_of_pos hfront, List.dropWhile_append_of_pos hfront]
  simp [hc]

theorem readHole_written (h : WellFormed key default) (rest : List Char) :
    readHole ((written key default ++ rest).drop 2) = some (.hole key default, rest) := by
  have hkey : ∀ c ∈ key, inKey c = true := fun c hc => inKey_iff.mpr (h.key c hc)
  have hempty : key.isEmpty = false := by simpa using h.nonempty
  cases default with
  | none =>
    have hstop : inKey '\x7d' = false := by decide
    obtain ⟨htake, hdrop⟩ := takeWhile_dropWhile_of_stop hkey hstop rest
    have hinside : (written key none ++ rest).drop 2 = key ++ '\x7d' :: rest := by simp [written, Piece.source]
    rw [hinside, readHole]
    simp [htake, hdrop, hempty, readEnd]
  | some text =>
    have hstop : inKey ':' = false := by decide
    have htext : ∀ c ∈ text, inDefault c = true := fun c hc => inDefault_iff.mpr (h.default text rfl c hc)
    have hstop' : inDefault '\x7d' = false := by decide
    obtain ⟨htake, hdrop⟩ := takeWhile_dropWhile_of_stop hkey hstop (text ++ '\x7d' :: rest)
    obtain ⟨htake', hdrop'⟩ := takeWhile_dropWhile_of_stop htext hstop' rest
    have hinside : (written key (some text) ++ rest).drop 2 = key ++ ':' :: (text ++ '\x7d' :: rest) := by
      simp [written, Piece.source]
    rw [hinside, readHole]
    simp [htake, hdrop, htake', hdrop', hempty, readEnd]

theorem readEnd_inv (h : readEnd key default cs = some (piece, rest)) :
    piece = .hole key default ∧ cs = '\x7d' :: rest := by
  unfold readEnd at h
  split at h
  · cases h
    exact ⟨rfl, rfl⟩
  · cases h

theorem readHole_inv (h : readHole cs = some (piece, rest)) : ∃ key default, WellFormed key default ∧
    piece = .hole key default ∧ '$' :: '\x7b' :: cs = written key default ++ rest := by
  have hsplit := List.takeWhile_append_dropWhile (p := inKey) (l := cs)
  have hkey : ∀ c ∈ cs.takeWhile inKey, c ≠ '\x7b' ∧ c ≠ '\x7d' ∧ c ≠ ':' := fun c hc =>
    inKey_iff.mp (List.mem_takeWhile_imp hc)
  unfold readHole at h
  dsimp only at h
  split at h
  · cases h
  · rename_i hempty
    have hnonempty : cs.takeWhile inKey ≠ [] := by simpa using hempty
    split at h
    · rename_i after hdrop
      obtain ⟨rfl, hend⟩ := readEnd_inv h
      have hsplit' := List.takeWhile_append_dropWhile (p := inDefault) (l := after)
      refine ⟨_, _, ⟨hnonempty, hkey, ?_⟩, rfl, ?_⟩
      · rintro text ⟨⟩ c hc
        exact inDefault_iff.mp (List.mem_takeWhile_imp hc)
      · rw [hdrop, ← hsplit', hend] at hsplit
        calc '$' :: '\x7b' :: cs
          _ = '$' :: '\x7b' :: (cs.takeWhile inKey ++ ':' :: (after.takeWhile inDefault ++ '\x7d' :: rest)) := by
            rw [hsplit]
          _ = written (cs.takeWhile inKey) (some (after.takeWhile inDefault)) ++ rest := by
            simp [written, Piece.source]
    · obtain ⟨rfl, hend⟩ := readEnd_inv h
      refine ⟨_, _, ⟨hnonempty, hkey, by simp⟩, rfl, ?_⟩
      rw [hend] at hsplit
      calc '$' :: '\x7b' :: cs
        _ = '$' :: '\x7b' :: (cs.takeWhile inKey ++ '\x7d' :: rest) := by rw [hsplit]
        _ = written (cs.takeWhile inKey) none ++ rest := by simp [written, Piece.source]

/-! ### The pieces of a text -/

theorem pieces_written (h : WellFormed key default) :
    pieces (written key default ++ rest) = .hole key default :: pieces rest := by
  obtain ⟨inside, hinside⟩ : ∃ inside, written key default ++ rest = '$' :: '\x7b' :: inside := by
    cases default <;> exact ⟨_, rfl⟩
  have hread := readHole_written h rest
  rw [hinside] at hread ⊢
  rw [pieces]
  split
  · rename_i found later hfound
    rw [List.drop_succ_cons, List.drop_succ_cons, List.drop_zero, hfound] at hread
    cases hread
    rfl
  · rename_i hnone
    rw [List.drop_succ_cons, List.drop_succ_cons, List.drop_zero, hnone] at hread
    cases hread

theorem pieces_char (h : ¬Opens (c :: cs)) : pieces (c :: cs) = .char c :: pieces cs := by
  by_cases hopen : c = '$' ∧ ∃ inside, cs = '\x7b' :: inside
  · obtain ⟨rfl, inside, rfl⟩ := hopen
    rw [pieces]
    split
    · rename_i piece later hfound
      obtain ⟨key, default, hform, -, heq⟩ := readHole_inv hfound
      exact absurd ⟨key, default, later, hform, heq⟩ h
    · rfl
  · rw [pieces]
    rintro inside rfl rfl
    exact hopen ⟨rfl, inside, rfl⟩

/-- A text is taken from the left: it is empty, or it begins with a placeholder, or else with a character that stands
    for itself. -/
theorem text_induction {P : List Char → Prop} (nil : P [])
    (char : ∀ c cs, ¬Opens (c :: cs) → P cs → P (c :: cs))
    (hole : ∀ key default rest, WellFormed key default → P rest → P (written key default ++ rest)) (cs : List Char) :
    P cs := by
  induction hn : cs.length using Nat.strongRecOn generalizing cs with
  | _ n ih =>
    by_cases hopens : Opens cs
    · obtain ⟨key, default, rest, hform, rfl⟩ := hopens
      refine hole key default rest hform (ih rest.length ?_ rest rfl)
      rw [← hn, List.length_append]
      cases default <;> simp [written, Piece.source]
    · cases cs with
      | nil => exact nil
      | cons c cs => exact char c cs hopens (ih cs.length (by simp [← hn]) cs rfl)

end AliasBook.Placeholder
