import AliasBook.Proofs.Text.Blank
import AliasBook.Text.Case
import Mathlib

/-! Case and blanks. No blank gets lost when a text is put into lower case (`strip_of_lower`), and ASCII letters have the
    case that core gives them, so a word of such letters comes out the same whatever their case and the blanks around it
    were (`Spelled.strip`). -/

namespace AliasBook.Text
variable {c : Char} {cs core : List Char} {word raw : String}

/-! ### ASCII -/

theorem lowerFrom_of_ascii (h : ∀ c ∈ cs, c.toNat < 0x80) (before : List Char) :
    Case.lowerFrom before cs = cs.map Char.toLower := by
  induction cs generalizing before with
  | nil => rfl
  | cons c cs ih =>
    obtain ⟨hc, hcs⟩ := List.forall_mem_cons.mp h
    have hsigma : c ≠ 'Σ' := by
      rintro rfl
      exact absurd hc (by decide)
    rw [Case.lowerFrom, if_neg hsigma, Case.lowerChar, if_pos hc, ih hcs]
    rfl

theorem flatMap_upperChar_of_ascii (h : ∀ c ∈ cs, c.toNat < 0x80) : cs.flatMap Case.upperChar = cs.map Char.toUpper := by
  induction cs with
  | nil => rfl
  | cons c cs ih =>
    obtain ⟨hc, hcs⟩ := List.forall_mem_cons.mp h
    rw [List.flatMap_cons, Case.upperChar, if_pos hc, ih hcs]
    rfl

theorem isAlpha_bounds (h : c.isAlpha = true) :
    (0x41 ≤ c.toNat ∧ c.toNat ≤ 0x5a) ∨ (0x61 ≤ c.toNat ∧ c.toNat ≤ 0x7a) := by
  simpa [Char.isAlpha, Char.isUpper, Char.isLower, UInt32.le_iff_toNat_le] using h

theorem isBlankChar_of_isAlpha (h : c.isAlpha = true) : isBlankChar c = false := by
  have hbounds := isAlpha_bounds h
  simp only [isBlankChar, inRanges, blankRanges, List.any_cons, List.any_nil, Bool.or_false, Bool.or_eq_false_iff,
    Bool.and_eq_false_iff, decide_eq_false_iff_not]
  omega

/-! ### Blanks in lower case -/

theorem lowerChar_of_isBlankChar (h : isBlankChar c = true) : c ≠ 'Σ' ∧ Case.lowerChar c = [c] := by
  have hall : ∀ r ∈ blankRanges, ∀ i < r.2 + 1 - r.1, Char.ofNat (r.1 + i) ≠ 'Σ' ∧
      Case.lowerChar (Char.ofNat (r.1 + i)) = [Char.ofNat (r.1 + i)] := by
    decide +kernel
  obtain ⟨r, hr, hlow, hhigh⟩ := inRanges_eq_true_iff.mp h
  have hc := hall r hr (c.toNat - r.1) (by omega)
  rwa [show r.1 + (c.toNat - r.1) = c.toNat by omega, Char.ofNat_toNat] at hc

theorem mem_lowerFrom (h : isBlankChar c = true) (hc : c ∈ cs) (before : List Char) : c ∈ Case.lowerFrom before cs := by
  induction cs generalizing before with
  | nil => cases hc
  | cons d cs ih =>
    rw [Case.lowerFrom]
    rcases List.mem_cons.mp hc with rfl | hc
    · obtain ⟨hsigma, hlower⟩ := lowerChar_of_isBlankChar h
      rw [if_neg hsigma, hlower]
      exact List.mem_cons_self ..
    · exact List.mem_append_right _ (ih hc _)

/-- A text that has no blank in lower case has none at all. -/
theorem strip_of_lower (h : ∀ c ∈ (lower raw).toList, isBlankChar c = false) : strip raw = raw := by
  rw [strip_eq_self_iff]
  refine stripChars_of_not_blank fun c hc => ?_
  by_contra hblank
  rw [Bool.not_eq_false] at hblank
  have hlower := h c (by rw [toList_lower]; exact mem_lowerFrom hblank hc [])
  exact Bool.false_ne_true (hlower.symm.trans hblank)

/-! ### Words in any case -/

/-- The text is the word with its ASCII letters in any case and blanks around it. -/
def Spelled (word raw : String) : Prop :=
  ∃ core, Padded core raw.toList ∧ core.map Char.toLower = word.toList.map Char.toLower

theorem Spelled.strip (h : Spelled word raw) (hword : word.toList.all Char.isAlpha = true) :
    lower (strip raw) = String.ofList (word.toList.map Char.toLower) ∧
      upper (strip raw) = String.ofList (word.toList.map Char.toUpper) := by
  obtain ⟨core, hpadded, hcase⟩ := h
  have halpha : ∀ c ∈ core, c.isAlpha = true := by
    intro c hc
    have hmem : c.toLower ∈ word.toList.map Char.toLower := hcase ▸ List.mem_map_of_mem hc
    obtain ⟨d, hd, heq⟩ := List.mem_map.mp hmem
    rw [← Char.isAlpha_toLower_eq_isAlpha, ← heq, Char.isAlpha_toLower_eq_isAlpha, List.all_eq_true.mp hword d hd]
  have hascii : ∀ c ∈ core, c.toNat < 0x80 := fun c hc => by have := isAlpha_bounds (halpha c hc); omega
  have hstrip : (Text.strip raw).toList = core := by
    rw [Text.strip, String.toList_ofList, hpadded.stripChars_eq]
    exact stripChars_of_not_blank fun c hc => isBlankChar_of_isAlpha (halpha c hc)
  have hupper : core.map Char.toUpper = word.toList.map Char.toUpper := by
    have hfold := congrArg (List.map Char.toUpper) hcase
    simpa [Function.comp_def] using hfold
  rw [lower, upper, hstrip, lowerFrom_of_ascii hascii, flatMap_upperChar_of_ascii hascii, hcase, hupper]
  exact ⟨rfl, rfl⟩

end AliasBook.Text
