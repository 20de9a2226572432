import AliasBook.Proofs.Renaming.Pass

/-! Two entries that become the same alias with different names. The later one finds what the earlier one
    left, and is refused, unless the earlier one went into an entry whose own turn takes it away again before
    the later one looks (`Swallows`). -/

namespace AliasBook.Renaming

/-- Among the entries is one from `x` to `t₁` that does not stay with `x`, unless it comes to stand for `t₂`. -/
def Swallows (r : String → Option String) (es : List (String × String)) (x t₁ t₂ : String) : Prop :=
  (x, t₁) ∈ es ∧ ∀ t, image r (x, t₁) = some (x, t) → t = t₂

variable {r : String → Option String} {done pre mid post : List (String × String)} {e e₁ e₂ : String × String}
  {m w v : Mapping} {x t t₁ t₂ : String}

/-- What an alias stands for is changed by the turn of its own entry only. -/
theorem Passes.get?_differs (h : Passes w (turns r mid) v) (hmid : Midway r done (mid ++ post) w)
    (hnodup : ((mid ++ post).map Prod.fst).Nodup) (hx : ∃ t, w.get? x = some t ∧ t ≠ t₂)
    (own : ∀ e ∈ mid, e.1 = x → ∃ t, image r e = some (x, t) ∧ t ≠ t₂) : ∃ t, v.get? x = some t ∧ t ≠ t₂ := by
  induction mid generalizing done w with
  | nil =>
    cases h
    exact hx
  | cons e mid ih =>
    cases h with
    | cons hm hp =>
      refine ih hp (hmid.step hnodup hm) (List.nodup_cons.mp hnodup).2 ?_
        fun d hd => own d (List.mem_cons_of_mem e hd)
      by_cases hxe : x = e.1
      · obtain ⟨t, himage, hne⟩ := own e List.mem_cons_self hxe.symm
        refine ⟨t, Moves.get?_target ?_ (hmid.pending e List.mem_cons_self), hne⟩
        rw [← himage]
        exact hm
      · obtain ⟨t, hx, hne⟩ := hx
        exact ⟨t, hm.get?_of_ne hxe hx, hne⟩

/-- What an alias stands for stays as it is if no entry becomes one of it. -/
theorem Passes.get?_agrees (h : Passes w (turns r mid) v) (hmid : Midway r done (mid ++ post) w)
    (hnodup : ((mid ++ post).map Prod.fst).Nodup) (hx : ∀ t, w.get? x = some t → t = t₂)
    (others : ∀ e ∈ mid, ∀ t, image r e = some (x, t) → t = t₂) : ∀ t, v.get? x = some t → t = t₂ := by
  induction mid generalizing done w with
  | nil =>
    cases h
    exact hx
  | cons e mid ih =>
    cases h with
    | cons hm hp =>
      refine ih hp (hmid.step hnodup hm) (List.nodup_cons.mp hnodup).2 (fun t ht => ?_)
        fun d hd => others d (List.mem_cons_of_mem e hd)
      rcases hm.origin (hmid.pending e List.mem_cons_self) ht with ⟨-, ht⟩ | himage
      · exact hx t ht
      · exact others e List.mem_cons_self t himage

/-! ### What the second of two such entries finds -/

/-- The first entry, if it is not swallowed, has left something else for the alias. -/
theorem Passes.differs_of_not_swallows (h : Passes m (turns r (pre ++ e₁ :: mid)) w)
    (hsplit : m.entries = pre ++ e₁ :: (mid ++ e₂ :: post)) (h₁ : image r e₁ = some (x, t₁))
    (h₂ : image r e₂ = some (x, t₂)) (hne : t₁ ≠ t₂) (hnot : ¬Swallows r (mid ++ [e₂]) x t₁ t₂) :
    x ≠ e₂.1 ∧ ∃ t, w.get? x = some t ∧ t ≠ t₂ := by
  obtain ⟨u, u', hpre, hm, hbetween⟩ := h.split
  obtain ⟨hbefore, hnodup⟩ := hpre.midway_first hsplit
  have hafter := hbefore.step hnodup hm
  have hrest := (List.nodup_cons.mp hnodup).2
  rw [h₁] at hm
  have hx : u'.get? x = some t₁ := hm.get?_target (hbefore.pending e₁ List.mem_cons_self)
  -- The first entry left what an entry of `x` that waits already was.
  have own : ∀ e ∈ mid ++ [e₂], e.1 = x → ∃ t, image r e = some (x, t) ∧ t ≠ t₂ := by
    intro e he hex
    have hget : u'.get? e.1 = some e.2 := hafter.pending e (by simp at he ⊢; tauto)
    rw [hex, hx] at hget
    have heq : e = (x, t₁) := Prod.ext hex (Option.some.inj hget).symm
    subst heq
    by_contra hno
    exact hnot ⟨he, fun t himage => by_contra fun ht => hno ⟨t, himage, ht⟩⟩
  constructor
  · intro hxe
    obtain ⟨t, himage, ht⟩ := own e₂ (by simp) hxe.symm
    rw [h₂] at himage
    cases himage
    exact ht rfl
  · exact hbetween.get?_differs hafter hrest ⟨t₁, hx, hne⟩ fun e he => own e (List.mem_append_left _ he)

/-- If the first entry is swallowed, and no other entry in between becomes one of the alias, then nothing else is
    left for it, or the second entry is the one that swallows. -/
theorem Passes.agrees_of_swallows (h : Passes m (turns r (pre ++ e₁ :: mid)) w)
    (hsplit : m.entries = pre ++ e₁ :: (mid ++ e₂ :: post))
    (hbetween : ∀ e ∈ mid, ∀ t, image r e = some (x, t) → e = (x, t₁))
    (hsw : Swallows r (mid ++ [e₂]) x t₁ t₂) : x = e₂.1 ∨ ∀ t, w.get? x = some t → t = t₂ := by
  obtain ⟨hmem, himages⟩ := hsw
  rcases List.mem_append.mp hmem with hmem | hmem
  · right
    obtain ⟨first, last, rfl⟩ := List.append_of_mem hmem
    have hsplit' : m.entries = (pre ++ e₁ :: first) ++ (x, t₁) :: (last ++ e₂ :: post) := by
      rw [hsplit]
      simp
    have h' : Passes m (turns r ((pre ++ e₁ :: first) ++ (x, t₁) :: last)) w := by simpa using h
    obtain ⟨u, u', hpre, hm, hlast⟩ := h'.split
    obtain ⟨hbefore, hnodup⟩ := hpre.midway_first hsplit'
    refine hlast.get?_agrees (hbefore.step hnodup hm) (List.nodup_cons.mp hnodup).2 (fun t ht => ?_) fun e he t ht => ?_
    · rcases hm.origin (hbefore.pending (x, t₁) List.mem_cons_self) ht with ⟨hxx, -⟩ | himage
      · exact absurd rfl hxx
      · exact himages t himage
    · have heq := hbetween e (by simp [he]) t ht
      exact himages t (heq ▸ ht)
  · left
    exact congrArg Prod.fst (List.mem_singleton.mp hmem)

/-- Of two entries that become the same alias with different names a pass gets through the second one only
    if the first one is swallowed. -/
theorem Passes.swallows (h : Passes m (turns r m.entries) v) (hsplit : m.entries = pre ++ e₁ :: (mid ++ e₂ :: post))
    (h₁ : image r e₁ = some (x, t₁)) (h₂ : image r e₂ = some (x, t₂)) (hne : t₁ ≠ t₂) :
    Swallows r (mid ++ [e₂]) x t₁ t₂ := by
  by_contra hnot
  have hall : m.entries = (pre ++ e₁ :: mid) ++ e₂ :: post := by simp [hsplit]
  rw [hall] at h
  obtain ⟨w, w', hfirst, hm, -⟩ := h.split
  obtain ⟨hxe, t, hx, ht⟩ := hfirst.differs_of_not_swallows hsplit h₁ h₂ hne hnot
  rw [h₂] at hm
  rcases (Moves.other_iff hxe).mp hm with ⟨hsame, -⟩ | ⟨hfree, -⟩
  · rw [hx] at hsame
    exact ht (Option.some.inj hsame)
  · rw [hx] at hfree
    cases hfree

/-- The turn of the second of two such entries, with no third one in between, ends in a conflict exactly if
    the first one is not swallowed. -/
theorem conflict_iff_not_swallows {p : Renaming} (h : Passes m (turns r (pre ++ e₁ :: mid)) p.working)
    (hsplit : m.entries = pre ++ e₁ :: (mid ++ e₂ :: post)) (h₁ : image r e₁ = some (x, t₁))
    (h₂ : image r e₂ = some (x, t₂)) (hne : t₁ ≠ t₂)
    (hbetween : ∀ e ∈ mid, ∀ t, image r e = some (x, t) → e = (x, t₁)) :
    (∃ existing, (p.step e₂.1 e₂.2 (r e₂.1) (r e₂.2)).outcome = .error (.resolvedConflict x t₂ existing e₂.1)) ↔
      ¬Swallows r (mid ++ [e₂]) x t₁ t₂ := by
  constructor
  · rintro ⟨existing, hconflict⟩ hsw
    obtain ⟨hxe, hx, ht⟩ := (step_conflict_iff h₂).mp hconflict
    rcases h.agrees_of_swallows hsplit hbetween hsw with heq | hagrees
    · exact hxe heq
    · exact ht (hagrees existing hx)
  · intro hnot
    obtain ⟨hxe, t, hx, ht⟩ := h.differs_of_not_swallows hsplit h₁ h₂ hne hnot
    exact ⟨t, (step_conflict_iff h₂).mpr ⟨hxe, hx, ht⟩⟩

end AliasBook.Renaming
