import AliasBook.Proofs.Renaming.Contents

/-! Why a pass by a function is refused. A turn is refused because of what the copy holds at that moment, and
    part of that waits and may still change. If no turn is held up by an entry that waits and is going to
    change (`Clear`), then only what the entries are to become can be the cause (`Clear.cause`); and where
    that is free of clashes and circles, the pass succeeds exactly if it is clear (`passes_iff_clear`). -/

namespace AliasBook

namespace Renaming
variable {r : String → Option String} {es done rest : List (String × String)} {e : String × String}
  {m w w' v : Mapping} {a n x t l : String} {a' n' : Option String} {refusal : AliasError}

/-- The pair is what one of the entries is to become. -/
def Intended (r : String → Option String) (es : List (String × String)) (x t : String) : Prop :=
  ∃ a n, (a, n) ∈ es ∧ r a = some x ∧ r n = some t ∧ Text.isBlank x = false ∧ Text.isBlank t = false ∧ x ≠ t

/-- The turn of `e` meets an entry that waits and is going to change: one that has the new alias of `e` for
    another name, and will not have it for another name than `e`, or one on the way from the new name of `e` to its
    new alias. -/
def HeldUp (r : String → Option String) (done : List (String × String)) (e : String × String)
    (rest : List (String × String)) : Prop :=
  ∃ x t, image r e = some (x, t) ∧
    ((∃ l, (x, l) ∈ rest ∧ l ≠ t ∧ ∀ t', image r (x, l) = some (x, t') → t' = t) ∨
      ∃ d ∈ e :: rest, image r d ≠ some d ∧ Relation.ReflTransGen (Remains r done (e :: rest)) t d.1 ∧
        Relation.ReflTransGen (Remains r done (e :: rest)) d.2 x)

/-- No turn is held up. -/
def Clear (r : String → Option String) (es : List (String × String)) : Prop :=
  ∀ done e rest, es = done ++ e :: rest → ¬HeldUp r done e rest

theorem intended_iff : Intended r es x t ↔ ∃ e ∈ es, image r e = some (x, t) := by
  simp only [Intended, Prod.exists, image, target_eq_some_iff]

/-! ### The cause of a refusal -/

/-- A step is refused only where its new alias is taken for another name, or where its new name leads to its new
    alias. -/
theorem step_eq_error {p : Renaming} (h : (p.step a n a' n').outcome = .error refusal) :
    ∃ x t, target a' n' = some (x, t) ∧
      ((∃ l, refusal = .resolvedConflict x t l a ∧ x ≠ a ∧ p.working.get? x = some l ∧ l ≠ t) ∨
        (refusal = .circular x t ∧ p.working.Leads t x)) := by
  cases hg : target a' n' with
  | none =>
    rw [step_of_target_none hg] at h
    cases h
  | some g =>
    obtain ⟨x, t⟩ := g
    refine ⟨x, t, rfl, ?_⟩
    rw [step_of_target_some hg] at h
    by_cases hxa : x = a
    · subst hxa
      rw [if_pos rfl] at h
      split at h
      · cases h
      · cases hplace : (p.working.place t x).outcome with
        | ok w =>
          rw [hplace] at h
          cases h
        | error found =>
          rw [hplace] at h
          cases h
          exact Or.inr (Mapping.place_eq_error_iff.mp hplace)
    · rw [if_neg hxa] at h
      cases hx : p.working.get? x with
      | some l =>
        simp only [hx] at h
        split at h
        · cases h
        · cases h
          exact Or.inl ⟨l, rfl, hxa, rfl, ‹_›⟩
      | none =>
        simp only [hx] at h
        split at h
        · cases h
          exact Or.inr ⟨rfl, (Mapping.reaches_walk_iff _ _ _).mp ‹_›⟩
        · cases h

theorem run_eq_error {p : Renaming} {ts : List Turn} (h : p.run ts = .error refusal) :
    ∃ pre t post q, ts = pre ++ t :: post ∧ p.run pre = .ok q ∧
      (q.step t.entry.1 t.entry.2 t.answers.1 t.answers.2).outcome = .error refusal := by
  induction ts generalizing p with
  | nil => cases h
  | cons t ts ih =>
    cases hstep : (p.step t.entry.1 t.entry.2 t.answers.1 t.answers.2).outcome with
    | error found =>
      rw [run, hstep] at h
      cases h
      exact ⟨[], t, ts, p, rfl, rfl, hstep⟩
    | ok p' =>
      rw [run, hstep] at h
      obtain ⟨pre, u, post, q, hts, hrun, hlast⟩ := ih h
      exact ⟨t :: pre, u, post, q, by rw [hts, List.cons_append], run_cons_eq_ok_iff.mpr ⟨p', hstep, hrun⟩, hlast⟩

/-- A pass is refused at a turn whose new alias remains for another name, or from whose new name what remains leads
    to its new alias. -/
theorem refused_inv (h : (start m).run (turns r m.entries) = .error refusal) :
    ∃ done e rest x t, m.entries = done ++ e :: rest ∧ image r e = some (x, t) ∧
      ((∃ l, refusal = .resolvedConflict x t l e.1 ∧ x ≠ e.1 ∧ Remains r done (e :: rest) x l ∧ l ≠ t) ∨
        (refusal = .circular x t ∧ Relation.TransGen (Remains r done (e :: rest)) t x)) := by
  obtain ⟨pre, u, post, q, hturns, hrun, hstep⟩ := run_eq_error h
  obtain ⟨done, later, hsplit, rfl, hlater⟩ := List.map_eq_append_iff.mp hturns
  obtain ⟨e, rest, rfl, rfl, -⟩ := List.map_eq_cons_iff.mp hlater
  have hpass : Passes m (turns r done) q.working := run_iff_passes.mp ⟨q, hrun, rfl⟩
  obtain ⟨x, t, himage, hcause⟩ := step_eq_error hstep
  refine ⟨done, e, rest, x, t, hsplit, himage, ?_⟩
  rcases hcause with ⟨l, hrefusal, hxe, hx, hlt⟩ | ⟨hrefusal, hlead⟩
  · exact Or.inl ⟨l, hrefusal, hxe, (hpass.get?_iff_remains hsplit).mp hx, hlt⟩
  · exact Or.inr ⟨hrefusal, (hpass.leads_iff_remains hsplit).mp hlead⟩

/-! ### Passes that are clear -/

/-- A walk whose every step is one of another relation is a walk of that. -/
theorem transGen_of_steps {α : Type} {R S : α → α → Prop} {x y : α} (h : Relation.TransGen R x y)
    (step : ∀ a b, Relation.ReflTransGen R x a → R a b → Relation.ReflTransGen R b y → S a b) :
    Relation.TransGen S x y := by
  induction h with
  | single hxy => exact .single (step _ _ .refl hxy .refl)
  | @tail b c hxb hbc ih =>
    have hbefore : Relation.TransGen S x b := ih fun u v hu huv hv => step u v hu huv (hv.tail hbc)
    exact hbefore.tail (step b c hxb.to_reflTransGen hbc .refl)

theorem Clear.cause (hclear : Clear r m.entries) (h : (start m).run (turns r m.entries) = .error refusal) :
    (∃ x t l a, refusal = .resolvedConflict x t l a ∧ Intended r m.entries x t ∧
      ∃ t', Intended r m.entries x t' ∧ t' ≠ t) ∨
    ∃ x t, refusal = .circular x t ∧ Relation.TransGen (Intended r m.entries) x x := by
  obtain ⟨done, e, rest, x, t, hsplit, himage, hcause⟩ := refused_inv h
  have hfree := hclear done e rest hsplit
  have hwaits : ∀ d ∈ e :: rest, d ∈ m.entries := fun d hd => hsplit ▸ List.mem_append_right done hd
  have hdone : ∀ d ∈ done, d ∈ m.entries := fun d hd => hsplit ▸ List.mem_append_left (e :: rest) hd
  have hxt : Intended r m.entries x t := intended_iff.mpr ⟨e, hwaits e List.mem_cons_self, himage⟩
  rcases hcause with ⟨l, hrefusal, hxe, hx, hlt⟩ | ⟨hrefusal, hlead⟩
  · refine Or.inl ⟨x, t, l, e.1, hrefusal, hxt, ?_⟩
    rcases hx with hwait | ⟨d, hd, hdx, -⟩
    · have hrest : (x, l) ∈ rest := (List.mem_cons.mp hwait).resolve_left fun heq => hxe (congrArg Prod.fst heq)
      -- The entry in the way is not going to make room, since it would hold up the turn.
      by_contra hnone
      refine hfree ⟨x, t, himage, Or.inl ⟨l, hrest, hlt, fun t' ht' => ?_⟩⟩
      by_contra hne
      exact hnone ⟨t', intended_iff.mpr ⟨(x, l), hwaits _ hwait, ht'⟩, hne⟩
    · exact ⟨l, intended_iff.mpr ⟨d, hdone d hd, hdx⟩, hlt⟩
  · refine Or.inr ⟨x, t, hrefusal, .head hxt (transGen_of_steps hlead fun b c hb hbc hc => ?_)⟩
    rcases hbc with hwait | ⟨d, hd, hdb, -⟩
    · by_cases hstay : image r (b, c) = some (b, c)
      · exact intended_iff.mpr ⟨(b, c), hwaits _ hwait, hstay⟩
      · exact absurd ⟨x, t, himage, Or.inr ⟨(b, c), hwait, hstay, hb, hc⟩⟩ hfree
    · exact intended_iff.mpr ⟨d, hdone d hd, hdb⟩

/-- Where a turn is taken its new alias is not taken for another name, and its new name does not lead to it. -/
theorem Moves.free (h : Moves w a n (some (x, t)) w') (acyclic : w.Acyclic) (ha : w.get? a = some n) :
    (x ≠ a → w.get? x = some l → l = t) ∧ ¬w.Leads t x := by
  cases h with
  | keep => exact ⟨fun hne => absurd rfl hne, fun hlead => acyclic a (.trans (.single ha) hlead)⟩
  | retarget _ hlead => exact ⟨fun hne => absurd rfl hne, hlead⟩
  | merge _ hsame =>
    refine ⟨fun _ hx => ?_, fun hlead => acyclic x (.trans (.single hsame) hlead)⟩
    rw [hsame] at hx
    exact (Option.some.inj hx).symm
  | move _ hfree hlead =>
    refine ⟨fun _ hx => ?_, hlead⟩
    rw [hfree] at hx
    cases hx

theorem Passes.clear (h : Passes m (turns r m.entries) v) (hm : m.Sound) : Clear r m.entries := by
  rintro done e rest hsplit ⟨x, t, himage, hheld⟩
  rw [hsplit] at h
  obtain ⟨w, w', hpre, hmove, -⟩ := h.split
  have he : w.get? e.1 = some e.2 := (hpre.get?_iff_remains hsplit).mpr (Or.inl List.mem_cons_self)
  rw [himage] at hmove
  rcases hheld with ⟨l, hl, hlt, -⟩ | ⟨d, hd, -, hto, hfrom⟩
  · have hx : w.get? x = some l := (hpre.get?_iff_remains hsplit).mpr (Or.inl (List.mem_cons_of_mem e hl))
    obtain ⟨-, hnodup⟩ := hpre.midway_first hsplit
    have hne : x ≠ e.1 := fun heq =>
      (List.nodup_cons.mp hnodup).1 (heq ▸ List.mem_map_of_mem (f := Prod.fst) hl)
    exact hlt ((hmove.free (hpre.sound hm).acyclic he).1 hne hx)
  · have hpast : Relation.TransGen (Remains r done (e :: rest)) t x :=
      .trans_right hto (.head' (Or.inl hd) hfrom)
    exact (hmove.free (l := t) (hpre.sound hm).acyclic he).2 ((hpre.leads_iff_remains hsplit).mpr hpast)

/-- Entries whose new alias belongs to no other entry that changes, and whose new name to none at all, are clear in
    every order. -/
theorem clear_of_steady (h : ∀ e ∈ es, ∀ g ∈ image r e, ∀ d ∈ es,
    (d ≠ e ∧ d.1 = g.1) ∨ d.1 = g.2 → image r d = some d) (hnodup : es.Nodup) : Clear r es := by
  rintro done e rest rfl ⟨x, t, himage, hheld⟩
  have he : e ∈ done ++ e :: rest := by simp
  obtain ⟨-, hlater, -⟩ := List.nodup_append.mp hnodup
  rcases hheld with ⟨l, hl, hlt, hgone⟩ | ⟨d, hd, hchange, hto, -⟩
  · have hne : (x, l) ≠ e := fun heq => (List.nodup_cons.mp hlater).1 (heq ▸ hl)
    exact hlt (hgone l (h e he (x, t) himage (x, l) (by simp [hl]) (Or.inl ⟨hne, rfl⟩)))
  · -- Every name on the way is a new one, so that an entry of it that waits stays as it is.
    have hname : ∀ {c}, Relation.ReflTransGen (Remains r done (e :: rest)) t c →
        ∃ b ∈ done ++ e :: rest, ∃ g ∈ image r b, c = g.2 := by
      intro c hc
      induction hc with
      | refl => exact ⟨e, he, (x, t), himage, rfl⟩
      | tail _ hbc ih =>
        obtain ⟨b', hb', g, hg, hbg⟩ := ih
        rcases hbc with hwait | ⟨b'', hb'', himage'', -⟩
        · have hwait' := List.mem_append_right done hwait
          exact ⟨_, hwait', _, h b' hb' g hg _ hwait' (Or.inr hbg), rfl⟩
        · exact ⟨b'', List.mem_append_left _ hb'', _, himage'', rfl⟩
    obtain ⟨b, hb, g, hg, hdg⟩ := hname hto
    exact hchange (h b hb g hg d (List.mem_append_right done hd) (Or.inr hdg))

/-- Where what the entries are to become has no clash and no circle, a pass succeeds exactly if no turn is
    held up. -/
theorem passes_iff_clear (hm : m.Sound)
    (hclash : ∀ x t t', Intended r m.entries x t → Intended r m.entries x t' → t = t')
    (hcircle : ∀ x, ¬Relation.TransGen (Intended r m.entries) x x) :
    (∃ v, Passes m (turns r m.entries) v) ↔ Clear r m.entries := by
  constructor
  · rintro ⟨v, hpass⟩
    exact hpass.clear hm
  · intro hclear
    cases hrun : (start m).run (turns r m.entries) with
    | ok q => exact ⟨q.working, run_iff_passes.mp ⟨q, hrun, rfl⟩⟩
    | error refusal =>
      rcases hclear.cause hrun with ⟨x, t, l, a, -, hxt, t', hxt', hne⟩ | ⟨x, t, -, hround⟩
      · exact absurd (hclash x t' t hxt' hxt) hne
      · exact absurd hround (hcircle x)

end Renaming

end AliasBook
