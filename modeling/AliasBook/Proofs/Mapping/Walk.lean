import AliasBook.Mapping.Chain
import AliasBook.Proofs.Mapping.Leads
import Mathlib.Data.List.Chain

/-! What a walk tells of any mapping, with or without circles: it comes to a name exactly if its start leads
    to that name (`reaches_walk_iff`), and without circles it ends at the one name that leads nowhere
    (`canonical_eq_iff`). -/

namespace AliasBook

/-- The walk goes from entry to entry, comes to no name twice, and goes as far as it can. -/
structure Walk.Follows (w : Walk) (m : Mapping) : Prop where
  chain : (w.start :: w.path).IsChain fun a n => m.get? a = some n
  distinct : (w.start :: w.path).Nodup
  next : m.get? w.last = w.again
  again : ∀ y, w.again = some y → y ∈ w.start :: w.path

namespace Mapping
variable {m : Mapping} {x y z : String} {path l l' seen : List String} {beyond : Option String}

/-! ### Chains of entries -/

/-- The chain of the name begins so: with what the name stands for, then what that stands for, and so on. -/
def Begins (m : Mapping) (x : String) (path : List String) : Prop :=
  (x :: path).IsChain fun a n => m.get? a = some n

/-- Of two beginnings one goes on where the other ends. -/
theorem Begins.prefix_or_prefix (h : m.Begins x path) (h' : m.Begins x l) : path <+: l ∨ l <+: path := by
  induction path generalizing x l with
  | nil => exact Or.inl List.nil_prefix
  | cons y path ih =>
    cases l with
    | nil => exact Or.inr List.nil_prefix
    | cons z l =>
      obtain ⟨hy, h⟩ := List.isChain_cons_cons.mp h
      obtain ⟨hz, h'⟩ := List.isChain_cons_cons.mp h'
      obtain rfl := Option.some.inj (hy.symm.trans hz)
      exact (ih h h').imp (List.prefix_cons_inj y).mpr (List.prefix_cons_inj y).mpr

theorem Begins.next (h : m.Begins x (path ++ y :: l)) : m.get? (path.getLastD x) = some y := by
  have hsplit : ((x :: path) ++ y :: l).IsChain fun a n => m.get? a = some n := h
  refine (List.isChain_append.mp hsplit).2.2 _ ?_ y rfl
  rw [List.getLast?_cons, List.getLastD_eq_getLast?]
  rfl

theorem isChain_follow (m : Mapping) (count : Nat) (x : String) :
    (x :: m.follow count x).IsChain fun a n => m.get? a = some n := by
  induction count generalizing x with
  | zero => exact List.isChain_singleton x
  | succ count ih =>
    rw [follow]
    split
    · exact List.isChain_singleton x
    · exact List.isChain_cons_cons.mpr ⟨‹_›, ih _⟩

/-- Following does not stop early unless there is an end. -/
theorem length_follow {count : Nat} (h : (m.get? ((m.follow count x).getLastD x)).isSome) :
    (m.follow count x).length = count := by
  induction count generalizing x with
  | zero => rfl
  | succ count ih =>
    rw [follow] at h ⊢
    cases hx : m.get? x with
    | none => simp [hx] at h
    | some y =>
      simp only [hx, List.getLastD_cons] at h
      rw [List.length_cons, ih h]

theorem chain_unique (h : m.Begins x l) (h' : m.Begins x l') (hend : m.get? (l.getLastD x) = none)
    (hend' : m.get? (l'.getLastD x) = none) : l = l' := by
  have hstop : ∀ {l l'}, m.Begins x l' → m.get? (l.getLastD x) = none → l <+: l' → l = l' := by
    rintro l _ h' hend ⟨rest, rfl⟩
    cases rest with
    | nil => rw [List.append_nil]
    | cons y rest => cases hend.symm.trans h'.next
  rcases h.prefix_or_prefix h' with hpre | hpre
  · exact hstop h' hend hpre
  · exact (hstop h hend' hpre).symm

/-- A chain that comes to an end met no name twice: what follows a name is the same each time. -/
theorem nodup_of_end {l : List String} (h : (x :: l).IsChain fun a n => m.get? a = some n)
    (hend : m.get? (l.getLastD x) = none) : (x :: l).Nodup := by
  induction l generalizing x with
  | nil => simp
  | cons y l ih =>
    refine List.nodup_cons.mpr ⟨fun hx => ?_, ?_⟩
    · obtain ⟨before, after, hl⟩ := List.append_of_mem hx
      have hsuffix : (x :: after).IsChain fun a n => m.get? a = some n := by
        rw [hl, ← List.cons_append] at h
        exact h.right_of_append
      have hend' : m.get? (after.getLastD x) = none := by
        rw [hl, List.getLastD_eq_getLast?, List.getLast?_append, List.getLast?_cons, Option.some_or] at hend
        rw [List.getLastD_eq_getLast?]
        exact hend
      have hsame := congrArg List.length (chain_unique h hsuffix hend hend')
      have hlonger := congrArg List.length hl
      simp only [List.length_append, List.length_cons] at hsame hlonger
      omega
    · rw [List.getLastD_cons] at hend
      exact ih (List.isChain_cons_cons.mp h).2 hend

theorem next_mem {l : List String} (h : (x :: l).IsChain fun a n => m.get? a = some n)
    (hz : z ∈ x :: l) (hy : m.get? z = some y) : y ∈ l ∨ z = l.getLastD x := by
  induction l generalizing x with
  | nil => exact Or.inr (by simpa using hz)
  | cons u l ih =>
    obtain ⟨hx, h⟩ := List.isChain_cons_cons.mp h
    rw [List.getLastD_cons]
    rcases List.mem_cons.mp hz with rfl | hz
    · rw [hx] at hy
      cases hy
      exact Or.inl List.mem_cons_self
    · exact (ih h hz).imp_left (List.mem_cons_of_mem u)

theorem isSome_of_chain {l : List String} (h : (x :: l).IsChain fun a n => m.get? a = some n)
    (hlast : (m.get? (l.getLastD x)).isSome) : ∀ z ∈ x :: l, (m.get? z).isSome := by
  induction l generalizing x with
  | nil =>
    intro z hz
    obtain rfl := List.mem_singleton.mp hz
    exact hlast
  | cons u l ih =>
    obtain ⟨hx, h⟩ := List.isChain_cons_cons.mp h
    rw [List.getLastD_cons] at hlast
    intro z hz
    rcases List.mem_cons.mp hz with rfl | hz
    · rw [hx]
      rfl
    · exact ih h hlast z hz

theorem length_le_size {l : List String} (hl : l.Nodup) (h : ∀ z ∈ l, (m.get? z).isSome) :
    l.length ≤ m.size := by
  have hsub : l ⊆ m.aliases := fun z hz => contains_iff.mp (h z hz)
  have := hl.length_le_of_subset hsub
  rwa [aliases, List.length_map] at this

/-- What lies ahead of those that were seen: names that were not, without repetitions, and behind them none that is new. -/
structure Ahead (seen l : List String) (beyond : Option String) : Prop where
  new : ∀ y ∈ l, y ∉ seen
  nodup : l.Nodup
  back : ∀ y, beyond = some y → y ∈ seen ∨ y ∈ l

theorem Ahead.tail (h : Ahead seen (x :: l) beyond) : Ahead (x :: seen) l beyond := by
  obtain ⟨hx, hnodup⟩ := List.nodup_cons.mp h.nodup
  refine ⟨fun y hy hmem => ?_, hnodup, fun y hy => ?_⟩
  · rcases List.mem_cons.mp hmem with rfl | hmem
    · exact hx hy
    · exact h.new y (List.mem_cons_of_mem x hy) hmem
  · rw [List.mem_cons, or_assoc, or_left_comm, ← List.mem_cons]
    exact h.back y hy

/-! ### The front without repetitions -/

theorem distinctFront_append (seen l : List String) :
    ∃ rest, l = distinctFront seen l ++ rest ∧
      ∀ y ∈ rest.head?, y ∈ seen ∨ y ∈ distinctFront seen l := by
  induction l generalizing seen with
  | nil => exact ⟨[], rfl, by simp⟩
  | cons u l ih =>
    rw [distinctFront]
    split
    · refine ⟨u :: l, rfl, ?_⟩
      rintro y hy
      obtain rfl := Option.mem_some_iff.mp hy
      exact Or.inl ‹_›
    · obtain ⟨rest, hl, hhead⟩ := ih (u :: seen)
      refine ⟨rest, by rw [List.cons_append, ← hl], fun y hy => ?_⟩
      rcases hhead y hy with h | h
      · rcases List.mem_cons.mp h with rfl | h
        · exact Or.inr List.mem_cons_self
        · exact Or.inl h
      · exact Or.inr (List.mem_cons_of_mem u h)

theorem nodup_distinctFront (seen l : List String) :
    (distinctFront seen l).Nodup ∧ ∀ y ∈ distinctFront seen l, y ∉ seen := by
  induction l generalizing seen with
  | nil => simp [distinctFront]
  | cons u l ih =>
    rw [distinctFront]
    split
    · simp
    · obtain ⟨hnodup, hfresh⟩ := ih (u :: seen)
      refine ⟨List.nodup_cons.mpr ⟨fun hu => hfresh u hu List.mem_cons_self, hnodup⟩, fun y hy => ?_⟩
      rcases List.mem_cons.mp hy with rfl | hy
      · assumption
      · exact fun hseen => hfresh y hy (List.mem_cons_of_mem u hseen)

/-! ### Walks -/

@[simp] theorem start_walk (m : Mapping) (x : String) : (m.walk x).start = x := by
  rw [walk]
  split <;> rfl

/-- A chain through more names than there are entries runs in a circle: cut before its first repetition it
    goes as far as it can. -/
theorem cut_follows {names : List String} (hchain : (x :: names).IsChain fun a n => m.get? a = some n)
    (hsome : ∀ z ∈ x :: names, (m.get? z).isSome) (hlong : m.size < (x :: names).length) :
    Walk.Follows
      { start := x, path := distinctFront [x] names,
        again := m.get? ((distinctFront [x] names).getLastD x) } m := by
  obtain ⟨rest, hsplit, hhead⟩ := distinctFront_append [x] names
  obtain ⟨hnodup, hfresh⟩ := nodup_distinctFront [x] names
  have hdistinct : (x :: distinctFront [x] names).Nodup :=
    List.nodup_cons.mpr ⟨fun hx => hfresh x hx List.mem_cons_self, hnodup⟩
  cases rest with
  | nil =>
    rw [List.append_nil] at hsplit
    rw [← hsplit] at hdistinct
    exact absurd (length_le_size hdistinct hsome) (Nat.not_le.mpr hlong)
  | cons u rest =>
    rw [hsplit, ← List.cons_append] at hchain
    have hu : m.get? ((distinctFront [x] names).getLastD x) = some u :=
      (List.isChain_append.mp hchain).2.2 _
        (by rw [List.getLast?_cons, List.getLastD_eq_getLast?]; rfl) u rfl
    refine ⟨hchain.left_of_append, hdistinct, rfl, fun y hy => ?_⟩
    obtain rfl := Option.some.inj (hu.symm.trans hy)
    rcases hhead u rfl with h | h
    · exact List.mem_singleton.mp h ▸ List.mem_cons_self
    · exact List.mem_cons_of_mem x h

theorem walk_follows (m : Mapping) (x : String) : (m.walk x).Follows m := by
  have hchain := isChain_follow m m.size x
  rw [walk]
  split
  · rename_i hend
    exact ⟨hchain, nodup_of_end hchain hend, hend, fun y hy => by cases hy⟩
  · rename_i v hlast
    have hsome : (m.get? ((m.follow m.size x).getLastD x)).isSome := by rw [hlast]; rfl
    refine cut_follows hchain (isSome_of_chain hchain hsome) ?_
    rw [List.length_cons, length_follow hsome]
    exact Nat.lt_succ_self m.size

/-- The walk is a beginning of the chain, and it ends where nothing new lies ahead. -/
theorem begins_walk (m : Mapping) (x : String) :
    m.Begins x (m.walk x).path ∧ Ahead [] (x :: (m.walk x).path) (m.walk x).again ∧
      m.get? ((m.walk x).path.getLastD x) = (m.walk x).again := by
  obtain ⟨hchain, hdistinct, hnext, hagain⟩ := m.walk_follows x
  rw [start_walk] at hchain hdistinct hagain
  rw [Walk.last, start_walk] at hnext
  exact ⟨hchain, ⟨fun _ _ => List.not_mem_nil, hdistinct, fun y hy => Or.inr (hagain y hy)⟩, hnext⟩

theorem leads_last {l : List String} (h : (x :: l).IsChain fun a n => m.get? a = some n) (hz : z ∈ x :: l) :
    z = l.getLastD x ∨ m.Leads z (l.getLastD x) := by
  induction l generalizing x z with
  | nil => exact Or.inl (List.mem_singleton.mp hz)
  | cons u l ih =>
    obtain ⟨hx, hrest⟩ := List.isChain_cons_cons.mp h
    rw [List.getLastD_cons]
    rcases List.mem_cons.mp hz with rfl | hz
    · rcases ih hrest List.mem_cons_self with hu | hu
      · exact Or.inr (hu ▸ Leads.single hx)
      · exact Or.inr ((Leads.single hx).trans hu)
    · exact ih hrest hz

end Mapping

namespace Walk.Follows
variable {w : Walk} {m : Mapping} {y : String}

theorem leads_of_mem (h : w.Follows m) (hy : y ∈ w.path) : m.Leads w.start y :=
  List.IsChain.rel_cons (R := Relation.TransGen fun a n => m.get? a = some n)
    (h.chain.imp fun _ _ => Relation.TransGen.single) hy

theorem leads_last (h : w.Follows m) : w.start = w.last ∨ m.Leads w.start w.last :=
  Mapping.leads_last h.chain List.mem_cons_self

/-- The names that a walk comes to are closed under going on: from its last name it goes on to one that it
    came to before. -/
theorem reaches_iff (h : w.Follows m) : w.reaches y = true ↔ m.Leads w.start y := by
  have hnext : ∀ {u v}, u ∈ w.start :: w.path → m.get? u = some v → v ∈ w.path ∨ w.again = some v := by
    intro u v hu hv
    rcases Mapping.next_mem h.chain hu hv with hv' | rfl
    · exact Or.inl hv'
    · exact Or.inr (h.next.symm.trans hv)
  have hcome : ∀ {u}, (u ∈ w.path ∨ w.again = some u) → u ∈ w.start :: w.path := by
    rintro u (hu | hu)
    · exact List.mem_cons_of_mem w.start hu
    · exact h.again u hu
  rw [Walk.reaches, Bool.or_eq_true, List.contains_iff_mem, beq_iff_eq]
  constructor
  · rintro (hy | hy)
    · exact h.leads_of_mem hy
    · rcases h.leads_last with hl | hl
      · exact hl ▸ Mapping.Leads.single (h.next.trans hy)
      · exact hl.tail (h.next.trans hy)
  · intro hl
    induction hl with
    | single hy => exact hnext List.mem_cons_self hy
    | tail _ hy ih => exact hnext (hcome ih) hy

theorem again_eq_none (h : w.Follows m) (acyclic : m.Acyclic) : w.again = none := by
  rw [Option.eq_none_iff_forall_ne_some]
  intro y hy
  have hback : m.Leads w.last y := Mapping.Leads.single (h.next.trans hy)
  rcases Mapping.leads_last h.chain (h.again y hy) with rfl | hl
  · exact acyclic _ hback
  · exact acyclic y (hl.trans hback)

end Walk.Follows

namespace Mapping
variable {m : Mapping} {x y : String}

/-- A walk comes to exactly the names that its start leads to. -/
theorem reaches_walk_iff (m : Mapping) (x y : String) : (m.walk x).reaches y = true ↔ m.Leads x y := by
  rw [(walk_follows m x).reaches_iff, start_walk]

/-- Without circles the canonical name is the one name at the end: the name itself or one that it leads to,
    and no alias. -/
theorem canonical_eq_iff (acyclic : m.Acyclic) :
    m.canonical x = y ↔ (x = y ∨ m.Leads x y) ∧ m.get? y = none := by
  have hw := walk_follows m x
  have hlast := hw.leads_last
  have hend := hw.next.trans (hw.again_eq_none acyclic)
  rw [start_walk] at hlast
  rw [canonical]
  constructor
  · rintro rfl
    exact ⟨hlast, hend⟩
  · rintro ⟨hy, hnone⟩
    have stuck : ∀ {u v}, m.get? u = none → ¬m.Leads u v := by
      intro u v hu huv
      obtain ⟨n, hn⟩ := huv.exists_first
      rw [hu] at hn
      cases hn
    rcases hlast with hl | hl
    · rcases hy with rfl | hy
      · exact hl.symm
      · exact absurd hy (stuck (hl ▸ hend))
    · rcases hy with rfl | hy
      · exact absurd hl (stuck hnone)
      · rcases hl.total hy with heq | h | h
        · exact heq
        · exact absurd h (stuck hend)
        · exact absurd h (stuck hnone)

end Mapping

end AliasBook
