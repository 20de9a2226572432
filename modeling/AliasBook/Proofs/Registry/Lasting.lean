import AliasBook.Proofs.Registry.Register
import AliasBook.Proofs.Renaming.Turn
import AliasBook.Registry.Loading

/-! What lasts while operations are performed: a property of states that holds on whatever is written and told by the
    rules is kept by every operation (`Lasts`). -/

namespace AliasBook

namespace Action

/-- The property holds on while what is written has `P` and what is told has `Q`. -/
structure Lasts {ρ : Type} (P : Mapping → Prop) (Q : Notice → Prop) (I : Host ρ → Prop) : Prop extends Rules P Q where
  entries : ∀ s, I s → P s.registry.mapping
  write : ∀ s m, I s → P m → I { s with registry := { s.registry with mapping := m } }
  ask : ∀ s, I s → I (after allowsOverriding s)
  told : ∀ s n, I s → Q n → I (after (tell n) s)

namespace Lasts
variable {ρ α : Type} {P : Mapping → Prop} {Q : Notice → Prop} {I : Host ρ → Prop} {R : α → Prop} {m : Mapping}
  {name a : String}

theorem mapping (h : Lasts P Q I) : Keeps I mapping P :=
  Keeps.bind (Keeps.get h.entries) fun _ hm => Keeps.pure hm

theorem setMapping (h : Lasts P Q I) (hm : P m) : Keeps I (setMapping m) fun _ => True :=
  Keeps.modify fun s hs => h.write s m hs hm

theorem tell (h : Lasts P Q I) {n : Notice} (hn : Q n) : Keeps I (tell n) fun _ => True :=
  fun s hs => ⟨h.told s n hs hn, fun _ _ => trivial⟩

theorem tellAll (h : Lasts P Q I) {ns : List Notice} (hns : ∀ n ∈ ns, Q n) : Keeps I (tellAll ns) fun _ => True := by
  induction ns with
  | nil => exact Keeps.pure trivial
  | cons n ns ih =>
    obtain ⟨hn, hns⟩ := List.forall_mem_cons.mp hns
    exact Keeps.bind (h.tell hn) fun _ _ => ih hns

theorem ofAttempt (h : Lasts P Q I) {attempt : Attempt α} (hnotices : ∀ n ∈ attempt.notices, Q n)
    (hR : ∀ a, attempt.outcome = .ok a → R a) : Keeps I (ofAttempt attempt) R :=
  Keeps.bind (h.tellAll hnotices) fun _ _ => Keeps.ofOutcome hR

/-! ### Writing -/

theorem defineIn (h : Lasts P Q I) (hm : P m) (hn : Text.isBlank name = false) (ha : Text.isBlank a = false) :
    Keeps I (defineIn m name a) fun p => P p.1 := by
  have keeps_define (leave : Bool) : Keeps I (Action.ofAttempt (m.define name a leave)) fun p => P p.1 :=
    h.ofAttempt (h.notices_define hm name a leave) fun p hp => h.define hm hn ha hp
  unfold Action.defineIn
  dsimp only
  split
  · exact Keeps.bind (Q := fun _ => True) (fun s hs => ⟨h.ask s hs, fun _ _ => trivial⟩) fun leave _ => keeps_define leave
  · exact keeps_define true

theorem defineAllIn (h : Lasts P Q I) {aliases : List String} (hm : P m) (hn : Text.isBlank name = false)
    (ha : ∀ a ∈ aliases, Text.isBlank a = false) : Keeps I (defineAllIn name m aliases) fun p => P p.1 := by
  induction aliases generalizing m with
  | nil => exact Keeps.pure hm
  | cons a rest ih =>
    obtain ⟨ha, hrest⟩ := List.forall_mem_cons.mp ha
    exact Keeps.bind (h.defineIn hm hn ha) fun p hp => Keeps.bind (ih hp hrest) fun q hq => Keeps.pure hq

theorem register (h : Lasts P Q I) (name a : Value) : Keeps I (register name a) fun _ => True := by
  refine Keeps.bind (Keeps.ofOutcome fun _ h => (requireText_eq_ok_iff.mp h).2) fun name hn => ?_
  refine Keeps.bind (Keeps.ofOutcome fun _ h => (requireText_eq_ok_iff.mp h).2) fun a ha => ?_
  refine Keeps.bind h.mapping fun m hm => ?_
  refine Keeps.bind (h.defineIn hm hn ha) fun p hp => ?_
  refine Keeps.bind (h.setMapping hp) fun _ _ => ?_
  exact Keeps.ite (fun _ => h.tell (h.routine _ rfl)) fun _ => Keeps.pure trivial

theorem registerMany (h : Lasts P Q I) (name aliases : Value) : Keeps I (registerMany name aliases) fun _ => True := by
  refine Keeps.bind (Keeps.ofOutcome fun _ h => (requireText_eq_ok_iff.mp h).2) fun name hn => ?_
  refine Keeps.bind (Keeps.ofExcept (Q := fun _ => True) fun _ _ => trivial) fun items _ => ?_
  refine Keeps.bind (Keeps.ofOutcome fun _ h => (requireTexts_eq_ok_iff.mp h).2) fun aliases ha => ?_
  refine Keeps.bind h.mapping fun m hm => ?_
  refine Keeps.bind (h.defineAllIn hm hn ha) fun p hp => ?_
  refine Keeps.bind (h.setMapping hp) fun _ _ => ?_
  split
  · exact Keeps.bind (h.tell (h.routine _ rfl)) fun _ _ => Keeps.pure trivial
  · exact Keeps.pure trivial

theorem remove (h : Lasts P Q I) (a : Value) : Keeps I (remove a) fun _ => True := by
  refine Keeps.bind h.mapping fun m hm => ?_
  extract_lets removeFound
  have hremove : ∀ key, Keeps I (removeFound key) fun _ => True := by
    intro key
    unfold removeFound
    split
    · exact Keeps.bind (h.setMapping (h.erase hm)) fun _ _ => h.tell (h.routine _ rfl)
    · exact Keeps.throw _
  split
  · exact Keeps.bind (Keeps.pure (Q := fun _ => True) trivial) fun key _ => hremove key
  · exact Keeps.bind (Keeps.ofExcept (Q := fun _ => True) fun _ _ => trivial) fun key _ => hremove key

theorem clear (h : Lasts P Q I) : Keeps I clear fun _ => True := h.setMapping h.empty

theorem loadLines (h : Lasts P Q I) (path : String) (number : Nat) (lines : List String) :
    Keeps I (loadLines path number lines) fun _ => True := by
  induction lines generalizing number with
  | nil => exact Keeps.pure trivial
  | cons line rest ih =>
    rw [Action.loadLines]
    split
    · refine Keeps.bind (h.registerMany _ _) fun _ _ => ?_
      exact Keeps.bind (ih (number + 1)) fun _ _ => Keeps.pure trivial
    · dsimp only
      split
      · exact Keeps.bind (h.tell (h.routine _ rfl)) fun _ _ => ih (number + 1)
      · exact ih (number + 1)

theorem loadFile (h : Lasts P Q I) (path : String) (bytes : Option ByteArray) :
    Keeps I (loadFile path bytes) fun _ => True := by
  unfold Action.loadFile
  split
  · exact Keeps.pure trivial
  · exact Keeps.bind (h.loadLines path 1 _) fun _ _ => Keeps.ite (fun _ => Keeps.pure trivial) fun _ => Keeps.throw _

/-! ### Renaming -/

/-- The copy of a pass keeps to the rules whatever the resolver answers and does. -/
theorem renameEntries (h : Lasts P Q I) {f : Resolver ρ} (hf : ∀ x, Keeps I (f x) fun _ => True) {p : Renaming}
    {entries : List (String × String)} (hp : P p.working) : Keeps I (renameEntries f p entries) fun q => P q.working := by
  induction entries generalizing p with
  | nil => exact Keeps.pure hp
  | cons e rest ih =>
    refine Keeps.bind (hf e.1) fun a' _ => ?_
    refine Keeps.bind (hf e.2) fun n' _ => ?_
    refine Keeps.bind (h.ofAttempt (Renaming.notices_step h.toRules hp e.1 e.2 a' n') fun q hq => ?_) fun q hq => ih hq
    exact (Renaming.moves_of_step hq).keeps h.toRules hp

theorem resolve (h : Lasts P Q I) {resolver : Option (Resolver ρ)} (hf : ∀ f ∈ resolver, ∀ x, Keeps I (f x) fun _ => True) :
    Keeps I (resolve resolver) fun _ => True := by
  cases resolver with
  | none => exact Keeps.throw _
  | some f =>
    refine Keeps.bind (Keeps.get h.entries) fun s hs => ?_
    refine Keeps.bind (h.renameEntries (hf f rfl) hs) fun p hp => ?_
    refine Keeps.bind (Keeps.get (Q := fun _ => True) fun _ _ => trivial) fun t _ => ?_
    have keeps_tell : Keeps I (if 0 < p.changed then Action.tell (.resolved p.changed) else Pure.pure ()) fun _ => True :=
      Keeps.ite (fun _ => h.tell (h.routine _ rfl)) fun _ => Keeps.pure trivial
    dsimp only
    -- What the resolver did to the registry in use does not matter, since the copy is all that is written.
    split
    · exact Keeps.bind (h.setMapping hp) fun _ _ => keeps_tell
    · exact keeps_tell

/-! ### Looking up along chains -/

theorem canonical (h : Lasts P Q I) (name : Value) : Keeps I (canonical name) fun _ => True := by
  refine Keeps.bind (Keeps.ofExcept (Q := fun _ => True) fun _ _ => trivial) fun key _ => ?_
  split
  · exact Keeps.pure trivial
  · rename_i key
    refine Keeps.bind h.mapping fun m hm => ?_
    refine Keeps.bind (h.tellAll fun n hn => ?_) fun _ _ => Keeps.pure trivial
    obtain ⟨y, hy, rfl⟩ := List.mem_map.mp hn
    exact (h.walk hm (Option.mem_toList.mp hy)).2

theorem hasAlias (h : Lasts P Q I) (name a : Value) : Keeps I (hasAlias name a) fun _ => True := by
  refine Keeps.bind (Keeps.ofExcept (Q := fun _ => True) fun _ _ => trivial) fun key _ => ?_
  split
  · exact Keeps.pure trivial
  · refine Keeps.bind h.mapping fun m hm => ?_
    dsimp only
    split
    · exact Keeps.pure trivial
    · exact Keeps.bind (h.tellAll (h.notices_walk hm _)) fun _ _ => Keeps.pure trivial

theorem checkCircle (h : Lasts P Q I) (name a : Value) : Keeps I (checkCircle name a) fun _ => True := by
  refine Keeps.bind (h.hasAlias a name) fun found _ => ?_
  split
  · exact Keeps.throw _
  · exact Keeps.pure trivial

end Lasts

end Action

end AliasBook
