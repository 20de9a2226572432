import AliasBook.Proofs.Mapping.Sound

/-! Rules that operations keep to. What they write is made by taking entries away and by adding ones that close no
    circle, and what they tell of a walk is what the walk came to. -/

namespace AliasBook

/-- Tells of a walk that came to a name a second time. -/
def Notice.isAlarm : Notice → Bool
  | .circularChain .. | .chainRevisits .. => true
  | _ => false

/-- Entries with `P` and notices with `Q` that operations keep to. -/
structure Rules (P : Mapping → Prop) (Q : Notice → Prop) : Prop where
  empty : P .empty
  erase : ∀ {m a}, P m → P (m.erase a)
  insert : ∀ {m a n}, P m → a ≠ n → ¬m.Leads n a → Text.isBlank a = false → Text.isBlank n = false → P (m.insert a n)
  routine : ∀ n, n.isAlarm = false → Q n
  walk : ∀ {m x y}, P m → (m.walk x).again = some y → Q (.circularChain x y) ∧ Q (.chainRevisits x y)

namespace Rules
variable {P : Mapping → Prop} {Q : Notice → Prop} {m m' : Mapping} {name a : String}

theorem any : Rules (fun _ => True) (fun _ => True) :=
  ⟨trivial, fun _ => trivial, fun _ _ _ _ _ => trivial, fun _ _ => trivial, fun _ _ => ⟨trivial, trivial⟩⟩

/-- Sound entries give no alarm. -/
theorem sound : Rules Mapping.Sound (fun n => n.isAlarm = false) where
  empty := Mapping.sound_empty
  erase h := h.erase
  insert h hne hlead ha hn := h.insert hne hlead ha hn
  routine _ h := h
  walk {m x y} h hagain := by
    rw [(Mapping.walk_follows m x).again_eq_none h.acyclic] at hagain
    cases hagain

theorem notices_walk (h : Rules P Q) (hm : P m) (x : String) : ∀ n ∈ (m.walk x).notices, Q n := by
  intro n hn
  obtain ⟨y, hy, rfl⟩ := List.mem_map.mp hn
  rw [Mapping.start_walk]
  exact (h.walk hm (Option.mem_toList.mp hy)).1

theorem notices_place (h : Rules P Q) (hm : P m) : ∀ n ∈ (m.place name a).notices, Q n := by
  unfold Mapping.place
  dsimp only
  split
  · simp
  · exact h.notices_walk hm name

theorem define (h : Rules P Q) (hm : P m) (hn : Text.isBlank name = false) (ha : Text.isBlank a = false) {leave wrote : Bool}
    (hd : (m.define name a leave).outcome = .ok (m', wrote)) : P m' := by
  rcases Mapping.define_inv hd with ⟨-, rfl, -⟩ | ⟨-, rfl, -⟩ | ⟨hne, -, hlead, rfl, -⟩
  · exact h.erase hm
  · exact hm
  · exact h.insert hm hne hlead ha hn

theorem notices_define (h : Rules P Q) (hm : P m) (name a : String) (leave : Bool) :
    ∀ n ∈ (m.define name a leave).notices, Q n := by
  have hplace : ∀ n ∈ (m.place name a).notices, Q n := h.notices_place hm
  unfold Mapping.define
  split
  · simpa using h.routine _ rfl
  · split
    · simp
    · split
      · exact hplace
      · split
        · exact List.forall_mem_cons.mpr ⟨h.routine _ rfl, hplace⟩
        · simp

end Rules

end AliasBook
