import AliasBook.Proofs.Mapping.Sound

/-! New entries, for aliases that have none. Written one by one they come behind the entries that are there, in their
    order, and each can be written as long as all of them together close no circle (`Fresh.not_leads`). -/

namespace AliasBook.Mapping
variable {m : Mapping} {es order : List (String × String)} {e : String × String} {name a n : String}

theorem get?_eq_none_iff : m.get? a = none ↔ a ∉ m.entries.map Prod.fst :=
  Option.not_isSome_iff_eq_none.symm.trans contains_iff.not

theorem putEntry_of_free (h : a ∉ es.map Prod.fst) : putEntry a name es = es ++ [(a, name)] := by
  induction es with
  | nil => rfl
  | cons e es ih =>
    rw [List.map_cons, List.mem_cons, not_or] at h
    rw [putEntry, if_neg (fun heq => h.1 heq.symm), ih h.2, List.cons_append]

/-- An alias that has no entry is defined wherever this closes no circle. -/
theorem define_of_free {leave : Bool} (hne : a ≠ name) (hfree : m.get? a = none) (hlead : ¬m.Leads name a) :
    (m.define name a leave).outcome = .ok (m.insert a name, true) := by
  rw [define, if_neg hne, hfree, if_neg (by simp)]
  simp only [place_eq_ok_iff.mpr ⟨hlead, rfl⟩]
  rfl

theorem define_of_leads {leave : Bool} (hne : a ≠ name) (hfree : m.get? a = none) (hlead : m.Leads name a) :
    (m.define name a leave).outcome = .error (.circular a name) := by
  rw [define, if_neg hne, hfree, if_neg (by simp)]
  simp only [place_eq_error_iff.mpr ⟨rfl, hlead⟩]
  rfl

/-- The entries are for different aliases, none of which has an entry. -/
structure Fresh (m : Mapping) (es : List (String × String)) : Prop where
  filled : ∀ e ∈ es, Text.isBlank e.1 = false ∧ Text.isBlank e.2 = false
  proper : ∀ e ∈ es, e.1 ≠ e.2
  free : ∀ e ∈ es, m.get? e.1 = none
  nodup : (es.map Prod.fst).Nodup

/-- The entries of a sound mapping can be written into one that has none. -/
theorem Sound.fresh (h : m.Sound) : empty.Fresh m.entries where
  filled := fun e he => h.filled e.1 e.2 (get?_eq_some_iff.mpr he)
  proper := fun _ he => h.acyclic.ne (get?_eq_some_iff.mpr he)
  free := fun _ _ => rfl
  nodup := m.nodup

namespace Fresh

theorem perm (h : m.Fresh es) (horder : order.Perm es) : m.Fresh order where
  filled := fun e he => h.filled e (horder.mem_iff.mp he)
  proper := fun e he => h.proper e (horder.mem_iff.mp he)
  free := fun e he => h.free e (horder.mem_iff.mp he)
  nodup := (horder.map Prod.fst).nodup_iff.mpr h.nodup

theorem sublist (h : m.Fresh es) (hsub : order.Sublist es) : m.Fresh order where
  filled := fun d hd => h.filled d (hsub.subset hd)
  proper := fun d hd => h.proper d (hsub.subset hd)
  free := fun d hd => h.free d (hsub.subset hd)
  nodup := h.nodup.sublist (hsub.map Prod.fst)

theorem tail (h : m.Fresh (e :: es)) : m.Fresh es := h.sublist (List.sublist_cons_self e es)

theorem insert (h : m.Fresh (e :: es)) : (m.insert e.1 e.2).Fresh es where
  filled := h.tail.filled
  proper := h.tail.proper
  free := by
    intro d hd
    have hne : d.1 ≠ e.1 := fun heq =>
      (List.nodup_cons.mp h.nodup).1 (heq ▸ List.mem_map_of_mem hd)
    rw [get?_insert, if_neg hne, h.tail.free d hd]
  nodup := h.tail.nodup

theorem entries_insertAll (h : m.Fresh es) : (m.insertAll es).entries = m.entries ++ es := by
  induction es generalizing m with
  | nil => exact (List.append_nil m.entries).symm
  | cons e es ih =>
    have hlast : (m.insert e.1 e.2).entries = m.entries ++ [e] :=
      putEntry_of_free (get?_eq_none_iff.mp (h.free e List.mem_cons_self))
    show ((m.insert e.1 e.2).insertAll es).entries = m.entries ++ e :: es
    rw [ih h.insert, hlast, List.append_assoc]
    rfl

theorem get?_insertAll (h : m.Fresh es) : (m.insertAll es).get? a = some n ↔ m.get? a = some n ∨ (a, n) ∈ es := by
  rw [get?_eq_some_iff, h.entries_insertAll, List.mem_append, get?_eq_some_iff]

theorem behind (h : m.Fresh (es ++ order)) : (m.insertAll es).Fresh order := by
  induction es generalizing m with
  | nil => exact h
  | cons e es ih => exact ih h.insert

theorem acyclic_front (h : m.Fresh (es ++ order)) (hacyclic : (m.insertAll (es ++ order)).Acyclic) :
    (m.insertAll es).Acyclic := by
  refine hacyclic.mono fun a n ha => h.get?_insertAll.mpr ?_
  have hfront := h.sublist (List.sublist_append_left es order)
  exact (hfront.get?_insertAll.mp ha).imp_right (List.mem_append_left order)

/-- Without a circle in the end there is none on the way. -/
theorem not_leads (h : m.Fresh (e :: es)) (hacyclic : (m.insertAll (e :: es)).Acyclic) : ¬m.Leads e.2 e.1 := by
  intro hlead
  have hstep : (m.insertAll (e :: es)).Leads e.1 e.2 :=
    .single (h.get?_insertAll.mpr (Or.inr List.mem_cons_self))
  exact hacyclic e.1 (hstep.trans (hlead.mono fun a n ha => h.get?_insertAll.mpr (Or.inl ha)))

/-- Whether there is a circle in the end does not depend on the order. -/
theorem acyclic_perm (h : m.Fresh es) (horder : order.Perm es) :
    (m.insertAll order).Acyclic ↔ (m.insertAll es).Acyclic := by
  have hsame : ∀ a n, (m.insertAll order).get? a = some n ↔ (m.insertAll es).get? a = some n := by
    intro a n
    rw [(h.perm horder).get?_insertAll, h.get?_insertAll, horder.mem_iff]
  exact ⟨fun hacyclic => hacyclic.mono fun a n => (hsame a n).mpr,
    fun hacyclic => hacyclic.mono fun a n => (hsame a n).mp⟩

end Fresh

end AliasBook.Mapping
