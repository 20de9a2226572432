import AliasBook.Proofs.Mapping.Sound
import AliasBook.Proofs.Registry.Register

/-! Registering several aliases at once against registering them one by one. The one works on a copy and puts it in use
    at the end, the other writes each entry at once, and both do the same at each alias: they are refused by the same
    one or by none, and ask the policy as often (`registerMany_in_turn`). Only what a refusal leaves differs. -/

namespace AliasBook

namespace Mapping
variable {m m' : Mapping} {name a : String}

/-- There is an entry that was not there before. -/
def Gains (m m' : Mapping) : Prop :=
  ∃ e ∈ m'.entries, e ∉ m.entries

instance : Decidable (m.Gains m') := inferInstanceAs (Decidable (∃ e ∈ m'.entries, e ∉ m.entries))

theorem gains_of_define {leave wrote : Bool} (h : (m.define name a leave).outcome = .ok (m', wrote)) :
    m.Gains m' ↔ wrote = true := by
  rcases define_inv h with ⟨-, rfl, rfl⟩ | ⟨-, rfl, rfl⟩ | ⟨-, hget, -, rfl, rfl⟩
  · refine iff_of_false ?_ Bool.false_ne_true
    rintro ⟨⟨k, n⟩, hmem, hnew⟩
    rw [← get?_eq_some_iff, get?_erase] at hmem
    split at hmem
    · cases hmem
    · exact hnew (get?_eq_some_iff.mp hmem)
  · refine iff_of_false ?_ Bool.false_ne_true
    rintro ⟨e, hmem, hnew⟩
    exact hnew hmem
  · refine iff_of_true ⟨(a, name), ?_, fun hmem => hget (get?_eq_some_iff.mpr hmem)⟩ rfl
    rw [← get?_eq_some_iff, get?_insert, if_pos rfl]

end Mapping

namespace Action
variable {ρ : Type} {s t : Host ρ} {name : String} {aliases : List String} {fault : Fault}

/-- Registers aliases one after the other, and counts how often there was an entry afterwards that was not there
    before. -/
def registerInTurn (name : String) : List String → Action ρ Nat
  | [] => pure 0
  | a :: rest => do
    let before ← mapping
    register (.text name) (.text a)
    let later ← mapping
    let count ← registerInTurn name rest
    return count + if before.Gains later then 1 else 0

theorem registerInTurn_cons_of_ok {a : String} {u : Unit} (rest : List String)
    (h : result (register (.text name) (.text a)) s = .ok u) :
    let t := after (register (.text name) (.text a)) s
    result (registerInTurn name (a :: rest)) s = (result (registerInTurn name rest) t).map
        (· + if s.registry.mapping.Gains t.registry.mapping then 1 else 0) ∧
      after (registerInTurn name (a :: rest)) s = after (registerInTurn name rest) t := by
  rw [registerInTurn]
  simp only [result_bind, after_bind, result_mapping, after_mapping, h, Except.bind]
  refine ⟨rfl, ?_⟩
  split
  · rfl
  · rfl

theorem registerInTurn_cons_of_error {a : String} (rest : List String)
    (h : result (register (.text name) (.text a)) s = .error fault) :
    result (registerInTurn name (a :: rest)) s = .error fault ∧
      after (registerInTurn name (a :: rest)) s = after (register (.text name) (.text a)) s := by
  rw [registerInTurn]
  simp only [result_bind, after_bind, result_mapping, after_mapping, h, Except.bind, and_self]

/-- The copy that the one works on is at each alias what the other has made of the entries. -/
theorem defineAllIn_in_turn (hn : Text.isBlank name = false) (ha : ∀ a ∈ aliases, Text.isBlank a = false)
    (hpolicy : s.registry.policy = t.registry.policy) :
    let bulk := defineAllIn name t.registry.mapping aliases
    let turn := registerInTurn name aliases
    (result bulk s).map Prod.snd = result turn t ∧
      (after bulk s).registry.policy = (after turn t).registry.policy ∧
      ∀ p, result bulk s = .ok p → p.1 = (after turn t).registry.mapping := by
  induction aliases generalizing s t with
  | nil =>
    refine ⟨rfl, hpolicy, fun p hp => ?_⟩
    cases hp
    rfl
  | cons a rest ih =>
    intro bulk turn
    obtain ⟨ha, hrest⟩ := List.forall_mem_cons.mp ha
    obtain ⟨hsame, hnext⟩ := defineIn_congr t.registry.mapping name a hpolicy
    cases hdefine : result (defineIn t.registry.mapping name a) t with
    | error fault =>
      obtain ⟨hresult, hafter⟩ := defineAllIn_cons_of_error rest (hsame.trans hdefine)
      obtain ⟨hregister, hregistry⟩ := register_of_error hn ha hdefine
      obtain ⟨hresult', hafter'⟩ := registerInTurn_cons_of_error rest hregister
      refine ⟨?_, ?_, fun p hp => ?_⟩
      · rw [hresult, hresult']
        rfl
      · rw [hafter, hafter', hregistry, hnext]
      · rw [hresult] at hp
        cases hp
    | ok p =>
      obtain ⟨hresult, hafter⟩ := defineAllIn_cons_of_ok rest (hsame.trans hdefine)
      obtain ⟨hregister, hregistry⟩ := register_of_ok hn ha hdefine
      obtain ⟨hresult', hafter'⟩ := registerInTurn_cons_of_ok rest hregister
      have hout := define_of_defineIn hdefine
      have hmapping : (after (register (.text name) (.text a)) t).registry.mapping = p.1 := by rw [hregistry]
      have hpolicy' : (after (defineIn t.registry.mapping name a) s).registry.policy =
          (after (register (.text name) (.text a)) t).registry.policy := by rw [hregistry, hnext]
      obtain ⟨hcount, hlast, hput⟩ := ih hrest hpolicy'
      rw [hmapping] at hcount hlast hput
      refine ⟨?_, ?_, fun q hq => ?_⟩
      · rw [hresult, hresult', ← hcount, hmapping]
        simp only [Mapping.gains_of_define hout]
        cases result (defineAllIn name p.1 rest) (after (defineIn t.registry.mapping name a) s) with
        | error fault => rfl
        | ok q => rfl
      · rw [hafter, hafter', hlast]
      · obtain ⟨q', hq', rfl⟩ := map_eq_ok_iff.mp (hresult.symm.trans hq)
        rw [hafter', hput q' hq']

/-- A refusal comes from one of the aliases, and leaves what those before it have made of the entries. -/
theorem registerInTurn_error (hn : Text.isBlank name = false) (ha : ∀ a ∈ aliases, Text.isBlank a = false)
    (h : result (registerInTurn name aliases) s = .error fault) :
    ∃ before a rest count, aliases = before ++ a :: rest ∧ result (registerInTurn name before) s = .ok count ∧
      result (register (.text name) (.text a)) (after (registerInTurn name before) s) = .error fault ∧
      (after (registerInTurn name aliases) s).registry.mapping =
        (after (registerInTurn name before) s).registry.mapping := by
  induction aliases generalizing s with
  | nil => cases h
  | cons a rest ih =>
    obtain ⟨ha, hrest⟩ := List.forall_mem_cons.mp ha
    cases hdefine : result (defineIn s.registry.mapping name a) s with
    | error fault' =>
      obtain ⟨hregister, hregistry⟩ := register_of_error hn ha hdefine
      obtain ⟨hresult, hafter⟩ := registerInTurn_cons_of_error rest hregister
      rw [hresult] at h
      cases h
      refine ⟨[], a, rest, 0, rfl, rfl, hregister, ?_⟩
      rw [hafter, hregistry, registry_after_defineIn]
      rfl
    | ok p =>
      obtain ⟨hregister, -⟩ := register_of_ok hn ha hdefine
      obtain ⟨hresult, hafter⟩ := registerInTurn_cons_of_ok rest hregister
      have hlater := map_eq_error_iff.mp (hresult.symm.trans h)
      obtain ⟨before, b, behind, count, rfl, hbefore, hrefused, hmapping⟩ := ih hrest hlater
      obtain ⟨hresult', hafter'⟩ := registerInTurn_cons_of_ok before hregister
      rw [hbefore] at hresult'
      refine ⟨a :: before, b, behind, _, rfl, hresult', ?_, ?_⟩
      · rw [hafter', hrefused]
      · rw [hafter, hafter', hmapping]

/-- Registering aliases at once gives what registering them one by one gives, the number of new entries or the same
    refusal, and the policy is asked as often. If nothing is refused, the entries are the same. If an alias is refused,
    they are as before, where one by one they are what the aliases before it have made of them. -/
theorem registerMany_in_turn (s : Host ρ) (hn : Text.isBlank name = false)
    (ha : ∀ a ∈ aliases, Text.isBlank a = false) :
    let bulk := registerMany (.text name) (.list (aliases.map Value.text))
    let turn := registerInTurn name aliases
    result bulk s = result turn s ∧ (after bulk s).registry.policy = (after turn s).registry.policy ∧
      (∀ count, result bulk s = .ok count → (after bulk s).registry.mapping = (after turn s).registry.mapping) ∧
      ∀ fault, result bulk s = .error fault → (after bulk s).registry.mapping = s.registry.mapping ∧
        ∃ before a rest count, aliases = before ++ a :: rest ∧ result (registerInTurn name before) s = .ok count ∧
          result (register (.text name) (.text a)) (after (registerInTurn name before) s) = .error fault ∧
          (after turn s).registry.mapping = (after (registerInTurn name before) s).registry.mapping := by
  intro bulk turn
  obtain ⟨hcount, hpolicy, hput⟩ := defineAllIn_in_turn (s := s) (t := s) hn ha rfl
  cases hdefine : result (defineAllIn name s.registry.mapping aliases) s with
  | error fault =>
    obtain ⟨hbulk, hregistry⟩ := registerMany_of_error (items?_list _) hn ha hdefine
    have hturn : result turn s = .error fault := by rw [← hcount, hdefine]; rfl
    refine ⟨hbulk.trans hturn.symm, ?_, fun count h => ?_, fun fault' h => ?_⟩
    · rw [hregistry, hpolicy]
    · rw [hbulk] at h
      cases h
    · rw [hbulk] at h
      cases h
      refine ⟨?_, registerInTurn_error hn ha hturn⟩
      rw [hregistry, mapping_after_defineAllIn]
  | ok p =>
    obtain ⟨hbulk, hregistry⟩ := registerMany_of_ok (items?_list _) hn ha hdefine
    have hturn : result turn s = .ok p.2 := by rw [← hcount, hdefine]; rfl
    refine ⟨hbulk.trans hturn.symm, ?_, fun count h => ?_, fun fault h => ?_⟩
    · rw [hregistry, ← hpolicy]
    · rw [hregistry, ← hput p hdefine]
    · rw [hbulk] at h
      cases h

/-- The alias of an entry, the same again, the name itself and an alias that may be overridden, and then one that may
    not. -/
theorem registerMany_refused_midway :
    let s : Host Unit :=
      { registry :=
          { mapping := { entries := [("a", "x"), ("n", "t"), ("b", "y")] }, policy := .inTurn [true, false] }
        caller := () }
    let aliases := ["c", "c", "n", "a", "b", "d"]
    let bulk : Action Unit Nat := registerMany (.text "n") (.list (aliases.map Value.text))
    let turn : Action Unit Nat := registerInTurn "n" aliases
    Text.isBlank "n" = false ∧ (∀ a ∈ aliases, Text.isBlank a = false) ∧
      result bulk s = .error (.refused (.conflict "b" "n" "y")) ∧
      result turn s = .error (.refused (.conflict "b" "n" "y")) ∧
      (after bulk s).registry.policy.asked = 2 ∧ (after bulk s).registry.mapping = s.registry.mapping ∧
      (after turn s).registry.mapping.entries = [("a", "n"), ("b", "y"), ("c", "n")] := by
  intro s aliases bulk turn
  have hn : Text.isBlank "n" = false := by decide
  have ha : ∀ a ∈ aliases, Text.isBlank a = false := by decide
  obtain ⟨hresult, hpolicy, -, hrefused⟩ := registerMany_in_turn s hn ha
  have hturn : result turn s = .error (.refused (.conflict "b" "n" "y")) := rfl
  have hbulk := hresult.trans hturn
  refine ⟨hn, ha, hbulk, hturn, ?_, (hrefused _ hbulk).1, by decide⟩
  rw [hpolicy]
  rfl

end Action

end AliasBook
