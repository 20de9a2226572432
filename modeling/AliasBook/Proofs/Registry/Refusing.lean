import AliasBook.Proofs.Registry.Lasting
import AliasBook.Proofs.Registry.Lookup

/-! Registries that let nothing be overridden. Whatever is registered with them, in whatever way and with whatever
    outcome, an alias keeps its name until it is registered for itself (`refusing_retains`). -/

namespace AliasBook

/-- Whenever it is asked, the answer is no. -/
def Policy.Refuses (policy : Policy) : Prop := ∀ i, policy.answer i = false

theorem Policy.Refuses.leave {policy : Policy} (h : policy.Refuses) (asks : Bool) : policy.leave asks = !asks := by
  cases asks with
  | true => exact h policy.asked
  | false => rfl

theorem Policy.Refuses.next {policy : Policy} (h : policy.Refuses) (asks : Bool) : (policy.next asks).Refuses := by
  cases asks with
  | true => exact h
  | false => exact h

namespace Mapping
variable {m m' m'' : Mapping} {name a n : String} {gone gone' : String → Prop}

/-- Every entry stays, but for those of aliases that are `gone`. -/
def Retains (m m' : Mapping) (gone : String → Prop) : Prop :=
  ∀ a n, m.get? a = some n → m'.get? a = some n ∨ gone a

namespace Retains

theorem of_eq (h : m' = m) : m.Retains m' gone := fun _ _ ha => Or.inl (h ▸ ha)

theorem trans (h : m.Retains m' gone) (h' : m'.Retains m'' gone) : m.Retains m'' gone := by
  intro a n ha
  rcases h a n ha with ha | hgone
  · exact h' a n ha
  · exact Or.inr hgone

theorem mono (h : m.Retains m' gone) (hgone : ∀ a, gone a → gone' a) : m.Retains m' gone' :=
  fun a n ha => (h a n ha).imp_right (hgone a)

theorem hasAlias (h : m.Retains m' gone) (hnone : ∀ a, ¬gone a) (hhas : m.hasAlias name a = true) :
    m'.hasAlias name a = true := by
  rw [Mapping.hasAlias, reaches_walk_iff] at hhas ⊢
  exact hhas.mono fun k n hk => (h k n hk).resolve_right (hnone k)

end Retains

theorem define_of_taken (hne : a ≠ name) (ha : m.get? a = some n) (hother : n ≠ name) :
    (m.define name a false).outcome = .error (.conflict a name n) := by
  rw [define, if_neg hne, ha, if_neg (by simpa using hother)]
  rfl

/-- Where nothing may be overridden, defining an alias takes an entry away only if it is its own name. -/
theorem retains_define {wrote : Bool} (h : (m.define name a (!(m.overridden? name a).isSome)).outcome = .ok (m', wrote)) :
    m.Retains m' fun k => k = a ∧ a = name := by
  intro k n hk
  rcases define_inv h with ⟨heq, rfl, -⟩ | ⟨-, rfl, -⟩ | ⟨hne, hget, -, rfl, -⟩
  · by_cases hka : k = a
    · exact Or.inr ⟨hka, heq⟩
    · rw [get?_erase, if_neg hka]
      exact Or.inl hk
  · exact Or.inl hk
  · -- An entry that was written over would have needed the permission.
    have hka : k ≠ a := by
      rintro rfl
      have hother : n ≠ name := fun heq => hget (heq ▸ hk)
      have hover : m.overridden? name k = some n := by simp [overridden?, hne, hk, hother]
      rw [hover, Option.isSome_some, Bool.not_true, define_of_taken hne hk hother] at h
      cases h
    rw [get?_insert, if_neg hka]
    exact Or.inl hk

end Mapping

namespace Action
variable {ρ : Type} {s : Host ρ} {m : Mapping} {name a : String} {aliases : List String}

/-! ### Defining -/

theorem retains_defineIn {p : Mapping × Bool} (hno : s.registry.policy.Refuses)
    (h : result (defineIn m name a) s = .ok p) : m.Retains p.1 fun k => k = a ∧ a = name := by
  have hout := define_of_defineIn h
  rw [hno.leave] at hout
  exact Mapping.retains_define hout

theorem retains_defineAllIn {p : Mapping × Nat} (hno : s.registry.policy.Refuses)
    (h : result (defineAllIn name m aliases) s = .ok p) : m.Retains p.1 fun k => k = name ∧ k ∈ aliases := by
  induction aliases generalizing m s p with
  | nil =>
    cases h
    exact .of_eq rfl
  | cons a rest ih =>
    cases hdefine : result (defineIn m name a) s with
    | error fault =>
      rw [(defineAllIn_cons_of_error rest hdefine).1] at h
      cases h
    | ok q =>
      rw [(defineAllIn_cons_of_ok rest hdefine).1] at h
      obtain ⟨r, hrest, rfl⟩ := map_eq_ok_iff.mp h
      have hno' : (after (defineIn m name a) s).registry.policy.Refuses := by
        rw [registry_after_defineIn]
        exact hno.next _
      refine ((retains_defineIn hno hdefine).mono ?_).trans ((ih hno' hrest).mono ?_)
      · rintro _ ⟨rfl, rfl⟩
        exact ⟨rfl, List.mem_cons_self⟩
      · rintro k ⟨hk, hmem⟩
        exact ⟨hk, List.mem_cons_of_mem a hmem⟩

/-! ### Calls -/

/-- One of the ways to register. -/
inductive Registration where
  | single (name a : Value)
  | several (name aliases : Value)
  | file (path : String) (bytes : Option ByteArray)

def Registration.perform : Registration → Action ρ Unit
  | .single name a => register name a
  | .several name aliases => do let _ ← registerMany name aliases
  | .file path bytes => do let _ ← loadFile path bytes

/-- Performs calls one after the other, whatever becomes of those before, and gives what came of each. -/
def performAll (calls : List Registration) : Action ρ (List (Except Fault Unit)) :=
  calls.mapM fun c => observing c.perform

/-- A line that is loaded registers the alias for itself. -/
def LoadsItself (path : String) (number : Nat) (lines : List String) (a : String) (s : Host ρ) : Prop :=
  ∃ before line behind l count, lines = before ++ line :: behind ∧ AliasLine.parse? line = some l ∧ l.name = a ∧
    a ∈ l.aliases ∧ result (loadLines path number (before ++ [line])) s = .ok count

/-- The call registers the alias for itself, and is not refused. -/
def Registration.NamesItself (a : String) (s : Host ρ) : Registration → Prop
  | .single name x => name = .text a ∧ x = .text a ∧ result (register name x) s = .ok ()
  | .several name xs => name = .text a ∧ (∃ items, xs.items? = .ok items ∧ .text a ∈ items) ∧
      ∃ count, result (registerMany name xs) s = .ok count
  | .file path bytes => ∃ data, bytes = some data ∧ LoadsItself path 1 (Text.read data).lines a s

/-! ### What calls retain -/

theorem lasts_refuses : Lasts (fun _ => True) (fun _ => True) (fun s : Host ρ => s.registry.policy.Refuses) where
  toRules := .any
  entries _ _ := trivial
  write _ _ hs _ := hs
  ask _ hs := hs
  told _ _ hs _ := hs

theorem refuses_after_perform (c : Registration) (hno : s.registry.policy.Refuses) :
    (after c.perform s).registry.policy.Refuses := by
  cases c with
  | single name a => exact (lasts_refuses.register name a s hno).1
  | several name aliases =>
    rw [Registration.perform, after_discard]
    exact (lasts_refuses.registerMany name aliases s hno).1
  | file path bytes =>
    rw [Registration.perform, after_discard]
    exact (lasts_refuses.loadFile path bytes s hno).1

theorem retains_register (hno : s.registry.policy.Refuses) (name a : Value) :
    s.registry.mapping.Retains (after (register name a) s).registry.mapping fun k =>
      (Registration.single name a).NamesItself k s := by
  rcases register_cases name a s with ⟨fault, -, hsame⟩ | ⟨n, x, p, rfl, rfl, hok, hdefine, hput⟩
  · exact .of_eq hsame
  · rw [hput]
    refine (retains_defineIn hno hdefine).mono ?_
    rintro _ ⟨rfl, rfl⟩
    exact ⟨rfl, rfl, hok⟩

theorem retains_registerMany (hno : s.registry.policy.Refuses) (name aliases : Value) :
    s.registry.mapping.Retains (after (registerMany name aliases) s).registry.mapping fun k =>
      (Registration.several name aliases).NamesItself k s := by
  rcases registerMany_cases name aliases s with ⟨fault, -, hsame⟩ | ⟨n, xs, p, rfl, hitems, hok, hdefine, hput⟩
  · exact .of_eq hsame
  · rw [hput]
    refine (retains_defineAllIn hno hdefine).mono ?_
    rintro _ ⟨rfl, hmem⟩
    exact ⟨rfl, ⟨_, hitems, List.mem_map_of_mem hmem⟩, _, hok⟩

/-! ### Files -/

theorem loadLines_cons_of_ok {path line : String} {number count : Nat} {l : AliasLine} (hl : AliasLine.parse? line = some l)
    (h : result (registerLine l) s = .ok count) (rest : List String) :
    let t := after (registerLine l) s
    result (loadLines path number (line :: rest)) s = (result (loadLines path (number + 1) rest) t).map (· + 1) ∧
      after (loadLines path number (line :: rest)) s = after (loadLines path (number + 1) rest) t := by
  simp only [loadLines, hl, result_bind, after_bind, h, Except.bind]
  refine ⟨rfl, ?_⟩
  split
  · rfl
  · rfl

theorem loadLines_cons_of_error {path line : String} {number : Nat} {l : AliasLine} {fault : Fault}
    (hl : AliasLine.parse? line = some l) (h : result (registerLine l) s = .error fault) (rest : List String) :
    result (loadLines path number (line :: rest)) s = .error fault ∧
      after (loadLines path number (line :: rest)) s = after (registerLine l) s := by
  simp only [loadLines, hl, result_bind, after_bind, h, Except.bind, and_self]

/-- A line that defines nothing leaves the registry as it is, whatever there is to tell of it. -/
theorem loadLines_cons_of_none (path : String) {line : String} (number : Nat) (hl : AliasLine.parse? line = none)
    (s : Host ρ) :
    ∃ t : Host ρ, t.registry = s.registry ∧ ∀ rest,
      result (loadLines path number (line :: rest)) s = result (loadLines path (number + 1) rest) t ∧
        after (loadLines path number (line :: rest)) s = after (loadLines path (number + 1) rest) t := by
  by_cases hskip : AliasLine.isSkipped line = true
  · refine ⟨s, rfl, fun rest => ?_⟩
    simp [loadLines, hl, hskip]
  · refine ⟨after (tell (.malformedLine path number (Text.strip line))) s, rfl, fun rest => ?_⟩
    simp [loadLines, hl, hskip, after_bind, Except.bind]

namespace LoadsItself
variable {t : Host ρ} {path line : String} {number count : Nat} {l : AliasLine} {rest : List String}

theorem here (hl : AliasLine.parse? line = some l) (hname : l.name = a) (hmem : a ∈ l.aliases)
    (h : result (registerLine l) s = .ok count) (rest : List String) : LoadsItself path number (line :: rest) a s :=
  ⟨[], line, rest, l, _, rfl, hl, hname, hmem, (loadLines_cons_of_ok hl h []).1⟩

theorem behind (h : LoadsItself path (number + 1) rest a t) (hgo : ∀ lines count,
      result (loadLines path (number + 1) lines) t = .ok count →
      ∃ count, result (loadLines path number (line :: lines)) s = .ok count) :
    LoadsItself path number (line :: rest) a s := by
  obtain ⟨before, line', behind, l, count, rfl, hl, hname, hmem, hok⟩ := h
  obtain ⟨count', hok'⟩ := hgo _ count hok
  exact ⟨line :: before, line', behind, l, count', rfl, hl, hname, hmem, hok'⟩

end LoadsItself

theorem retains_loadLines (hno : s.registry.policy.Refuses) (path : String) (number : Nat) (lines : List String) :
    s.registry.mapping.Retains (after (loadLines path number lines) s).registry.mapping fun k =>
      LoadsItself path number lines k s := by
  induction lines generalizing number s with
  | nil => exact .of_eq rfl
  | cons line rest ih =>
    cases hl : AliasLine.parse? line with
    | none =>
      obtain ⟨t, hregistry, hgo⟩ := loadLines_cons_of_none path number hl s
      rw [(hgo rest).2, ← hregistry]
      refine (ih (hregistry ▸ hno) (number + 1)).mono fun a ha => ha.behind fun lines count hok => ?_
      exact ⟨count, (hgo lines).1.trans hok⟩
    | some l =>
      have hfirst := retains_registerMany hno (.text l.name) (.list (l.aliases.map Value.text))
      cases hregister : result (registerLine l) s with
      | error fault =>
        -- The refused line has changed nothing, and those behind it are not read.
        rw [(loadLines_cons_of_error hl hregister rest).2]
        refine hfirst.mono ?_
        rintro a ⟨-, -, count, hok⟩
        exact absurd (hregister.symm.trans hok) (by simp)
      | ok count =>
        have hno' : (after (registerLine l) s).registry.policy.Refuses :=
          (lasts_refuses.registerMany (.text l.name) (.list (l.aliases.map Value.text)) s hno).1
        rw [(loadLines_cons_of_ok hl hregister rest).2]
        refine (hfirst.mono ?_).trans ((ih hno' (number + 1)).mono fun a ha => ha.behind fun lines count' hok => ?_)
        · rintro a ⟨hname, ⟨items, hitems, hmem⟩, -⟩
          cases hitems
          obtain ⟨b, hb, hba⟩ := List.mem_map.mp hmem
          exact .here hl (Value.text.inj hname) (Value.text.inj hba ▸ hb) hregister rest
        · rw [(loadLines_cons_of_ok hl hregister lines).1, hok]
          exact ⟨_, rfl⟩

/-- Whether a file can be read to its end makes no difference to what loading it leaves. -/
theorem after_loadFile (path : String) (data : ByteArray) (s : Host ρ) :
    after (loadFile path (some data)) s = after (loadLines path 1 (Text.read data).lines) s := by
  rw [loadFile, after_bind]
  split
  · split
    · rfl
    · rfl
  · rfl

theorem retains_loadFile (hno : s.registry.policy.Refuses) (path : String) (bytes : Option ByteArray) :
    s.registry.mapping.Retains (after (loadFile path bytes) s).registry.mapping fun k =>
      (Registration.file path bytes).NamesItself k s := by
  cases bytes with
  | none => exact .of_eq rfl
  | some data =>
    rw [after_loadFile]
    exact (retains_loadLines hno path 1 (Text.read data).lines).mono fun a ha => ⟨data, rfl, ha⟩

/-! ### Runs of calls -/

theorem retains_perform (hno : s.registry.policy.Refuses) (c : Registration) :
    s.registry.mapping.Retains (after c.perform s).registry.mapping fun k => c.NamesItself k s := by
  cases c with
  | single name a => exact retains_register hno name a
  | several name aliases =>
    rw [Registration.perform, after_discard]
    exact retains_registerMany hno name aliases
  | file path bytes =>
    rw [Registration.perform, after_discard]
    exact retains_loadFile hno path bytes

theorem after_performAll_cons (c : Registration) (calls : List Registration) (s : Host ρ) :
    after (performAll (c :: calls)) s = after (performAll calls) (after c.perform s) :=
  (mapM_observing_cons Registration.perform c calls s).2

theorem after_performAll_append (calls more : List Registration) (s : Host ρ) :
    after (performAll (calls ++ more)) s = after (performAll more) (after (performAll calls) s) := by
  induction calls generalizing s with
  | nil => rfl
  | cons c calls ih => rw [List.cons_append, after_performAll_cons, ih, after_performAll_cons]

theorem refuses_after_performAll (calls : List Registration) (hno : s.registry.policy.Refuses) :
    (after (performAll calls) s).registry.policy.Refuses := by
  induction calls generalizing s with
  | nil => exact hno
  | cons c calls ih =>
    rw [after_performAll_cons]
    exact ih (refuses_after_perform c hno)

theorem retains_performAll (hno : s.registry.policy.Refuses) (calls : List Registration) :
    s.registry.mapping.Retains (after (performAll calls) s).registry.mapping fun k =>
      ∃ before c behind, calls = before ++ c :: behind ∧ c.NamesItself k (after (performAll before) s) := by
  induction calls generalizing s with
  | nil => exact .of_eq rfl
  | cons c calls ih =>
    rw [after_performAll_cons]
    refine ((retains_perform hno c).mono fun a ha => ?_).trans ((ih (refuses_after_perform c hno)).mono fun a ha => ?_)
    · exact ⟨[], c, calls, rfl, ha⟩
    · obtain ⟨before, d, behind, rfl, hd⟩ := ha
      exact ⟨c :: before, d, behind, rfl, by rwa [after_performAll_cons]⟩

/-- Where nothing may be overridden, an entry that is there at some time is there at every later time, unless a call in
    between registered its alias for itself. Without such calls, an alias that leads to a name goes on to do so. -/
theorem refusing_retains (hno : s.registry.policy.Refuses) (calls more : List Registration) :
    let t := after (performAll calls) s
    let u := after (performAll (calls ++ more)) s
    (∀ a n, t.registry.mapping.get? a = some n → u.registry.mapping.get? a = some n ∨
      ∃ before c behind, more = before ++ c :: behind ∧ c.NamesItself a (after (performAll (calls ++ before)) s)) ∧
    ((∀ before c behind, more = before ++ c :: behind →
        ∀ a, ¬c.NamesItself a (after (performAll (calls ++ before)) s)) →
      ∀ name a, result (hasAlias (.text name) (.text a)) t = .ok true →
        result (hasAlias (.text name) (.text a)) u = .ok true) := by
  intro t u
  have hretains := retains_performAll (refuses_after_performAll calls hno) more
  simp only [← after_performAll_append] at hretains
  refine ⟨hretains, fun hnone name a => ?_⟩
  rw [result_hasAlias, result_hasAlias, Except.ok.injEq, Except.ok.injEq]
  refine hretains.hasAlias fun k => ?_
  rintro ⟨before, c, behind, hsplit, hc⟩
  exact hnone before c behind hsplit k hc

/-- Two calls are refused, a file after its first line, before the last one registers an alias for itself. -/
theorem refusing_keeps_names :
    let s : Host Unit := { registry := { policy := .always false }, caller := () }
    let calls : List Registration :=
      [.several (.text "n") (.list [.text "a", .text "b"]), .single (.text "r") (.text "n")]
    let more : List Registration :=
      [.several (.text "m") (.list [.text "c", .text "a"]), .file "names" (some "n = d\nm = b\n".toUTF8)]
    let forget : Registration := .single (.text "b") (.text "b")
    let t := after (performAll calls) s
    let u := after (performAll (calls ++ more)) s
    let v := after (performAll (calls ++ (more ++ [forget]))) s
    t.registry.mapping.entries = [("a", "n"), ("b", "n"), ("n", "r")] ∧
      u.registry.mapping.entries = [("a", "n"), ("b", "n"), ("n", "r"), ("d", "n")] ∧
      v.registry.mapping.entries = [("a", "n"), ("n", "r"), ("d", "n")] ∧
      (∀ name a, result (hasAlias (.text name) (.text a)) t = .ok true →
        result (hasAlias (.text name) (.text a)) u = .ok true) ∧
      ∃ before c behind, more ++ [forget] = before ++ c :: behind ∧
        c.NamesItself "b" (after (performAll (calls ++ before)) s) := by
  intro s calls more forget t u v
  have hno : s.registry.policy.Refuses := fun _ => rfl
  have hother : ∀ c ∈ more, ∀ a (s : Host Unit), ¬c.NamesItself a s := by
    intro c hc a s
    rcases List.mem_pair.mp hc with rfl | rfl
    · rintro ⟨hname, ⟨items, hitems, hmem⟩, -⟩
      cases hitems
      cases hname
      simp at hmem
    · rintro ⟨data, hdata, before, line, behind, l, count, hlines, hl, rfl, hmem, -⟩
      obtain rfl := Option.some.inj hdata
      simp only [Text.read_toUTF8] at hlines
      have hlast : ∀ line ∈ Text.lines "n = d\nm = b\n", ∀ l ∈ AliasLine.parse? line, l.name ∉ l.aliases := by decide
      exact hlast line (hlines ▸ by simp) l hl hmem
  have hnames := (refusing_retains hno calls more).2 fun before c behind hsplit a =>
    hother c (hsplit ▸ by simp) a _
  have hgone := (refusing_retains hno calls (more ++ [forget])).1 "b" "n" (by decide)
  exact ⟨by decide, by decide +kernel, by decide +kernel, hnames, hgone.resolve_left (by decide +kernel)⟩

end Action

end AliasBook
