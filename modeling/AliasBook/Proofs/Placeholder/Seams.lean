import AliasBook.Proofs.Placeholder.Expansion

/-! Whether an expansion holds placeholders itself. What stands outside of placeholders is copied as it is, and a text
    that is put together of such stretches can hold a placeholder that none of them holds, as `$` in front of the value
    `\x7bk\x7d`. That is the only way: a placeholder in an expansion begins in one stretch and goes on in those behind
    it (`crosses_of_flatten`), and there is none if no stretch ends in the middle of one (`not_holds_flatten`). -/

namespace AliasBook.Placeholder
variable {key key' cs cs' rest rest' front front' : List Char} {default default' : Option (List Char)} {c : Char}

/-! ### The placeholders of a text, wherever they stand -/

theorem Opens.append (h : Opens cs) (rest : List Char) : Opens (cs ++ rest) := by
  obtain ⟨key, default, behind, hform, rfl⟩ := h
  exact ⟨key, default, behind ++ rest, hform, List.append_assoc ..⟩

theorem not_mem_drop_written (h : WellFormed key default) : '\x7b' ∉ (written key default).drop 2 := by
  have hkey : '\x7b' ∉ key := fun hc => (h.key _ hc).1 rfl
  cases default with
  | none => simp [written, Piece.source, hkey]
  | some text =>
    have htext : '\x7b' ∉ text := fun hc => (h.default text rfl _ hc).1 rfl
    simp [written, Piece.source, hkey, htext]

theorem getLast?_written (key : List Char) (default : Option (List Char)) :
    (written key default).getLast? = some '\x7d' := by
  cases default <;> simp [written, Piece.source, List.getLast?_cons]

/-- A placeholder that begins in front of another one ends in front of it, too. -/
theorem opens_of_opens_append (h : Opens (c :: (front ++ (written key default ++ rest)))) : Opens (c :: front) := by
  obtain ⟨key', default', behind, hform, heq⟩ := h
  rw [← List.cons_append] at heq
  rcases List.append_eq_append_iff.mp heq with ⟨tail, hwritten, hbehind⟩ | ⟨inside, hfront, -⟩
  · -- It would go on with `$`, which does not close it, or with `$` and a brace, which it cannot hold.
    obtain ⟨inside, hinside⟩ := written_eq key default
    rw [hinside, List.cons_append, List.cons_append] at hbehind
    match tail with
    | [] => exact ⟨key', default', [], hform, by rw [List.append_nil, hwritten, List.append_nil]⟩
    | [d] =>
      have hlast := getLast?_written key' default'
      rw [hwritten, List.getLast?_append, List.getLast?_singleton, Option.some_or] at hlast
      rw [List.cons_append, List.cons.injEq] at hbehind
      rw [← hbehind.1] at hlast
      cases hlast
    | d :: e :: tail =>
      rw [List.cons_append, List.cons_append, List.cons.injEq, List.cons.injEq] at hbehind
      have hmem : '\x7b' ∈ (written key' default').drop 2 := by
        rw [hwritten, ← hbehind.2.1]
        cases front <;> simp
      exact absurd hmem (not_mem_drop_written hform)
  · exact ⟨key', default', inside, hform, hfront⟩

theorem front_unique (hopens : Opens cs) (hopens' : Opens cs') (hfront : ¬Holds front) (hfront' : ¬Holds front')
    (h : front ++ cs = front' ++ cs') : front = front' := by
  induction front generalizing front' with
  | nil =>
    cases front' with
    | nil => rfl
    | cons c front' =>
      obtain ⟨key, default, rest, -, rfl⟩ := hopens'
      rw [List.nil_append] at h
      rw [h, List.cons_append] at hopens
      exact absurd (holds_cons_iff.mpr (Or.inl (opens_of_opens_append hopens))) hfront'
  | cons c front ih =>
    cases front' with
    | nil =>
      obtain ⟨key, default, rest, -, rfl⟩ := hopens
      rw [List.nil_append] at h
      rw [← h, List.cons_append] at hopens'
      exact absurd (holds_cons_iff.mpr (Or.inl (opens_of_opens_append hopens'))) hfront
    | cons d front' =>
      rw [List.cons_append, List.cons_append, List.cons.injEq] at h
      rw [holds_cons_iff, not_or] at hfront hfront'
      rw [h.1, ih hfront.2 hfront'.2 h.2]

/-- The first placeholder of a text is in one place only. -/
theorem split_unique (hfront : ¬Holds front) (hfront' : ¬Holds front') (hform : WellFormed key default)
    (hform' : WellFormed key' default')
    (h : front ++ (written key default ++ rest) = front' ++ (written key' default' ++ rest')) :
    front = front' ∧ key = key' ∧ default = default' ∧ rest = rest' := by
  obtain rfl := front_unique ⟨_, _, _, hform, rfl⟩ ⟨_, _, _, hform', rfl⟩ hfront hfront' h
  have hread := readHole_written hform rest
  rw [List.append_cancel_left h, readHole_written hform' rest'] at hread
  cases hread
  exact ⟨rfl, rfl, rfl, rfl⟩

/-! ### Texts put together of parts -/

/-- The text ends in the middle of a placeholder, and a text behind it may complete it. -/
def EndsOpen (cs : List Char) : Prop :=
  ∃ front begun rest key default, WellFormed key default ∧ written key default = begun ++ rest ∧
    begun ≠ [] ∧ rest ≠ [] ∧ cs = front ++ begun

/-- The text behind `front` begins in one of the parts and goes on in those behind it. -/
def Crosses (parts : List (List Char)) (front cs : List Char) : Prop :=
  ∃ before inside begun rest behind, parts = before ++ (inside ++ begun) :: behind ∧ front = before.flatten ++ inside ∧
    cs = begun ++ rest ∧ begun ≠ [] ∧ rest ≠ [] ∧ rest <+: behind.flatten

theorem EndsOpen.mem (h : EndsOpen cs) : '$' ∈ cs := by
  obtain ⟨front, begun, rest, key, default, -, hcut, hbegun, -, rfl⟩ := h
  obtain ⟨inside, hinside⟩ := written_eq key default
  cases begun with
  | nil => exact absurd rfl hbegun
  | cons d begun =>
    rw [hinside, List.cons_append, List.cons.injEq] at hcut
    obtain ⟨rfl, -⟩ := hcut
    simp

theorem crosses_of_flatten {parts : List (List Char)} {back : List Char} (hform : WellFormed key default)
    (hparts : ∀ part ∈ parts, ¬Holds part) (h : parts.flatten = front ++ (written key default ++ back)) :
    Crosses parts front (written key default) := by
  induction parts generalizing front with
  | nil =>
    obtain ⟨inside, hinside⟩ := written_eq key default
    simp [hinside] at h
  | cons part parts ih =>
    obtain ⟨hpart, hparts⟩ := List.forall_mem_cons.mp hparts
    have later : ∀ front', front = part ++ front' → parts.flatten = front' ++ (written key default ++ back) →
        Crosses (part :: parts) front (written key default) := by
      rintro front' rfl hflatten
      obtain ⟨before, inside, begun, rest, behind, rfl, rfl, hcut, hbegun, hrest, hbehind⟩ := ih hparts hflatten
      exact ⟨part :: before, inside, begun, rest, behind, rfl, by simp, hcut, hbegun, hrest, hbehind⟩
    rw [List.flatten_cons] at h
    rcases List.append_eq_append_iff.mp h with ⟨front', hfront, hflatten⟩ | ⟨begun, rfl, hbegun⟩
    · exact later front' hfront hflatten
    · rcases List.append_eq_append_iff.mp hbegun with ⟨more, rfl, -⟩ | ⟨rest, hcut, hflatten⟩
      · exact absurd (holds_written hform front more) hpart
      · by_cases hempty : begun = []
        · subst hempty
          refine later [] (by simp) ?_
          rw [hflatten, hcut]
          rfl
        · refine ⟨[], front, begun, rest, parts, rfl, rfl, hcut, hempty, ?_, ⟨back, hflatten.symm⟩⟩
          rintro rfl
          rw [List.append_nil] at hcut
          exact hpart (hcut ▸ by simpa using holds_written hform front [])

theorem not_holds_flatten {parts : List (List Char)} (hparts : ∀ part ∈ parts, ¬Holds part)
    (hends : ∀ part ∈ parts.dropLast, ¬EndsOpen part) : ¬Holds parts.flatten := by
  rintro ⟨front, _, ⟨key, default, back, hform, rfl⟩, hflatten⟩
  obtain ⟨before, inside, begun, rest, behind, rfl, -, hcut, hbegun, hrest, hbehind⟩ :=
    crosses_of_flatten hform hparts hflatten
  have hmore : behind ≠ [] := by
    rintro rfl
    exact hrest (List.prefix_nil.mp hbehind)
  refine hends (inside ++ begun) ?_ ⟨inside, begun, rest, key, default, hform, hcut, hbegun, hrest, rfl⟩
  rw [List.dropLast_append_of_ne_nil (by simp), List.dropLast_cons_of_ne_nil hmore]
  simp

/-! ### The stretches of an expansion -/

namespace Expander
variable {x : Expander} {s : List Char} {parts parts' : List (List Char)}

/-- The stretches of text that the expansion of a text is put together of. A text without placeholders is one stretch.
    Else there is what stands in front of the first placeholder, then the stretches of its value, or its default, and
    then those of what stands behind it. -/
inductive Stretches (x : Expander) : List Char → List (List Char) → Prop
  | plain {cs : List Char} : ¬Holds cs → Stretches x cs [cs]
  | value {front key rest : List Char} {default : Option (List Char)} {raw : String} {inner outer : List (List Char)} :
      ¬Holds front → WellFormed key default → x.lookUp (nameOf key) = some raw → Stretches x raw.toList inner →
        Stretches x rest outer → Stretches x (front ++ (written key default ++ rest)) (front :: (inner ++ outer))
  | default {front key text rest : List Char} {outer : List (List Char)} : ¬Holds front →
      WellFormed key (some text) → x.lookUp (nameOf key) = none → Stretches x rest outer →
        Stretches x (front ++ (written key (some text) ++ rest)) (front :: text :: outer)

/-- A character that begins no placeholder belongs to the first stretch. -/
theorem Stretches.char (h : x.Stretches cs parts) (hchar : ¬Opens (c :: cs)) :
    ∃ part others, parts = part :: others ∧ x.Stretches (c :: cs) ((c :: part) :: others) := by
  have apart : ∀ {front rest}, ¬Holds front → ¬Opens (c :: (front ++ rest)) → ¬Holds (c :: front) := by
    intro front rest hfront hchar
    rw [holds_cons_iff, not_or]
    exact ⟨fun hopens => hchar (hopens.append rest), hfront⟩
  cases h with
  | plain hcs => exact ⟨_, _, rfl, .plain (holds_cons_iff.not.mpr (not_or.mpr ⟨hchar, hcs⟩))⟩
  | value hfront hform hraw hinner houter => exact ⟨_, _, rfl, .value (apart hfront hchar) hform hraw hinner houter⟩
  | default hfront hform hnone houter => exact ⟨_, _, rfl, .default (apart hfront hchar) hform hnone houter⟩

theorem Expands.stretches (h : x.Expands cs s) (hkeeps : x.keepsUnknown = false) :
    ∃ parts, x.Stretches cs parts ∧ s = parts.flatten := by
  induction h with
  | nil => exact ⟨[[]], .plain not_holds_nil, rfl⟩
  | char hchar _ ih =>
    obtain ⟨parts, hparts, rfl⟩ := ih
    obtain ⟨part, others, rfl, hmore⟩ := hparts.char hchar
    exact ⟨_, hmore, rfl⟩
  | value hform hraw _ _ ihvalue ih =>
    obtain ⟨inner, hinner, rfl⟩ := ihvalue
    obtain ⟨outer, houter, rfl⟩ := ih
    exact ⟨_, .value not_holds_nil hform hraw hinner houter, by simp⟩
  | default hform hnone _ ih =>
    obtain ⟨outer, houter, rfl⟩ := ih
    exact ⟨_, .default not_holds_nil hform hnone houter, by simp⟩
  | kept _ _ hkept =>
    rw [hkeeps] at hkept
    cases hkept

theorem Stretches.not_holds (h : x.Stretches cs parts) : ∀ part ∈ parts, ¬Holds part := by
  induction h with
  | plain hcs => simpa using hcs
  | value hfront _ _ _ _ ihinner ihouter =>
    intro part hpart
    rcases List.mem_cons.mp hpart with rfl | hpart
    · exact hfront
    · exact (List.mem_append.mp hpart).elim (ihinner part) (ihouter part)
  | default hfront hform _ _ ih =>
    intro part hpart
    rcases List.mem_cons.mp hpart with rfl | hpart
    · exact hfront
    · rcases List.mem_cons.mp hpart with rfl | hpart
      · exact not_holds_of_plain (hform.default _ rfl)
      · exact ih part hpart

theorem Stretches.inv (h : x.Stretches (front ++ (written key default ++ rest)) parts) (hfront : ¬Holds front)
    (hform : WellFormed key default) :
    (∃ raw inner outer, x.lookUp (nameOf key) = some raw ∧ x.Stretches raw.toList inner ∧ x.Stretches rest outer ∧
        parts = front :: (inner ++ outer)) ∨
      ∃ text outer, default = some text ∧ x.lookUp (nameOf key) = none ∧ x.Stretches rest outer ∧
        parts = front :: text :: outer := by
  generalize hcs : front ++ (written key default ++ rest) = cs at h
  cases h with
  | plain hplain => exact absurd (hcs ▸ holds_written hform _ _) hplain
  | value hfront' hform' hraw hinner houter =>
    obtain ⟨rfl, rfl, rfl, rfl⟩ := split_unique hfront hfront' hform hform' hcs
    exact Or.inl ⟨_, _, _, hraw, hinner, houter, rfl⟩
  | default hfront' hform' hnone houter =>
    obtain ⟨rfl, rfl, rfl, rfl⟩ := split_unique hfront hfront' hform hform' hcs
    exact Or.inr ⟨_, _, rfl, hnone, houter, rfl⟩

theorem Stretches.unique (h : x.Stretches cs parts) (h' : x.Stretches cs parts') : parts = parts' := by
  induction h generalizing parts' with
  | plain hcs =>
    cases h' with
    | plain => rfl
    | value _ hform => exact absurd (holds_written hform _ _) hcs
    | default _ hform => exact absurd (holds_written hform _ _) hcs
  | value hfront hform hraw _ _ ihinner ihouter =>
    rcases h'.inv hfront hform with ⟨raw', inner', outer', hraw', hinner, houter, rfl⟩ | ⟨-, -, -, hnone, -, -⟩
    · rw [hraw] at hraw'
      cases hraw'
      rw [ihinner hinner, ihouter houter]
    · rw [hraw] at hnone
      cases hnone
  | default hfront hform hnone _ ih =>
    rcases h'.inv hfront hform with ⟨raw, -, -, hraw, -, -, -⟩ | ⟨text', outer', htext, -, houter, rfl⟩
    · rw [hnone] at hraw
      cases hraw
    · cases htext
      rw [ih houter]

end Expander

end AliasBook.Placeholder

namespace AliasBook.Resolver
open Placeholder AliasBook.Action
variable {ρ : Type}

/-- Where unknown placeholders are not kept, an answer is put together of stretches without placeholders, and a
    placeholder in it begins in one of them and goes on in those behind it. There is none if no stretch with another one
    behind it ends in the middle of a placeholder; and an answer without placeholders is its own answer. -/
theorem placeholders_seams (x : Expander) (fromEnvironment : Bool) (v t : String) (host : Host ρ)
    (hkeeps : x.keepsUnknown = false) (h : result (placeholders x fromEnvironment v) host = .ok (some t)) :
    (∃ parts, (∀ l, (within x fromEnvironment host).Stretches v.toList l ↔ l = parts) ∧ t.toList = parts.flatten ∧
      (∀ part ∈ parts, ¬Holds part) ∧
      (∀ front key default back, WellFormed key default → t.toList = front ++ (written key default ++ back) →
        Crosses parts front (written key default)) ∧
      ((∀ part ∈ parts.dropLast, ¬EndsOpen part) → ¬Holds t.toList)) ∧
    (¬Holds t.toList → result (placeholders x fromEnvironment t) host = .ok (some t)) := by
  rw [result_placeholders, Except.ok.injEq] at h
  obtain ⟨parts, hparts, hflatten⟩ := (Expander.expands_of_expand h).stretches hkeeps
  have hapart := hparts.not_holds
  refine ⟨⟨parts, fun l => ⟨fun hl => hl.unique hparts, fun hl => hl ▸ hparts⟩, hflatten, hapart, ?_, ?_⟩, fun hfree => ?_⟩
  · intro front key default back hform heq
    exact crosses_of_flatten hform hapart (hflatten.symm.trans heq)
  · intro hends
    exact hflatten ▸ not_holds_flatten hapart hends
  · rw [result_placeholders, Expander.expand_of_not_holds (Expander.maxDepth_of_expand h) hfree]

/-- Values in braces of their own: a key, and a placeholder. -/
def braced : Expander where
  values := [("a", .text "\x7bb\x7d"), ("k", .text "\x7b$\x7bj\x7d\x7d"), ("j", .text "y")]

theorem placeholders_apart :
    let host : Host Unit := { caller := () }
    braced.keepsUnknown = false ∧ result (placeholders braced false "p$\x7bk\x7d$") host = .ok (some "p\x7by\x7d$") ∧
      ¬Holds "p\x7by\x7d$".toList ∧
      result (placeholders braced false "p\x7by\x7d$") host = .ok (some "p\x7by\x7d$") := by
  intro host
  have hanswer : result (placeholders braced false "p$\x7bk\x7d$") host = .ok (some "p\x7by\x7d$") := by
    rw [result_placeholders]
    exact congrArg Except.ok (by decide +kernel)
  obtain ⟨⟨parts, hparts, -, -, -, hfree⟩, hagain⟩ := placeholders_seams braced false _ _ host rfl hanswer
  have hk : WellFormed ['k'] none := ⟨by simp, by simp, by simp⟩
  have hj : WellFormed ['j'] none := ⟨by simp, by simp, by simp⟩
  have plain : ∀ {cs : List Char}, '$' ∉ cs → (within braced false host).Stretches cs [cs] :=
    fun hcs => .plain fun hholds => hcs hholds.mem
  have hvalue : (within braced false host).Stretches (['\x7b'] ++ (written ['j'] none ++ ['\x7d']))
      [['\x7b'], ['y'], ['\x7d']] :=
    .value (fun h => absurd h.mem (by decide)) hj rfl (plain (by decide)) (plain (by decide))
  have hend : (within braced false host).Stretches ['$'] [['$']] := .plain (not_holds_of_plain (by simp))
  have hall : (within braced false host).Stretches (['p'] ++ (written ['k'] none ++ ['$']))
      [['p'], ['\x7b'], ['y'], ['\x7d'], ['$']] :=
    .value (fun h => absurd h.mem (by decide)) hk rfl hvalue hend
  obtain rfl := (hparts _).mp hall
  have hdollar : ∀ part ∈ [['p'], ['\x7b'], ['y'], ['\x7d'], ['$']].dropLast, '$' ∉ part := by decide
  have hnone : ¬Holds "p\x7by\x7d$".toList := hfree fun part hpart hends => hdollar part hpart hends.mem
  exact ⟨rfl, hanswer, hnone, hagain hnone⟩

/-- A dollar and the value behind it make a placeholder, which neither of them holds. -/
theorem placeholders_joined :
    let host : Host Unit := { caller := () }
    braced.keepsUnknown = false ∧ result (placeholders braced false "$$\x7ba\x7d") host = .ok (some "$\x7bb\x7d") ∧
      Holds "$\x7bb\x7d".toList ∧ result (placeholders braced false "$\x7bb\x7d") host = .ok none := by
  intro host
  have hb : WellFormed ['b'] none := ⟨by simp, by simp, by simp⟩
  refine ⟨rfl, ?_, holds_written hb [] [], ?_⟩
  · rw [result_placeholders]
    exact congrArg Except.ok (by decide +kernel)
  · rw [result_placeholders]
    exact congrArg Except.ok (by decide +kernel)

end AliasBook.Resolver
