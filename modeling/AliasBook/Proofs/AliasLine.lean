import AliasBook.AliasLine
import AliasBook.Proofs.Text.Blank

/-! Which lines define aliases, and which they define. `Written` says how a definition stands on a line without saying how to
    read it: a name, an equals sign, and items with commas between, where items may be blank and blanks may stand around
    everything. Of the definitions that can be written so that they are read again (`WellFormed`) a line is read as the one that
    is written on it, if there is one (`parse?_eq_some_iff`). -/

namespace AliasBook.AliasLine

open Text

variable {l : AliasLine} {line a : String} {as : List String} {c sep : Char} {cs xs left rest part : List Char}
  {parts : List (List Char)}

/-! ### How definitions are written -/

/-- Among the parts the aliases stand in order, each one with blanks around it; all other parts are blank. -/
inductive Items : List (List Char) → List String → Prop
  | nil : Items [] []
  | blank {part : List Char} {parts : List (List Char)} {as : List String} :
      Blanks part → Items parts as → Items (part :: parts) as
  | filled {part : List Char} {a : String} {parts : List (List Char)} {as : List String} :
      Padded a.toList part → Items parts as → Items (part :: parts) (a :: as)

/-- The line holds the name, an equals sign, and items with the aliases, between which there are commas. -/
def Written (l : AliasLine) (line : String) : Prop :=
  ∃ left parts, Padded l.name.toList left ∧ Items parts l.aliases ∧ line.toList = left ++ '=' :: [','].intercalate parts

/-- The texts can be told from what stands around them on a line. -/
structure WellFormed (l : AliasLine) : Prop where
  name_ne : l.name ≠ ""
  name_strip : strip l.name = l.name
  name_sign : '=' ∉ l.name.toList
  name_remark : l.name.toList.head? ≠ some '#'
  aliases_ne : l.aliases ≠ []
  alias_ne : ∀ a ∈ l.aliases, a ≠ ""
  alias_strip : ∀ a ∈ l.aliases, strip a = a
  alias_comma : ∀ a ∈ l.aliases, ',' ∉ a.toList

theorem WellFormed.filled (h : l.WellFormed) : isBlank l.name = false ∧ ∀ a ∈ l.aliases, isBlank a = false :=
  ⟨isBlank_of_strip h.name_strip h.name_ne, fun a ha => isBlank_of_strip (h.alias_strip a ha) (h.alias_ne a ha)⟩

/-- The line that holds the definition and nothing else. -/
def render (l : AliasLine) : String :=
  l.name ++ "=" ++ ",".intercalate l.aliases

/-! ### Parts between separators -/

theorem splitAt_eq_splitOn (sep : Char) (cs : List Char) : splitAt sep cs = cs.splitOn sep := by
  induction cs with
  | nil => rfl
  | cons c cs ih =>
    rw [splitAt, List.splitOn_cons_eq_if_modifyHead, ih]
    obtain ⟨part, parts, hsplit⟩ := List.exists_cons_of_ne_nil (List.splitOn_ne_nil sep cs)
    simp [hsplit]

theorem splitAt_intercalate (hfree : ∀ part ∈ parts, sep ∉ part) (hne : parts ≠ []) :
    splitAt sep ([sep].intercalate parts) = parts := by
  rw [splitAt_eq_splitOn, List.splitOn_intercalate sep hfree hne]

theorem intercalate_splitAt (sep : Char) (cs : List Char) : [sep].intercalate (splitAt sep cs) = cs := by
  rw [splitAt_eq_splitOn, List.intercalate_splitOn]

theorem splitAt_of_not_mem (h : sep ∉ cs) : splitAt sep cs = [cs] := by
  rw [splitAt_eq_splitOn, List.splitOn_eq_singleton h]

/-- What is put behind the characters and holds no separator belongs to their last part. -/
theorem splitAt_append (h : sep ∉ xs) (cs : List Char) :
    ∃ init last, splitAt sep cs = init ++ [last] ∧ splitAt sep (cs ++ xs) = init ++ [last ++ xs] := by
  induction cs with
  | nil => exact ⟨[], [], rfl, splitAt_of_not_mem h⟩
  | cons c cs ih =>
    obtain ⟨init, last, hcs, happend⟩ := ih
    by_cases hc : c = sep
    · exact ⟨[] :: init, last, by simp [splitAt, hc, hcs], by simp [splitAt, hc, happend]⟩
    · cases init with
      | nil => exact ⟨[], c :: last, by simp [splitAt, hc, hcs], by simp [splitAt, hc, happend]⟩
      | cons first init =>
        exact ⟨(c :: first) :: init, last, by simp [splitAt, hc, hcs], by simp [splitAt, hc, happend]⟩

theorem not_mem_of_mem_splitAt (h : part ∈ splitAt sep cs) : sep ∉ part := by
  induction cs generalizing part with
  | nil =>
    obtain rfl := List.mem_singleton.mp h
    exact List.not_mem_nil
  | cons c cs ih =>
    rw [splitAt] at h
    split at h
    · obtain rfl | hmem := List.mem_cons.mp h
      · exact List.not_mem_nil
      · exact ih hmem
    · rename_i hc
      split at h
      · obtain rfl := List.mem_singleton.mp h
        simpa using Ne.symm hc
      · rename_i first others hsplit
        rw [hsplit] at ih
        obtain rfl | hmem := List.mem_cons.mp h
        · exact List.not_mem_cons_of_ne_of_not_mem (Ne.symm hc) (ih List.mem_cons_self)
        · exact ih (List.mem_cons_of_mem _ hmem)

/-! ### Items -/

/-- The aliases that parts hold. -/
def heldBy (parts : List (List Char)) : List String :=
  ((parts.map stripChars).filter fun a => !a.isEmpty).map String.ofList

theorem heldBy_cons (part : List Char) (parts : List (List Char)) :
    heldBy (part :: parts) = heldBy [part] ++ heldBy parts := by
  rw [heldBy, List.map_cons, ← List.singleton_append, List.filter_append, List.map_append]
  rfl

theorem heldBy_append (parts parts' : List (List Char)) : heldBy (parts ++ parts') = heldBy parts ++ heldBy parts' := by
  simp [heldBy]

theorem heldBy_of_blanks (h : Blanks part) : heldBy [part] = [] := by
  simp [heldBy, stripChars_eq_nil_iff.mpr h]

theorem heldBy_of_padded (hne : a ≠ "") (hstrip : strip a = a) (h : Padded a.toList part) : heldBy [part] = [a] := by
  simp [heldBy, h.stripChars_eq, strip_eq_self_iff.mp hstrip, hne]

theorem mem_heldBy (h : a ∈ heldBy parts) : a ≠ "" ∧ ∃ part ∈ parts, a.toList = stripChars part := by
  obtain ⟨cs, hcs, rfl⟩ := List.mem_map.mp h
  obtain ⟨hmem, hne⟩ := List.mem_filter.mp hcs
  obtain ⟨part, hpart, rfl⟩ := List.mem_map.mp hmem
  exact ⟨by simpa using hne, part, hpart, String.toList_ofList⟩

namespace Items

theorem of_heldBy (parts : List (List Char)) : Items parts (heldBy parts) := by
  induction parts with
  | nil => exact .nil
  | cons part parts ih =>
    by_cases hpart : stripChars part = []
    · have hblank := stripChars_eq_nil_iff.mp hpart
      rw [heldBy_cons, heldBy_of_blanks hblank]
      exact .blank hblank ih
    · have hheld : heldBy [part] = [String.ofList (stripChars part)] := by simp [heldBy, hpart]
      rw [heldBy_cons, hheld]
      exact .filled (by simpa using padded_stripChars part) ih

theorem heldBy_eq (h : Items parts as) (hne : ∀ a ∈ as, a ≠ "") (hstrip : ∀ a ∈ as, strip a = a) : heldBy parts = as := by
  induction h with
  | nil => rfl
  | blank hpart _ ih => rw [heldBy_cons, heldBy_of_blanks hpart, ih hne hstrip, List.nil_append]
  | filled hpart _ ih =>
    obtain ⟨hne₁, hne₂⟩ := List.forall_mem_cons.mp hne
    obtain ⟨hstrip₁, hstrip₂⟩ := List.forall_mem_cons.mp hstrip
    rw [heldBy_cons, heldBy_of_padded hne₁ hstrip₁ hpart, ih hne₂ hstrip₂, List.singleton_append]

theorem forall_not_mem_iff (h : Items parts as) (hc : isBlankChar c = false) :
    (∀ part ∈ parts, c ∉ part) ↔ ∀ a ∈ as, c ∉ a.toList := by
  induction h with
  | nil => simp
  | blank hpart _ ih => rw [List.forall_mem_cons, ih, and_iff_right (hpart.not_mem hc)]
  | filled hpart _ ih => rw [List.forall_mem_cons, List.forall_mem_cons, ih, hpart.mem_iff hc]

theorem ne_nil (h : Items parts as) (has : as ≠ []) : parts ≠ [] := by
  rintro rfl
  cases h
  exact has rfl

theorem map_toList (as : List String) : Items (as.map String.toList) as := by
  induction as with
  | nil => exact .nil
  | cons a as ih => exact .filled (.refl _) ih

end Items

/-- Blanks behind the last item do not count. -/
theorem heldBy_splitAt_append (h : Blanks xs) (cs : List Char) :
    heldBy (splitAt ',' (cs ++ xs)) = heldBy (splitAt ',' cs) := by
  obtain ⟨init, last, hcs, happend⟩ := splitAt_append (h.not_mem (c := ',') (by decide)) cs
  have hlast : heldBy [last ++ xs] = heldBy [last] := by
    simp [heldBy, ((Padded.refl last).append_right h).stripChars_eq]
  rw [hcs, happend, heldBy_append, heldBy_append, hlast]

/-! ### Reading a line -/

theorem isSkipped_eq_true_iff :
    isSkipped line = true ↔ stripChars line.toList = [] ∨ (stripChars line.toList).head? = some '#' := by
  unfold isSkipped
  split
  · simp [*]
  · simp [*]
  · rename_i hnil hremark
    cases hcs : stripChars line.toList with
    | nil => exact absurd hcs hnil
    | cons c cs => simpa using fun h : c = '#' => hremark cs (h ▸ hcs)

theorem parse?_of_not_mem (h : '=' ∉ line.toList) : parse? line = none := by
  have hdrop : (stripChars line.toList).dropWhile (· ≠ '=') = [] :=
    List.dropWhile_eq_nil_iff.mpr fun c hc => by
      simpa using fun heq : c = '=' => h (heq ▸ (padded_stripChars line.toList).subset hc)
  unfold parse?
  split
  · rfl
  · dsimp only
    rw [hdrop]

/-- The ends of the line are stripped before it is cut at the equals sign, which makes no difference to the equals sign. -/
theorem stripChars_of_split (hline : line.toList = left ++ '=' :: rest) :
    stripChars line.toList = stripFront left ++ '=' :: stripBack rest := by
  rw [hline, stripChars_append_cons (by decide)]

theorem isSkipped_iff_of_split (hline : line.toList = left ++ '=' :: rest) :
    isSkipped line = true ↔ (stripChars left).head? = some '#' := by
  rw [isSkipped_eq_true_iff, stripChars_of_split hline, head?_stripChars]
  cases stripFront left with
  | nil => simp
  | cons c cs => simp

/-- The first equals sign ends the name, and what is behind it falls into items. -/
theorem parse?_of_split (hleft : '=' ∉ left) (hline : line.toList = left ++ '=' :: rest) :
    parse? line =
      if (stripChars left).head? = some '#' ∨ stripChars left = [] ∨ heldBy (splitAt ',' rest) = [] then none
      else some { name := String.ofList (stripChars left), aliases := heldBy (splitAt ',' rest) } := by
  have hfree : ∀ c ∈ stripFront left, decide (c ≠ '=') = true := fun c hc => by
    simpa using fun heq : c = '=' => hleft (heq ▸ List.dropWhile_subset _ hc)
  have htake : (stripFront left ++ '=' :: stripBack rest).takeWhile (· ≠ '=') = stripFront left := by
    rw [List.takeWhile_append_of_pos hfree]
    simp
  have hdrop : (stripFront left ++ '=' :: stripBack rest).dropWhile (· ≠ '=') = '=' :: stripBack rest := by
    rw [List.dropWhile_append_of_pos hfree]
    simp
  -- the blanks that the line loses behind its last item do not count there either
  have hheld : heldBy (splitAt ',' (stripBack rest)) = heldBy (splitAt ',' rest) := by
    obtain ⟨back, hback, hrest⟩ := stripBack_around rest
    conv_rhs => rw [hrest, heldBy_splitAt_append hback]
  by_cases hremark : (stripChars left).head? = some '#'
  · rw [parse?, if_pos ((isSkipped_iff_of_split hline).mpr hremark), if_pos (Or.inl hremark)]
  · rw [parse?, if_neg (mt (isSkipped_iff_of_split hline).mp hremark), stripChars_of_split hline]
    dsimp only
    rw [hdrop, htake, stripChars_stripFront, ← hheld, heldBy]
    simp [hremark]

theorem wellFormed_of_split (hleft : '=' ∉ left) (hname : stripChars left ≠ [])
    (hremark : (stripChars left).head? ≠ some '#') (hitems : heldBy (splitAt ',' rest) ≠ []) :
    WellFormed { name := String.ofList (stripChars left), aliases := heldBy (splitAt ',' rest) } where
  name_ne := by simpa using hname
  name_strip := strip_eq_self_iff.mpr (by simp [stripChars_stripChars])
  name_sign := by simpa using fun hmem => hleft ((padded_stripChars left).subset hmem)
  name_remark := by simpa using hremark
  aliases_ne := hitems
  alias_ne a ha := (mem_heldBy ha).1
  alias_strip a ha := by
    obtain ⟨-, part, -, hpart⟩ := mem_heldBy ha
    rw [strip_eq_self_iff, hpart, stripChars_stripChars]
  alias_comma a ha hmem := by
    obtain ⟨-, part, hsplit, hpart⟩ := mem_heldBy ha
    rw [hpart] at hmem
    exact not_mem_of_mem_splitAt hsplit ((padded_stripChars part).subset hmem)

theorem written_of_split (hline : line.toList = left ++ '=' :: rest) :
    Written { name := String.ofList (stripChars left), aliases := heldBy (splitAt ',' rest) } line :=
  ⟨left, splitAt ',' rest, by simpa using padded_stripChars left, .of_heldBy _, by rw [intercalate_splitAt, hline]⟩

/-- A line is read as what is written on it. -/
theorem parse?_eq_some_iff : parse? line = some l ↔ l.WellFormed ∧ l.Written line := by
  constructor
  · intro h
    by_cases hmem : '=' ∈ line.toList
    · obtain ⟨left, rest, hline, hleft⟩ := List.eq_append_cons_of_mem hmem
      rw [parse?_of_split hleft hline] at h
      split at h
      · cases h
      · rename_i hread
        obtain ⟨hremark, hread⟩ := not_or.mp hread
        obtain ⟨hname, hitems⟩ := not_or.mp hread
        obtain rfl := Option.some.inj h
        exact ⟨wellFormed_of_split hleft hname hremark hitems, written_of_split hline⟩
    · rw [parse?_of_not_mem hmem] at h
      cases h
  · rintro ⟨hl, left, parts, hleft, hitems, hline⟩
    have hsign : '=' ∉ left := mt (hleft.mem_iff (by decide)).mp hl.name_sign
    have hcomma : ∀ part ∈ parts, ',' ∉ part := (hitems.forall_not_mem_iff (by decide)).mpr hl.alias_comma
    have hname : stripChars left = l.name.toList := stripChars_eq_iff.mpr ⟨strip_eq_self_iff.mp hl.name_strip, hleft⟩
    have hheld : heldBy (splitAt ',' ([','].intercalate parts)) = l.aliases := by
      rw [splitAt_intercalate hcomma (hitems.ne_nil hl.aliases_ne), hitems.heldBy_eq hl.alias_ne hl.alias_strip]
    rw [parse?_of_split hsign hline, hname, hheld, if_neg, String.ofList_toList]
    simpa using ⟨hl.name_remark, hl.name_ne, hl.aliases_ne⟩

theorem written_render (l : AliasLine) : l.Written l.render :=
  ⟨l.name.toList, l.aliases.map String.toList, .refl _, .map_toList _, by simp [render, String.toList_intercalate]⟩

/-- A line is read as a definition exactly if it is one that can be written and is written on the line; what was read is
    read again from the line that holds nothing else; and no definition is read exactly if none is written on the line. -/
theorem reads_what_is_written (line : String) :
    (∀ l, parse? line = some l ↔ l.WellFormed ∧ l.Written line) ∧
      (∀ l, parse? line = some l → parse? l.render = some l) ∧
      (parse? line = none ↔ ∀ l : AliasLine, l.WellFormed → ¬l.Written line) := by
  refine ⟨fun l => parse?_eq_some_iff, fun l h => ?_, ?_⟩
  · exact parse?_eq_some_iff.mpr ⟨(parse?_eq_some_iff.mp h).1, written_render l⟩
  · rw [Option.eq_none_iff_forall_ne_some]
    exact forall_congr' fun l => (not_congr parse?_eq_some_iff).trans not_and

/-- A name may hold commas, and an alias equals signs and number signs. -/
theorem reads_signs_inside :
    parse? "\u3000f,g = x=y ,, #z\n" = some { name := "f,g", aliases := ["x=y", "#z"] } ∧
      parse? "f,g=x=y,#z" = some { name := "f,g", aliases := ["x=y", "#z"] } ∧
      ∀ l : AliasLine, l.WellFormed → ¬l.Written " #f = x" := by
  refine ⟨((reads_what_is_written _).1 _).mpr ⟨by constructor <;> decide, ?_⟩, ?_, ?_⟩
  · have hname : Padded "f,g".toList ['\u3000', 'f', ',', 'g', ' '] := ⟨['\u3000'], [' '], by decide, by decide, rfl⟩
    have hsign : Padded "x=y".toList [' ', 'x', '=', 'y', ' '] := ⟨[' '], [' '], by decide, by decide, rfl⟩
    have hremark : Padded "#z".toList [' ', '#', 'z', '\n'] := ⟨[' '], ['\n'], by decide, by decide, rfl⟩
    exact ⟨_, _, hname, .filled hsign (.blank .nil (.filled hremark .nil)), rfl⟩
  · exact (reads_what_is_written "f,g=x=y, #z").2.1 _ rfl
  · exact (reads_what_is_written " #f = x").2.2.mp rfl

end AliasBook.AliasLine
