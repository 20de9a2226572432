import AliasBook.Proofs.Placeholder.Expands
import AliasBook.Proofs.Registry.Result
import AliasBook.Registry.Resolvers
import Mathlib.Data.List.Dedup

/-! The expansion that is found is the expansion of the text, as long as values may be as deep inside each other as
    there are keys (`expand_eq_some_iff`). A key in progress is only met again on the way around a circle, and what is
    in a circle has no expansion. -/

namespace AliasBook.Placeholder.Expander
variable {x : Expander} {key cs rest s : List Char} {default : Option (List Char)} {c : Char} {k name : String}
variable {inProgress : List String} {depth : Nat}

/-- The keys that have values. -/
def keys (x : Expander) : List String :=
  x.values.map Prod.fst ++ (x.environment.getD []).map Prod.fst

theorem mem_keys_iff : k ∈ x.keys ↔ ∃ raw, x.lookUp k = some raw := by
  have hvalue : k ∈ x.values.map Prod.fst ↔ (x.values.lookup k).isSome := by
    simp [List.lookup_isSome_iff]
  have hvariable : k ∈ (x.environment.getD []).map Prod.fst ↔ (x.environment.bind (·.get? k)).isSome := by
    cases x.environment <;> simp [Environment.get?, List.lookup_isSome_iff]
  rw [keys, List.mem_append, hvalue, hvariable, lookUp]
  cases x.values.lookup k with
  | some v => simp
  | none => simp [Option.isSome_iff_exists]

/-! ### The search, text by text -/

/-- The characters that are found for a text. -/
def expandText (x : Expander) (depth : Nat) (inProgress : List String) (cs : List Char) : Option (List Char) :=
  (x.expandWithin depth inProgress (String.ofList cs)).map String.toList

/-- The characters that are found for a piece. -/
def expandPart (x : Expander) (depth : Nat) (inProgress : List String) (piece : Piece) : Option (List Char) :=
  (x.expandPiece inProgress (fun name raw => x.expandWithin depth (name :: inProgress) raw) piece).map String.toList

theorem expandText_nil : x.expandText (depth + 1) inProgress [] = some [] := by
  simp [expandText, expandWithin, pieces]

theorem expandText_of_pieces {piece : Piece} (h : pieces cs = piece :: pieces rest) :
    x.expandText (depth + 1) inProgress cs = (x.expandPart depth inProgress piece).bind fun t =>
      (x.expandText (depth + 1) inProgress rest).map (t ++ ·) := by
  simp only [expandText, expandPart, expandWithin, String.toList_ofList, h, List.mapM_cons]
  cases x.expandPiece inProgress (fun name raw => x.expandWithin depth (name :: inProgress) raw) piece with
  | none => rfl
  | some t =>
    cases (pieces rest).mapM (x.expandPiece inProgress fun name raw =>
        x.expandWithin depth (name :: inProgress) raw) with
    | none => rfl
    | some ts => simp [String.join_cons]

theorem expandText_char (h : ¬Opens (c :: cs)) :
    x.expandText (depth + 1) inProgress (c :: cs) = (x.expandText (depth + 1) inProgress cs).map (c :: ·) := by
  rw [expandText_of_pieces (pieces_char h)]
  simp [expandPart, expandPiece]

theorem expandText_written_iff (h : WellFormed key default) :
    x.expandText (depth + 1) inProgress (written key default ++ rest) = some s ↔
      ∃ t s', x.expandPart depth inProgress (.hole key default) = some t ∧
        x.expandText (depth + 1) inProgress rest = some s' ∧ s = t ++ s' := by
  simp only [expandText_of_pieces (pieces_written h), Option.bind_eq_some_iff, Option.map_eq_some_iff]
  constructor
  · rintro ⟨t, hpart, s', hrest, rfl⟩
    exact ⟨t, s', hpart, hrest, rfl⟩
  · rintro ⟨t, s', hpart, hrest, rfl⟩
    exact ⟨t, hpart, s', hrest, rfl⟩

theorem expandText_of_not_holds (h : ¬Holds cs) : x.expandText (depth + 1) inProgress cs = some cs := by
  induction cs with
  | nil => exact expandText_nil
  | cons c cs ih =>
    rw [holds_cons_iff, not_or] at h
    rw [expandText_char h.1, ih h.2]
    rfl

/-! ### The search, placeholder by placeholder -/

theorem expandPart_inProgress (h : nameOf key ∈ inProgress) :
    x.expandPart depth inProgress (.hole key default) = none := by
  unfold nameOf at h
  simp [expandPart, expandPiece, h]

theorem expandPart_value {raw : String} (h : nameOf key ∉ inProgress) (hraw : x.lookUp (nameOf key) = some raw) :
    x.expandPart depth inProgress (.hole key default) =
      x.expandText depth (nameOf key :: inProgress) raw.toList := by
  unfold nameOf at *
  simp [expandPart, expandPiece, expandText, h, hraw]

theorem expandPart_default {text : List Char} (h : nameOf key ∉ inProgress) (hnone : x.lookUp (nameOf key) = none) :
    x.expandPart depth inProgress (.hole key (some text)) =
      x.expandText depth (nameOf key :: inProgress) text := by
  unfold nameOf at *
  simp [expandPart, expandPiece, expandText, h, hnone]

theorem expandPart_unknown (h : nameOf key ∉ inProgress) (hnone : x.lookUp (nameOf key) = none) :
    x.expandPart depth inProgress (.hole key none) = if x.keepsUnknown then some (written key none) else none := by
  unfold nameOf at *
  cases hkeeps : x.keepsUnknown <;> simp [expandPart, expandPiece, written, h, hnone, hkeeps]

/-! ### What is found is the expansion -/

theorem expands_of_expandText (h : x.expandText depth inProgress cs = some s) : x.Expands cs s := by
  induction depth generalizing inProgress cs s with
  | zero => cases h
  | succ depth ihdepth =>
    induction cs using text_induction generalizing s with
    | nil =>
      rw [expandText_nil] at h
      cases h
      exact .nil
    | char c cs hchar ih =>
      rw [expandText_char hchar, Option.map_eq_some_iff] at h
      obtain ⟨s', hrest, rfl⟩ := h
      exact .char hchar (ih hrest)
    | hole key default rest hform ih =>
      obtain ⟨t, s', hpart, hrest, rfl⟩ := (expandText_written_iff hform).mp h
      have hfree : nameOf key ∉ inProgress := by
        intro hin
        rw [expandPart_inProgress hin] at hpart
        cases hpart
      cases hlook : x.lookUp (nameOf key) with
      | some raw =>
        rw [expandPart_value hfree hlook] at hpart
        exact .value hform hlook (ihdepth hpart) (ih hrest)
      | none =>
        cases default with
        | some text =>
          rw [expandPart_default hfree hlook] at hpart
          -- The default holds no placeholder, but it takes one more level.
          cases depth with
          | zero => cases hpart
          | succ depth =>
            rw [expandText_of_not_holds (not_holds_of_plain (hform.default text rfl))] at hpart
            cases hpart
            exact .default hform hlook (ih hrest)
        | none =>
          rw [expandPart_unknown hfree hlook] at hpart
          split at hpart
          · rename_i hkeeps
            cases hpart
            exact .kept hform hlook hkeeps (ih hrest)
          · cases hpart

/-! ### The expansion is found -/

/-- The keys in progress are different keys with values, and each leads to whatever the text asks for. -/
structure Underway (x : Expander) (inProgress : List String) (cs : List Char) : Prop where
  distinct : inProgress.Nodup
  known : ∀ k ∈ inProgress, k ∈ x.keys
  leads : ∀ k ∈ inProgress, ∀ k', Mentions k' cs → Relation.TransGen x.Refers k k'

theorem Underway.start : Underway x [] cs := ⟨.nil, by simp, by simp⟩

theorem Underway.of_mentions (h : Underway x inProgress cs) (hrest : ∀ k, Mentions k rest → Mentions k cs) :
    Underway x inProgress rest :=
  ⟨h.distinct, h.known, fun k hk k' hk' => h.leads k hk k' (hrest k' hk')⟩

theorem Underway.behind (h : Underway x inProgress (written key default ++ rest)) (hform : WellFormed key default) :
    Underway x inProgress rest :=
  h.of_mentions fun _ hk => (mentions_written hform).mpr (Or.inr hk)

/-- A key that is met again is part of a circle. -/
theorem Underway.free (h : Underway x inProgress cs) (hname : Mentions name cs) (hcs : x.Expands cs s) :
    name ∉ inProgress := fun hin =>
  hcs.not_circular name hname ⟨name, .refl, h.leads name hin name hname⟩

theorem Underway.value {raw : String} (h : Underway x inProgress cs) (hname : Mentions name cs)
    (hfree : name ∉ inProgress) (hraw : x.lookUp name = some raw) :
    Underway x (name :: inProgress) raw.toList := by
  refine ⟨List.nodup_cons.mpr ⟨hfree, h.distinct⟩, ?_, ?_⟩
  · intro k hk
    rcases List.mem_cons.mp hk with rfl | hk
    · exact mem_keys_iff.mpr ⟨raw, hraw⟩
    · exact h.known k hk
  · intro k hk k' hk'
    have hstep : x.Refers name k' := ⟨raw, hraw, hk'⟩
    rcases List.mem_cons.mp hk with rfl | hk
    · exact .single hstep
    · exact (h.leads k hk name hname).tail hstep

theorem Underway.length_le (h : Underway x inProgress cs) : inProgress.length ≤ x.keys.dedup.length :=
  h.distinct.length_le_of_subset fun k hk => List.mem_dedup.mpr (h.known k hk)

theorem Underway.exists_below (h : Underway x inProgress cs)
    (hdepth : x.keys.dedup.length + 1 ≤ depth + inProgress.length) : ∃ below, depth = below + 1 := by
  have := h.length_le
  exact ⟨depth - 1, by omega⟩

theorem Underway.unknown_free (h : Underway x inProgress cs) (hnone : x.lookUp name = none) : name ∉ inProgress := by
  intro hin
  obtain ⟨raw, hraw⟩ := mem_keys_iff.mp (h.known name hin)
  rw [hnone] at hraw
  cases hraw

/-- Below the keys in progress there is one level for each other key, and one more for a default. -/
theorem Expands.expandText (h : x.Expands cs s) (hunder : Underway x inProgress cs)
    (hdepth : x.keys.dedup.length + 1 ≤ depth + inProgress.length) :
    x.expandText (depth + 1) inProgress cs = some s := by
  induction h generalizing inProgress depth with
  | nil => exact expandText_nil
  | char hchar _ ih =>
    rw [expandText_char hchar, ih (hunder.of_mentions fun k => (mentions_char hchar).mpr) hdepth]
    rfl
  | @value key rest t s default raw hform hraw hvalue hrest ihvalue ih =>
    have hmentions : Mentions (nameOf key) (written key default ++ rest) := (mentions_written hform).mpr (Or.inl rfl)
    have hfree := hunder.free hmentions (.value hform hraw hvalue hrest)
    obtain ⟨below, rfl⟩ : ∃ below, depth = below + 1 := hunder.exists_below hdepth
    have hfound : x.expandText (below + 1) (nameOf key :: inProgress) raw.toList = some t := by
      refine ihvalue (hunder.value hmentions hfree hraw) ?_
      rw [List.length_cons]
      omega
    refine (expandText_written_iff hform).mpr ⟨t, s, ?_, ih (hunder.behind hform) hdepth, rfl⟩
    rw [expandPart_value hfree hraw, hfound]
  | @default key text rest s hform hnone hrest ih =>
    obtain ⟨below, rfl⟩ : ∃ below, depth = below + 1 := hunder.exists_below hdepth
    refine (expandText_written_iff hform).mpr ⟨text, s, ?_, ih (hunder.behind hform) hdepth, rfl⟩
    rw [expandPart_default (hunder.unknown_free hnone) hnone, expandText_of_not_holds (not_holds_of_plain (hform.default text rfl))]
  | @kept key rest s hform hnone hkeeps hrest ih =>
    refine (expandText_written_iff hform).mpr ⟨written key none, s, ?_, ih (hunder.behind hform) hdepth, rfl⟩
    rw [expandPart_unknown (hunder.unknown_free hnone) hnone, if_pos hkeeps]

/-! ### The expansion of a text -/

theorem map_toList_expand (x : Expander) (v : String) :
    (x.expand v).map String.toList = x.expandText (x.maxDepth + 1).toNat [] v.toList := by
  simp [expand, expandText]

theorem maxDepth_of_expand {v t : String} (h : x.expand v = some t) : 0 ≤ x.maxDepth := by
  by_contra hneg
  have hlevels : (x.maxDepth + 1).toNat = 0 := by omega
  rw [expand, hlevels] at h
  cases h

theorem expand_of_not_holds {t : String} (hdepth : 0 ≤ x.maxDepth) (h : ¬Holds t.toList) : x.expand t = some t := by
  have hlevels : (x.maxDepth + 1).toNat = x.maxDepth.toNat + 1 := by omega
  have hfound := map_toList_expand x t
  rw [hlevels, expandText_of_not_holds h, Option.map_eq_some_iff] at hfound
  obtain ⟨t', hfound, heq⟩ := hfound
  rw [hfound, String.toList_injective heq]

theorem expands_of_expand {v t : String} (h : x.expand v = some t) : x.Expands v.toList t.toList := by
  have hfound := map_toList_expand x v
  rw [h] at hfound
  exact expands_of_expandText hfound.symm

theorem expand_eq_some_iff {v t : String} (h : (x.keys.dedup.length : Int) + 1 ≤ x.maxDepth) :
    x.expand v = some t ↔ x.Expands v.toList t.toList := by
  refine ⟨expands_of_expand, fun hexpands => ?_⟩
  have hlevels : (x.maxDepth + 1).toNat = x.maxDepth.toNat + 1 := by omega
  have hfound := map_toList_expand x v
  rw [hlevels, hexpands.expandText .start (by simp; omega), Option.map_eq_some_iff] at hfound
  obtain ⟨t', hfound, heq⟩ := hfound
  rw [hfound, String.toList_injective heq]

theorem expand_eq_none_iff {v : String} (h : (x.keys.dedup.length : Int) + 1 ≤ x.maxDepth) :
    x.expand v = none ↔ ¬∃ s, x.Expands v.toList s := by
  rw [Option.eq_none_iff_forall_ne_some]
  constructor
  · rintro hnone ⟨s, hs⟩
    exact hnone (String.ofList s) ((expand_eq_some_iff h).mpr (by simpa using hs))
  · intro hno t ht
    exact hno ⟨_, expands_of_expand ht⟩

/-- However deep values may be inside each other, a circle is not expanded. -/
theorem expand_eq_none_of_circular {v : String} (hk : Mentions k v.toList) (hcircular : x.Circular k) :
    x.expand v = none := by
  rw [Option.eq_none_iff_forall_ne_some]
  intro t ht
  exact (expands_of_expand ht).not_circular k hk hcircular

/-- From some depth on the limit makes no difference. -/
theorem expand_deeper {v : String} {limit : Int} (h : (x.keys.dedup.length : Int) + 1 ≤ x.maxDepth)
    (hlimit : x.maxDepth ≤ limit) : { x with maxDepth := limit }.expand v = x.expand v := by
  have hlimit' : (x.keys.dedup.length : Int) + 1 ≤ limit := by omega
  ext t
  rw [expand_eq_some_iff h, expand_eq_some_iff hlimit']
  exact ⟨fun ht => ht.same (fun _ => rfl) rfl, fun ht => ht.same (fun _ => rfl) rfl⟩

end AliasBook.Placeholder.Expander

namespace AliasBook.Resolver
open Placeholder AliasBook.Action
variable {ρ : Type}

/-- What a host lets an expander see. -/
def within (x : Expander) (fromEnvironment : Bool) (host : Host ρ) : Expander :=
  { x with environment := if fromEnvironment then some host.environment else none }

theorem result_placeholders (x : Expander) (fromEnvironment : Bool) (v : String) (host : Host ρ) :
    result (placeholders x fromEnvironment v) host = .ok ((within x fromEnvironment host).expand v) := rfl

/-- With at least one level more than there are keys, the resolver gives the expansion of every text that has one, and
    declines the others, as those that lead into a circle of keys. It always answers and changes nothing, and more
    levels do not change the answer. -/
theorem placeholders_expand (x : Expander) (fromEnvironment : Bool) (v : String) (host : Host ρ)
    (h : ((within x fromEnvironment host).keys.dedup.length : Int) + 1 ≤ x.maxDepth) :
    let y := within x fromEnvironment host
    let answer := result (placeholders x fromEnvironment v) host
    (∀ t, answer = .ok (some t) ↔ y.Expands v.toList t.toList) ∧
    (answer = .ok none ↔ ¬∃ s, y.Expands v.toList s) ∧
    (∀ k, Mentions k v.toList → y.Circular k → answer = .ok none) ∧
    (∃ found, answer = .ok found) ∧ after (placeholders x fromEnvironment v) host = host ∧
    ∀ limit, x.maxDepth ≤ limit →
      result (placeholders { x with maxDepth := limit } fromEnvironment v) host = answer := by
  intro y answer
  have hanswer : answer = .ok (y.expand v) := result_placeholders x fromEnvironment v host
  have hbound : (y.keys.dedup.length : Int) + 1 ≤ y.maxDepth := h
  rw [hanswer]
  refine ⟨fun t => ?_, ?_, fun k hk hcircular => ?_, ⟨_, rfl⟩, rfl, fun limit hlimit => ?_⟩
  · rw [Except.ok.injEq, Expander.expand_eq_some_iff hbound]
  · rw [Except.ok.injEq, Expander.expand_eq_none_iff hbound]
  · rw [Expander.expand_eq_none_of_circular hk hcircular]
  · rw [result_placeholders]
    exact congrArg Except.ok (Expander.expand_deeper hbound hlimit)

/-- A value that asks for a variable, and one that asks for itself. -/
def greeting : Expander where
  values := [("a", .text "$\x7b b \x7d"), ("c", .text "$\x7bc:d\x7d")]
  maxDepth := 4

theorem placeholders_greeting :
    let host : Host Unit := { environment := [("b", "y")], caller := () }
    ((within greeting true host).keys.dedup.length : Int) + 1 ≤ greeting.maxDepth ∧
      result (placeholders greeting true "p$\x7ba\x7d$\x7be:d\x7d") host = .ok (some "pyd") ∧
      result (placeholders greeting true "$\x7bc\x7d") host = .ok none := by
  intro host
  have hbound : ((within greeting true host).keys.dedup.length : Int) + 1 ≤ greeting.maxDepth := by decide
  refine ⟨hbound, ?_, ?_⟩
  · have ha : WellFormed ['a'] none := ⟨by simp, by simp, by simp⟩
    have hb : WellFormed [' ', 'b', ' '] none := ⟨by simp, by simp, by simp⟩
    have he : WellFormed ['e'] (some ['d']) := ⟨by simp, by simp, by simp⟩
    have hy : (within greeting true host).Expands "y".toList ['y'] := .char (not_opens_of_head (by decide)) .nil
    have hvalue : (within greeting true host).Expands "$\x7b b \x7d".toList ['y'] := .value hb rfl hy .nil
    refine ((placeholders_expand greeting true _ host hbound).1 "pyd").mpr ?_
    exact .char (not_opens_of_head (by decide)) (.value ha rfl hvalue (.default he rfl .nil))
  · have hc : WellFormed ['c'] none := ⟨by simp, by simp, by simp⟩
    have hc' : WellFormed ['c'] (some ['d']) := ⟨by simp, by simp, by simp⟩
    have hmentions : Mentions "c" (written ['c'] none ++ []) := (mentions_written hc).mpr (Or.inl rfl)
    have hmentions' : Mentions "c" (written ['c'] (some ['d']) ++ []) := (mentions_written hc').mpr (Or.inl rfl)
    have hround : (within greeting true host).Refers "c" "c" := ⟨_, rfl, hmentions'⟩
    exact (placeholders_expand greeting true _ host hbound).2.2.1 "c" hmentions ⟨"c", .refl, .single hround⟩

end AliasBook.Resolver
