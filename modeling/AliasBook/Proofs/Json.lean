import AliasBook.Json.Reader
import AliasBook.Json.Writer
import Mathlib.Tactic.Common

/-! Reading what was written. Values without decimal numbers are read from their JSON text as they were (`read?_write`).
    The reader stops behind a value whatever follows, so that the parts of lists and objects are read one after the
    other (`Reads`). -/

namespace AliasBook

/-- The value is made of nulls, truth values, integers and texts, put into lists and objects at any depth. -/
inductive Value.Exact : Value → Prop
  | null : Exact .null
  | bool (b : Bool) : Exact (.bool b)
  | int (n : Int) : Exact (.int n)
  | text (s : String) : Exact (.text s)
  | list {items : List Value} : (∀ v ∈ items, Exact v) → Exact (.list items)
  | object {fields : List (String × Value)} : (∀ p ∈ fields, Exact p.2) → Exact (.object fields)

namespace Json

open Text
variable {c : Char} {cs rest : List Char} {v : Value} {n fuel : Nat}

/-! ### Texts -/

theorem hexValue?_digitChar : ∀ k < 16, hexValue? (Nat.digitChar k) = some k := by decide

theorem hexNumber?_hexDigits (h : n < 0x10000) :
    ∃ a b c d, hexDigits 4 n = [a, b, c, d] ∧ hexNumber? a b c d = some n := by
  have hdigit (m : Nat) : hexValue? (Nat.digitChar (m % 16)) = some (m % 16) :=
    hexValue?_digitChar _ (Nat.mod_lt m (by decide))
  refine ⟨_, _, _, _, rfl, ?_⟩
  simp only [hexNumber?, hdigit, Option.bind_eq_bind, Option.bind_some, Option.pure_def, Option.some.injEq]
  omega

/-- A character is written as a backslash and a letter, as a backslash and its number, or as it is. -/
theorem escapeChar_cases (c : Char) :
    (∃ d, d ≠ 'u' ∧ escape? d = some c ∧ escapeChar c = ['\\', d]) ∨
      (c.toNat < 0x20 ∧ escapeChar c = '\\' :: 'u' :: hexDigits 4 c.toNat) ∨
      (c ≠ '"' ∧ c ≠ '\\' ∧ 0x20 ≤ c.toNat ∧ escapeChar c = [c]) := by
  by_cases hletter : c ∈ ['"', '\\', '\n', '\r', '\t', '\x08', '\x0c']
  · left
    simp only [List.mem_cons, List.not_mem_nil, or_false] at hletter
    rcases hletter with rfl | rfl | rfl | rfl | rfl | rfl | rfl
    all_goals exact ⟨_, by decide, rfl, rfl⟩
  · right
    simp only [List.mem_cons, List.not_mem_nil, or_false, not_or] at hletter
    obtain ⟨hquote, hslash, hn, hr, ht, hb, hf⟩ := hletter
    by_cases hlow : c.toNat < 0x20
    · exact Or.inl ⟨hlow, by simp [escapeChar, hquote, hslash, hn, hr, ht, hb, hf, hlow]⟩
    · exact Or.inr ⟨hquote, hslash, by omega, by simp [escapeChar, hquote, hslash, hn, hr, ht, hb, hf, hlow]⟩

theorem readChars_letter {d : Char} (hu : c ≠ 'u') (h : escape? c = some d) (cs : List Char) :
    readChars ('\\' :: c :: cs) = (readChars cs).map fun p => (d :: p.1, p.2) := by
  rw [readChars]
  · simp only [h]
    cases readChars cs <;> rfl
  · rintro _ _ _ _ _ rfl
    exact absurd rfl hu

/-- From `0xd800` on a number may be half of a pair. -/
theorem readChars_number (h : c.toNat < 0xd800) (cs : List Char) :
    readChars ('\\' :: 'u' :: (hexDigits 4 c.toNat ++ cs)) = (readChars cs).map fun p => (c :: p.1, p.2) := by
  obtain ⟨x, y, z, w, hdigits, hnumber⟩ := hexNumber?_hexDigits (n := c.toNat) (by omega)
  have hpair : ¬(0xd800 ≤ c.toNat ∧ c.toNat < 0xe000) := by omega
  simp only [hdigits, List.cons_append, List.nil_append, readChars, hnumber, Option.bind_eq_bind, Option.bind_some,
    if_neg hpair, Char.ofNat_toNat]
  cases readChars cs <;> rfl

theorem readChars_plain (hquote : c ≠ '"') (hslash : c ≠ '\\') (h : 0x20 ≤ c.toNat) (cs : List Char) :
    readChars (c :: cs) = (readChars cs).map fun p => (c :: p.1, p.2) := by
  have hplain : ¬(c = '\\' ∨ c.toNat < 0x20) := by simp [hslash, h]
  rw [readChars]
  · rw [if_neg hplain]
    cases readChars cs <;> rfl
  · exact hquote
  · exact fun _ _ _ _ _ heq _ => hslash heq
  · exact fun _ _ heq _ => hslash heq

theorem readChars_escapeChar (c : Char) (cs : List Char) :
    readChars (escapeChar c ++ cs) = (readChars cs).map fun p => (c :: p.1, p.2) := by
  rcases escapeChar_cases c with ⟨d, hu, hd, hc⟩ | ⟨hlow, hc⟩ | ⟨hquote, hslash, hlow, hc⟩
  · rw [hc]
    exact readChars_letter hu hd cs
  · rw [hc]
    exact readChars_number (by omega) cs
  · rw [hc]
    exact readChars_plain hquote hslash hlow cs

theorem readChars_written (cs rest : List Char) :
    readChars (cs.flatMap escapeChar ++ '"' :: rest) = some (cs, rest) := by
  induction cs with
  | nil => rw [List.flatMap_nil, List.nil_append, readChars]
  | cons c cs ih => rw [List.flatMap_cons, List.append_assoc, readChars_escapeChar, ih]; rfl

theorem writeText_append (s : String) (rest : List Char) :
    writeText s ++ rest = '"' :: (s.toList.flatMap escapeChar ++ '"' :: rest) := by
  simp [writeText]

/-! ### Numbers -/

/-- A number does not go on with these characters. -/
def Ends (rest : List Char) : Prop :=
  ∀ c ∈ rest.head?, c.isDigit = false ∧ c ≠ '.' ∧ c ≠ 'e' ∧ c ≠ 'E'

theorem isDigit_of_mem (h : c ∈ Nat.toDigits 10 n) : c.isDigit = true :=
  Nat.isDigit_of_mem_toDigits (by decide) (by decide) h

/-- An integer is written as a minus and digits, or as digits. -/
theorem intChars_cases (n : Int) :
    (n < 0 ∧ Value.intChars n = '-' :: Nat.toDigits 10 n.natAbs) ∨
      (0 ≤ n ∧ ∃ c cs, c.isDigit = true ∧ Nat.toDigits 10 n.natAbs = c :: cs ∧ Value.intChars n = c :: cs) := by
  unfold Value.intChars
  split
  case isTrue hneg => exact Or.inl ⟨hneg, rfl⟩
  case isFalse hpos =>
    obtain ⟨c, cs, hdigits⟩ := List.exists_cons_of_ne_nil (Nat.toDigits_ne_nil (b := 10) (n := n.natAbs))
    exact Or.inr ⟨by omega, c, cs, isDigit_of_mem (hdigits ▸ List.mem_cons_self ..), hdigits, hdigits⟩

/-- No digit follows a zero in front. -/
theorem toDigits_ne_zero_cons (n : Nat) (d : Char) (ds : List Char) : Nat.toDigits 10 n ≠ '0' :: d :: ds := by
  induction n using Nat.strongRecOn generalizing d ds with
  | ind n ih =>
    intro h
    rw [Nat.toDigits_eq_if (by decide)] at h
    split at h
    case isTrue hsmall => simp at h
    case isFalse hlarge =>
      -- The digits in front of the last one begin with the zero as well, so that they are nothing but it.
      match hfront : Nat.toDigits 10 (n / 10) with
      | [] => exact Nat.toDigits_ne_nil hfront
      | [z] =>
        rw [hfront] at h
        obtain ⟨rfl, -⟩ := List.cons.inj h
        have hzero : n / 10 = 0 := by
          rw [← Nat.ofDigitChars_ten_toDigits (n := n / 10), hfront]
          rfl
        omega
      | z :: e :: es =>
        rw [hfront] at h
        obtain ⟨rfl, -⟩ := List.cons.inj h
        exact ih (n / 10) (by omega) e es hfront

theorem readDigits_toDigits (n : Nat) (hrest : Ends rest) :
    readDigits (Nat.toDigits 10 n ++ rest) = some (Nat.toDigits 10 n, rest) := by
  have hdigits : ∀ c ∈ Nat.toDigits 10 n, c.isDigit = true := fun _ => isDigit_of_mem
  have hnone : rest.takeWhile Char.isDigit = [] ∧ rest.dropWhile Char.isDigit = rest := by
    cases rest with
    | nil => exact ⟨rfl, rfl⟩
    | cons c rest => simp [(hrest c rfl).1]
  unfold readDigits
  rw [List.takeWhile_append_of_pos hdigits, List.dropWhile_append_of_pos hdigits, hnone.1, hnone.2, List.append_nil]
  split
  case h_1 hnil => exact absurd hnil Nat.toDigits_ne_nil
  case h_2 => rfl

theorem readWhole_toDigits (n : Nat) (hrest : Ends rest) :
    readWhole (Nat.toDigits 10 n ++ rest) = some (Nat.toDigits 10 n, rest) := by
  rw [readWhole, readDigits_toDigits n hrest, Option.bind_eq_bind, Option.bind_some]
  dsimp only
  split
  case h_1 d ds hzero => exact absurd hzero (toDigits_ne_zero_cons n d ds)
  case h_2 => rfl

theorem readNumber_toDigits (negative : Bool) (n : Nat) (hrest : Ends rest) :
    readNumber negative (Nat.toDigits 10 n ++ rest) = some (.int (if negative then -(n : Int) else n), rest) := by
  have hplaces : readPlaces rest = some (none, rest) := by
    rw [readPlaces]
    rintro cs rfl
    exact (hrest _ rfl).2.1 rfl
  have hexponent : readExponent rest = some (none, rest) := by
    cases rest with
    | nil => rfl
    | cons c rest => simp [readExponent, (hrest c rfl).2.2.1, (hrest c rfl).2.2.2]
  simp [readNumber, readWhole_toDigits n hrest, hplaces, hexponent, number]

/-! ### One step of the readers -/

theorem skipGap_cons (h : isGap c = false) (cs : List Char) : skipGap (c :: cs) = c :: cs :=
  List.dropWhile_cons_of_neg (by simp [h])

theorem skipGap_space (cs : List Char) : skipGap (' ' :: cs) = skipGap cs := rfl

theorem isGap_of_isDigit (h : c.isDigit = true) : isGap c = false := by
  simp only [isGap, Bool.or_eq_false_iff, beq_eq_false_iff_ne]
  refine ⟨⟨⟨?_, ?_⟩, ?_⟩, ?_⟩ <;> (rintro rfl; simp at h)

theorem readValue_space (fuel : Nat) (cs : List Char) : readValue fuel (' ' :: cs) = readValue fuel cs := by
  cases fuel <;> simp only [readValue, skipGap_space]

theorem readItems_space (fuel : Nat) (cs : List Char) : readItems fuel (' ' :: cs) = readItems fuel cs := by
  cases fuel <;> simp only [readItems, readValue_space]

theorem readFields_space (fuel : Nat) (cs : List Char) : readFields fuel (' ' :: cs) = readFields fuel cs := by
  cases fuel <;> simp only [readFields, skipGap_space]

theorem readValue_digit (h : c.isDigit = true) (fuel : Nat) (cs : List Char) :
    readValue (fuel + 1) (c :: cs) = readNumber false (c :: cs) := by
  rw [readValue, skipGap_cons (isGap_of_isDigit h)]
  split
  case h_8 => rfl
  all_goals (rename_i heq; cases heq; simp at h)

theorem readValue_list (h : isGap c = false) (hend : c ≠ ']') (fuel : Nat) (cs : List Char) :
    readValue (fuel + 1) ('[' :: c :: cs) = (readItems fuel (c :: cs)).map fun p => (.list p.1, p.2) := by
  rw [readValue, skipGap_cons (by decide)]
  simp only [skipGap_cons h]
  split
  case h_1 heq => exact absurd (List.cons.inj heq).1 hend
  case h_2 => cases readItems fuel (c :: cs) <;> rfl

theorem readValue_object (fuel : Nat) (cs : List Char) :
    readValue (fuel + 1) ('\x7b' :: '"' :: cs) = (readFields fuel ('"' :: cs)).map fun p => (.object p.1, p.2) := by
  rw [readValue, skipGap_cons (by decide)]
  simp only [skipGap_cons (c := '"') (by decide)]
  split
  case h_1 heq => cases heq
  case h_2 => cases readFields fuel ('"' :: cs) <;> rfl

theorem readItems_last (h : readValue fuel cs = some (v, ']' :: rest)) :
    readItems (fuel + 1) cs = some ([v], rest) := by
  simp only [readItems, h, Option.bind_eq_bind, Option.bind_some, skipGap_cons (c := ']') (by decide), Option.pure_def]

theorem readItems_more (h : readValue fuel cs = some (v, ',' :: rest)) :
    readItems (fuel + 1) cs = (readItems fuel rest).map fun p => (v :: p.1, p.2) := by
  simp only [readItems, h, Option.bind_eq_bind, Option.bind_some, skipGap_cons (c := ',') (by decide)]
  cases readItems fuel rest <;> rfl

theorem readFields_last {key : String} (h : readValue fuel cs = some (v, '\x7d' :: rest)) :
    readFields (fuel + 1) (writeText key ++ ':' :: cs) = some ([(key, v)], rest) := by
  simp only [readFields, writeText_append, skipGap_cons (c := '"') (by decide), readChars_written, Option.bind_eq_bind,
    Option.bind_some, skipGap_cons (c := ':') (by decide), h, skipGap_cons (c := '\x7d') (by decide), Option.pure_def,
    String.ofList_toList]

theorem readFields_more {key : String} (h : readValue fuel cs = some (v, ',' :: rest)) :
    readFields (fuel + 1) (writeText key ++ ':' :: cs) = (readFields fuel rest).map fun p => ((key, v) :: p.1, p.2) := by
  simp only [readFields, writeText_append, skipGap_cons (c := '"') (by decide), readChars_written, Option.bind_eq_bind,
    Option.bind_some, skipGap_cons (c := ':') (by decide), h, skipGap_cons (c := ',') (by decide), String.ofList_toList]
  cases readFields fuel rest <;> rfl

/-! ### Whole values -/

/-- The value is read from its text, whatever follows that is no part of a number. A text has fewer parts than
    characters, so that its length bounds the fuel. -/
def Reads (v : Value) : Prop :=
  ∀ fuel rest, (writeValue v).length ≤ fuel → Ends rest → readValue (fuel + 1) (writeValue v ++ rest) = some (v, rest)

/-- A value is read up to the mark behind it. -/
theorem Reads.mark (h : Reads v) (hfuel : (writeValue v).length < fuel) (hc : c ∈ [',', ']', '\x7d'])
    (rest : List Char) : readValue fuel (writeValue v ++ c :: rest) = some (v, c :: rest) := by
  obtain ⟨fuel, rfl⟩ := Nat.exists_eq_add_one.mpr (Nat.zero_lt_of_lt hfuel)
  refine h fuel _ (Nat.le_of_lt_succ hfuel) ?_
  rintro _ ⟨⟩
  simp only [List.mem_cons, List.not_mem_nil, or_false] at hc
  rcases hc with rfl | rfl | rfl <;> decide

theorem readItems_written {items : List Value} (hv : Reads v) (hitems : ∀ w ∈ items, Reads w) (rest : List Char)
    (hfuel : (writeValue v).length + (writeItems items).length < fuel) :
    readItems fuel (writeValue v ++ (writeItems items ++ rest)) = some (v :: items, rest) := by
  induction items generalizing v fuel with
  | nil =>
    obtain ⟨fuel, rfl⟩ := Nat.exists_eq_add_one.mpr (Nat.zero_lt_of_lt hfuel)
    rw [writeItems, List.length_singleton] at hfuel
    exact readItems_last (hv.mark (by omega) (by decide) rest)
  | cons w items ih =>
    obtain ⟨fuel, rfl⟩ := Nat.exists_eq_add_one.mpr (Nat.zero_lt_of_lt hfuel)
    obtain ⟨hw, hitems⟩ := List.forall_mem_cons.mp hitems
    simp only [writeItems, List.cons_append, List.length_cons, List.length_append, List.append_assoc] at hfuel ⊢
    rw [readItems_more (hv.mark (by omega) (by decide) _), readItems_space, ih hw hitems (by omega)]
    rfl

theorem readFields_written (key : String) {fields : List (String × Value)} (hv : Reads v)
    (hfields : ∀ p ∈ fields, Reads p.2) (rest : List Char)
    (hfuel : (writeValue v).length + (writeFields fields).length < fuel) :
    readFields fuel (writeText key ++ ':' :: ' ' :: (writeValue v ++ (writeFields fields ++ rest))) =
      some ((key, v) :: fields, rest) := by
  induction fields generalizing key v fuel with
  | nil =>
    obtain ⟨fuel, rfl⟩ := Nat.exists_eq_add_one.mpr (Nat.zero_lt_of_lt hfuel)
    rw [writeFields, List.length_singleton] at hfuel
    exact readFields_last ((readValue_space fuel _).trans (hv.mark (by omega) (by decide) rest))
  | cons p fields ih =>
    obtain ⟨fuel, rfl⟩ := Nat.exists_eq_add_one.mpr (Nat.zero_lt_of_lt hfuel)
    obtain ⟨hp, hfields⟩ := List.forall_mem_cons.mp hfields
    simp only [writeFields, List.cons_append, List.length_cons, List.length_append, List.append_assoc] at hfuel ⊢
    rw [readFields_more ((readValue_space fuel _).trans (hv.mark (by omega) (by decide) _)), readFields_space,
      ih p.1 hp hfields (by omega)]
    rfl

theorem reads_int (n : Int) : Reads (.int n) := by
  intro fuel rest _ hrest
  rcases intChars_cases n with ⟨hneg, hn⟩ | ⟨hpos, c, cs, hc, hdigits, hn⟩
  · rw [writeValue, hn, List.cons_append, readValue, skipGap_cons (by decide)]
    simp only [readNumber_toDigits true n.natAbs hrest, if_true]
    congr
    omega
  · rw [writeValue, hn, List.cons_append, readValue_digit hc, ← List.cons_append, ← hdigits,
      readNumber_toDigits false _ hrest]
    congr
    simp only [Bool.false_eq_true, if_false]
    omega

theorem reads_text (s : String) : Reads (.text s) := by
  intro fuel rest _ _
  rw [writeValue, writeText_append, readValue, skipGap_cons (by decide)]
  simp [readChars_written]

/-- What begins a value neither is passed over nor ends a list. -/
theorem exists_cons_writeValue (h : v.Exact) : ∃ c cs, writeValue v = c :: cs ∧ isGap c = false ∧ c ≠ ']' := by
  cases h with
  | null => exact ⟨'n', _, rfl, by decide, by decide⟩
  | bool b => cases b <;> exact ⟨_, _, rfl, by decide, by decide⟩
  | int n =>
    rcases intChars_cases n with ⟨-, hn⟩ | ⟨-, c, cs, hc, -, hn⟩
    · exact ⟨'-', _, hn, by decide, by decide⟩
    · refine ⟨c, cs, hn, isGap_of_isDigit hc, ?_⟩
      rintro rfl
      simp at hc
  | text s => exact ⟨'"', _, rfl, by decide, by decide⟩
  | @list items _ => cases items <;> exact ⟨'[', _, writeValue.eq_def _, by decide, by decide⟩
  | @object fields _ =>
    rcases fields with _ | ⟨⟨key, v⟩, fields⟩
    all_goals exact ⟨'\x7b', _, writeValue.eq_def _, by decide, by decide⟩

/-- The induction is on the value. Its parts are read by their own lemmas for lists and objects. -/
theorem reads (h : v.Exact) : Reads v := by
  induction h with
  | null => exact fun _ _ _ _ => rfl
  | bool b => cases b <;> exact fun _ _ _ _ => rfl
  | int n => exact reads_int n
  | text s => exact reads_text s
  | @list items hitems ih =>
    intro fuel rest hfuel _
    cases items with
    | nil => rfl
    | cons v items =>
      obtain ⟨hv, ih⟩ := List.forall_mem_cons.mp ih
      simp only [writeValue, List.cons_append, List.length_cons, List.length_append, List.append_assoc] at hfuel ⊢
      have hshort : (writeValue v).length + (writeItems items).length < fuel := by omega
      have hread := readItems_written hv ih rest hshort
      obtain ⟨c, cs, hcs, hgap, hend⟩ := exists_cons_writeValue (hitems v (List.mem_cons_self ..))
      rw [hcs, List.cons_append] at hread ⊢
      rw [readValue_list hgap hend, hread]
      rfl
  | @object fields _ ih =>
    intro fuel rest hfuel _
    rcases fields with _ | ⟨⟨key, v⟩, fields⟩
    · rfl
    · obtain ⟨hv, ih⟩ := List.forall_mem_cons.mp ih
      simp only [writeValue, List.cons_append, List.length_cons, List.length_append, List.append_assoc] at hfuel ⊢
      have hshort : (writeValue v).length + (writeFields fields).length < fuel := by omega
      have hread := readFields_written key hv ih rest hshort
      rw [writeText_append] at hread ⊢
      rw [readValue_object, hread]
      rfl

/-- A value without decimal numbers is what its JSON text is read as. -/
theorem read?_write (h : v.Exact) : read? (write v) = some v := by
  have hread := reads h (writeValue v).length [] (Nat.le_refl _) (by simp [Ends])
  rw [List.append_nil] at hread
  rw [read?, write, String.toList_ofList]
  simp only [hread]
  rfl

end Json

end AliasBook
