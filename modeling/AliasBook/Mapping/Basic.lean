/-! The definitions of a book of aliases: each alias stands for one name, and the entries keep the order in
    which their aliases first came in. Reading an alias after a write is settled by `get?_insert` and
    `get?_erase`. -/

namespace AliasBook

/-- Entries from an alias to the name it stands for, at most one for each alias. -/
@[ext]
structure Mapping where
  entries : List (String × String)
  nodup : (entries.map Prod.fst).Nodup := by simp
deriving DecidableEq

namespace Mapping

/-- The mapping without entries. -/
def empty : Mapping where
  entries := []

instance : Inhabited Mapping := ⟨empty⟩

/-- The number of entries. -/
def size (m : Mapping) : Nat := m.entries.length

/-- The aliases, in order. -/
def aliases (m : Mapping) : List String := m.entries.map Prod.fst

/-- The names that the aliases stand for, in the order of the aliases. -/
def names (m : Mapping) : List String := m.entries.map Prod.snd

/-- The name that the alias stands for. -/
def get? (m : Mapping) (a : String) : Option String := m.entries.lookup a

/-- The mapping has an entry for the alias. -/
def contains (m : Mapping) (a : String) : Bool := (m.get? a).isSome

/-- The entries with `a` standing for `n`: in its old place if it has one, else at the end. -/
def putEntry (a n : String) : List (String × String) → List (String × String)
  | [] => [(a, n)]
  | e :: es => if e.1 = a then (a, n) :: es else e :: putEntry a n es

/-- The entries without the one of `a`. -/
def dropEntry (a : String) (es : List (String × String)) : List (String × String) :=
  es.filter fun e => e.1 ≠ a

theorem mem_keys_putEntry {a n k : String} {es : List (String × String)} :
    k ∈ (putEntry a n es).map Prod.fst ↔ k = a ∨ k ∈ es.map Prod.fst := by
  induction es with
  | nil => simp [putEntry]
  | cons e es ih =>
    by_cases h : e.1 = a
    · simp [putEntry, h]
    · simp only [putEntry, if_neg h, List.map_cons, List.mem_cons, ih]
      exact or_left_comm

theorem nodup_putEntry {a n : String} {es : List (String × String)}
    (h : (es.map Prod.fst).Nodup) : ((putEntry a n es).map Prod.fst).Nodup := by
  induction es with
  | nil => simp [putEntry]
  | cons e es ih =>
    rw [List.map_cons, List.nodup_cons] at h
    by_cases he : e.1 = a
    · rw [putEntry, if_pos he, List.map_cons, List.nodup_cons]
      exact he ▸ h
    · rw [putEntry, if_neg he, List.map_cons, List.nodup_cons, mem_keys_putEntry, not_or]
      exact ⟨⟨he, h.1⟩, ih h.2⟩

theorem nodup_dropEntry {a : String} {es : List (String × String)}
    (h : (es.map Prod.fst).Nodup) : ((dropEntry a es).map Prod.fst).Nodup :=
  h.sublist (List.filter_sublist.map _)

/-- Lets `a` stand for `n`. -/
def insert (m : Mapping) (a n : String) : Mapping where
  entries := putEntry a n m.entries
  nodup := nodup_putEntry m.nodup

/-- Takes the entry of `a` away, if there is one. -/
def erase (m : Mapping) (a : String) : Mapping where
  entries := dropEntry a m.entries
  nodup := nodup_dropEntry m.nodup

/-! ### What the operations do to the entries -/

theorem lookup_cons_ne {a k n : String} (h : k ≠ a) (es : List (String × String)) :
    ((a, n) :: es).lookup k = es.lookup k := by
  rw [List.lookup_cons, beq_eq_false_iff_ne.mpr h]

theorem lookup_putEntry {a n k : String} {es : List (String × String)} :
    (putEntry a n es).lookup k = if k = a then some n else es.lookup k := by
  induction es with
  | nil =>
    by_cases h : k = a
    · simp [putEntry, h]
    · rw [putEntry, lookup_cons_ne h, if_neg h]
  | cons e es ih =>
    obtain ⟨x, y⟩ := e
    by_cases he : x = a
    · subst he
      by_cases h : k = x
      · simp [putEntry, h]
      · simp only [putEntry, if_true, lookup_cons_ne h, if_neg h]
    · by_cases hk : k = x
      · subst hk
        simp [putEntry, he]
      · simp only [putEntry, if_neg he, lookup_cons_ne hk, ih]

theorem lookup_dropEntry {a k : String} {es : List (String × String)} :
    (dropEntry a es).lookup k = if k = a then none else es.lookup k := by
  induction es with
  | nil => simp [dropEntry]
  | cons e es ih =>
    obtain ⟨x, y⟩ := e
    rw [dropEntry] at ih ⊢
    by_cases hx : x = a
    · rw [List.filter_cons_of_neg (by simp [hx]), ih]
      by_cases hk : k = a
      · simp [hk]
      · simp only [if_neg hk, lookup_cons_ne (hx ▸ hk)]
    · rw [List.filter_cons_of_pos (by simp [hx])]
      by_cases hk : k = x
      · subst hk
        simp [hx]
      · simp only [lookup_cons_ne hk, ih]

@[simp] theorem get?_empty (k : String) : empty.get? k = none := rfl

theorem get?_insert (m : Mapping) (a n k : String) :
    (m.insert a n).get? k = if k = a then some n else m.get? k :=
  lookup_putEntry

theorem get?_erase (m : Mapping) (a k : String) :
    (m.erase a).get? k = if k = a then none else m.get? k :=
  lookup_dropEntry

theorem get?_eq_some_iff {m : Mapping} {a n : String} : m.get? a = some n ↔ (a, n) ∈ m.entries := by
  obtain ⟨es, nodup⟩ := m
  rw [get?]
  induction es with
  | nil => simp
  | cons e es ih =>
    obtain ⟨x, y⟩ := e
    rw [List.map_cons, List.nodup_cons] at nodup
    by_cases h : a = x
    · subst h
      have hmem : ∀ z, (a, z) ∉ es := fun z hz => nodup.1 (List.mem_map.mpr ⟨(a, z), hz, rfl⟩)
      simp [hmem, eq_comm]
    · rw [lookup_cons_ne h, ih nodup.2]
      simp [h]

theorem contains_iff {m : Mapping} {a : String} : m.contains a = true ↔ a ∈ m.aliases := by
  rw [contains, Option.isSome_iff_exists]
  simp only [get?_eq_some_iff, aliases, List.mem_map, Prod.exists, exists_and_right, exists_eq_right]

/-- Entries one by one into a mapping: a repeated alias keeps its first place and its last name. -/
def insertAll (m : Mapping) (es : List (String × String)) : Mapping :=
  es.foldl (fun m e => m.insert e.1 e.2) m

end Mapping

end AliasBook
