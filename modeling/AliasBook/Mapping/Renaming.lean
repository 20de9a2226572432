import AliasBook.Mapping.Attempt
import AliasBook.Text.Blank

/-! Renaming all entries. A pass takes the entries one by one, in the order they had at the start, and moves
    each to what its alias and its name became. It works on a copy, on which later entries meet what
    earlier ones left. -/

namespace AliasBook

/-- The state of a pass: the copy it works on, and how many entries changed. -/
structure Renaming where
  working : Mapping
  changed : Nat := 0

namespace Renaming

/-- The pass over a mapping before its first entry. -/
def start (m : Mapping) : Renaming where
  working := m

/-- The state after a change to the copy. -/
def change (p : Renaming) (working : Mapping) : Renaming where
  working := working
  changed := p.changed + 1

/-- A text that can be an alias or a name. -/
def usable : Option String → Option String
  | some s => if Text.isBlank s then none else some s
  | none => none

/-- Takes the entry from `a` to `name`, whose two texts became `a'` and `name'`. Without two different
    usable texts the entry is dropped. An alias that stays gets its new name. An alias that changes moves
    to its new place, unless that is taken: by an entry for the same name, with which it merges, or for
    another one, which is a conflict. -/
def step (p : Renaming) (a name : String) (a' name' : Option String) : Attempt Renaming :=
  let dropped : Attempt Renaming :=
    { notices := [.dropped a name], outcome := .ok (p.change (p.working.erase a)) }
  match usable a', usable name' with
  | some x, some n =>
    if x = n then dropped
    else if x = a then
      if n = name then { outcome := .ok p }
      else
        let placed := p.working.place n a
        { placed with outcome := placed.outcome.map p.change }
    else
      match p.working.get? x with
      | some existing =>
        if existing = n then { outcome := .ok (p.change (p.working.erase a)) }
        else { outcome := .error (.resolvedConflict x n existing a) }
      | none =>
        let w := p.working.walk n
        if w.reaches x then { outcome := .error (.circular x n) }
        else { notices := w.notices, outcome := .ok (p.change ((p.working.erase a).insert x n)) }
  | _, _ => dropped

end Renaming

end AliasBook
