import AliasBook.Error.Report
import AliasBook.Log.Notice
import AliasBook.Mapping.Chain

/-! Trying to write an entry. A write is refused where it would close a circle or where the alias may not be
    overridden; what happens on the way is told in any case. -/

namespace AliasBook

/-- What was told while something was tried, in order, and what came of it. -/
structure Attempt (α : Type) where
  notices : List Notice := []
  outcome : Except AliasError α

namespace Walk

/-- What there is to tell of a walk that did not find what it looked for. -/
def notices (w : Walk) : List Notice :=
  w.again.toList.map (Notice.circularChain w.start)

end Walk

namespace Mapping

/-- Lets `a` stand for `name`, if `name` does not lead to `a`. -/
def place (m : Mapping) (name a : String) : Attempt Mapping :=
  let w := m.walk name
  if w.reaches a then { outcome := .error (.circular a name) }
  else { notices := w.notices, outcome := .ok (m.insert a name) }

/-- The name that would be overridden if `a` came to stand for `name`. -/
def overridden? (m : Mapping) (name a : String) : Option String :=
  if a = name then none else (m.get? a).filter (· ≠ name)

/-- Defines `a` as an alias of `name`, and tells whether an entry was written; `leave` is the permission
    to override. An alias for itself is only taken away, and an entry that is there stays as it is. -/
def define (m : Mapping) (name a : String) (leave : Bool) : Attempt (Mapping × Bool) :=
  if a = name then { notices := [.selfNamed a], outcome := .ok (m.erase a, false) }
  else if m.get? a = some name then { outcome := .ok (m, false) }
  else
    match m.get? a with
    | none =>
      let placed := m.place name a
      { notices := placed.notices, outcome := placed.outcome.map (·, true) }
    | some existing =>
      if leave then
        let placed := m.place name a
        { notices := .overriding a existing name :: placed.notices
          outcome := placed.outcome.map (·, true) }
      else { outcome := .error (.conflict a name existing) }

end Mapping

end AliasBook
