import AliasBook.Mapping.Aliases
import AliasBook.Mapping.Renaming
import AliasBook.Registry.Host

/-! The operations on the registry in use. Arguments are values of any kind: where an alias or a name is
    written it has to be a text that is not blank, and where one is looked up other values just have no
    entry, unless they cannot be looked up at all. An operation that is refused leaves the entries as
    they were. -/

namespace AliasBook

/-- The text of an argument that has to be one and may not be blank. -/
def requireText (v : Value) (field : String) : Except AliasError String :=
  match v with
  | .text s => if Text.isBlank s then .error (.emptyValue field) else .ok s
  | _ => .error (.emptyValue field)

/-- The arguments that have to be texts and may not be blank. -/
def requireTexts (field : String) : List Value → Except AliasError (List String)
  | [] => .ok []
  | v :: vs => do
    let s ← requireText v field
    let rest ← requireTexts field vs
    return s :: rest

/-- The text that a value is looked up by. Other plain values have none, since no entry is for them; lists
    and objects cannot be looked up. -/
def Value.key? (v : Value) : Except Fault (Option String) :=
  match v with
  | .text s => .ok (some s)
  | .list _ | .object _ => .error (.unusableKey v)
  | _ => .ok none

/-- The walk comes to the name that the value is, if it is a text. -/
def Walk.reachesValue (w : Walk) : Value → Bool
  | .text s => w.reaches s
  | _ => false

/-- The items of a value: of a list its items, of a text its characters, of an object its keys. -/
def Value.items? (v : Value) : Except Fault (List Value) :=
  match v with
  | .list items => .ok items
  | .text s => .ok (s.toList.map fun c => .text (String.singleton c))
  | .object fields => .ok (fields.map fun f => .text f.1)
  | _ => .error (.notIterable v)

/-- Turns a text into another one, or declines it. It is code of the caller, which may do whatever
    operations do. -/
abbrev Resolver (ρ : Type) := String → Action ρ (Option String)

namespace Action

variable {ρ : Type}

/-- Ends the operation if the outcome is a refusal. -/
def ofOutcome {α : Type} : Except AliasError α → Action ρ α
  | .ok a => pure a
  | .error e => throw (.refused e)

/-- Ends the operation if there is a fault. -/
def ofExcept {α : Type} : Except Fault α → Action ρ α
  | .ok a => pure a
  | .error fault => throw fault

/-- Tells what there is to tell of an attempt, and ends the operation if it was refused. -/
def ofAttempt {α : Type} (attempt : Attempt α) : Action ρ α := do
  tellAll attempt.notices
  ofOutcome attempt.outcome

/-- The entries of the registry in use. -/
def mapping : Action ρ Mapping :=
  return (← get).registry.mapping

/-- Replaces the entries of the registry in use. -/
def setMapping (m : Mapping) : Action ρ Unit :=
  modify fun s => { s with registry := { s.registry with mapping := m } }

/-! ### Writing -/

/-- Asks the policy whether an alias may be overridden. -/
def allowsOverriding : Action ρ Bool := do
  let s ← get
  let policy := s.registry.policy
  set { s with registry := { s.registry with policy := { policy with asked := policy.asked + 1 } } }
  return policy.answer policy.asked

/-- Defines an alias in a mapping. The policy is asked only where a name would be overridden. -/
def defineIn (m : Mapping) (name a : String) : Action ρ (Mapping × Bool) := do
  let leave ← if (m.overridden? name a).isSome then allowsOverriding else pure true
  ofAttempt (m.define name a leave)

/-- Defines several aliases in a mapping, and counts the entries that were written. -/
def defineAllIn (name : String) : Mapping → List String → Action ρ (Mapping × Nat)
  | m, [] => pure (m, 0)
  | m, a :: rest => do
    let (m, wrote) ← defineIn m name a
    let (m, count) ← defineAllIn name m rest
    return (m, count + if wrote then 1 else 0)

/-- Registers an alias for a name. -/
def register (name a : Value) : Action ρ Unit := do
  let name ← ofOutcome (requireText name "name")
  let a ← ofOutcome (requireText a "alias")
  let (m, wrote) ← defineIn (← mapping) name a
  setMapping m
  if wrote then tell (.defined a name)

/-- Registers several aliases for a name, all of them or none, and counts the entries that were
    written. -/
def registerMany (name aliases : Value) : Action ρ Nat := do
  let name ← ofOutcome (requireText name "name")
  let items ← ofExcept aliases.items?
  let aliases ← ofOutcome (requireTexts "alias" items)
  let (m, count) ← defineAllIn name (← mapping) aliases
  setMapping m
  if 0 < count then tell (.definedMany name count)
  return count

/-- Removes an alias. Nothing is looked up where there are no entries at all. -/
def remove (a : Value) : Action ρ Unit := do
  let m ← mapping
  let key ← if m.size = 0 then pure none else ofExcept a.key?
  match key.bind fun key => (m.get? key).map (key, ·) with
  | some (key, name) =>
    setMapping (m.erase key)
    tell (.removed key name)
  | none => throw (.refused (.unknown a))

/-- Removes all entries. -/
def clear : Action ρ Unit :=
  setMapping .empty

/-- Writes entries from alias to name without any check. -/
def writeUnchecked (entries : List (String × String)) : Action ρ Unit := do
  setMapping ((← mapping).insertAll entries)

/-! ### Looking up -/

/-- The value is an alias. -/
def isAlias (name : Value) : Action ρ Bool := do
  let key ← ofExcept name.key?
  return key.any (← mapping).contains

/-- The name that a value stands for directly. -/
def lookUp (name : Value) : Action ρ (Option String) := do
  let key ← ofExcept name.key?
  return key.bind (← mapping).get?

/-- The name at the end of the chain of a value, which is the value itself where it is no alias. -/
def canonical (name : Value) : Action ρ Value := do
  match ← ofExcept name.key? with
  | none => return name
  | some key =>
    let w := (← mapping).walk key
    tellAll (w.again.toList.map (Notice.chainRevisits key))
    return w.last

/-- The alias leads to the name. A walk that does not find it tells if it ran in a circle. -/
def hasAlias (name a : Value) : Action ρ Bool := do
  match ← ofExcept a.key? with
  | none => return false
  | some start =>
    let w := (← mapping).walk start
    if w.reachesValue name then return true
    else
      tellAll w.notices
      return false

/-- Ends early if the name leads to the alias, so that the alias may not come to stand for it. -/
def checkCircle (name a : Value) : Action ρ Unit := do
  if ← hasAlias a name then
    throw (.refused (.circular a.display name.display))

/-- The aliases that lead to a value. -/
def aliasesOf (name : Value) : Action ρ (List String) := do
  match ← ofExcept name.key? with
  | none => return []
  | some key => return (← mapping).aliasesOf key

/-- Every canonical name with its aliases. -/
def listing : Action ρ (List (String × List String)) :=
  return (← mapping).listing

/-- The number of entries. -/
def size : Action ρ Nat :=
  return (← mapping).size

/-! ### Renaming -/

/-- Takes a pass through entries. The resolver is asked for the alias and then for the name of each. -/
def renameEntries (resolver : Resolver ρ) :
    Renaming → List (String × String) → Action ρ Renaming
  | p, [] => pure p
  | p, (a, name) :: rest => do
    let a' ← resolver a
    let name' ← resolver name
    let p ← ofAttempt (p.step a name a' name')
    renameEntries resolver p rest

/-- Renames all entries by a resolver; `none` is an argument that is no resolver. The new entries replace
    those of the registry that was in use at the start, whatever the resolver did to them. -/
def resolve (resolver : Option (Resolver ρ)) : Action ρ Unit := do
  match resolver with
  | none => throw (.refused (.notCallable "value_resolver"))
  | some resolver =>
    let registry := (← get).registry
    let p ← renameEntries resolver (.start registry.mapping) registry.mapping.entries
    if (← get).registry.number = registry.number then setMapping p.working
    if 0 < p.changed then tell (.resolved p.changed)

end Action

end AliasBook
