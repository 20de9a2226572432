import AliasBook.Placeholder
import AliasBook.Registry.Operations

/-! Resolvers for common needs. -/

namespace AliasBook.Resolver

variable {ρ : Type}

/-- Leaves every text as it is. -/
def identity : Resolver ρ := fun s => pure (some s)

/-- A value in the place of a resolver, which fails as soon as it is called. -/
def notFunction (v : Value) : Resolver ρ := fun _ => throw (.notFunction v)

/-- One resolver after the other, until one declines. -/
def chain : List (Resolver ρ) → Resolver ρ
  | [], s => pure (some s)
  | resolver :: others, s => do
    match ← resolver s with
    | none => return none
    | some s => chain others s

/-- Expands placeholders, with the environment of the moment if keys may come from it. -/
def placeholders (x : Placeholder.Expander) (fromEnvironment : Bool) : Resolver ρ := fun s => do
  let host ← get
  let environment := if fromEnvironment then some host.environment else none
  return { x with environment }.expand s

end AliasBook.Resolver
