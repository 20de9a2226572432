import AliasBook.Registry.Host

/-! New registries, and the one that the whole program shares. The shared registry is made when it is first
    asked for, and lasts until it is replaced. -/

namespace AliasBook.Action

variable {ρ : Type}

/-- Puts a new registry without entries in use. -/
def openRegistry (policy : Policy) (isShared : Bool := false) : Action ρ Unit :=
  modify fun s => { s with registry := { policy, number := s.registry.number + 1 }, isShared }

/-- The policy that settings ask for; without settings the environment decides. -/
def policyOf (settings : Option Settings) : Action ρ Policy := do
  match settings with
  | some settings => return .always settings.allowOverriding
  | none => return .always (← settingsFromEnvironment).allowOverriding

/-- Puts a new registry as settings say in use. -/
def openConfigured (settings : Option Settings) : Action ρ Unit := do
  openRegistry (← policyOf settings)

/-- Puts the shared registry in use. -/
def useShared : Action ρ Unit := do
  if !(← get).isShared then
    openRegistry (← policyOf none) true

/-- Makes a new shared registry, and puts it in use. -/
def resetShared (settings : Option Settings) : Action ρ Unit := do
  openRegistry (← policyOf settings) true

end AliasBook.Action
