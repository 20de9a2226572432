import AliasBook.Log.Channel
import AliasBook.Mapping.Basic
import AliasBook.Settings

/-! The state that operations on registries work in, and the operations that do not touch any entries. An
    operation that ends early leaves the state as it was at that moment. -/

namespace AliasBook

/-- Whether aliases may be overridden. A policy is asked each time anew and may answer differently. -/
structure Policy where
  /-- The answer to the question with the given number, counted from zero. -/
  answer : Nat → Bool
  /-- How many questions have been asked. -/
  asked : Nat := 0
  /-- The answer is the same each time, so that nobody counts the questions. -/
  isFixed : Bool := false

/-- The policy that always gives the same answer. -/
def Policy.always (allowed : Bool) : Policy where
  answer := fun _ => allowed
  isFixed := true

/-- The policy that gives the answers in turn and then the last one again and again. -/
def Policy.inTurn (answers : List Bool) : Policy where
  answer := fun i => answers.getD i (answers.getLastD true)

/-- A registry: its entries, its policy, and a number that tells it from registries before it. -/
structure Registry where
  mapping : Mapping := .empty
  policy : Policy := .always true
  number : Nat := 0

/-- Everything that operations read and write. `ρ` is what the caller's own code keeps. -/
structure Host (ρ : Type) where
  registry : Registry := {}
  /-- The registry in use is the one that the whole program shares. -/
  isShared : Bool := false
  channel : Channel := {}
  environment : Environment := []
  /-- The time at which records are made. -/
  now : Instant := .ofSeconds 0
  caller : ρ

/-- An operation: it changes the state, and gives a result or ends early. -/
abbrev Action (ρ : Type) := ExceptT Fault (StateM (Host ρ))

namespace Action

variable {ρ : Type}

/-- Logs a record. -/
def log (r : Record) : Action ρ Unit :=
  modify fun s => { s with channel := s.channel.log s.now r }

/-- Logs what the library has to tell. -/
def tell (n : Notice) : Action ρ Unit :=
  log n.record

/-- Logs several notices in order. -/
def tellAll : List Notice → Action ρ Unit
  | [] => pure ()
  | n :: ns => do
    tell n
    tellAll ns

/-- Replaces the environment. -/
def setEnvironment (env : Environment) : Action ρ Unit :=
  modify fun s => { s with environment := env }

/-- The number of the level with the given name, which has to be a text. -/
def levelNumber (level : Value) : Action ρ Int :=
  match level with
  | .text name =>
    match Level.number? (Text.upper name) with
    | some number => return number
    | none => throw (.unknownLevel name)
  | v => throw (.noAttribute v "upper")

/-- Configures logging. The level is looked at first, and without a valid one nothing happens. Then the sink
    is opened, and without a valid layout nothing more happens. Without any layout the environment decides
    on it. -/
def configureLogging (level : Value := "INFO") (format : Value := "json") (output : String := "stderr") :
    Action ρ Unit := do
  let number ← levelNumber level
  modify fun s => { s with channel := s.channel.openSink output }
  match Formatter.ofValue (← get).environment format with
  | .ok formatter =>
    modify fun s => { s with channel := s.channel.configure number formatter output }
  | .error fault => throw fault

/-- Takes the configuration of logging back. -/
def resetLogging : Action ρ Unit :=
  modify fun s => { s with channel := s.channel.reset }

/-- The settings that the environment asks for. -/
def settingsFromEnvironment : Action ρ Settings := do
  let (settings, notices) := Settings.ofEnvironment (← get).environment
  tellAll notices
  return settings

/-- Configures logging as settings say, and as the environment says if there are none. -/
def applyLogging (settings : Option Settings) (output : String := "stderr") : Action ρ Unit := do
  let settings ←
    match settings with
    | some settings => pure settings
    | none => settingsFromEnvironment
  configureLogging settings.logLevel settings.logFormat output

end Action

end AliasBook
