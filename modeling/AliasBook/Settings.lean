import AliasBook.Environment
import AliasBook.Log.Notice
import AliasBook.Text.Blank
import AliasBook.Text.Case

/-! The settings of a registry, read from the environment. A value that makes no sense counts as none, and a
    notice tells of it. -/

namespace AliasBook

/-- Whether aliases may be overridden, and how to log. -/
structure Settings where
  allowOverriding : Bool := true
  logLevel : String := "WARNING"
  logFormat : String := "json"
deriving DecidableEq

namespace Settings

/-- The words for a switch that is on. -/
def onWords : List String := ["1", "true", "yes", "on"]

/-- The words for a switch that is off. -/
def offWords : List String := ["0", "false", "no", "off"]

/-- The names of log formats. -/
def formats : List String := ["json", "text"]

/-- Reads a switch, in any case and with blanks around it. A blank value counts as none. -/
def readSwitch (key : String) (raw : Option String) (default : Bool) : Bool × List Notice :=
  match raw with
  | none => (default, [])
  | some raw =>
    if Text.isBlank raw then (default, [])
    else
      let word := Text.lower (Text.strip raw)
      if word ∈ onWords then (true, [])
      else if word ∈ offWords then (false, [])
      else (default, [.rejectedSetting key raw])

/-- Reads a word that has to be `valid` once the blanks around it are gone and its letters have been
    brought to one case by `fold`. -/
def readWord (key : String) (raw : Option String) (default : String) (fold : String → String)
    (valid : String → Bool) : String × List Notice :=
  let word := fold (Text.strip (raw.getD default))
  if valid word then (word, []) else (default, [.rejectedSetting key word])

/-- The settings that an environment asks for, and what there is to tell of it. -/
def ofEnvironment (env : Environment) : Settings × List Notice :=
  let preset : Settings := {}
  let (allowOverriding, n₁) :=
    readSwitch Environment.overridingKey (env.get? Environment.overridingKey) preset.allowOverriding
  let (logLevel, n₂) :=
    readWord Environment.levelKey (env.get? Environment.levelKey) preset.logLevel Text.upper
      fun word => (Level.number? word).isSome
  let (logFormat, n₃) :=
    readWord Environment.formatKey (env.get? Environment.formatKey) preset.logFormat Text.lower
      fun word => word ∈ formats
  ({ allowOverriding, logLevel, logFormat }, n₁ ++ n₂ ++ n₃)

end Settings

end AliasBook
