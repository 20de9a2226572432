import AliasBook.Error.Code
import AliasBook.Log.Record

/-! What the library itself has to tell: one constructor for each kind of notice, and the record that each
    becomes. -/

namespace AliasBook

/-- Something that the library tells about its own work. -/
inductive Notice where
  /-- An alias was to stand for itself. -/
  | selfNamed (a : String)
  /-- An alias is about to stand for another name than before. -/
  | overriding (a existing name : String)
  /-- An alias stands for a name now. -/
  | defined (a name : String)
  /-- So many aliases stand for a name now. -/
  | definedMany (name : String) (count : Nat)
  /-- An alias stands for nothing any more. -/
  | removed (a name : String)
  /-- An entry is gone because nothing is left of it once it is resolved. -/
  | dropped (a name : String)
  /-- So many entries changed when all were resolved. -/
  | resolved (changed : Nat)
  /-- A search along a chain from `start` came to a name a second time. -/
  | circularChain (start again : String)
  /-- The chain of a name, followed to its end, came to a name a second time. -/
  | chainRevisits (name again : String)
  /-- A line of a file is no definition. -/
  | malformedLine (path : String) (number : Nat) (line : String)
  /-- A variable of the environment has a value that makes no sense. -/
  | rejectedSetting (key value : String)
deriving DecidableEq

namespace Notice

/-- The logger that everything in the library hangs below. -/
def rootLogger : String := "alias_runtime"

/-- The part of the library that tells. -/
def logger : Notice → String
  | .malformedLine .. => rootLogger ++ ".alias_file"
  | .rejectedSetting .. => rootLogger ++ ".config"
  | _ => rootLogger ++ ".alias_registry"

/-- Warnings tell of something that should not be; all else is for those who look for it. -/
def level : Notice → Int
  | .circularChain .. | .chainRevisits .. | .malformedLine .. | .rejectedSetting .. => Level.warning
  | _ => Level.debug

def message : Notice → String
  | .selfNamed .. => "Alias definition ignored since it points to same name"
  | .overriding .. => "Overriding alias definition"
  | .defined .. => "Alias definition registered"
  | .definedMany .. => "Alias definitions registered"
  | .removed .. => "Alias definition removed"
  | .dropped .. => "Alias definition dropped after resolution"
  | .resolved .. => "Alias definitions resolved"
  | .circularChain .. => "Circular alias chain detected in registry"
  | .chainRevisits .. => "Alias chain revisits a name; returning last name reached"
  | .malformedLine .. => "Skipping malformed alias line"
  | .rejectedSetting key value =>
    ErrorCode.invalidSetting.code ++ ": " ++
      ErrorCode.invalidSetting.message [("key", key), ("value", value)]

def context : Notice → List (String × Value)
  | .selfNamed a => [("alias", a)]
  | .overriding a existing name => [("alias", a), ("existing_name", existing), ("name", name)]
  | .defined a name | .removed a name | .dropped a name => [("alias", a), ("name", name)]
  | .definedMany name count => [("name", name), ("count", .int count)]
  | .resolved changed => [("changed", .int changed)]
  | .circularChain start again => [("alias", start), ("revisited", again)]
  | .chainRevisits name again => [("name", name), ("revisited", again)]
  | .malformedLine path number line => [("path", path), ("lineno", .int number), ("line", line)]
  | .rejectedSetting key value => [("key", key), ("value", value)]

/-- The record that a notice becomes. -/
def record (n : Notice) : Record where
  level := n.level
  logger := n.logger
  message := n.message
  context := n.context

end Notice

end AliasBook
