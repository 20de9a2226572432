import AliasBook.Environment
import AliasBook.Json.Writer
import AliasBook.Log.Instant
import AliasBook.Log.Record
import AliasBook.Text.Case

/-! Records as lines, in one of two layouts: plain text, or a JSON object that holds the context and the four
    core fields. -/

namespace AliasBook

/-- A layout of lines, known by its name in lower case. Only one name stands for plain text. -/
structure Formatter where
  layout : String
deriving DecidableEq, Inhabited

namespace Formatter

/-- The formatter with the chosen layout or, if none is chosen, with the one that the environment
    names. -/
def make (env : Environment) (chosen : Option String) : Formatter :=
  let name :=
    match chosen with
    | none | some "" => (env.get? Environment.formatKey).getD "json"
    | some name => name
  { layout := Text.lower name }

/-- The formatter with the layout that a value names. With nothing in the value the environment names it;
    other values are no names. -/
def ofValue (env : Environment) (chosen : Value) : Except Fault Formatter :=
  match chosen with
  | .text name => .ok (make env (some name))
  | v => if v.isNothing then .ok (make env none) else .error (.noAttribute v "lower")

/-- The formatter writes plain text. -/
def isText (f : Formatter) : Bool := f.layout == "text"

/-- The line in plain text: time, level, logger, message, and the context in brackets if there is any. -/
def textLine (stamp : String) (r : Record) : String :=
  let pairs := " ".intercalate (r.context.map fun p => p.1 ++ "=" ++ p.2.display)
  stamp ++ " [" ++ Level.name r.level ++ "] " ++ r.logger ++ " - " ++ r.message ++
    if r.context.isEmpty then "" else " [" ++ pairs ++ "]"

/-- The fields of the JSON line: the context, with the core fields written over it. -/
def fields (stamp : String) (r : Record) : List (String × Value) :=
  let core : List (String × Value) := [("timestamp", stamp), ("level", Level.name r.level),
    ("module", r.logger), ("message", r.message)]
  core.foldl (fun fs p => putField fs p.1 p.2) r.context

/-- The line in JSON. -/
def jsonLine (stamp : String) (r : Record) : String :=
  Json.write (.object (fields stamp r))

/-- The line of a record that was made at the given time. -/
def line (f : Formatter) (time : Instant) (r : Record) : Except Fault String := do
  let stamp ← time.stamp
  return if f.isText then textLine stamp r else jsonLine stamp r

end Formatter

end AliasBook
