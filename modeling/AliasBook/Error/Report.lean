import AliasBook.Error.Code

/-! What a refused operation reports. `AliasError` holds the causes, with the texts that belong to each; a
    `Report` is what callers see of one: a code, a message, details and perhaps a suggestion. -/

namespace AliasBook

/-- Why an operation on aliases is refused. -/
inductive AliasError where
  /-- A text that may not be blank is blank, or is no text. -/
  | emptyValue (field : String)
  /-- What should be a resolver is none. -/
  | notCallable (field : String)
  /-- The alias stands for another name and may not be overridden. -/
  | conflict (a name existing : String)
  /-- A resolved alias stands for another name already; it was resolved from `source`. -/
  | resolvedConflict (a name existing source : String)
  /-- The name leads to the alias, so that the alias may not lead to the name. -/
  | circular (a name : String)
  /-- The alias has no entry. -/
  | unknown (a : Value)

/-- The classes of reports. -/
inductive Report.Kind where
  | general
  | invalidArgument
  | conflict
  | circular
  | unknown
deriving DecidableEq

/-- The name of the class. -/
def Report.Kind.name : Report.Kind → String
  | .general => "AliasRegistryError"
  | .invalidArgument => "InvalidAliasArgumentError"
  | .conflict => "AliasConflictError"
  | .circular => "CircularAliasError"
  | .unknown => "UnknownAliasError"

/-- A report. Details and a suggestion that are `null` are left out of everything that is shown. -/
structure Report where
  kind : Report.Kind
  code : Value
  message : Value
  details : Value := .null
  suggestion : Value := .null

namespace Report

/-- The report in one line: the code and the message. -/
def line (r : Report) : String :=
  r.code.display ++ ": " ++ r.message.display

/-- The fields that are not left out. -/
def shownFields (r : Report) : List (String × Value) :=
  let optional (key : String) : Value → List (String × Value)
    | .null => []
    | v => [(key, v)]
  [("code", r.code), ("message", r.message)] ++ optional "details" r.details ++
    optional "suggestion" r.suggestion

/-- The report as an object. -/
def toValue (r : Report) : Value :=
  .object r.shownFields

/-- The report as one would write it down to make it again. -/
def quoted (r : Report) : String :=
  r.kind.name ++ "(" ++ ", ".intercalate (r.shownFields.map fun f => f.1 ++ "=" ++ f.2.quoted) ++ ")"

/-- What the reports of a code have in common: the details say what its template is filled with. -/
def ofCode (kind : Kind) (code : ErrorCode) (details : List (String × Value)) : Report where
  kind := kind
  code := code.code
  message := code.message details
  details := .object details

/-- A text that is refused because of its code. -/
def invalidArgument (code : ErrorCode) (field : Value) (message : String) : Report where
  kind := .invalidArgument
  code := code.code
  message := message
  details := .object [("field", field)]
  suggestion := code.suggestion

/-- The alias stands for another name; with a `source` that is not `null`, after it was resolved from
    that. -/
def conflict (a name existing source : Value) : Report :=
  let shared := [("alias", a), ("name", name), ("existing_name", existing)]
  match source with
  | .null =>
    { ofCode .conflict .aliasConflict shared with suggestion := ErrorCode.aliasConflict.suggestion }
  | source =>
    { ofCode .conflict .resolvedConflict (shared ++ [("original_alias", source)]) with
      suggestion := ErrorCode.resolvedConflict.suggestion }

/-- The name leads to the alias already. -/
def circular (a name : Value) : Report :=
  ofCode .circular .circularAlias [("alias", a), ("name", name)]

/-- The alias has no entry. -/
def unknown (a : Value) : Report :=
  ofCode .unknown .unknownAlias [("alias", a)]

end Report

/-- The report of a cause. -/
def AliasError.report : AliasError → Report
  | .emptyValue field =>
    .invalidArgument .emptyValue field (ErrorCode.emptyValue.message [("field", field)])
  | .notCallable field =>
    .invalidArgument .notCallable field (ErrorCode.notCallable.message [("field", field)])
  | .conflict a name existing => .conflict a name existing .null
  | .resolvedConflict a name existing source => .conflict a name existing source
  | .circular a name => .circular a name
  | .unknown a => .unknown a

end AliasBook
