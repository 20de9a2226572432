import AliasBook.Error.Fault

/-! Error codes from their parts, and the messages that codes make of values. -/

namespace AliasBook

namespace ErrorCode

/-- The text is written as codes are: `ALIAS`, two to five capital letters and three digits of any script,
    with hyphens between. One line feed may follow. -/
def isWellFormed (code : String) : Bool :=
  match code.toList with
  | 'A' :: 'L' :: 'I' :: 'A' :: 'S' :: '-' :: rest =>
    let letters := rest.takeWhile fun c => 'A' ≤ c && c ≤ 'Z'
    let lengthFits := 2 ≤ letters.length && letters.length ≤ 5
    match rest.drop letters.length with
    | '-' :: a :: b :: c :: last =>
      lengthFits && [a, b, c].all Text.isDecimalDigit && (last == [] || last == ['\n'])
    | _ => false
  | _ => false

/-- A code from its parts. The category, `null` if there is none, is looked at before the text. -/
def make (code template suggestion category : Value) : Except Fault ErrorCode := do
  let category ←
    match category with
    | .null => pure none
    | .text name =>
      match Category.ofName? name with
      | some c => pure (some c)
      | none => throw (.unknownCategory (.text name))
    | v => throw (.unknownCategory v)
  match code with
  | .text code =>
    if isWellFormed code then return { code, template, suggestion, category }
    else throw (.malformedCode code)
  | v => throw (.notText v)

/-- The code as an object. -/
def toValue (code : ErrorCode) : Value :=
  let category : Value :=
    match code.category with
    | some c => .text c.name
    | none => .null
  .object [("code", code.code), ("template", code.template), ("suggestion", code.suggestion),
    ("category", category)]

/-- The hint behind a message: the given suggestion, or else the code's own, unless there is nothing in
    it. -/
def hint (code : ErrorCode) (suggestion : Value) : String :=
  let s :=
    match suggestion with
    | .null => code.suggestion
    | s => s
  if s.isNothing then "" else " (" ++ s.display ++ ")"

/-- The template of a code filled with the values. -/
def fill (code : ErrorCode) (values : List (String × Value)) : Except Fault String :=
  match code.template with
  | .text template => (Template.fill template values).mapError Fault.template
  | v => .error (.noAttribute v "format")

/-- The message of a code for the values, behind the code and before a hint. Where a value is missing,
    the template itself is the message. -/
def format (code : ErrorCode) (suggestion : Value) (values : List (String × Value)) :
    Except Fault String :=
  let around (message : String) := code.code ++ ": " ++ message ++ code.hint suggestion
  match code.fill values with
  | .ok message => .ok (around message)
  | .error fault =>
    if fault.isMissingValue then .ok (around code.template.display) else .error fault

/-- The message of a code that may not be in the catalogue. -/
def format? (code : Option ErrorCode) (suggestion : Value) (values : List (String × Value)) :
    Except Fault String :=
  match code with
  | some code => code.format suggestion values
  | none => .error (.noAttribute .null "template")

end ErrorCode

/-- The report of an argument that is refused for a code, whose template may name the field. -/
def Report.ofArgument (field : Value) (code : Option ErrorCode) : Except Fault Report :=
  match code with
  | some code => (code.fill [("field", field)]).map (.invalidArgument code field ·)
  | none => .error (.noAttribute .null "code")

end AliasBook
