import AliasBook.Error.Report
import AliasBook.Error.Template

/-! Everything that can end an operation early, with the text of each. -/

namespace AliasBook

/-- Why an operation ends early. -/
inductive Fault where
  /-- The registry refuses the operation. -/
  | refused (error : AliasError)
  /-- A log level that does not exist. -/
  | unknownLevel (level : String)
  /-- A category of error codes that does not exist. -/
  | unknownCategory (category : Value)
  /-- An error code that is not written as error codes are. -/
  | malformedCode (code : String)
  /-- A value that has to be a text and is none. -/
  | notText (v : Value)
  /-- A value of a kind that does not have what is wanted of it. -/
  | noAttribute (v : Value) (wanted : String)
  /-- A message template that cannot be filled. -/
  | template (flaw : Template.Flaw)
  /-- A time in a year that dates cannot have. -/
  | yearOutOfRange (year : Int)
  /-- A value that cannot be looked up, because it may change. -/
  | unusableKey (v : Value)
  /-- A value that has no items. -/
  | notIterable (v : Value)
  /-- A value that is called but is no function. -/
  | notFunction (v : Value)
  /-- Bytes that are not UTF-8. -/
  | undecodable
  /-- A failure of the caller's own code. -/
  | caller (message : String)

/-- The fault is a value that a template asks for and that is not there. -/
def Fault.isMissingValue : Fault → Bool
  | .template flaw => flaw.isMissing
  | _ => false

/-- The text of a fault; bytes that cannot be read have none. -/
def Fault.message? : Fault → Option String
  | .refused error => some error.report.line
  | .unknownLevel level => some ("Invalid log level: " ++ level)
  | .unknownCategory category => some (category.quoted ++ " is not a valid ErrorCategory")
  | .malformedCode code =>
    some ("Invalid error code format: " ++ Text.quoted code ++
      ". Expected ALIAS-\x7bCATEGORY\x7d-\x7bNNN\x7d")
  | .notText v => some ("expected string or bytes-like object, got '" ++ v.kindName ++ "'")
  | .noAttribute v wanted => some ("'" ++ v.kindName ++ "' object has no attribute '" ++ wanted ++ "'")
  | .template flaw => some flaw.message
  | .yearOutOfRange year => some ("year " ++ toString year ++ " is out of range")
  | .unusableKey v => some ("unhashable type: '" ++ v.kindName ++ "'")
  | .notIterable v => some ("'" ++ v.kindName ++ "' object is not iterable")
  | .notFunction v => some ("'" ++ v.kindName ++ "' object is not callable")
  | .undecodable => none
  | .caller message => some message

end AliasBook
