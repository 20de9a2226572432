import AliasBook.Error.Layout
import AliasBook.Text.Quoted

/-! What can be wrong with a message template, or with the values that are to replace its fields. -/

namespace AliasBook.Template

/-- What is wrong with a template, or with the values it is to be filled with. -/
inductive Flaw where
  /-- A closing brace that closes nothing and is not doubled. -/
  | loneClosing
  /-- An opening brace at the very end. -/
  | loneOpening
  /-- A field without a closing brace. -/
  | unclosed
  /-- An opening brace inside the name of a field. -/
  | nestedOpening
  /-- The template ends where a conversion should stand. -/
  | missingConversion
  /-- A conversion that is followed neither by the end of the field nor by a layout. -/
  | looseConversion
  /-- A layout that does not end. -/
  | unclosedLayout
  /-- Fields in the layout of a field in a layout. -/
  | tooNested
  /-- A conversion that does not exist. -/
  | unknownConversion (conversion : Char)
  /-- A field whose name no value has, or a key that an object does not have. -/
  | missingField (name : String)
  /-- A number that an object does not have as a key. -/
  | missingNumber (n : Nat)
  /-- A field that asks for a value by its place, and values have none. -/
  | missingPlace (place : Nat)
  /-- An item behind the end of a text or of a list. -/
  | missingItem (whole : String)
  /-- A number that is too large to count to. -/
  | hugeNumber
  /-- A step to an item that does not end. -/
  | unclosedStep
  /-- A step without a name. -/
  | emptyStep
  /-- Something behind a step that is no step. -/
  | looseStep
  /-- A part by a name that nothing in the whole has. -/
  | noAttribute (whole name : String)
  /-- An item of something that has none. -/
  | noItems (whole : String)
  /-- An item of a text or of a list that is asked for by name. -/
  | namedItem (indices : String)
  /-- A layout for a value of a kind that takes none. -/
  | noLayout (kind : Kind)
  /-- A layout that the value cannot have. -/
  | layout (flaw : Layout.Flaw)
deriving DecidableEq

/-- What a message says of the flaw. -/
def Flaw.message : Flaw → String
  | .loneClosing => "Single '\x7d' encountered in format string"
  | .loneOpening => "Single '\x7b' encountered in format string"
  | .unclosed => "expected '\x7d' before end of string"
  | .nestedOpening => "unexpected '\x7b' in field name"
  | .missingConversion => "end of string while looking for conversion specifier"
  | .looseConversion => "expected ':' after conversion specifier"
  | .unclosedLayout => "unmatched '\x7b' in format spec"
  | .tooNested => "Max string recursion exceeded"
  | .unknownConversion c =>
    "Unknown conversion specifier " ++
      if 0x20 < c.toNat ∧ c.toNat < 0x7f then String.singleton c
      else "\\x" ++ String.ofList (Nat.toDigits 16 c.toNat)
  | .missingField name => Text.quoted name
  | .missingNumber n => toString n
  | .missingPlace place =>
    "Replacement index " ++ toString place ++ " out of range for positional args tuple"
  | .missingItem whole => whole ++ " index out of range"
  | .hugeNumber => "Too many decimal digits in format string"
  | .unclosedStep => "Missing ']' in format string"
  | .emptyStep => "Empty attribute in format string"
  | .looseStep => "Only '.' or '[' may follow ']' in format field specifier"
  | .noAttribute whole name => whole ++ " has no attribute '" ++ name ++ "'"
  | .noItems whole => whole ++ " is not subscriptable"
  | .namedItem indices => indices
  | .noLayout kind => "unsupported format string passed to " ++ kind.name ++ ".__format__"
  | .layout flaw => flaw.message

/-- The flaw is a value that is not there, and not a mistake in the template. -/
def Flaw.isMissing : Flaw → Bool
  | .missingField _ | .missingNumber _ | .missingPlace _ | .missingItem _ => true
  | _ => false

end AliasBook.Template
