import AliasBook.Value

/-! Values as JSON text on one line. Characters outside ASCII stand for themselves; a comma and a colon are
    each followed by one space. -/

namespace AliasBook.Json

/-- A character inside a JSON text: the quote, the backslash and the control characters are escaped. -/
def escapeChar (c : Char) : List Char :=
  if c = '"' ∨ c = '\\' then ['\\', c]
  else if c = '\n' then ['\\', 'n']
  else if c = '\r' then ['\\', 'r']
  else if c = '\t' then ['\\', 't']
  else if c = '\x08' then ['\\', 'b']
  else if c = '\x0c' then ['\\', 'f']
  else if c.toNat < 0x20 then '\\' :: 'u' :: Text.hexDigits 4 c.toNat
  else [c]

/-- A JSON text. -/
def writeText (s : String) : List Char :=
  '"' :: s.toList.flatMap escapeChar ++ ['"']

mutual

/-- A value in JSON. -/
def writeValue : Value → List Char
  | .null => "null".toList
  | .bool true => "true".toList
  | .bool false => "false".toList
  | .int n => Value.intChars n
  | .decimal isNegative mantissa places =>
    Value.decimalChars "Infinity".toList isNegative mantissa places
  | .text s => writeText s
  | .list [] => ['[', ']']
  | .list (v :: items) => '[' :: writeValue v ++ writeItems items
  | .object [] => ['\x7b', '\x7d']
  | .object ((key, v) :: fields) =>
    '\x7b' :: writeText key ++ ':' :: ' ' :: writeValue v ++ writeFields fields

/-- The items after the first one, and the end of the list. -/
def writeItems : List Value → List Char
  | [] => [']']
  | v :: items => ',' :: ' ' :: writeValue v ++ writeItems items

/-- The fields after the first one, and the end of the object. -/
def writeFields : List (String × Value) → List Char
  | [] => ['\x7d']
  | (key, v) :: fields =>
    ',' :: ' ' :: writeText key ++ ':' :: ' ' :: writeValue v ++ writeFields fields

end

/-- The value in JSON. -/
def write (v : Value) : String :=
  String.ofList (writeValue v)

end AliasBook.Json
