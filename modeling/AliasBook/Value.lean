import AliasBook.Kind
import AliasBook.Number.Notation
import AliasBook.Text.Quoted

/-! Values that come from outside: the arguments of a call, the details of an error, the context of a log
    entry. A value is known only by its kind, and every value has a text. -/

namespace AliasBook

/-- A value of one of seven kinds. A decimal number keeps its sign and its places but stands for the binary
    fraction of 53 bits next to it. The fields of an object keep their order. -/
inductive Value where
  | null
  | bool (b : Bool)
  | int (n : Int)
  | decimal (isNegative : Bool) (mantissa places : Nat)
  | text (s : String)
  | list (items : List Value)
  | object (fields : List (String × Value))

namespace Value

instance : Inhabited Value := ⟨.null⟩

instance : Coe String Value := ⟨.text⟩

/-- The kind of the value. -/
def kind : Value → Kind
  | .null => .null
  | .bool _ => .bool
  | .int _ => .int
  | .decimal .. => .decimal
  | .text _ => .text
  | .list _ => .list
  | .object _ => .object

/-- The word that messages use for the kind of the value. -/
def kindName (v : Value) : String := v.kind.name

/-- There is nothing in the value: it is `null`, false, zero or empty. -/
def isNothing : Value → Bool
  | .null | .bool false | .int 0 | .text "" | .list [] | .object [] => true
  | .decimal _ mantissa places => (Number.nearestBinary? mantissa (Nat.pow 10 places)).any (·.1 = 0)
  | _ => false

/-- The fields of an object; other values have none. -/
def fields : Value → List (String × Value)
  | .object fields => fields
  | _ => []

/-- The digits of an integer behind its sign. -/
def intChars (n : Int) : List Char :=
  if n < 0 then '-' :: Nat.toDigits 10 n.natAbs else Nat.toDigits 10 n.natAbs

/-- A decimal number in as few digits as it takes; `beyond` stands for the ones that are too large. -/
def decimalChars (beyond : List Char) (isNegative : Bool) (mantissa places : Nat) : List Char :=
  let size :=
    match Number.nearestBinary? mantissa (Nat.pow 10 places) with
    | some (num, den) =>
      let written := Number.shortest false num den
      written.whole ++ written.rest
    | none => beyond
  if isNegative then '-' :: size else size

mutual

/-- The value as it stands inside a list or an object: texts are quoted. -/
def quoted : Value → String
  | .null => "None"
  | .bool true => "True"
  | .bool false => "False"
  | .int n => String.ofList (intChars n)
  | .decimal isNegative mantissa places =>
    String.ofList (decimalChars ['i', 'n', 'f'] isNegative mantissa places)
  | .text s => Text.quoted s
  | .list items => "[" ++ ", ".intercalate (quotedItems items) ++ "]"
  | .object fields => "\x7b" ++ ", ".intercalate (quotedFields fields) ++ "\x7d"

def quotedItems : List Value → List String
  | [] => []
  | v :: items => v.quoted :: quotedItems items

def quotedFields : List (String × Value) → List String
  | [] => []
  | (key, v) :: fields => (Text.quoted key ++ ": " ++ v.quoted) :: quotedFields fields

end

/-- The value as messages write it: a text stands for itself. -/
def display : Value → String
  | .text s => s
  | v => v.quoted

end Value

/-- Writes a field of an object: a key that is there keeps its place and gets the new value, a new key
    comes last. -/
def putField (fields : List (String × Value)) (key : String) (v : Value) :
    List (String × Value) :=
  match fields with
  | [] => [(key, v)]
  | (k, old) :: rest => if k = key then (key, v) :: rest else (k, old) :: putField rest key v

end AliasBook
