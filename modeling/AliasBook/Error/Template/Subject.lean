import AliasBook.Error.Layout.Number
import AliasBook.Error.Layout.Text
import AliasBook.Error.Template.Flaw
import AliasBook.Value

/-! What the fields of message templates stand for: a value, a part or an item of one, or the kind of one. A
    subject has parts by name and items by number or by name, and a text of its own, a quoted form and a
    layout make a text of it. -/

namespace AliasBook.Template

/-- A value, a kind, or a row of kinds. -/
inductive Subject where
  | value (v : Value)
  | kind (k : Kind)
  | kinds (ks : List Kind)

namespace Subject

instance : Coe Value Subject := ⟨.value⟩

/-- The kind of the subject. -/
def kindOf : Subject → Kind
  | .value v => v.kind
  | .kind _ => .kindOfKinds
  | .kinds _ => .rowOfKinds

/-- The subject as it stands inside other text: texts are quoted. A row of one kind ends in a comma. -/
def quoted : Subject → String
  | .value v => v.quoted
  | .kind k => k.shown
  | .kinds [k] => "(" ++ k.shown ++ ",)"
  | .kinds ks => "(" ++ ", ".intercalate (ks.map Kind.shown) ++ ")"

/-- The text of the subject: a text stands for itself. -/
def display : Subject → String
  | .value v => v.display
  | s => s.quoted

/-- The words for the subject in messages on its parts. -/
def described : Subject → String
  | .kind k => "type object '" ++ k.name ++ "'"
  | s => "'" ++ s.kindOf.name ++ "' object"

/-- The parts of an integer: it is a fraction over one, and a complex number without an imaginary part. -/
def intPart? (n : Int) : String → Option Value
  | "real" | "numerator" => some (.int n)
  | "imag" => some (.int 0)
  | "denominator" => some (.int 1)
  | _ => none

/-- The parts of a value. Truth values are the integers zero and one. -/
def valuePart? (v : Value) (name : String) : Option Value :=
  match v with
  | .int n => intPart? n name
  | .bool b => intPart? b.toInt name
  | .decimal .. =>
    match name with
    | "real" => some v
    | "imag" => some (.decimal false 0 1)
    | _ => none
  | _ => none

/-- The parts of a kind: its name and where it is from, and the wider kinds, the next one or all of them
    behind the kind itself. -/
def kindPart? (k : Kind) : String → Option Subject
  | "__name__" | "__qualname__" => some (.value (.text k.name))
  | "__module__" => some (.value (.text "builtins"))
  | "__base__" => some ((k.wider.head?.map Subject.kind).getD (.value .null))
  | "__bases__" => some (.kinds (k.wider.take 1))
  | "__mro__" => some (.kinds (k :: k.wider))
  | _ => none

/-- The part of the subject with the name. Everything has its kind. -/
def part (s : Subject) (name : String) : Except Flaw Subject :=
  let found :=
    if name = "__class__" then some (.kind s.kindOf)
    else
      match s with
      | .value v => (valuePart? v name).map Subject.value
      | .kind k => kindPart? k name
      | .kinds _ => none
  match found with
  | some part => .ok part
  | none => .error (.noAttribute s.described name)

/-- The item of the subject with the number. -/
def itemAt (s : Subject) (i : Nat) : Except Flaw Subject :=
  match s with
  | .value (.text s) =>
    match s.toList[i]? with
    | some c => .ok (.value (.text (String.singleton c)))
    | none => .error (.missingItem "string")
  | .value (.list items) =>
    match items[i]? with
    | some v => .ok (.value v)
    | none => .error (.missingItem "list")
  | .value (.object _) => .error (.missingNumber i)
  | .kinds ks =>
    match ks[i]? with
    | some k => .ok (.kind k)
    | none => .error (.missingItem "tuple")
  | .kind k => .error (.noItems ("type '" ++ k.name ++ "'"))
  | s => .error (.noItems s.described)

/-- The item of the subject with the name, which only objects have. -/
def itemNamed (s : Subject) (name : String) : Except Flaw Subject :=
  match s with
  | .value (.text _) => .error (.namedItem "string indices must be integers, not 'str'")
  | .value (.list _) => .error (.namedItem "list indices must be integers or slices, not str")
  | .value (.object fields) =>
    match fields.lookup name with
    | some v => .ok (.value v)
    | none => .error (.missingField name)
  | .kinds _ => .error (.namedItem "tuple indices must be integers or slices, not str")
  | .kind k => .error (.noItems ("type '" ++ k.name ++ "'"))
  | s => .error (.noItems s.described)

/-- The subject under a conversion: itself without one, else one of its texts. The conversion with the
    number zero is none. -/
def convert (s : Subject) : Option Char → Except Flaw Subject
  | none | some '\x00' => .ok s
  | some 's' => .ok (.value (.text s.display))
  | some 'r' => .ok (.value (.text s.quoted))
  | some 'a' => .ok (.value (.text (Text.asciiOnly s.quoted)))
  | some c => .error (.unknownConversion c)

/-- The text of the subject in a layout. All subjects take the empty layout; of the others, only texts and
    numbers do. -/
def layOut (s : Subject) (layout : String) : Except Flaw String :=
  let within (apply : Layout → Except Layout.Flaw String) : Except Flaw String :=
    ((Layout.parse s.kindOf layout).bind apply).mapError Flaw.layout
  if layout.isEmpty then .ok s.display
  else
    match s with
    | .value (.text t) => within (·.ofText t)
    | .value (.int n) => within (·.ofInt .int n)
    | .value (.bool b) => within (·.ofInt .bool b.toInt)
    | .value (.decimal isNegative mantissa places) => within (·.ofDecimal isNegative mantissa places)
    | s => .error (.noLayout s.kindOf)

end Subject

end AliasBook.Template
