/-! The kinds of values, with the words that messages use for them. Kinds can be looked at like values, and
    so they have a kind themselves. -/

namespace AliasBook

/-- A kind of values. -/
inductive Kind where
  | null
  | bool
  | int
  | decimal
  | text
  | list
  | object
  /-- The kind that everything belongs to. -/
  | any
  | kindOfKinds
  | rowOfKinds
deriving DecidableEq

namespace Kind

/-- The word for the kind. -/
def name : Kind → String
  | .null => "NoneType"
  | .bool => "bool"
  | .int => "int"
  | .decimal => "float"
  | .text => "str"
  | .list => "list"
  | .object => "dict"
  | .any => "object"
  | .kindOfKinds => "type"
  | .rowOfKinds => "tuple"

/-- The kinds that all things of the kind belong to as well, the narrowest first: truth values are
    integers. -/
def wider : Kind → List Kind
  | .any => []
  | .bool => [.int, .any]
  | _ => [.any]

/-- The kind as it is shown. -/
def shown (k : Kind) : String :=
  "<class '" ++ k.name ++ "'>"

end Kind

end AliasBook
