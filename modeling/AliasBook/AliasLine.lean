import AliasBook.Text.Blank

/-! Lines that define aliases: a name, an equals sign, and its aliases with commas between. Blank lines and
    lines that start with `#` define nothing. -/

namespace AliasBook

/-- A name with the aliases that a line defines for it. -/
structure AliasLine where
  name : String
  aliases : List String
deriving DecidableEq

namespace AliasLine

/-- The parts of a text between the separators. -/
def splitAt (separator : Char) : List Char → List (List Char)
  | [] => [[]]
  | c :: cs =>
    if c = separator then [] :: splitAt separator cs
    else
      match splitAt separator cs with
      | [] => [[c]]
      | part :: parts => (c :: part) :: parts

/-- The line holds nothing, or a remark. -/
def isSkipped (line : String) : Bool :=
  match Text.stripChars line.toList with
  | [] | '#' :: _ => true
  | _ => false

/-- The definition that a line holds: the first equals sign ends the name, blanks around the parts do not
    count, and neither do empty aliases. -/
def parse? (line : String) : Option AliasLine :=
  if isSkipped line then none
  else
    let cs := Text.stripChars line.toList
    match cs.dropWhile (· ≠ '=') with
    | [] => none
    | _ :: rest =>
      let name := Text.stripChars (cs.takeWhile (· ≠ '='))
      let aliases := ((splitAt ',' rest).map Text.stripChars).filter fun a => !a.isEmpty
      if name.isEmpty || aliases.isEmpty then none
      else some { name := String.ofList name, aliases := aliases.map String.ofList }

end AliasLine

end AliasBook
