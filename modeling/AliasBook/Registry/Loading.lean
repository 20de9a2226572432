import AliasBook.AliasLine
import AliasBook.Registry.Operations
import AliasBook.Text.Reading

/-! Definitions from a file. Each line that defines aliases is registered by itself, in order; the first one
    that is refused ends the loading, and what came before it stays. -/

namespace AliasBook.Action

variable {ρ : Type}

/-- Registers the aliases that a line defines. -/
def registerLine (l : AliasLine) : Action ρ Nat :=
  registerMany l.name (.list (l.aliases.map Value.text))

/-- Loads lines, the first of which has the given number, and counts the ones that define aliases. A line
    that should and does not is told of and passed over. -/
def loadLines (path : String) : Nat → List String → Action ρ Nat
  | _, [] => pure 0
  | number, line :: rest => do
    match AliasLine.parse? line with
    | some l =>
      let _ ← registerLine l
      return (← loadLines path (number + 1) rest) + 1
    | none =>
      if !AliasLine.isSkipped line then tell (.malformedLine path number (Text.strip line))
      loadLines path (number + 1) rest

/-- Loads a file with the given bytes; a file that is not there holds nothing. If the file cannot be read to
    its end, the lines that could be read are loaded before that comes out. -/
def loadFile (path : String) (bytes : Option ByteArray) : Action ρ Nat := do
  match bytes with
  | none => return 0
  | some bytes =>
    let reading := Text.read bytes
    let count ← loadLines path 1 reading.lines
    if reading.isWhole then return count else throw .undecodable

end AliasBook.Action
