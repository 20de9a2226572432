import AliasBook.Environment
import AliasBook.Text.Blank
import AliasBook.Value

/-! Placeholders in texts, and their expansion. A placeholder names a key between `${` and `}`, perhaps with a
    default behind a colon. Its value may hold placeholders again, and these are expanded first. A text with
    a placeholder that cannot be expanded has no expansion. -/

namespace AliasBook

namespace Placeholder

/-- A character that neither a key nor a default holds. -/
def isBrace (c : Char) : Bool := c == '\x7b' || c == '\x7d'

/-- A part of a text: a character that belongs to no placeholder, or a placeholder. -/
inductive Piece where
  | char (c : Char)
  | hole (key : List Char) (default : Option (List Char))
deriving DecidableEq

/-- The characters that a piece was read from. -/
def Piece.source : Piece → List Char
  | .char c => [c]
  | .hole key none => '$' :: '\x7b' :: key ++ ['\x7d']
  | .hole key (some default) => '$' :: '\x7b' :: key ++ ':' :: default ++ ['\x7d']

/-- Reads the closing brace of a placeholder. -/
def readEnd (key : List Char) (default : Option (List Char)) :
    List Char → Option (Piece × List Char)
  | '\x7d' :: rest => some (.hole key default, rest)
  | _ => none

/-- A character that a key may hold. -/
def inKey (c : Char) : Bool := !isBrace c && c != ':'

/-- A character that a default may hold. -/
def inDefault (c : Char) : Bool := !isBrace c

/-- Reads a placeholder behind its opening brace: a key of at least one character, the default if a colon
    follows, and the closing brace. -/
def readHole (cs : List Char) : Option (Piece × List Char) :=
  let key := cs.takeWhile inKey
  if key.isEmpty then none
  else
    match cs.dropWhile inKey with
    | ':' :: rest => readEnd key (some (rest.takeWhile inDefault)) (rest.dropWhile inDefault)
    | rest => readEnd key none rest

theorem length_dropWhile_le (p : Char → Bool) (cs : List Char) :
    (cs.dropWhile p).length ≤ cs.length :=
  (List.dropWhile_sublist p).length_le

theorem length_readEnd {key cs rest : List Char} {default : Option (List Char)} {piece : Piece}
    (h : readEnd key default cs = some (piece, rest)) : rest.length < cs.length := by
  unfold readEnd at h
  split at h
  · cases h
    exact Nat.lt_succ_self _
  · cases h

theorem length_readHole {cs rest : List Char} {piece : Piece}
    (h : readHole cs = some (piece, rest)) : rest.length < cs.length := by
  have hkey := length_dropWhile_le inKey cs
  unfold readHole at h
  simp only at h
  split at h
  · cases h
  · split at h
    · next after hd =>
      rw [hd, List.length_cons] at hkey
      have := length_readEnd h
      have := length_dropWhile_le inDefault after
      omega
    · have := length_readEnd h
      omega

/-- The pieces of a text: its placeholders from the left, and the characters between them. -/
def pieces : List Char → List Piece
  | '$' :: '\x7b' :: cs =>
    match _h : readHole cs with
    | some (piece, rest) => piece :: pieces rest
    | none => .char '$' :: pieces ('\x7b' :: cs)
  | c :: cs => .char c :: pieces cs
  | [] => []
termination_by cs => cs.length
decreasing_by
  · have := length_readHole _h
    simp only [List.length_cons]; omega
  · simp only [List.length_cons]; omega
  · simp only [List.length_cons]; omega

/-- Where placeholders get their values, and what becomes of those that have none. -/
structure Expander where
  values : List (String × Value) := []
  /-- The environment, if keys may come from it too. -/
  environment : Option Environment := none
  /-- Leaves placeholders without a value as they are. -/
  keepsUnknown : Bool := false
  /-- How deep values may hold placeholders in values. -/
  maxDepth : Int := 20

namespace Expander

/-- The text of a key: from the values or else, if allowed, from the environment. -/
def lookUp (x : Expander) (key : String) : Option String :=
  match x.values.lookup key with
  | some v => some v.display
  | none => x.environment.bind (·.get? key)

/-- The text that replaces a piece, where `expand` expands what the key `inside` of it stands for. -/
def expandPiece (x : Expander) (inProgress : List String)
    (expand : String → String → Option String) : Piece → Option String
  | .char c => some (String.singleton c)
  | .hole key default =>
    let name := Text.strip (String.ofList key)
    if name ∈ inProgress then none
    else
      match x.lookUp name, default with
      | some raw, _ => expand name raw
      | none, some raw => expand name (String.ofList raw)
      | none, none =>
        if x.keepsUnknown then some (String.ofList (Piece.source (.hole key none))) else none

/-- The expansion of a text inside the values of the keys that are in progress. None of these may occur
    again, and no more than `depth` values may be inside each other. -/
def expandWithin (x : Expander) : Nat → List String → String → Option String
  | 0, _, _ => none
  | depth + 1, inProgress, s =>
    ((pieces s.toList).mapM (x.expandPiece inProgress fun name raw =>
      x.expandWithin depth (name :: inProgress) raw)).map String.join

/-- The expansion of a text. -/
def expand (x : Expander) (s : String) : Option String :=
  x.expandWithin (x.maxDepth + 1).toNat [] s

end Expander

end Placeholder

end AliasBook
