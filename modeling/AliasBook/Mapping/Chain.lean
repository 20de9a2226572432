import AliasBook.Mapping.Basic

/-! The chain of a name: the name itself, the name it stands for, the name that one stands for, and so on up
    to a name that is no alias. A mapping written without checks may run in a circle; a walk stops before
    it would come to a name a second time, and tells which one that is. -/

namespace AliasBook

/-- A walk along a mapping. -/
structure Walk where
  start : String
  /-- The names after the start, each once. -/
  path : List String
  /-- The name that the walk would have come to a second time. -/
  again : Option String

namespace Walk

/-- Where the walk ends. -/
def last (w : Walk) : String := w.path.getLastD w.start

/-- The name is come to in one step or in several. -/
def reaches (w : Walk) (name : String) : Bool :=
  w.path.contains name || w.again == some name

end Walk

namespace Mapping

/-- The names after `x`, each the one that the name before it stands for: up to `count` of them. -/
def follow (m : Mapping) : Nat → String → List String
  | 0, _ => []
  | count + 1, x =>
    match m.get? x with
    | none => []
    | some y => y :: follow m count y

/-- The names up to the first one that came before or is among the `seen` ones. -/
def distinctFront (seen : List String) : List String → List String
  | [] => []
  | y :: names => if y ∈ seen then [] else y :: distinctFront (y :: seen) names

/-- The walk from a name as far as it goes. A walk that comes to an end within as many steps as there are
    entries has met no name twice; any other runs in a circle, and is cut where it would come to a name a
    second time. -/
def walk (m : Mapping) (x : String) : Walk :=
  let names := m.follow m.size x
  match m.get? (names.getLastD x) with
  | none => { start := x, path := names, again := none }
  | some _ =>
    let path := distinctFront [x] names
    { start := x, path, again := m.get? (path.getLastD x) }

/-- The name and the ones it leads to, each once. -/
def chain (m : Mapping) (x : String) : List String :=
  x :: (m.walk x).path

/-- The last name of the chain. -/
def canonical (m : Mapping) (x : String) : String :=
  (m.walk x).last

/-- The alias leads to the name. -/
def hasAlias (m : Mapping) (name a : String) : Bool :=
  (m.walk a).reaches name

end Mapping

end AliasBook
