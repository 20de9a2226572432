import AliasBook.Mapping.Basic

/-! The aliases of a name, found backwards from it: the ones that stand for the name itself, the ones that
    stand for those, and so on. -/

namespace AliasBook.Mapping

/-- The aliases that stand for the name directly, from the last one to the first. -/
def directAliases (m : Mapping) (name : String) : List String :=
  ((m.entries.filter fun e => e.2 = name).map Prod.fst).reverse

/-- Depth first from the aliases in `pending`: the ones not among the `seen` ones, in the order in which
    they are met. Each entry is pending at most once, so the number of entries is fuel enough. -/
def collect (m : Mapping) : Nat → List String → List String → List String
  | 0, _, _ => []
  | _ + 1, _, [] => []
  | fuel + 1, seen, a :: pending =>
    if a ∈ seen then m.collect fuel seen pending
    else a :: m.collect fuel (a :: seen) (m.directAliases a ++ pending)

/-- The aliases that lead to the name, without the name itself. -/
def aliasesOf (m : Mapping) (name : String) : List String :=
  m.collect m.size [name] (m.directAliases name)

/-- Texts in the order of their code points. -/
def sorted (names : List String) : List String :=
  names.mergeSort fun a b => a ≤ b

/-- The names that some alias stands for and that are no aliases themselves, each once and in order. -/
def canonicals (m : Mapping) : List String :=
  sorted (m.names.filter fun n => !m.contains n).eraseDups

/-- Every canonical name with its aliases, both in order. -/
def listing (m : Mapping) : List (String × List String) :=
  m.canonicals.map fun n => (n, sorted (m.aliasesOf n))

end AliasBook.Mapping
