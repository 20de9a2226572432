import AliasBook.Error.Layout

/-! Texts in layouts: a text may be cut at its end, and stands on the left unless told otherwise. -/

namespace AliasBook.Layout

/-- The text cut and filled up as the layout says. -/
def placeText (l : Layout) (cs : List Char) : List Char :=
  let kept :=
    match l.precision with
    | some n => cs.take n
    | none => cs
  let (before, _, after) := l.margins (l.width - kept.length)
  List.replicate before l.fill ++ kept ++ List.replicate after l.fill

/-- The text in the layout. Texts have no sign, no mark and no type but their own. -/
def ofText (l : Layout) (s : String) : Except Flaw String :=
  if l.type ≠ 's' then .error (.unknownType .text l.type)
  else if l.sign = some ' ' then .error .textSpaceSign
  else if l.sign.isSome then .error .textSign
  else if l.keepsNoZeroSign then .error .textZeroSign
  else if l.isMarked then .error .textMark
  else if l.align = .inside then .error .textInside
  else do
    l.checkWidth
    return String.ofList (l.placeText s.toList)

end AliasBook.Layout
