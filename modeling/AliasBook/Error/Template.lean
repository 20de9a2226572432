import AliasBook.Error.Template.Subject

/-! Message templates: text with fields in braces, where a brace that is text is written twice. A field names
    the value that replaces it, may go on to a part or an item of it, and may ask for the quoted form and for
    a layout, which may hold fields in turn. Filling goes from left to right, and the first thing that is
    wrong, with the template or with the values, decides. -/

namespace AliasBook

namespace Template

/-- A part of a template: one character of its text, or a field with its conversion and its layout. -/
inductive Part where
  | char (c : Char)
  | field (name : String) (conversion : Option Char) (layout : String)
deriving DecidableEq

/-- Reads a layout, which ends where the braces opened in it are closed again; `read` holds what has been
    read of it, last character first. -/
def readLayout (read : List Char) : Nat → List Char → Except Flaw (String × List Char)
  | _, [] => .error .unclosedLayout
  | depth, c :: cs =>
    if c = '\x7b' then readLayout (c :: read) (depth + 1) cs
    else if c = '\x7d' then
      match depth with
      | 0 => .ok (String.ofList read.reverse, cs)
      | depth + 1 => readLayout (c :: read) depth cs
    else readLayout (c :: read) depth cs

/-- Reads the conversion behind its mark, and the layout behind it if there is one. -/
def readConversion : List Char → Except Flaw (Char × String × List Char)
  | [] => .error .missingConversion
  | [_] => .error .unclosedLayout
  | c :: d :: cs =>
    if d = '\x7d' then .ok (c, "", cs)
    else if d = ':' then (readLayout [] 0 cs).map (c, ·)
    else .error .looseConversion

/-- Reads a field behind its opening brace; `name` holds what has been read of its name, last character
    first. Between square brackets all characters belong to the name. -/
def readField (inBrackets : Bool) (name : List Char) : List Char → Except Flaw (Part × List Char)
  | [] => .error .unclosed
  | c :: cs =>
    if inBrackets then readField (c != ']') (c :: name) cs
    else if c = '\x7b' then .error .nestedOpening
    else if c = '\x7d' then .ok (.field (String.ofList name.reverse) none "", cs)
    else if c = ':' then
      (readLayout [] 0 cs).map fun (layout, rest) =>
        (.field (String.ofList name.reverse) none layout, rest)
    else if c = '!' then
      (readConversion cs).map fun (conversion, layout, rest) =>
        (.field (String.ofList name.reverse) (some conversion) layout, rest)
    else readField (c == '[') (c :: name) cs

theorem length_readLayout {read cs rest : List Char} {depth : Nat} {layout : String}
    (h : readLayout read depth cs = .ok (layout, rest)) : rest.length < cs.length := by
  induction cs generalizing read depth with
  | nil => simp [readLayout] at h
  | cons c cs ih =>
    unfold readLayout at h
    split at h
    · exact Nat.lt_succ_of_lt (ih h)
    · split at h
      · split at h
        · cases h
          exact Nat.lt_succ_self _
        · exact Nat.lt_succ_of_lt (ih h)
      · exact Nat.lt_succ_of_lt (ih h)

theorem length_readConversion {cs rest : List Char} {c : Char} {layout : String}
    (h : readConversion cs = .ok (c, layout, rest)) : rest.length < cs.length := by
  match cs with
  | [] => simp [readConversion] at h
  | [_] => simp [readConversion] at h
  | a :: d :: cs =>
    rw [readConversion] at h
    split at h
    · cases h
      exact Nat.lt_succ_of_lt (Nat.lt_succ_self _)
    · split at h
      · match hl : readLayout [] 0 cs, h with
        | .ok (l, r), h =>
          cases h
          exact Nat.lt_succ_of_lt (Nat.lt_succ_of_lt (length_readLayout hl))
      · cases h

theorem length_readField {inBrackets : Bool} {name cs rest : List Char} {part : Part}
    (h : readField inBrackets name cs = .ok (part, rest)) : rest.length < cs.length := by
  induction cs generalizing inBrackets name with
  | nil => simp [readField] at h
  | cons c cs ih =>
    rw [readField] at h
    split at h
    · exact Nat.lt_succ_of_lt (ih h)
    split at h
    · cases h
    split at h
    · cases h
      exact Nat.lt_succ_self _
    split at h
    · match hl : readLayout [] 0 cs, h with
      | .ok (l, r), h =>
        cases h
        exact Nat.lt_succ_of_lt (length_readLayout hl)
    split at h
    · match hl : readConversion cs, h with
      | .ok (k, l, r), h =>
        cases h
        exact Nat.lt_succ_of_lt (length_readConversion hl)
    · exact Nat.lt_succ_of_lt (ih h)

/-- The parts of a template up to its first flaw, and that flaw. -/
def parts : List Char → List Part × Option Flaw
  | [] => ([], none)
  | ['\x7b'] => ([], some .loneOpening)
  | '\x7b' :: '\x7b' :: cs =>
    let (others, flaw) := parts cs
    (.char '\x7b' :: others, flaw)
  | '\x7d' :: '\x7d' :: cs =>
    let (others, flaw) := parts cs
    (.char '\x7d' :: others, flaw)
  | '\x7d' :: _ => ([], some .loneClosing)
  | '\x7b' :: cs =>
    match _h : readField false [] cs with
    | .error flaw => ([], some flaw)
    | .ok (part, rest) =>
      let (others, flaw) := parts rest
      (part :: others, flaw)
  | c :: cs =>
    let (others, flaw) := parts cs
    (.char c :: others, flaw)
termination_by cs => cs.length
decreasing_by
  · simp only [List.length_cons]; omega
  · simp only [List.length_cons]; omega
  · have := length_readField _h
    simp only [List.length_cons]; omega
  · simp only [List.length_cons]; omega

/-- The number that a text writes in decimal digits of any script. One that is too large is refused as
    soon as its digits are, whatever follows them. -/
def number? (cs : List Char) : Except Flaw (Option Nat) :=
  let (n, rest) := Text.leadingNumber cs
  if Layout.maxNumber < n then .error .hugeNumber
  else .ok (if rest.isEmpty && !cs.isEmpty then some n else none)

/-- The character starts a step from a value to a part of it. -/
def startsStep (c : Char) : Bool := c == '.' || c == '['

/-- The value that a field starts from: by its name, or by its place if the name is a number or empty. -/
def start (values : List (String × Value)) (name : List Char) : Except Flaw Value := do
  match ← number? name with
  | some place => .error (.missingPlace place)
  | none =>
    if name.isEmpty then .error (.missingPlace 0)
    else
      match values.lookup (String.ofList name) with
      | some v => .ok v
      | none => .error (.missingField (String.ofList name))

/-- Goes from a subject to a part or an item of it, to one of that, and so on, as the steps behind the name
    of a field say. Each step is shorter than the text, so that `fuel` is enough if it is the text's
    length. -/
def followSteps : Nat → Subject → List Char → Except Flaw Subject
  | _, s, [] => .ok s
  | fuel + 1, s, c :: cs =>
    if c = '.' then
      let name := cs.takeWhile fun c => !startsStep c
      if name.isEmpty then .error .emptyStep
      else do
        let part ← s.part (String.ofList name)
        followSteps fuel part (cs.dropWhile fun c => !startsStep c)
    else if c = '[' then
      let name := cs.takeWhile (· ≠ ']')
      match cs.dropWhile (· ≠ ']') with
      | [] => .error .unclosedStep
      | _ :: rest => do
        let i ← number? name
        if name.isEmpty then .error .emptyStep
        else
          let item ←
            match i with
            | some i => s.itemAt i
            | none => s.itemNamed (String.ofList name)
          followSteps fuel item rest
    else .error .looseStep
  | 0, _, _ :: _ => .error .looseStep

/-- What a field stands for. -/
def lookUp (values : List (String × Value)) (field : String) : Except Flaw Subject := do
  let cs := field.toList
  let v ← start values (cs.takeWhile fun c => !startsStep c)
  followSteps cs.length v (cs.dropWhile fun c => !startsStep c)

/-- The text that replaces a part, where `expand` fills the fields of a layout. -/
def fillPart (values : List (String × Value)) (expand : String → Except Flaw String) :
    Part → Except Flaw String
  | .char c => .ok (String.singleton c)
  | .field name conversion layout => do
    let found ← lookUp values name
    let s ← found.convert conversion
    let layout ← if layout.toList.contains '\x7b' then expand layout else pure layout
    s.layOut layout

/-- The texts of the parts, one after the other. -/
def fillParts (values : List (String × Value)) (expand : String → Except Flaw String) :
    List Part → Except Flaw String
  | [] => .ok ""
  | part :: others => do
    let s ← fillPart values expand part
    let rest ← fillParts values expand others
    return s ++ rest

/-- The template with the values in place of its fields, where layouts may hold templates up to the
    given depth. -/
def fillWithin : Nat → List (String × Value) → String → Except Flaw String
  | 0, _, _ => .error .tooNested
  | depth + 1, values, template => do
    let (found, flaw) := parts template.toList
    let s ← fillParts values (fillWithin depth values) found
    match flaw with
    | some flaw => .error flaw
    | none => return s

/-- The template with the values in place of its fields. The layouts of fields may hold fields, but the
    layouts of these may not. -/
def fill (template : String) (values : List (String × Value)) : Except Flaw String :=
  fillWithin 2 values template

end Template

end AliasBook
