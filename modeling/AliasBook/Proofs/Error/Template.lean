import AliasBook.Error.Message
import Mathlib.Data.List.TakeWhile

/-! Templates by their segments: literal texts, in which braces are doubled, and fields that name a value. Reading undoes
    the writing of segments, however texts and fields meet (`Template.parts_source`). Filled in, a template is its texts
    with the values between them, if all of them are there, and else nothing of it is filled
    (`Template.fill_of_supplied`, `Template.fill_of_missing`). -/

namespace AliasBook

namespace Template

/-! ### Segments -/

/-- The character can stand in a name: of ASCII only letters, digits and underscores can. -/
def inName (c : Char) : Bool := 0x80 ≤ c.toNat || c.isAlphanum || c == '_'

/-- A text that can name a value. -/
structure Identifier where
  text : String
  nonempty : text.toList ≠ [] := by decide
  /-- Digits cannot come first. -/
  start : text.toList.head?.any Text.isDecimalDigit = false := by decide
  chars : text.toList.all inName = true := by decide

/-- How a field shows its value: as it is, as a text, or as a quoted text. -/
inductive Form where
  | plain
  | shown
  | quoted
deriving DecidableEq

def Form.conversion : Form → Option Char
  | .plain => none
  | .shown => some 's'
  | .quoted => some 'r'

/-- What stands behind the name of a field. -/
def Form.mark : Form → List Char
  | .plain => []
  | .shown => ['!', 's']
  | .quoted => ['!', 'r']

def Form.text : Form → Value → String
  | .plain, v | .shown, v => v.display
  | .quoted, v => v.quoted

/-- A piece of a template: a text that stands for itself, or a field. -/
inductive Segment where
  | literal (s : String)
  | field (name : Identifier) (form : Form)

/-- A character of a literal text as it is written. -/
def double (c : Char) : List Char :=
  if c = '\x7b' ∨ c = '\x7d' then [c, c] else [c]

namespace Segment

/-- The segment as it is written. -/
def source : Segment → List Char
  | .literal s => s.toList.flatMap double
  | .field name form => '\x7b' :: (name.text.toList ++ (form.mark ++ ['\x7d']))

/-- What the segment is read as. -/
def parts : Segment → List Part
  | .literal s => s.toList.map .char
  | .field name form => [.field name.text form.conversion ""]

def name? : Segment → Option String
  | .literal _ => none
  | .field name _ => some name.text

/-- The text that the segment stands for. A field without a value stands for none. -/
def text (values : List (String × Value)) : Segment → String
  | .literal s => s
  | .field name form => ((values.lookup name.text).map form.text).getD ""

end Segment

/-- The template that is made of the segments. -/
def source (segs : List Segment) : String :=
  String.ofList (segs.flatMap Segment.source)

/-- The names that the segments ask for. -/
def names (segs : List Segment) : List String :=
  segs.filterMap Segment.name?

/-- All names that the segments ask for have a value. -/
def Supplied (values : List (String × Value)) (segs : List Segment) : Prop :=
  ∀ name ∈ names segs, name ∈ values.map Prod.fst

instance (values : List (String × Value)) (segs : List Segment) : Decidable (Supplied values segs) :=
  List.decidableBAll (fun name => name ∈ values.map Prod.fst) (names segs)

/-- The texts of the segments, one after the other. -/
def filled (values : List (String × Value)) (segs : List Segment) : String :=
  String.join (segs.map (Segment.text values))

variable {c : Char} {cs rest read : List Char} {values values' : List (String × Value)} {segs : List Segment}
  {seg : Segment} {expand : String → Except Flaw String} {name : Identifier} {form : Form}

/-! ### Reading -/

/-- The characters that end the name of a field or a step of it. -/
def signs : List Char := ['\x7b', '\x7d', '!', ':', '.', '[']

theorem not_mem_signs (hc : c ∈ name.text.toList) : c ∉ signs := by
  have hsigns : signs.any inName = false := by decide
  have hname := List.all_eq_true.mp name.chars c hc
  exact fun hsign => List.any_eq_false.mp hsigns c hsign hname

theorem readField_name (hcs : ∀ c ∈ cs, c ∉ signs) (read rest : List Char) :
    readField false read (cs ++ rest) = readField false (cs.reverse ++ read) rest := by
  induction cs generalizing read with
  | nil => rfl
  | cons c cs ih =>
    obtain ⟨hc, hcs⟩ := List.forall_mem_cons.mp hcs
    simp only [signs, List.mem_cons, List.not_mem_nil, or_false, not_or] at hc
    obtain ⟨hopen, hclose, hmark, hcolon, -, hbracket⟩ := hc
    have hinside : (c == '[') = false := by simpa using hbracket
    rw [List.cons_append, readField]
    simp only [Bool.false_eq_true, if_false, hopen, hclose, hcolon, hmark, hinside]
    rw [ih hcs, List.reverse_cons, List.append_assoc]
    rfl

/-- A field is read up to its closing brace, whatever follows it. -/
theorem readField_source (name : Identifier) (form : Form) (rest : List Char) :
    readField false [] (name.text.toList ++ (form.mark ++ '\x7d' :: rest)) =
      .ok (.field name.text form.conversion "", rest) := by
  rw [readField_name fun c hc => not_mem_signs hc]
  cases form <;> simp [Form.mark, Form.conversion, readField, readConversion, Except.map]

theorem parts_char (hopen : c ≠ '\x7b') (hclose : c ≠ '\x7d') (cs : List Char) :
    parts (c :: cs) = (.char c :: (parts cs).1, (parts cs).2) := by
  rw [parts]
  all_goals simp_all

theorem parts_double (c : Char) (cs : List Char) :
    parts (double c ++ cs) = (.char c :: (parts cs).1, (parts cs).2) := by
  by_cases hbrace : c = '\x7b' ∨ c = '\x7d'
  · rw [double, if_pos hbrace]
    rcases hbrace with rfl | rfl
    · rw [List.cons_append, List.singleton_append, parts]
    · rw [List.cons_append, List.singleton_append, parts]
  · rw [double, if_neg hbrace]
    rw [not_or] at hbrace
    exact parts_char hbrace.1 hbrace.2 cs

theorem parts_field (name : Identifier) (form : Form) (cs : List Char) :
    parts ((Segment.field name form).source ++ cs) = (.field name.text form.conversion "" :: (parts cs).1, (parts cs).2) := by
  have hread := readField_source name form cs
  cases hname : name.text.toList with
  | nil => exact absurd hname name.nonempty
  | cons d ds =>
    have hmem : d ∈ name.text.toList := by simp [hname]
    have hd : d ∉ signs := not_mem_signs hmem
    have hopen : d ≠ '\x7b' := fun heq => hd (by simp [heq, signs])
    simp only [Segment.source, hname, List.cons_append, List.append_assoc, List.nil_append] at hread ⊢
    rw [parts]
    · split
      · rename_i flaw hflaw
        rw [hread] at hflaw
        cases hflaw
      · rename_i part later hpart
        rw [hread] at hpart
        cases hpart
        rfl
    · simp
    · simp [hopen]

theorem parts_segment (seg : Segment) (cs : List Char) :
    parts (seg.source ++ cs) = (seg.parts ++ (parts cs).1, (parts cs).2) := by
  cases seg with
  | field name form => exact parts_field name form cs
  | literal s =>
    simp only [Segment.source, Segment.parts]
    induction s.toList with
    | nil => rfl
    | cons c text ih => rw [List.flatMap_cons, List.append_assoc, parts_double, ih, List.map_cons, List.cons_append]

/-- What is read from a template is what it was written from, and nothing is wrong with it. -/
theorem parts_source (segs : List Segment) : parts (source segs).toList = (segs.flatMap Segment.parts, none) := by
  rw [source, String.toList_ofList]
  induction segs with
  | nil => rw [List.flatMap_nil, List.flatMap_nil, parts]
  | cons seg segs ih => rw [List.flatMap_cons, parts_segment, ih, List.flatMap_cons]

/-! ### Filling -/

theorem number?_of_not_digit (hc : Text.isDecimalDigit c = false) (cs : List Char) : number? (c :: cs) = .ok none := by
  simp [number?, Text.leadingNumber, hc]

theorem lookUp_identifier (values : List (String × Value)) (name : Identifier) :
    lookUp values name.text = match values.lookup name.text with
      | some v => .ok (.value v)
      | none => .error (.missingField name.text) := by
  have hsteps : ∀ c ∈ name.text.toList, (!startsStep c) = true := by
    intro c hc
    have hsign := not_mem_signs hc
    simp only [signs, List.mem_cons, List.not_mem_nil, or_false, not_or] at hsign
    simp [startsStep, hsign]
  have htake : name.text.toList.takeWhile (fun c => !startsStep c) = name.text.toList :=
    List.takeWhile_eq_self_iff.mpr hsteps
  have hdrop : name.text.toList.dropWhile (fun c => !startsStep c) = [] :=
    List.dropWhile_eq_nil_iff.mpr hsteps
  have hplace : number? name.text.toList = .ok none := by
    cases hname : name.text.toList with
    | nil => exact absurd hname name.nonempty
    | cons c cs =>
      have hstart := name.start
      rw [hname, List.head?_cons, Option.any_some] at hstart
      exact number?_of_not_digit hstart cs
  have hempty : name.text.toList.isEmpty = false := by simpa using name.nonempty
  simp only [lookUp, htake, hdrop, start, hplace, bind, Except.bind, hempty, Bool.false_eq_true, if_false,
    String.ofList_toList, followSteps]
  cases values.lookup name.text <;> rfl

theorem fillPart_field (values : List (String × Value)) (expand : String → Except Flaw String) (name : Identifier)
    (form : Form) : fillPart values expand (.field name.text form.conversion "") = match values.lookup name.text with
      | some v => .ok (form.text v)
      | none => .error (.missingField name.text) := by
  rw [fillPart, lookUp_identifier]
  cases values.lookup name.text with
  | none => rfl
  | some v => cases form <;> rfl

theorem fillParts_text (text : List Char) (others : List Part) :
    fillParts values expand (text.map .char ++ others) =
      (fillParts values expand others).map (String.ofList text ++ ·) := by
  induction text with
  | nil =>
    rw [List.map_nil, List.nil_append]
    cases fillParts values expand others <;> simp [Except.map]
  | cons c text ih =>
    rw [List.map_cons, List.cons_append, fillParts, ih]
    cases fillParts values expand others with
    | error flaw => rfl
    | ok s => simp [fillPart, Except.map, bind, Except.bind, pure, Except.pure, String.ofList_cons, String.append_assoc]

theorem mem_keys_iff_lookup {name : String} : name ∈ values.map Prod.fst ↔ ∃ v, values.lookup name = some v := by
  rw [← Option.isSome_iff_exists, List.lookup_isSome_iff, List.mem_map]
  exact exists_congr fun p => and_congr_right fun _ => eq_comm.trans beq_iff_eq.symm

/-- A segment whose value is there puts its text before that of the others. -/
theorem fillParts_of_supplied (h : ∀ name ∈ seg.name?, name ∈ values.map Prod.fst) (others : List Part) :
    fillParts values expand (seg.parts ++ others) = (fillParts values expand others).map (seg.text values ++ ·) := by
  cases seg with
  | literal s => rw [Segment.parts, fillParts_text, String.ofList_toList, Segment.text]
  | field name form =>
    obtain ⟨v, hv⟩ := mem_keys_iff_lookup.mp (h name.text rfl)
    have hpart := fillPart_field values expand name form
    rw [hv] at hpart
    rw [Segment.parts, List.singleton_append, fillParts, hpart, Segment.text, hv]
    cases fillParts values expand others <;> rfl

/-- A segment whose value is missing ends the filling, whatever comes behind it. -/
theorem fillParts_of_missing {key : String} (h : seg.name? = some key) (hkey : key ∉ values.map Prod.fst)
    (others : List Part) : fillParts values expand (seg.parts ++ others) = .error (.missingField key) := by
  cases seg with
  | literal s => cases h
  | field name form =>
    cases h
    have hpart := fillPart_field values expand name form
    rw [mem_keys_iff_lookup, not_exists] at hkey
    rw [Option.eq_none_iff_forall_ne_some.mpr hkey] at hpart
    rw [Segment.parts, List.singleton_append, fillParts, hpart]
    rfl

theorem names_cons (seg : Segment) (segs : List Segment) : names (seg :: segs) = seg.name?.toList ++ names segs := by
  rw [names, List.filterMap_cons]
  cases seg.name? <;> rfl

@[simp] theorem filled_nil : filled values [] = "" := rfl

@[simp] theorem filled_cons (seg : Segment) (segs : List Segment) :
    filled values (seg :: segs) = seg.text values ++ filled values segs := by
  rw [filled, filled, List.map_cons, String.join_cons]

theorem supplied_cons_iff :
    Supplied values (seg :: segs) ↔ (∀ name ∈ seg.name?, name ∈ values.map Prod.fst) ∧ Supplied values segs := by
  simp only [Supplied, names_cons, List.forall_mem_append, Option.mem_toList, Option.mem_def]

theorem fillParts_segments (h : Supplied values segs) :
    fillParts values expand (segs.flatMap Segment.parts) = .ok (filled values segs) := by
  induction segs with
  | nil => rfl
  | cons seg segs ih =>
    obtain ⟨hseg, hsegs⟩ := supplied_cons_iff.mp h
    rw [List.flatMap_cons, fillParts_of_supplied hseg, ih hsegs, filled_cons]
    rfl

theorem fillParts_segments_missing (expand : String → Except Flaw String) (h : ¬Supplied values segs) :
    ∃ name, fillParts values expand (segs.flatMap Segment.parts) = .error (.missingField name) := by
  induction segs with
  | nil => exact absurd (by simp [Supplied, names]) h
  | cons seg segs ih =>
    rw [List.flatMap_cons]
    by_cases hseg : ∀ name ∈ seg.name?, name ∈ values.map Prod.fst
    · obtain ⟨name, hname⟩ := ih fun hsegs => h (supplied_cons_iff.mpr ⟨hseg, hsegs⟩)
      rw [fillParts_of_supplied hseg, hname]
      exact ⟨name, rfl⟩
    · simp only [not_forall] at hseg
      obtain ⟨name, hname, hmissing⟩ := hseg
      exact ⟨name, fillParts_of_missing hname hmissing _⟩

theorem fill_of_supplied (h : Supplied values segs) : fill (source segs) values = .ok (filled values segs) := by
  rw [fill, fillWithin, parts_source]
  simp only [fillParts_segments h, bind, Except.bind, pure, Except.pure]

theorem fill_of_missing (h : ¬Supplied values segs) :
    ∃ name, fill (source segs) values = .error (.missingField name) := by
  obtain ⟨name, hname⟩ := fillParts_segments_missing (fillWithin 1 values) h
  refine ⟨name, ?_⟩
  rw [fill, fillWithin, parts_source]
  simp only [hname, bind, Except.bind]

/-- Only what the segments ask for matters. -/
theorem supplied_congr (h : ∀ name ∈ names segs, values'.lookup name = values.lookup name) :
    Supplied values' segs ↔ Supplied values segs := by
  refine forall₂_congr fun name hname => ?_
  rw [mem_keys_iff_lookup, mem_keys_iff_lookup, h name hname]

theorem filled_congr (h : ∀ name ∈ names segs, values'.lookup name = values.lookup name) :
    filled values' segs = filled values segs := by
  refine congrArg String.join (List.map_congr_left fun seg hseg => ?_)
  cases seg with
  | literal s => rfl
  | field name form => rw [Segment.text, h name.text (List.mem_filterMap.mpr ⟨_, hseg, rfl⟩), Segment.text]

end Template

/-! ### Messages -/

/-- A text as a value, and `null` where there is none. -/
def Value.ofText? : Option String → Value
  | some s => .text s
  | none => .null

namespace ErrorCode
open Template
variable {code : ErrorCode} {segs : List Segment} {values : List (String × Value)}

theorem message_of_supplied (hcode : code.template = .text (source segs)) (h : Supplied values segs) :
    code.message values = filled values segs := by
  simp only [message, hcode, fill_of_supplied h, Except.toOption, Option.getD_some]

theorem format_of_supplied (hcode : code.template = .text (source segs)) (h : Supplied values segs) (given : Value) :
    code.format given values = .ok (code.code ++ ": " ++ filled values segs ++ code.hint given) := by
  simp only [format, fill, hcode, fill_of_supplied h, Except.mapError]

theorem format_of_missing (hcode : code.template = .text (source segs)) (h : ¬Supplied values segs) (given : Value) :
    code.format given values = .ok (code.code ++ ": " ++ source segs ++ code.hint given) := by
  obtain ⟨name, hname⟩ := fill_of_missing h
  simp only [format, fill, hcode, hname, Except.mapError, Fault.isMissingValue, Flaw.isMissing, if_true, Value.display]

theorem hint_ofText? {own : Option String} (hown : code.suggestion = .ofText? own) (given : Option String) :
    code.hint (.ofText? given) = match given <|> own with
      | some hint => if hint = "" then "" else " (" ++ hint ++ ")"
      | none => "" := by
  have hint_text : ∀ s : String, (if (Value.text s).isNothing then "" else " (" ++ (Value.text s).display ++ ")") =
      if s = "" then "" else " (" ++ s ++ ")" := by
    intro s
    by_cases hs : s = ""
    · simp [hs, Value.isNothing]
    · simp [hs, Value.isNothing, Value.display]
  cases given with
  | some s => exact hint_text s
  | none =>
    have hint_own : code.hint (.ofText? none) =
        if code.suggestion.isNothing then "" else " (" ++ code.suggestion.display ++ ")" := rfl
    rw [hint_own, hown]
    cases own with
    | some s => exact hint_text s
    | none => rfl

/-- The message of a code is its template with the values as they are in place of the fields, if all of them are there,
    and the template as it is written if one is missing. Other values do not matter, and a hint follows if the given
    suggestion, or else the code's own, is not empty. -/
theorem format_all_or_nothing {own : Option String} (htemplate : code.template = .text (source segs))
    (hown : code.suggestion = .ofText? own) (given : Option String) (values : List (String × Value)) :
    let line (message : String) : Except Fault String :=
      .ok (code.code ++ ": " ++ message ++ match given <|> own with
        | some hint => if hint = "" then "" else " (" ++ hint ++ ")"
        | none => "")
    (Supplied values segs → code.format (.ofText? given) values = line (filled values segs)) ∧
      (¬Supplied values segs → code.format (.ofText? given) values = line (source segs)) ∧
      ∀ values', (∀ name ∈ names segs, values'.lookup name = values.lookup name) →
        code.format (.ofText? given) values' = code.format (.ofText? given) values := by
  intro line
  refine ⟨fun h => ?_, fun h => ?_, fun values' hsame => ?_⟩
  · rw [format_of_supplied htemplate h, hint_ofText? hown]
  · rw [format_of_missing htemplate h, hint_ofText? hown]
  · by_cases h : Supplied values segs
    · rw [format_of_supplied htemplate h, format_of_supplied htemplate ((supplied_congr hsame).mpr h), filled_congr hsame]
    · rw [format_of_missing htemplate h, format_of_missing htemplate fun h' => h ((supplied_congr hsame).mp h')]

/-- Fields between braces that are text, with values that look like fields. -/
theorem format_braces :
    let code : ErrorCode :=
      { code := "ALIAS-SYS-900"
        template := "\x7b\x7b\x7bname\x7d\x7d\x7d is \x7bvalue!r\x7d\x7d\x7d\x7b\x7b"
        suggestion := "Look it up." }
    let segs : List Segment :=
      [.literal "\x7b", .field { text := "name" } .plain, .literal "\x7d is ", .field { text := "value" } .quoted, .literal "\x7d\x7b"]
    let values : List (String × Value) := [("name", "\x7bvalue\x7d"), ("value", "\x7b0\x7d's")]
    code.template = .text (source segs) ∧
      code.format .null values =
        .ok "ALIAS-SYS-900: \x7b\x7bvalue\x7d\x7d is \"\x7b0\x7d's\"\x7d\x7b (Look it up.)" ∧
      code.format "" (values.drop 1) =
        .ok "ALIAS-SYS-900: \x7b\x7b\x7bname\x7d\x7d\x7d is \x7bvalue!r\x7d\x7d\x7d\x7b\x7b" ∧
      code.format .null (("other", .int 1) :: values) = code.format .null values := by
  intro code segs values
  have htemplate : code.template = .text (source segs) := congrArg Value.text (by decide +kernel)
  have hown : code.suggestion = .ofText? (some "Look it up.") := rfl
  obtain ⟨hfilled, -, hother⟩ := format_all_or_nothing htemplate hown none values
  obtain ⟨-, hmissing, -⟩ := format_all_or_nothing htemplate hown (some "") (values.drop 1)
  have hsame : ∀ key ∈ names segs, (("other", .int 1) :: values).lookup key = values.lookup key := by
    intro key hkey
    have hkeys : key = "name" ∨ key = "value" := by simpa [names, segs, Segment.name?, eq_comm] using hkey
    rcases hkeys with rfl | rfl
    · rfl
    · rfl
  refine ⟨htemplate, ?_, ?_, hother _ hsame⟩
  · exact (hfilled (by decide)).trans (congrArg Except.ok (by decide +kernel))
  · exact (hmissing (by decide)).trans (congrArg Except.ok (by decide +kernel))

end ErrorCode

end AliasBook
