import AliasBook.Proofs.Error.Template
import AliasBook.Proofs.Registry.Result

/-! Reports and the catalogue. Each cause of a refusal has its code there, and the template of the code, filled with the
    details of the report, is its message (`AliasError.catalogued`). The texts that callers bring are in the details only,
    so that signs of templates in them mean nothing. -/

namespace AliasBook
open Template

/-- The report can be made again by what it shows of itself. The catalogue has its code, the details hold what the
    segments of the template ask for, and the message of the code for them is the line of the report, with the
    suggestion behind it if there is one. -/
structure Report.Catalogued (r : Report) (code : ErrorCode) (segs : List Segment) (details : List (String × Value)) :
    Prop where
  code_shown : r.toValue.fields.lookup "code" = some (.text code.code)
  code_found : ErrorCode.find? code.code = some code
  template : code.template = .text (source segs)
  details_shown : r.toValue.fields.lookup "details" = some (.object details)
  supplied : Supplied details segs
  message_shown : r.toValue.fields.lookup "message" = some (.text (filled details segs))
  format : code.format .null details = .ok (r.line ++ match r.suggestion with
    | .null => ""
    | suggestion => " (" ++ suggestion.display ++ ")")

namespace AliasError

/-- The code for a cause. -/
def code : AliasError → ErrorCode
  | .emptyValue _ => .emptyValue
  | .notCallable _ => .notCallable
  | .conflict .. => .aliasConflict
  | .resolvedConflict .. => .resolvedConflict
  | .circular .. => .circularAlias
  | .unknown _ => .unknownAlias

/-- A field that shows its value as it is. -/
def asked (name : Identifier) : Segment := .field name .plain

/-- What the templates of both conflicts end with. -/
def taken : List Segment :=
  [.literal "It is already registered for name '", asked { text := "existing_name" }, .literal "'."]

/-- The segments of the template for a cause. -/
def segments : AliasError → List Segment
  | .emptyValue _ => [.literal "'", asked { text := "field" }, .literal "' must not be empty"]
  | .notCallable _ => [.literal "'", asked { text := "field" }, .literal "' must be callable"]
  | .conflict .. =>
    [.literal "Cannot define alias '", asked { text := "alias" }, .literal "' for name '", asked { text := "name" },
      .literal "': "] ++ taken
  | .resolvedConflict .. =>
    [.literal "Cannot register resolved alias '", asked { text := "alias" }, .literal "' (original: '",
      asked { text := "original_alias" }, .literal "') for name '", asked { text := "name" },
      .literal "': "] ++ taken
  | .circular .. =>
    [.literal "Cannot register alias '", asked { text := "alias" }, .literal "' for name '", asked { text := "name" },
      .literal "': Circular reference - '", asked { text := "name" }, .literal "' is a direct or indirect alias for '",
      asked { text := "alias" }, .literal "' already"]
  | .unknown _ => [.literal "No alias '", asked { text := "alias" }, .literal "' registered"]

/-- The details of the report of a cause. -/
def details : AliasError → List (String × Value)
  | .emptyValue field | .notCallable field => [("field", field)]
  | .conflict a name existing => [("alias", a), ("name", name), ("existing_name", existing)]
  | .resolvedConflict a name existing source =>
    [("alias", a), ("name", name), ("existing_name", existing), ("original_alias", source)]
  | .circular a name => [("alias", a), ("name", name)]
  | .unknown a => [("alias", a)]

theorem template_code (error : AliasError) : error.code.template = .text (source error.segments) := by
  cases error <;> cbv

theorem find?_code (error : AliasError) : ErrorCode.find? error.code.code = some error.code := by
  cases error <;> rfl

theorem supplied (error : AliasError) : Supplied error.details error.segments := by
  cases error <;>
    (simp only [Supplied, names, segments, taken, List.cons_append, List.nil_append, asked, List.filterMap_cons,
      Segment.name?, List.filterMap_nil, details, List.map_cons, List.map_nil]
     decide)

/-- The texts of the details stand in the message as they are. -/
theorem message_report (error : AliasError) : error.report.message = .text (filled error.details error.segments) := by
  rw [← ErrorCode.message_of_supplied error.template_code error.supplied]
  cases error <;> rfl

theorem code_report (error : AliasError) : error.report.code = .text error.code.code := by
  cases error <;> rfl

theorem details_report (error : AliasError) : error.report.details = .object error.details := by
  cases error <;> rfl

theorem suggestion_report (error : AliasError) : error.report.suggestion = error.code.suggestion := by
  cases error <;> rfl

theorem hint_code (error : AliasError) : error.code.hint .null = match error.code.suggestion with
    | .null => ""
    | suggestion => " (" ++ suggestion.display ++ ")" := by
  cases error <;> rfl

theorem catalogued (error : AliasError) : error.report.Catalogued error.code error.segments error.details where
  code_found := error.find?_code
  template := error.template_code
  supplied := error.supplied
  code_shown := by
    rw [Report.toValue, Report.shownFields, code_report]
    rfl
  details_shown := by
    rw [Report.toValue, Report.shownFields, details_report]
    rfl
  message_shown := by
    rw [Report.toValue, Report.shownFields, message_report]
    rfl
  format := by
    rw [ErrorCode.format_of_supplied error.template_code error.supplied, Report.line, code_report, message_report,
      suggestion_report, hint_code]
    rfl

end AliasError

namespace Action
variable {ρ α : Type}

/-- Whatever code ends with a refusal, and whatever texts it is about, the report of it can be made again from what the
    report shows of itself. -/
theorem refused_catalogued (act : Action ρ α) (s : Host ρ) : ∀ error, result act s = .error (.refused error) →
    ∃ code segs details, error.report.Catalogued code segs details :=
  fun error _ => ⟨_, _, _, error.catalogued⟩

/-- An alias, its name and the name it is refused for all look like fields. -/
theorem refused_catalogued_fields :
    let s : Host Unit :=
      { registry := { mapping := { entries := [("\x7bname!r\x7d", "\x7b0\x7d")] }, policy := .always false }
        caller := () }
    let details : List (String × Value) :=
      [("alias", "\x7bname!r\x7d"), ("name", "\x7b\x7b'alias"), ("existing_name", "\x7b0\x7d")]
    result (register "\x7b\x7b'alias" "\x7bname!r\x7d") s =
        .error (.refused (.conflict "\x7bname!r\x7d" "\x7b\x7b'alias" "\x7b0\x7d")) ∧
      ErrorCode.find? "ALIAS-REG-001" = some .aliasConflict ∧
      ErrorCode.aliasConflict.format .null details = .ok ("ALIAS-REG-001: Cannot define alias '\x7bname!r\x7d' for " ++
        "name '\x7b\x7b'alias': It is already registered for name '\x7b0\x7d'. (Remove the existing alias first or " ++
        "enable alias overriding.)") := by
  intro s details
  have hrefused : result (register "\x7b\x7b'alias" "\x7bname!r\x7d") s =
      .error (.refused (.conflict "\x7bname!r\x7d" "\x7b\x7b'alias" "\x7b0\x7d")) := rfl
  have hfound : ErrorCode.find? "ALIAS-REG-001" = some .aliasConflict := rfl
  obtain ⟨code, segs, shown, h⟩ := refused_catalogued _ s _ hrefused
  have hcode : code.code = "ALIAS-REG-001" := (Value.text.inj (Option.some.inj h.code_shown)).symm
  have hdetails : shown = details := (Value.object.inj (Option.some.inj h.details_shown)).symm
  have hsame : code = .aliasConflict := Option.some.inj (h.code_found.symm.trans (hcode ▸ hfound))
  have hformat := h.format
  rw [hsame, hdetails] at hformat
  exact ⟨hrefused, hfound, hformat.trans (congrArg Except.ok (by decide +kernel))⟩

end Action

end AliasBook
