import AliasBook.Log.Formatter
import AliasBook.Proofs.Json
import Mathlib.Data.List.Nodup

/-! What a JSON line of a log says. It is read as one object that holds the core fields of the record, whatever its
    context says of them, and apart from them the context (`Formatter.jsonLine_overlays`). -/

namespace AliasBook
variable {fs : List (String × Value)} {key k : String} {v : Value}

/-! ### Written fields -/

theorem lookup_putField (fs : List (String × Value)) (key k : String) (v : Value) :
    (putField fs key v).lookup k = if k = key then some v else fs.lookup k := by
  induction fs with
  | nil =>
    by_cases hk : k = key
    · simp [putField, hk]
    · simp [putField, List.lookup_cons, hk, beq_eq_false_iff_ne.mpr hk]
  | cons p rest ih =>
    obtain ⟨x, old⟩ := p
    by_cases hx : x = key
    · by_cases hk : k = key
      · simp [putField, hx, hk]
      · simp [putField, List.lookup_cons, hx, hk, beq_eq_false_iff_ne.mpr hk]
    · by_cases hk : k = x
      · simp [putField, hx, hk]
      · simp [putField, List.lookup_cons, hx, beq_eq_false_iff_ne.mpr hk, ih]

/-- A key that is there keeps its place, a new one comes last. -/
theorem keys_putField (fs : List (String × Value)) (key : String) (v : Value) :
    (putField fs key v).map Prod.fst =
      if key ∈ fs.map Prod.fst then fs.map Prod.fst else fs.map Prod.fst ++ [key] := by
  induction fs with
  | nil => simp [putField]
  | cons p rest ih =>
    obtain ⟨x, old⟩ := p
    by_cases hx : x = key
    · simp [putField, hx]
    · rw [putField, if_neg hx, List.map_cons, List.map_cons, ih]
      by_cases hmem : key ∈ rest.map Prod.fst
      · rw [if_pos hmem, if_pos (List.mem_cons_of_mem _ hmem)]
      · rw [if_neg hmem, if_neg (by simpa [Ne.symm hx] using hmem), List.cons_append]

theorem mem_keys_putField : k ∈ (putField fs key v).map Prod.fst ↔ k ∈ fs.map Prod.fst ∨ k = key := by
  rw [keys_putField]
  split
  case isTrue hmem => exact ⟨Or.inl, fun h => h.elim id fun heq => heq ▸ hmem⟩
  case isFalse => simp

theorem nodup_putField (h : (fs.map Prod.fst).Nodup) (key : String) (v : Value) :
    ((putField fs key v).map Prod.fst).Nodup := by
  rw [keys_putField]
  split
  case isTrue => exact h
  case isFalse hnew => exact List.concat_eq_append ▸ List.Nodup.concat hnew h

theorem exact_putField (h : ∀ p ∈ fs, p.2.Exact) (hv : v.Exact) (key : String) :
    ∀ p ∈ putField fs key v, p.2.Exact := by
  induction fs with
  | nil => exact List.forall_mem_singleton.mpr hv
  | cons q rest ih =>
    obtain ⟨hq, hrest⟩ := List.forall_mem_cons.mp h
    rw [putField]
    split
    · exact List.forall_mem_cons.mpr ⟨hv, hrest⟩
    · exact List.forall_mem_cons.mpr ⟨hq, ih hrest⟩

namespace Formatter
variable {f : Formatter} {time : Instant} {stamp : String} {r : Record}

/-! ### The fields of a line -/

/-- The keys that belong to the record itself. -/
def coreKeys : List String := ["timestamp", "level", "module", "message"]

theorem exact_fields (h : ∀ p ∈ r.context, p.2.Exact) (stamp : String) : (Value.object (fields stamp r)).Exact :=
  .object (exact_putField (exact_putField (exact_putField (exact_putField h (.text stamp) _)
    (.text (Level.name r.level)) _) (.text r.logger) _) (.text r.message) _)

theorem nodup_fields (h : (r.context.map Prod.fst).Nodup) (stamp : String) : ((fields stamp r).map Prod.fst).Nodup :=
  nodup_putField (nodup_putField (nodup_putField (nodup_putField h _ _) _ _) _ _) _ _

theorem mem_keys_fields : k ∈ (fields stamp r).map Prod.fst ↔ k ∈ r.context.map Prod.fst ∨ k ∈ coreKeys := by
  simp only [fields, List.foldl_cons, List.foldl_nil, mem_keys_putField, coreKeys, List.mem_cons, List.not_mem_nil,
    or_false, or_assoc]

theorem lookup_fields (stamp : String) (r : Record) (k : String) :
    (fields stamp r).lookup k =
      if k = "message" then some (.text r.message)
      else if k = "module" then some (.text r.logger)
      else if k = "level" then some (.text (Level.name r.level))
      else if k = "timestamp" then some (.text stamp)
      else r.context.lookup k := by
  simp only [fields, List.foldl_cons, List.foldl_nil, lookup_putField]

theorem line_of_stamp (hstamp : time.stamp = .ok stamp) (f : Formatter) (r : Record) :
    f.line time r = .ok (if f.isText then textLine stamp r else jsonLine stamp r) := by
  rw [line, hstamp]
  rfl

/-- In JSON the line of a record is one object. It has the keys of the context and of the core fields, each of them once;
    the core fields are those of the record, and each other field is the one of the context. -/
theorem jsonLine_overlays (hjson : f.isText = false) (hstamp : time.stamp = .ok stamp)
    (hkeys : (r.context.map Prod.fst).Nodup) (hexact : ∀ p ∈ r.context, p.2.Exact) :
    ∃ line fields, f.line time r = .ok line ∧ Json.read? line = some (.object fields) ∧
      (fields.map Prod.fst).Nodup ∧
      (∀ k, k ∈ fields.map Prod.fst ↔ k ∈ r.context.map Prod.fst ∨ k ∈ coreKeys) ∧
      fields.lookup "timestamp" = some (.text stamp) ∧ fields.lookup "level" = some (.text (Level.name r.level)) ∧
      fields.lookup "module" = some (.text r.logger) ∧ fields.lookup "message" = some (.text r.message) ∧
      ∀ k, k ∉ coreKeys → fields.lookup k = r.context.lookup k := by
  have hline : f.line time r = .ok (jsonLine stamp r) := by
    rw [line_of_stamp hstamp, hjson]
    rfl
  refine ⟨_, fields stamp r, hline, Json.read?_write (exact_fields hexact stamp), nodup_fields hkeys stamp,
    fun k => mem_keys_fields, ?_, ?_, ?_, ?_, fun k hk => ?_⟩
  · simp [lookup_fields]
  · simp [lookup_fields]
  · simp [lookup_fields]
  · simp [lookup_fields]
  · simp only [coreKeys, List.mem_cons, List.not_mem_nil, or_false, not_or] at hk
    simp [lookup_fields, hk]

/-- A record whose context has a message of its own, and an alias with a quote and a line feed in it. -/
def spoofed : Record where
  level := Level.debug
  logger := "alias_runtime.test"
  message := "hello"
  context := [("message", "spoof"), ("alias", "a\"\n"), ("path", .list [.null, .int (-10), .object [("", .bool true)]])]

theorem jsonLine_spoofed :
    ((Formatter.mk "json").line (.ofSeconds 0) spoofed).toOption = some
      ("\x7b\"message\": \"hello\", \"alias\": \"a\\\"\\n\", \"path\": [null, -10, \x7b\"\": true\x7d], " ++
        "\"timestamp\": \"1970-01-01T00:00:00Z\", \"level\": \"DEBUG\", \"module\": \"alias_runtime.test\"\x7d") ∧
    ∃ line fields, (Formatter.mk "json").line (.ofSeconds 0) spoofed = .ok line ∧
      Json.read? line = some (.object fields) ∧ (fields.map Prod.fst).Nodup ∧
      fields.lookup "message" = some (.text "hello") ∧ fields.lookup "alias" = some (.text "a\"\n") := by
  have hstamp : (Instant.ofSeconds 0).stamp = .ok "1970-01-01T00:00:00Z" := rfl
  have hpath : (Value.list [.null, .int (-10), .object [("", .bool true)]]).Exact :=
    .list (by simpa using ⟨.null, .int _, .object (by simpa using .bool true)⟩)
  have hexact : ∀ p ∈ spoofed.context, p.2.Exact := by simpa [spoofed] using ⟨.text _, .text _, hpath⟩
  obtain ⟨line, fields, hline, hread, hkeys, -, -, -, -, hmessage, hothers⟩ :=
    jsonLine_overlays (f := ⟨"json"⟩) (r := spoofed) rfl hstamp (by decide) hexact
  exact ⟨by decide +kernel, line, fields, hline, hread, hkeys, hmessage, hothers "alias" (by decide)⟩

end Formatter

end AliasBook
