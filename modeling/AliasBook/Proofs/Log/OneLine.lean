import AliasBook.Proofs.Log.Sinks
import AliasBook.Proofs.Text.Lines

/-! Which lines of a log are one line. Whatever is quoted or written in JSON is, since both escape what ends a line. Plain
    text takes the logger, the message, the keys and the texts of the context as they are, so there it depends on them. -/

namespace AliasBook

open Text

namespace Text.OneLine
variable {c : Char} {cs xs : List Char}

instance (cs : List Char) : Decidable (OneLine cs) :=
  List.decidableBAll (fun c => c ≠ '\n' ∧ c ≠ '\r') cs

theorem mono (h : OneLine cs) (hsub : xs ⊆ cs) : OneLine xs := fun c hc => h c (hsub hc)

theorem flatMap {f : Char → List Char} (h : ∀ c ∈ cs, OneLine (f c)) : OneLine (cs.flatMap f) := by
  intro d hd
  obtain ⟨c, hc, hdc⟩ := List.mem_flatMap.mp hd
  exact h c hc d hdc

theorem replicate (n : Nat) (h : OneLine [c]) : OneLine (List.replicate n c) := by
  intro d hd
  obtain rfl := List.eq_of_mem_replicate hd
  exact h d (List.mem_singleton_self d)

theorem toDigits (n : Nat) : OneLine (Nat.toDigits 10 n) :=
  of_isDigit fun _ hc => Nat.isDigit_of_mem_toDigits (by decide) (by decide) hc

theorem hexDigits (width n : Nat) : OneLine (hexDigits width n) := by
  induction width generalizing n with
  | zero => exact .nil
  | succ width ih =>
    have hdigit : ∀ k < 16, OneLine [Nat.digitChar k] := by decide
    exact append_iff.mpr ⟨ih _, hdigit _ (Nat.mod_lt n (by decide))⟩

end Text.OneLine

/-! ### Numbers -/

namespace Number
variable {cs : List Char}

theorem oneLine_leadZeros (count : Nat) (h : OneLine cs) : OneLine (leadZeros count cs) :=
  OneLine.append_iff.mpr ⟨.replicate _ (by decide), h⟩

theorem oneLine_trailZeros (count : Nat) (h : OneLine cs) : OneLine (trailZeros count cs) :=
  OneLine.append_iff.mpr ⟨h, .replicate _ (by decide)⟩

theorem oneLine_withPoint (pointed : Bool) (h : OneLine cs) : OneLine (withPoint pointed cs) := by
  have hpoint : OneLine ['.'] := by decide
  unfold withPoint
  split
  · exact .nil
  · exact OneLine.append_iff.mpr ⟨hpoint, h⟩

theorem oneLine_powerChars (e : Int) : OneLine (powerChars e) := by
  have hletter : OneLine ['e', if e < 0 then '-' else '+'] := by split <;> decide
  exact OneLine.append_iff.mpr ⟨hletter, oneLine_leadZeros 2 (.toDigits _)⟩

theorem oneLine_arranged (pointed placed : Bool) (limit e : Int) (h : OneLine cs) :
    OneLine ((arranged pointed placed limit cs e).whole ++ (arranged pointed placed limit cs e).rest) := by
  unfold arranged
  split
  · have hdigits : OneLine (List.replicate (-e).toNat '0' ++ cs) :=
      OneLine.append_iff.mpr ⟨.replicate _ (by decide), h⟩
    refine OneLine.append_iff.mpr ⟨oneLine_trailZeros _ (hdigits.mono (List.take_subset _ _)), oneLine_withPoint _ ?_⟩
    split
    · decide
    · exact hdigits.mono (List.drop_subset _ _)
  · have hplaces := oneLine_withPoint pointed (h.mono (List.drop_subset 1 cs))
    exact OneLine.append_iff.mpr
      ⟨h.mono (List.take_subset _ _), OneLine.append_iff.mpr ⟨hplaces, oneLine_powerChars e⟩⟩

theorem oneLine_significant (count num den : Nat) : OneLine (significant count num den).1 := by
  unfold significant
  dsimp only
  split
  · exact (OneLine.toDigits _).mono (List.take_subset _ _)
  · exact oneLine_trailZeros _ (.toDigits _)

theorem oneLine_identifying {num den count : Nat} {found : List Char × Int} (h : identifying? num den count = some found) :
    OneLine found.1 := by
  obtain ⟨n, -, rfl⟩ := Option.map_eq_some_iff.mp h
  dsimp only
  split
  · exact (OneLine.toDigits n).mono (List.take_subset _ _)
  · exact .toDigits n

theorem oneLine_fewestDigits (num den : Nat) : OneLine (fewestDigits num den).1 := by
  rw [fewestDigits]
  cases hfound : (List.range' 1 17).findSome? (identifying? num den) with
  | none => exact oneLine_significant 17 num den
  | some found =>
    obtain ⟨count, -, hcount⟩ := List.exists_of_findSome?_eq_some hfound
    exact oneLine_identifying hcount

theorem oneLine_shortest (pointed : Bool) (num den : Nat) :
    OneLine ((shortest pointed num den).whole ++ (shortest pointed num den).rest) := by
  rw [shortest]
  exact oneLine_arranged pointed true 16 _ (oneLine_fewestDigits num den)

end Number

/-! ### Quoted texts and JSON -/

namespace Text.Quoted

theorem oneLine_numbered (c : Char) : OneLine (numbered c) := by
  unfold numbered
  split
  · simp [OneLine.hexDigits]
  · split <;> simp [OneLine.hexDigits]

theorem oneLine_encodeChar (shown : Char → Bool) {q : Char} (hq : OneLine [q]) (c : Char) :
    OneLine (encodeChar shown q c) := by
  unfold encodeChar
  split
  case isTrue h =>
    rcases h with rfl | rfl
    · exact OneLine.cons_iff.mpr ⟨by decide, hq⟩
    · decide
  case isFalse =>
    by_cases hn : c = '\n'
    · simp [hn]
    by_cases hr : c = '\r'
    · simp [hr]
    rw [if_neg hn, if_neg hr]
    split
    · decide
    · split
      · simp [hn, hr]
      · exact oneLine_numbered c

theorem oneLine_encode (shown : Char → Bool) (cs : List Char) : OneLine (encode shown cs) := by
  have hq : OneLine [quoteFor cs] := by
    unfold quoteFor
    split <;> decide
  have hinside : OneLine (cs.flatMap (encodeChar shown (quoteFor cs))) :=
    OneLine.flatMap fun c _ => oneLine_encodeChar shown hq c
  exact OneLine.append_iff.mpr ⟨OneLine.cons_iff.mpr ⟨hq _ (List.mem_singleton_self _), hinside⟩, hq⟩

end Text.Quoted

theorem Text.oneLine_quoted (s : String) : OneLine (Text.quoted s).toList := by
  simpa [Text.quoted] using Quoted.oneLine_encode isPrintable s.toList

namespace Value

theorem oneLine_intChars (n : Int) : OneLine (intChars n) := by
  unfold intChars
  split <;> simp [OneLine.toDigits]

theorem oneLine_decimalChars {beyond : List Char} (h : OneLine beyond) (isNegative : Bool) (mantissa places : Nat) :
    OneLine (decimalChars beyond isNegative mantissa places) := by
  have hsigned : ∀ size, OneLine size → OneLine (if isNegative then '-' :: size else size) := by
    intro size hsize
    split
    · exact OneLine.cons_iff.mpr ⟨by decide, hsize⟩
    · exact hsize
  rw [decimalChars]
  generalize Number.nearestBinary? mantissa (Nat.pow 10 places) = size
  cases size with
  | none => exact hsigned beyond h
  | some size => exact hsigned _ (Number.oneLine_shortest false size.1 size.2)

theorem oneLine_comma : OneLine [',', ' '] := by decide

mutual

theorem oneLine_quoted : ∀ v : Value, OneLine v.quoted.toList
  | .null => by decide
  | .bool true => by decide
  | .bool false => by decide
  | .int n => by simpa [quoted] using oneLine_intChars n
  | .decimal isNegative mantissa places => by
    have hinfinity : OneLine ['i', 'n', 'f'] := by decide
    simpa [quoted] using oneLine_decimalChars hinfinity isNegative mantissa places
  | .text s => by simpa [quoted] using Text.oneLine_quoted s
  | .list items => by
    simpa [quoted, String.toList_intercalate, OneLine.intercalate_iff oneLine_comma] using oneLine_quotedItems items
  | .object fields => by
    simpa [quoted, String.toList_intercalate, OneLine.intercalate_iff oneLine_comma] using oneLine_quotedFields fields

theorem oneLine_quotedItems : ∀ items : List Value, ∀ s ∈ quotedItems items, OneLine s.toList
  | [] => by simp [quotedItems]
  | v :: items => by simpa [quotedItems] using ⟨oneLine_quoted v, oneLine_quotedItems items⟩

theorem oneLine_quotedFields : ∀ fields : List (String × Value), ∀ s ∈ quotedFields fields, OneLine s.toList
  | [] => by simp [quotedFields]
  | (key, v) :: fields => by
    simpa [quotedFields, Text.oneLine_quoted key] using ⟨oneLine_quoted v, oneLine_quotedFields fields⟩

end

/-- Of all values only a text can break the line that shows it. -/
theorem oneLine_display_iff (v : Value) : OneLine v.display.toList ↔ ∀ s, v = .text s → OneLine s.toList := by
  cases v with
  | text s => simp [display]
  | _ => simpa [display] using oneLine_quoted _

end Value

namespace Json

theorem oneLine_escapeChar (c : Char) : OneLine (escapeChar c) := by
  unfold escapeChar
  split
  case isTrue h => rcases h with rfl | rfl <;> decide
  case isFalse =>
    by_cases hn : c = '\n'
    · simp [hn]
    by_cases hr : c = '\r'
    · simp [hr]
    rw [if_neg hn, if_neg hr]
    split
    · decide
    split
    · decide
    split
    · decide
    split
    · simp [OneLine.hexDigits]
    · simp [hn, hr]

theorem oneLine_writeText (s : String) : OneLine (writeText s) := by
  simpa [writeText] using OneLine.flatMap fun c _ => oneLine_escapeChar c

mutual

theorem oneLine_writeValue : ∀ v : Value, OneLine (writeValue v)
  | .null => by decide
  | .bool true => by decide
  | .bool false => by decide
  | .int n => by simpa [writeValue] using Value.oneLine_intChars n
  | .decimal isNegative mantissa places => by
    have hinfinity : OneLine "Infinity".toList := by decide
    simpa [writeValue] using Value.oneLine_decimalChars hinfinity isNegative mantissa places
  | .text s => by simpa [writeValue] using oneLine_writeText s
  | .list [] => by decide
  | .list (v :: items) => by simpa [writeValue] using ⟨oneLine_writeValue v, oneLine_writeItems items⟩
  | .object [] => by decide
  | .object ((key, v) :: fields) => by
    simpa [writeValue, oneLine_writeText key] using ⟨oneLine_writeValue v, oneLine_writeFields fields⟩

theorem oneLine_writeItems : ∀ items : List Value, OneLine (writeItems items)
  | [] => by decide
  | v :: items => by simpa [writeItems] using ⟨oneLine_writeValue v, oneLine_writeItems items⟩

theorem oneLine_writeFields : ∀ fields : List (String × Value), OneLine (writeFields fields)
  | [] => by decide
  | (key, v) :: fields => by
    simpa [writeFields, oneLine_writeText key] using ⟨oneLine_writeValue v, oneLine_writeFields fields⟩

end

theorem oneLine_write (v : Value) : OneLine (write v).toList := by
  simpa [write] using oneLine_writeValue v

end Json

/-! ### The lines of records -/

theorem Level.oneLine_name (level : Int) : OneLine (Level.name level).toList := by
  unfold Level.name
  split
  case h_7 =>
    rw [String.toList_append, OneLine.append_iff]
    refine ⟨by decide, ?_⟩
    rw [String.toList_ofList]
    exact Value.oneLine_intChars level
  all_goals decide

namespace Instant

theorem oneLine_padded (width n : Nat) : OneLine (padded width n).toList := by
  rw [padded, String.toList_ofList, OneLine.append_iff]
  exact ⟨.replicate _ (by decide), .toDigits n⟩

/-- A time without a date has no stamp. -/
theorem stamp_cases (t : Instant) :
    (∃ year, t.stamp = .error (.yearOutOfRange year)) ∨ ∃ stamp, t.stamp = .ok stamp ∧ OneLine stamp.toList := by
  rcases hdate : dateOfDay (t.micros / 1000000 / 86400) with ⟨year, month, day⟩
  by_cases hyear : year < 1 ∨ 9999 < year
  · exact Or.inl ⟨year, by simp [stamp, hdate, hyear]⟩
  · refine Or.inr ⟨_, by simp only [stamp, hdate, if_neg hyear]; rfl, ?_⟩
    split <;> simp [oneLine_padded]

end Instant

/-- Nothing in the record that plain text takes as it is would end a line. -/
structure Record.IsOneLine (r : Record) : Prop where
  logger : OneLine r.logger.toList
  message : OneLine r.message.toList
  context : ∀ p ∈ r.context, OneLine p.1.toList ∧ ∀ s, p.2 = .text s → OneLine s.toList

namespace Formatter

theorem oneLine_pair_iff (p : String × Value) :
    OneLine (p.1 ++ "=" ++ p.2.display).toList ↔ OneLine p.1.toList ∧ ∀ s, p.2 = .text s → OneLine s.toList := by
  simp [Value.oneLine_display_iff]

theorem oneLine_pairs_iff (context : List (String × Value)) :
    OneLine (" ".intercalate (context.map fun p => p.1 ++ "=" ++ p.2.display)).toList ↔
      ∀ p ∈ context, OneLine p.1.toList ∧ ∀ s, p.2 = .text s → OneLine s.toList := by
  have hspace : OneLine " ".toList := by decide
  rw [String.toList_intercalate, OneLine.intercalate_iff hspace, List.forall_mem_map, List.forall_mem_map]
  exact forall₂_congr fun p _ => oneLine_pair_iff p

theorem oneLine_textLine_iff {stamp : String} (hstamp : OneLine stamp.toList) (r : Record) :
    OneLine (textLine stamp r).toList ↔ r.IsOneLine := by
  have hcontext : OneLine (if r.context.isEmpty then "" else
      " [" ++ " ".intercalate (r.context.map fun p => p.1 ++ "=" ++ p.2.display) ++ "]").toList ↔
      ∀ p ∈ r.context, OneLine p.1.toList ∧ ∀ s, p.2 = .text s → OneLine s.toList := by
    rw [← oneLine_pairs_iff]
    cases r.context with
    | nil => simp
    | cons p ps => simp
  have hparts : OneLine (textLine stamp r).toList ↔ OneLine r.logger.toList ∧ OneLine r.message.toList ∧
      ∀ p ∈ r.context, OneLine p.1.toList ∧ ∀ s, p.2 = .text s → OneLine s.toList := by
    rw [textLine, String.toList_append, OneLine.append_iff, hcontext]
    simp [hstamp, Level.oneLine_name, and_assoc]
  exact hparts.trans ⟨fun ⟨hlogger, hmessage, h⟩ => ⟨hlogger, hmessage, h⟩, fun h => ⟨h.logger, h.message, h.context⟩⟩

theorem oneLine_jsonLine (stamp : String) (r : Record) : OneLine (jsonLine stamp r).toList :=
  Json.oneLine_write _

/-- A formatter makes one line of a record unless it writes plain text and the record has line ends in it. -/
theorem line_cases (f : Formatter) (time : Instant) (r : Record) :
    (∃ year, f.line time r = .error (.yearOutOfRange year)) ∨
      ∃ line, f.line time r = .ok line ∧ (OneLine line.toList ↔ (f.isText = true → r.IsOneLine)) := by
  obtain ⟨year, hstamp⟩ | ⟨stamp, hstamp, hone⟩ := time.stamp_cases
  · exact Or.inl ⟨year, by rw [line, hstamp]; rfl⟩
  · refine Or.inr ⟨_, by rw [line, hstamp]; rfl, ?_⟩
    by_cases htext : f.isText = true
    · simp [htext, oneLine_textLine_iff hone]
    · simp [htext, oneLine_jsonLine]

end Formatter

/-! ### The lines of a log -/

theorem Text.lines_append_lf {line : String} (h : OneLine line.toList) (rest : String) :
    Text.lines (line ++ "\n" ++ rest) = line :: Text.lines rest := by
  simp [Text.lines, splitLines_lf h]

/-- Texts that are each ended with a line feed are the lines of what they make if no line ends within one of them. -/
theorem Text.lines_join_iff (ls : List String) :
    Text.lines (String.join (ls.map (· ++ "\n"))) = ls ↔ ∀ l ∈ ls, OneLine l.toList := by
  constructor
  · intro h l hl
    rw [← h, Text.lines] at hl
    obtain ⟨line, hline, rfl⟩ := List.mem_map.mp hl
    obtain ⟨hlf, hcr⟩ := not_mem_of_mem_splitLines hline
    intro c hc
    rw [String.toList_ofList] at hc
    exact ⟨fun h => hlf (h ▸ hc), fun h => hcr (h ▸ hc)⟩
  · intro h
    induction ls with
    | nil => rfl
    | cons l ls ih =>
      obtain ⟨hl, hls⟩ := List.forall_mem_cons.mp h
      rw [List.map_cons, String.join_cons, Text.lines_append_lf hl, ih hls]

namespace Emission

/-- The line of the record is in plain text. -/
def IsText (e : Emission) : Prop :=
  ∃ setup ∈ e.setup, setup.handler.formatter.isText = true

theorem oneLine_iff {e : Emission} {line : String} (h : e.line? = some line) :
    OneLine line.toList ↔ (e.IsText → e.record.IsOneLine) := by
  obtain ⟨setup, hsetup, hline⟩ := Option.bind_eq_some_iff.mp h
  obtain ⟨year, hfail⟩ | ⟨line', hok, hone⟩ := setup.handler.formatter.line_cases e.time e.record
  · simp [hfail, Except.toOption] at hline
  · rw [hok] at hline
    obtain rfl := Option.some.inj hline
    rw [hone]
    simp [IsText, hsetup]

theorem join_text (sent : List Emission) :
    String.join (sent.map text) = String.join ((sent.filterMap line?).map (· ++ "\n")) := by
  induction sent with
  | nil => rfl
  | cons e sent ih =>
    rw [List.map_cons, String.join_cons, ih, text]
    cases hline : e.line? with
    | none => simp [hline]
    | some line => simp [hline]

end Emission

/-- A sink that was empty has a line for each record that was written to it if and only if none of the records in plain text
    has line ends in it. -/
theorem Channel.Sends.lines_iff {c c' : Channel} {sent : List Emission} (h : c.Sends c' sent) {sink : Sink}
    (hempty : c.textOf sink = "") :
    Text.lines (c'.textOf sink) = (sent.filter fun e => e.receiver = .sink sink).filterMap Emission.line? ↔
      ∀ e ∈ sent, e.receiver = .sink sink → e.line?.isSome → e.IsText → e.record.IsOneLine := by
  rw [h.textOf, hempty, String.empty_append, Emission.join_text, Text.lines_join_iff]
  constructor
  · intro hone e he hsink hsome
    obtain ⟨line, hline⟩ := Option.isSome_iff_exists.mp hsome
    exact (Emission.oneLine_iff hline).mp (hone line (List.mem_filterMap.mpr
      ⟨e, List.mem_filter.mpr ⟨he, by simpa using hsink⟩, hline⟩))
  · intro hrecords line hmem
    obtain ⟨e, he, hline⟩ := List.mem_filterMap.mp hmem
    obtain ⟨hsent, hsink⟩ := List.mem_filter.mp he
    exact (Emission.oneLine_iff hline).mpr (hrecords e hsent (by simpa using hsink) (hline ▸ rfl))

end AliasBook
