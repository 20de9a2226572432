import AliasBook.Proofs.AliasLine
import AliasBook.Proofs.Registry.Events
import AliasBook.Proofs.Registry.Refusing
import AliasBook.Proofs.Text.Lines

/-! Loading a file against registering its lines. Each line that defines aliases is registered by itself, in order, and
    all that loading adds is to tell of the malformed ones (`loadFile_in_turn`). Since operations do not look at the
    channel, what is told makes no difference to what is registered (`Agree`). -/

namespace AliasBook

/-! ### Lines that define aliases -/

namespace AliasLine

/-- What lines define, in order. -/
def definitions (lines : List String) : List AliasLine :=
  lines.filterMap parse?

/-- The line is neither blank nor a remark, and defines nothing. -/
def isMalformed (line : String) : Bool :=
  !isSkipped line && (parse? line).isNone

/-- What is told of the malformed ones of lines, the first of which has the given number. -/
def complaints (path : String) (time : Instant) (number : Nat) (lines : List String) : List Event :=
  ((lines.zipIdx number).filter fun p => isMalformed p.1).map fun p =>
    .logged time (Notice.malformedLine path p.2 (Text.strip p.1)).record

end AliasLine

/-- The event tells of a malformed line. -/
def Event.isComplaint : Event → Bool
  | .logged _ r => r.message == "Skipping malformed alias line"
  | _ => false

namespace AliasLine
variable {line : String} {l : AliasLine}

theorem definitions_cons_of_some (hl : parse? line = some l) (lines : List String) :
    definitions (line :: lines) = l :: definitions lines :=
  List.filterMap_cons_some hl

theorem definitions_cons_of_none (hl : parse? line = none) (lines : List String) :
    definitions (line :: lines) = definitions lines :=
  List.filterMap_cons_none hl

theorem complaints_cons_of_malformed (h : isMalformed line = true) (path : String) (time : Instant) (number : Nat)
    (lines : List String) : complaints path time number (line :: lines) =
      .logged time (Notice.malformedLine path number (Text.strip line)).record ::
        complaints path time (number + 1) lines := by
  simp [complaints, h]

theorem complaints_cons_of_not_malformed (h : isMalformed line = false) (path : String) (time : Instant) (number : Nat)
    (lines : List String) : complaints path time number (line :: lines) = complaints path time (number + 1) lines := by
  simp [complaints, h]

theorem isMalformed_of_some (hl : parse? line = some l) : isMalformed line = false := by
  simp [isMalformed, hl]

end AliasLine

theorem Event.IsOfRegistry.isComplaint {e : Event} (h : e.IsOfRegistry) : e.isComplaint = false := by
  obtain ⟨time, n, hn, rfl⟩ := h
  cases n with
  | malformedLine => exact absurd hn (show Notice.rootLogger ++ ".alias_file" ≠ _ by decide)
  | rejectedSetting => exact absurd hn (show Notice.rootLogger ++ ".config" ≠ _ by decide)
  | _ => rfl

/-! ### What a refused line leaves -/

theorem Mapping.define_refused {m : Mapping} {name a : String} {leave : Bool} {e : AliasError}
    (h : (m.define name a leave).outcome = .error e) :
    e = .circular a name ∨ ∃ existing, e = .conflict a name existing := by
  have hplace : (m.place name a).outcome.map (·, true) = .error e → e = .circular a name := by
    intro hmap
    cases hout : (m.place name a).outcome with
    | ok m' =>
      rw [hout] at hmap
      cases hmap
    | error refusal =>
      rw [hout] at hmap
      cases hmap
      exact (place_eq_error_iff.mp hout).1
  unfold define at h
  split at h
  · cases h
  split at h
  · cases h
  split at h
  · exact Or.inl (hplace h)
  · split at h
    · exact Or.inl (hplace h)
    · cases h
      exact Or.inr ⟨_, rfl⟩

/-- The refusal is one of an alias that may not be overridden, or of one that would close a circle. -/
def Fault.IsOfEntry (fault : Fault) : Prop :=
  (∃ a name existing, fault = .refused (.conflict a name existing)) ∨ ∃ a name, fault = .refused (.circular a name)

namespace Action
variable {ρ α β : Type} {act act' act'' : Action ρ α} {s t : Host ρ} {l : AliasLine} {fault : Fault}

theorem defineIn_refused {name a : String} {m : Mapping} (h : result (defineIn m name a) s = .error fault) :
    fault.IsOfEntry := by
  rw [result_defineIn] at h
  cases hout : (m.define name a (s.registry.policy.leave (m.overridden? name a).isSome)).outcome with
  | ok p =>
    rw [hout] at h
    cases h
  | error e =>
    rw [hout] at h
    cases h
    rcases Mapping.define_refused hout with rfl | ⟨existing, rfl⟩
    · exact Or.inr ⟨a, name, rfl⟩
    · exact Or.inl ⟨a, name, existing, rfl⟩

theorem defineAllIn_refused {name : String} {m : Mapping} {aliases : List String}
    (h : result (defineAllIn name m aliases) s = .error fault) : fault.IsOfEntry := by
  induction aliases generalizing m s with
  | nil => cases h
  | cons a rest ih =>
    cases hdefine : result (defineIn m name a) s with
    | error fault' =>
      rw [(defineAllIn_cons_of_error rest hdefine).1] at h
      cases h
      exact defineIn_refused hdefine
    | ok p =>
      rw [(defineAllIn_cons_of_ok rest hdefine).1] at h
      exact ih (map_eq_error_iff.mp h)

theorem registerLine_refused {line : String} (hl : AliasLine.parse? line = some l)
    (h : result (registerLine l) s = .error fault) :
    fault.IsOfEntry ∧ (after (registerLine l) s).registry.mapping = s.registry.mapping := by
  obtain ⟨hname, haliases⟩ := (AliasLine.parse?_eq_some_iff.mp hl).1.filled
  cases hdefine : result (defineAllIn l.name s.registry.mapping l.aliases) s with
  | ok p =>
    rw [registerLine, (registerMany_of_ok (items?_list _) hname haliases hdefine).1] at h
    cases h
  | error fault' =>
    obtain ⟨hresult, hregistry⟩ := registerMany_of_error (items?_list _) hname haliases hdefine
    obtain rfl := Except.error.inj (hresult.symm.trans h)
    refine ⟨defineAllIn_refused hdefine, ?_⟩
    rw [registerLine, hregistry, mapping_after_defineAllIn]

theorem now_after_registerLine (l : AliasLine) (s : Host ρ) : (after (registerLine l) s).now = s.now := by
  have hlasts : Lasts (fun _ => True) (fun _ => True) (fun t : Host ρ => t.now = s.now) :=
    { toRules := .any, entries := fun _ _ => trivial, write := fun _ _ h _ => h, ask := fun _ h => h,
      told := fun _ _ h _ => h }
  exact (hlasts.registerMany _ _ s rfl).1

/-! ### Lines one after the other -/

/-- Registers the aliases of lines, one line after the other. -/
def registerLines : List AliasLine → Action ρ Unit
  | [] => pure ()
  | l :: rest => do
    let _ ← registerLine l
    registerLines rest

theorem registerLines_cons_of_ok {count : Nat} (rest : List AliasLine) (h : result (registerLine l) s = .ok count) :
    result (registerLines (l :: rest)) s = result (registerLines rest) (after (registerLine l) s) ∧
      after (registerLines (l :: rest)) s = after (registerLines rest) (after (registerLine l) s) := by
  simp only [registerLines, result_bind, after_bind, h, Except.bind, and_self]

theorem registerLines_cons_of_error (rest : List AliasLine) (h : result (registerLine l) s = .error fault) :
    result (registerLines (l :: rest)) s = .error fault ∧
      after (registerLines (l :: rest)) s = after (registerLine l) s := by
  simp only [registerLines, result_bind, after_bind, h, Except.bind, and_self]

theorem registerLines_append (ls ls' : List AliasLine) :
    (registerLines (ls ++ ls') : Action ρ Unit) = registerLines ls >>= fun _ => registerLines ls' := by
  induction ls with
  | nil => rfl
  | cons l ls ih => simp only [List.cons_append, registerLines, ih, bind_assoc]

/-! ### What does not depend on the channel -/

/-- Whatever the channels are, the one gives what the other gives, and what they leave differs by the channel at most. -/
def Agree (act act' : Action ρ α) : Prop :=
  ∀ s c, result act s = result act' (s.withChannel c) ∧ ∃ c', after act s = (after act' (s.withChannel c)).withChannel c'

namespace Agree

theorem of_confined {Q : Event → Prop} (h : Confined Q act) : Agree act act := by
  intro s c
  obtain ⟨es, hes, -⟩ := h s
  obtain ⟨hresult, hafter⟩ := hes c
  exact ⟨hresult.symm, (after act s).channel, by rw [hafter]; rfl⟩

theorem symm (h : Agree act act') : Agree act' act := by
  intro s c
  obtain ⟨hresult, c', hafter⟩ := h (s.withChannel c) s.channel
  exact ⟨hresult.symm, (after act' s).channel, by rw [hafter]; rfl⟩

theorem trans (h : Agree act act') (h' : Agree act' act'') : Agree act act'' := by
  intro s c
  obtain ⟨hresult, c₁, hafter⟩ := h s c
  obtain ⟨hresult', c₂, hafter'⟩ := h' (s.withChannel c) c
  exact ⟨hresult.trans hresult', c₁, by rw [hafter, hafter']; rfl⟩

theorem pure (a : α) : Agree (pure a : Action ρ α) (pure a) := of_confined (Q := fun _ => True) (.pure a)

theorem bind {f f' : α → Action ρ β} (h : Agree act act') (hf : ∀ a, Agree (f a) (f' a)) :
    Agree (act >>= f) (act' >>= f') := by
  intro s c
  obtain ⟨hresult, c₁, hafter⟩ := h s c
  simp only [result_bind, after_bind, ← hresult]
  cases result act s with
  | error fault => exact ⟨rfl, c₁, hafter⟩
  | ok a =>
    obtain ⟨hresult', c₂, hafter'⟩ := hf a (after act s) (after act' (s.withChannel c)).channel
    rw [hafter] at hresult' hafter' ⊢
    exact ⟨hresult', c₂, hafter'⟩

/-- Telling is nothing to those who do not look at the channel. -/
theorem tell (n : Notice) (h : Agree act act') : Agree (Action.tell n >>= fun _ => act) act' := by
  intro s c
  obtain ⟨hresult, c', hafter⟩ := h (after (Action.tell n) s) c
  exact ⟨hresult, c', hafter⟩

theorem registry (h : Agree act act') (s : Host ρ) :
    result act s = result act' s ∧ (after act s).registry = (after act' s).registry := by
  obtain ⟨hresult, c', hafter⟩ := h s s.channel
  exact ⟨hresult, by rw [hafter]; rfl⟩

end Agree

theorem Performs.map {es : List Event} (h : Performs act s es) (f : α → β) : Performs (act >>= fun a => pure (f a)) s es := by
  cases hresult : result act s with
  | error fault => exact h.bind_error hresult
  | ok a =>
    have hpure : Performs (pure (f a) : Action ρ β) (after act s) [] := fun _ => ⟨rfl, rfl⟩
    have hboth := h.bind_ok (f := fun a => pure (f a)) hresult hpure
    rwa [List.append_nil] at hboth

theorem Performs.withChannel {es : List Event} (h : Performs act s es) (c : Channel) : Performs act (s.withChannel c) es := by
  intro c'
  obtain ⟨hresult, hafter⟩ := h c
  obtain ⟨hresult', hafter'⟩ := h c'
  exact ⟨hresult'.trans hresult.symm, hafter'.trans (by rw [hafter]; rfl)⟩

theorem Agree.registerLine (l : AliasLine) : Agree (registerLine l : Action ρ Nat) (registerLine l) :=
  .of_confined (Confined.registerMany _ _)

/-! ### Loading -/

/-- Loading lines registers them one after the other and counts them. -/
theorem loadLines_agree (path : String) (number : Nat) (lines : List String) :
    Agree (loadLines path number lines : Action ρ Nat) (registerLines (AliasLine.definitions lines) >>= fun _ =>
      pure (AliasLine.definitions lines).length) := by
  induction lines generalizing number with
  | nil => exact .pure 0
  | cons line rest ih =>
    cases hl : AliasLine.parse? line with
    | none =>
      rw [AliasLine.definitions_cons_of_none hl]
      simp only [loadLines, hl]
      split
      · exact .tell _ (ih (number + 1))
      · exact ih (number + 1)
    | some l =>
      have hrest := Agree.bind (Agree.registerLine l) fun _ => Agree.bind (ih (number + 1)) fun n => Agree.pure (n + 1)
      rw [AliasLine.definitions_cons_of_some hl]
      simpa only [loadLines, hl, registerLines, bind_assoc, pure_bind, List.length_cons] using hrest

theorem loadFile_text (path text : String) :
    (loadFile path (some text.toUTF8) : Action ρ Nat) = loadLines path 1 (Text.lines text) := by
  simp only [loadFile, Text.read_toUTF8, if_true, bind_pure]

/-! ### What loading tells -/

theorem Event.filter_own {own : List Event} (h : ∀ e ∈ own, e.IsOfRegistry) :
    own.filter Event.isComplaint = [] ∧ (own.filter fun e => !e.isComplaint) = own := by
  constructor
  · exact List.filter_eq_nil_iff.mpr fun e he => by simp [(h e he).isComplaint]
  · exact List.filter_eq_self.mpr fun e he => by simp [(h e he).isComplaint]

/-- Loading lines reaches all of them, or those in front of the first one that is refused. It registers those that it
    reaches one after the other, and tells of the malformed ones among them. -/
structure Reaches (path : String) (number : Nat) (s : Host ρ) (reached rest : List String) (es : List Event) : Prop where
  performs : Performs (loadLines path number (reached ++ rest)) s es
  registers : Performs (registerLines (AliasLine.definitions (reached ++ rest))) s (es.filter fun e => !e.isComplaint)
  told : es.filter Event.isComplaint = AliasLine.complaints path s.now number reached
  registered : result (registerLines (AliasLine.definitions reached)) s = .ok ()
  ends : rest = [] ∨ ∃ line behind l fault, rest = line :: behind ∧ AliasLine.parse? line = some l ∧
    result (registerLine l) (after (registerLines (AliasLine.definitions reached)) s) = .error fault

namespace Reaches
variable {path line : String} {number count : Nat} {reached rest : List String} {es es' : List Event}

/-- A line that defines nothing is passed over, whatever is told of it. -/
theorem pass (h : Reaches path (number + 1) s reached rest es) (hl : AliasLine.parse? line = none) {told : List Event}
    (hperforms : Performs (loadLines path number (line :: (reached ++ rest))) s (told ++ es))
    (hcomplaints : AliasLine.complaints path s.now number (line :: reached) =
      told ++ AliasLine.complaints path s.now (number + 1) reached)
    (htold : ∀ e ∈ told, e.isComplaint = true) : Reaches path number s (line :: reached) rest (told ++ es) := by
  have hdefinitions := AliasLine.definitions_cons_of_none hl
  refine ⟨hperforms, ?_, ?_, ?_, ?_⟩
  · have hnone : (told.filter fun e => !e.isComplaint) = [] := List.filter_eq_nil_iff.mpr fun e he => by simp [htold e he]
    rw [List.cons_append, hdefinitions, List.filter_append, hnone, List.nil_append]
    exact h.registers
  · rw [List.filter_append, List.filter_eq_self.mpr htold, h.told, hcomplaints]
  · rw [hdefinitions]
    exact h.registered
  · rw [hdefinitions]
    exact h.ends

theorem skip (h : Reaches path (number + 1) s reached rest es) (hl : AliasLine.parse? line = none)
    (hskip : AliasLine.isSkipped line = true) : Reaches path number s (line :: reached) rest es := by
  have hmalformed : AliasLine.isMalformed line = false := by simp [AliasLine.isMalformed, hskip]
  have hcomplaints : AliasLine.complaints path s.now number (line :: reached) =
      [] ++ AliasLine.complaints path s.now (number + 1) reached :=
    AliasLine.complaints_cons_of_not_malformed hmalformed path s.now number reached
  refine h.pass hl ?_ hcomplaints (by simp)
  simpa [loadLines, hl, hskip] using h.performs

theorem tell (h : Reaches path (number + 1) s reached rest es) (hl : AliasLine.parse? line = none)
    (hskip : AliasLine.isSkipped line = false) : Reaches path number s (line :: reached) rest
      (.logged s.now (Notice.malformedLine path number (Text.strip line)).record :: es) := by
  have hmalformed : AliasLine.isMalformed line = true := by simp [AliasLine.isMalformed, hl, hskip]
  have hcomplaints : AliasLine.complaints path s.now number (line :: reached) =
      [.logged s.now (Notice.malformedLine path number (Text.strip line)).record] ++
        AliasLine.complaints path s.now (number + 1) reached :=
    AliasLine.complaints_cons_of_malformed hmalformed path s.now number reached
  refine h.pass hl ?_ hcomplaints (List.forall_mem_singleton.mpr rfl)
  have htell : Performs (Action.tell (.malformedLine path number (Text.strip line))) s
      [.logged s.now (Notice.malformedLine path number (Text.strip line)).record] := fun _ => ⟨rfl, rfl⟩
  -- The lines behind do not notice that something was told.
  have hboth := htell.bind_ok rfl (f := fun _ => loadLines path (number + 1) (reached ++ rest)) (h.performs.withChannel _)
  simpa [loadLines, hl, hskip] using hboth

theorem register (h : Reaches path (number + 1) (after (registerLine l) s) reached rest es')
    (hl : AliasLine.parse? line = some l) (hok : result (registerLine l) s = .ok count)
    (hes : Performs (registerLine l) s es) (hown : ∀ e ∈ es, e.IsOfRegistry) :
    Reaches path number s (line :: reached) rest (es ++ es') := by
  obtain ⟨hnone, hall⟩ := Event.filter_own hown
  have hdefinitions := AliasLine.definitions_cons_of_some hl
  obtain ⟨hresult, hafter⟩ := registerLines_cons_of_ok (AliasLine.definitions reached) hok
  refine ⟨?_, ?_, ?_, ?_, ?_⟩
  · simp only [List.cons_append, loadLines, hl]
    exact hes.bind_ok hok (h.performs.map (· + 1))
  · rw [List.cons_append, hdefinitions, List.filter_append, hall]
    exact hes.bind_ok hok h.registers
  · rw [List.filter_append, hnone, h.told, now_after_registerLine,
      AliasLine.complaints_cons_of_not_malformed (AliasLine.isMalformed_of_some hl), List.nil_append]
  · rw [hdefinitions, hresult]
    exact h.registered
  · rw [hdefinitions, hafter]
    exact h.ends

theorem refuse (hl : AliasLine.parse? line = some l) (herror : result (registerLine l) s = .error fault)
    (hes : Performs (registerLine l) s es) (hown : ∀ e ∈ es, e.IsOfRegistry) (rest : List String) :
    Reaches path number s [] (line :: rest) es := by
  obtain ⟨hnone, hall⟩ := Event.filter_own hown
  refine ⟨?_, ?_, hnone, rfl, Or.inr ⟨line, rest, l, fault, rfl, hl, herror⟩⟩
  · simp only [List.nil_append, loadLines, hl]
    exact hes.bind_error herror
  · rw [List.nil_append, AliasLine.definitions_cons_of_some hl, hall]
    exact hes.bind_error herror

/-- The first line that is refused decides what becomes of all of them. -/
theorem refused {behind : List String} (h : Reaches path number s reached (line :: behind) es)
    (hl : AliasLine.parse? line = some l)
    (herror : result (registerLine l) (after (registerLines (AliasLine.definitions reached)) s) = .error fault) :
    result (registerLines (AliasLine.definitions (reached ++ line :: behind))) s = .error fault ∧
      after (registerLines (AliasLine.definitions (reached ++ line :: behind))) s =
        after (registerLine l) (after (registerLines (AliasLine.definitions reached)) s) := by
  have hsplit : AliasLine.definitions (reached ++ line :: behind) =
      AliasLine.definitions reached ++ l :: AliasLine.definitions behind := by
    rw [← AliasLine.definitions_cons_of_some hl]
    exact List.filterMap_append
  simp only [hsplit, registerLines_append, result_bind, after_bind, h.registered, Except.bind]
  exact registerLines_cons_of_error _ herror

end Reaches

theorem loadLines_reaches (path : String) (number : Nat) (lines : List String) (s : Host ρ) :
    ∃ reached rest es, lines = reached ++ rest ∧ Reaches path number s reached rest es := by
  induction lines generalizing number s with
  | nil => exact ⟨[], [], [], rfl, fun _ => ⟨rfl, rfl⟩, fun _ => ⟨rfl, rfl⟩, rfl, rfl, Or.inl rfl⟩
  | cons line lines ih =>
    cases hl : AliasLine.parse? line with
    | none =>
      obtain ⟨reached, rest, es, rfl, h⟩ := ih (number + 1) s
      cases hskip : AliasLine.isSkipped line with
      | true => exact ⟨line :: reached, rest, es, rfl, h.skip hl hskip⟩
      | false => exact ⟨line :: reached, rest, _, rfl, h.tell hl hskip⟩
    | some l =>
      have hconfined : Confined Event.IsOfRegistry (registerLine l : Action ρ Nat) := .registerMany _ _
      obtain ⟨es, hes, hown⟩ := hconfined s
      cases hfirst : result (registerLine l) s with
      | error fault => exact ⟨[], line :: lines, es, rfl, .refuse hl hfirst hes hown lines⟩
      | ok count =>
        obtain ⟨reached, rest, es', rfl, h⟩ := ih (number + 1) (after (registerLine l) s)
        exact ⟨line :: reached, rest, es ++ es', rfl, h.register hl hfirst hes hown⟩

/-! ### Two texts with a line feed between them -/

theorem definitions_append_lf (text₁ text₂ : String) :
    AliasLine.definitions (Text.lines (text₁ ++ "\n" ++ text₂)) =
      AliasLine.definitions (Text.lines text₁) ++ AliasLine.definitions (Text.lines text₂) := by
  obtain ⟨between, hbetween, hsplit⟩ := Text.splitLines_append_lf text₁.toList text₂.toList
  have hnone : AliasLine.definitions (between.map String.ofList) = [] := by
    rcases hbetween with rfl | rfl
    · rfl
    · rfl
  have hchars : (text₁ ++ "\n" ++ text₂).toList = text₁.toList ++ '\n' :: text₂.toList := by simp
  rw [AliasLine.definitions] at hnone
  simp [AliasLine.definitions, Text.lines, hchars, hsplit, hnone]

theorem loadFile_agree (path text : String) :
    Agree (loadFile path (some text.toUTF8) : Action ρ Nat) (registerLines (AliasLine.definitions (Text.lines text)) >>=
      fun _ => pure (AliasLine.definitions (Text.lines text)).length) := by
  rw [loadFile_text]
  exact loadLines_agree path 1 (Text.lines text)

theorem loadFile_append_lf (path path₁ path₂ text₁ text₂ : String) :
    Agree (loadFile path (some (text₁ ++ "\n" ++ text₂).toUTF8) : Action ρ Nat) (do
      let m ← loadFile path₁ (some text₁.toUTF8)
      let n ← loadFile path₂ (some text₂.toUTF8)
      return m + n) := by
  have hboth := Agree.bind (loadFile_agree (ρ := ρ) path₁ text₁) fun m =>
    Agree.bind (loadFile_agree path₂ text₂) fun n => Agree.pure (m + n)
  refine (loadFile_agree path _).trans (Agree.symm ?_)
  rw [definitions_append_lf, registerLines_append, List.length_append]
  simpa only [bind_assoc, pure_bind] using hboth

/-- Loading a text registers its lines that define aliases, one after the other, and counts them. It ends with the text or
    with the first of these lines that is refused, of which nothing is registered, and only then does it fail. Of each
    malformed line up to there it tells once, with its number among all lines, and does nothing else. So a text loads like
    two texts with a line feed between them. -/
theorem loadFile_in_turn (s : Host ρ) (path text : String) :
    let lines := Text.lines text
    let load := loadFile path (some text.toUTF8)
    let turn := registerLines (AliasLine.definitions lines)
    Text.Splits text.toList (lines.map String.toList) ∧
    result load s = (result turn s).map (fun _ => (AliasLine.definitions lines).length) ∧
    (after load s).registry = (after turn s).registry ∧
    (∃ reached rest es, lines = reached ++ rest ∧ Performs load s es ∧
      Performs turn s (es.filter fun e => !e.isComplaint) ∧
      es.filter Event.isComplaint = AliasLine.complaints path s.now 1 reached ∧
      (rest = [] ∧ result load s = .ok (AliasLine.definitions lines).length ∨
        ∃ line behind l fault, rest = line :: behind ∧ AliasLine.parse? line = some l ∧ result load s = .error fault ∧
          ((∃ a name existing, fault = .refused (.conflict a name existing)) ∨
            ∃ a name, fault = .refused (.circular a name)) ∧
          let before : Action ρ Unit := registerLines (AliasLine.definitions reached)
          result before s = .ok () ∧ result (registerLine l) (after before s) = .error fault ∧
            (after load s).registry.mapping = (after before s).registry.mapping)) ∧
    ∀ path₁ path₂ text₁ text₂,
      let joined : Action ρ Nat := loadFile path (some (text₁ ++ "\n" ++ text₂).toUTF8)
      let both : Action ρ Nat := do
        let m ← loadFile path₁ (some text₁.toUTF8)
        let n ← loadFile path₂ (some text₂.toUTF8)
        return m + n
      result joined s = result both s ∧ (after joined s).registry = (after both s).registry := by
  intro lines load turn
  obtain ⟨hresult, hregistry⟩ := (loadFile_agree path text).registry s
  have hcount : result load s = (result turn s).map fun _ => (AliasLine.definitions lines).length := by
    rw [hresult, result_bind]
    cases result turn s <;> rfl
  have hleft : (after load s).registry = (after turn s).registry := by
    rw [hregistry, after_bind]
    split <;> rfl
  have hlines : lines.map String.toList = Text.splitLines text.toList := by simp [lines, Text.lines, Function.comp_def]
  refine ⟨hlines ▸ .splitLines _, hcount, hleft, ?_,
    fun path₁ path₂ text₁ text₂ => (loadFile_append_lf path path₁ path₂ text₁ text₂).registry s⟩
  obtain ⟨reached, rest, es, hsplit, h⟩ := loadLines_reaches path 1 lines s
  have hload : load = loadLines path 1 (reached ++ rest) := hsplit ▸ loadFile_text path text
  have hturn : turn = registerLines (AliasLine.definitions (reached ++ rest)) := hsplit ▸ rfl
  refine ⟨reached, rest, es, hsplit, hload ▸ h.performs, hturn ▸ h.registers, h.told, ?_⟩
  rcases h.ends with rfl | ⟨line, behind, l, fault, rfl, hl, herror⟩
  · rw [List.append_nil] at hturn
    exact Or.inl ⟨rfl, by rw [hcount, hturn, h.registered]; rfl⟩
  · obtain ⟨hrefused, hafter⟩ := h.refused hl herror
    obtain ⟨hfault, hmapping⟩ := registerLine_refused hl herror
    refine Or.inr ⟨line, behind, l, fault, rfl, hl, ?_, hfault, h.registered, herror, ?_⟩
    · rw [hcount, hturn, hrefused]
      rfl
    · rw [hleft, hturn, hafter, hmapping]

end Action

end AliasBook
