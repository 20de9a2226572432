import AliasBook.Proofs.Registry.Stays
import AliasBook.Proofs.Renaming.Pass

/-! Renaming by code of the caller, which may use the registry while the pass lasts. The code is watched by a
    record of its calls (`Resolver.recorded`). The pass itself reads the entries once and writes them once, at
    its end: it asks for the texts of the entries in their order, what it leaves follows from the entries and
    the answers, and if it fails the entries are as the calls left them (`resolve_isolated`). -/

namespace AliasBook

/-- A call of a resolver: the text, the entries before and after it, and its answer or how it ended early. -/
structure Call where
  text : String
  found : Mapping
  left : Mapping
  answer : Except Fault (Option String)

/-- What a caller keeps: things of its own, and the calls of a resolver in their order. -/
structure Transcript (ρ : Type) where
  own : ρ
  calls : List Call

variable {ρ α β : Type}

namespace Host

def own (s : Host (Transcript ρ)) : Host ρ :=
  { s with caller := s.caller.own }

def withCalls (s : Host ρ) (calls : List Call) : Host (Transcript ρ) :=
  { s with caller := { own := s.caller, calls } }

end Host

@[simp] theorem Host.registry_withCalls (s : Host ρ) (calls : List Call) : (s.withCalls calls).registry = s.registry :=
  rfl

open AliasBook.Action Renaming

/-- The call of a resolver from a state. -/
def Resolver.call (f : Resolver ρ) (x : String) (s : Host ρ) : Call where
  text := x
  found := s.registry.mapping
  left := (after (f x) s).registry.mapping
  answer := result (f x) s

/-- Does what the resolver does, and keeps a record of the call. -/
def Resolver.recorded (f : Resolver ρ) : Resolver (Transcript ρ) := fun x => do
  let s ← get
  set ((after (f x) s.own).withCalls (s.caller.calls ++ [f.call x s.own]))
  Action.ofExcept (result (f x) s.own)

/-- The turns of entries with answers for an alias and a name in turn, as far as the answers go. -/
def Renaming.answered : List (String × String) → List (Option String) → List Turn
  | e :: es, a' :: n' :: answers => ⟨e, (a', n')⟩ :: answered es answers
  | _, _ => []

/-- The texts that a pass asks for, one after the other. -/
def Mapping.texts (es : List (String × String)) : List String :=
  es.flatMap fun e => [e.1, e.2]

/-- The first call found the entries `m`, every other one what the call before it left, and the last one left `m'`. -/
def Linked : Mapping → List Call → Mapping → Prop
  | m, [], m' => m' = m
  | m, c :: cs, m' => c.found = m ∧ Linked c.left cs m'

/-- Calls that write nothing leave what was there. -/
theorem Linked.eq_of_still {m m' : Mapping} {cs : List Call} (h : Linked m cs m')
    (hstill : ∀ c ∈ cs, c.left = c.found) : m' = m := by
  induction cs generalizing m with
  | nil => exact h
  | cons c cs ih =>
    obtain ⟨hfound, hrest⟩ := h
    have hleft : m' = c.left := ih hrest fun d hd => hstill d (List.mem_cons_of_mem c hd)
    rw [hleft, hstill c List.mem_cons_self, hfound]

/-! ### The calls of a pass -/

/-- How calls account for the outcome of a pass through entries: they ask for the texts of the entries in order, and
    the outcome is what the turns with their answers make, or the failure of the last call. -/
structure Account (p : Renaming) (es : List (String × String)) (calls : List Call)
    (outcome : Except Fault Renaming) : Prop where
  asked : calls.map Call.text <+: Mapping.texts es
  success : ∀ q, outcome = .ok q → calls.map Call.text = Mapping.texts es ∧
    ∃ answers, calls.map Call.answer = answers.map .ok ∧ p.run (answered es answers) = .ok q
  failure : ∀ fault, outcome = .error fault → ∃ answers,
    calls.map Call.answer = answers.map .ok ++ [.error fault] ∨
      (calls.map Call.answer = answers.map .ok ∧
        ∃ refusal, fault = .refused refusal ∧ p.run (answered es answers) = .error refusal)

namespace Account
variable {p q : Renaming} {es : List (String × String)} {e : String × String} {calls : List Call}
  {c d : Call} {a' n' : Option String} {outcome : Except Fault Renaming} {fault : Fault} {refusal : AliasError}

theorem nil : Account p [] [] (.ok p) := by
  refine ⟨List.prefix_refl _, fun q hq => ?_, fun fault hfault => ?_⟩
  · cases hq
    exact ⟨rfl, [], rfl, rfl⟩
  · cases hfault

theorem alias_fails (hc : c.text = e.1) (hfault : c.answer = .error fault) :
    Account p (e :: es) [c] (.error fault) := by
  refine ⟨?_, fun q hq => (by cases hq), fun fault' hfault' => ?_⟩
  · rw [List.map_singleton, hc]
    exact ⟨e.2 :: Mapping.texts es, rfl⟩
  · cases hfault'
    exact ⟨[], Or.inl (by simp [hfault])⟩

theorem name_fails (hc : c.text = e.1) (hd : d.text = e.2) (ha : c.answer = .ok a')
    (hfault : d.answer = .error fault) : Account p (e :: es) [c, d] (.error fault) := by
  refine ⟨?_, fun q hq => (by cases hq), fun fault' hfault' => ?_⟩
  · simp only [List.map_cons, List.map_nil, hc, hd]
    exact ⟨Mapping.texts es, rfl⟩
  · cases hfault'
    exact ⟨[a'], Or.inl (by simp [ha, hfault])⟩

theorem turn_refused (hc : c.text = e.1) (hd : d.text = e.2) (ha : c.answer = .ok a') (hn : d.answer = .ok n')
    (hstep : (p.step e.1 e.2 a' n').outcome = .error refusal) :
    Account p (e :: es) [c, d] (.error (.refused refusal)) := by
  refine ⟨?_, fun q hq => (by cases hq), fun fault hfault => ?_⟩
  · simp only [List.map_cons, List.map_nil, hc, hd]
    exact ⟨Mapping.texts es, rfl⟩
  · cases hfault
    refine ⟨[a', n'], Or.inr ⟨by simp [ha, hn], refusal, rfl, ?_⟩⟩
    rw [answered, run, hstep]
    rfl

theorem turn_taken (hc : c.text = e.1) (hd : d.text = e.2) (ha : c.answer = .ok a') (hn : d.answer = .ok n')
    (hstep : (p.step e.1 e.2 a' n').outcome = .ok q) (h : Account q es calls outcome) :
    Account p (e :: es) (c :: d :: calls) outcome := by
  have hrun : ∀ answers, p.run (answered (e :: es) (a' :: n' :: answers)) = q.run (answered es answers) := by
    intro answers
    rw [answered, run, hstep]
    rfl
  have htexts : Mapping.texts (e :: es) = e.1 :: e.2 :: Mapping.texts es := rfl
  refine ⟨?_, fun q' hq' => ?_, fun fault hfault => ?_⟩
  · simp only [List.map_cons, hc, hd, htexts, List.prefix_cons_inj]
    exact h.asked
  · obtain ⟨hasked, answers, hanswers, hrest⟩ := h.success q' hq'
    refine ⟨by simp only [List.map_cons, hc, hd, htexts, hasked], a' :: n' :: answers, ?_, (hrun answers).trans hrest⟩
    simp only [List.map_cons, ha, hn, hanswers]
  · obtain ⟨answers, hlast | ⟨hanswers, refusal, hfault, hrest⟩⟩ := h.failure fault hfault
    · refine ⟨a' :: n' :: answers, Or.inl ?_⟩
      simp only [List.map_cons, ha, hn, hlast, List.cons_append]
    · refine ⟨a' :: n' :: answers, Or.inr ⟨?_, refusal, hfault, (hrun answers).trans hrest⟩⟩
      simp only [List.map_cons, ha, hn, hanswers]

end Account

section Recorded
variable {f : Resolver ρ} {s : Host ρ} {cs : List Call} {x : String}

@[simp] theorem result_recorded : result (f.recorded x) (s.withCalls cs) = result (f x) s := by
  show result (Action.ofExcept (result (f x) s)) _ = _
  cases result (f x) s <;> rfl

@[simp] theorem after_recorded :
    after (f.recorded x) (s.withCalls cs) = (after (f x) s).withCalls (cs ++ [f.call x s]) := by
  show after (Action.ofExcept (result (f x) s)) _ = _
  cases result (f x) s <;> rfl

theorem after_tellAll_withCalls (ns : List Notice) :
    after (tellAll ns) (s.withCalls cs) = (after (tellAll ns) s).withCalls cs := by
  induction ns generalizing s with
  | nil => rfl
  | cons n ns ih =>
    simp only [tellAll, after_bind, result_tell]
    exact ih (s := after (tell n) s)

theorem after_ofAttempt_withCalls (attempt : Attempt α) :
    after (ofAttempt attempt) (s.withCalls cs) = (after (ofAttempt attempt) s).withCalls cs := by
  rw [after_ofAttempt, after_ofAttempt, after_tellAll_withCalls]

/-- The record of a pass: it changes nothing of what happens, and accounts for it. -/
theorem renameEntries_recorded (f : Resolver ρ) (p : Renaming) (es : List (String × String)) (s : Host ρ)
    (cs : List Call) : ∃ calls,
      result (renameEntries f.recorded p es) (s.withCalls cs) = result (renameEntries f p es) s ∧
      after (renameEntries f.recorded p es) (s.withCalls cs) =
        (after (renameEntries f p es) s).withCalls (cs ++ calls) ∧
      Linked s.registry.mapping calls (after (renameEntries f p es) s).registry.mapping ∧
      Account p es calls (result (renameEntries f p es) s) := by
  induction es generalizing p s cs with
  | nil => exact ⟨[], rfl, by simp [renameEntries], rfl, .nil⟩
  | cons e es ih =>
    obtain ⟨a, n⟩ := e
    simp only [renameEntries, result_bind, after_bind, result_recorded, after_recorded, result_ofAttempt,
      after_ofAttempt_withCalls]
    cases ha : result (f a) s with
    | error fault => exact ⟨[f.call a s], rfl, rfl, ⟨rfl, rfl⟩, .alias_fails rfl ha⟩
    | ok a' =>
      simp only [Except.bind]
      cases hn : result (f n) (after (f a) s) with
      | error fault =>
        exact ⟨[f.call a s, f.call n (after (f a) s)], rfl, by simp, ⟨rfl, rfl, rfl⟩, .name_fails rfl rfl ha hn⟩
      | ok n' =>
        have htell := registry_after_ofAttempt (s := after (f n) (after (f a) s)) (p.step a n a' n')
        cases hstep : (p.step a n a' n').outcome with
        | error refusal =>
          refine ⟨[f.call a s, f.call n (after (f a) s)], ?_, ?_, ⟨rfl, rfl, ?_⟩, ?_⟩
          · simp only [hstep, Except.mapError]
          · simp [hstep, Except.mapError]
          · simp [hstep, Except.mapError, htell, Resolver.call, Linked]
          · simp only [hstep, Except.mapError]
            exact .turn_refused rfl rfl ha hn hstep
        | ok q =>
          obtain ⟨calls, hresult, hafter, hlinked, haccount⟩ := ih q
            (after (ofAttempt (p.step a n a' n')) (after (f n) (after (f a) s)))
            (cs ++ [f.call a s] ++ [f.call n (after (f a) s)])
          rw [htell] at hlinked
          simp only [hstep, Except.mapError]
          exact ⟨f.call a s :: f.call n (after (f a) s) :: calls, hresult, by simpa using hafter,
            ⟨rfl, rfl, hlinked⟩, .turn_taken rfl rfl ha hn hstep haccount⟩

/-- What follows a pass that succeeds: the registry that the pass began with gets the entries. -/
def commit (number : Nat) (p : Renaming) : Action ρ Unit := do
  if (← get).registry.number = number then setMapping p.working
  if 0 < p.changed then tell (.resolved p.changed)

@[simp] theorem result_commit (number : Nat) (p : Renaming) : result (commit number p) s = .ok () := by
  rw [commit, result_bind, result_get]
  simp only [Except.bind]
  split <;> split <;> rfl

theorem mapping_after_commit {number : Nat} (p : Renaming) (h : s.registry.number = number) :
    (after (commit number p) s).registry.mapping = p.working := by
  rw [commit, after_bind, result_get]
  simp only [after_get, h, if_true]
  split <;> rfl

theorem after_commit_withCalls (number : Nat) (p : Renaming) :
    after (commit number p) (s.withCalls cs) = (after (commit number p) s).withCalls cs := by
  simp only [commit, after_bind, result_get, after_get, Host.registry_withCalls]
  by_cases hsame : s.registry.number = number
  · simp only [hsame, if_true]
    split <;> rfl
  · simp only [hsame, if_false]
    split <;> rfl

/-- The pass through the entries in use. -/
def renameAll (f : Resolver ρ) (s : Host ρ) : Action ρ Renaming :=
  renameEntries f (start s.registry.mapping) s.registry.mapping.entries

theorem result_resolve_some (f : Resolver ρ) (s : Host ρ) :
    result (resolve (some f)) s = (result (renameAll f s) s).map fun _ => () := by
  show result (renameAll f s >>= commit s.registry.number) s = _
  rw [result_bind]
  cases result (renameAll f s) s with
  | error fault => rfl
  | ok p => exact result_commit _ p

theorem after_resolve_some (f : Resolver ρ) (s : Host ρ) :
    after (resolve (some f)) s = match result (renameAll f s) s with
      | .ok p => after (commit s.registry.number p) (after (renameAll f s) s)
      | .error _ => after (renameAll f s) s := by
  show after (renameAll f s >>= commit s.registry.number) s = _
  rw [after_bind]
  cases result (renameAll f s) s <;> rfl

end Recorded

namespace Action

/-- Renaming asks the resolver for the texts of the entries in their order, whatever it answers and whatever it does to
    the entries. If it succeeds the new entries follow from the entries at the start and the answers. If it fails the
    entries are as the calls left them, and as they were if the calls wrote nothing. -/
theorem resolve_isolated {f : Resolver ρ} (hf : ∀ x, Stays (f x)) (s : Host ρ) : ∃ calls reached,
    let m := s.registry.mapping
    let outcome := result (resolve (some f)) s
    let t := after (resolve (some f)) s
    result (resolve (some f.recorded)) (s.withCalls []) = outcome ∧
      after (resolve (some f.recorded)) (s.withCalls []) = t.withCalls calls ∧
    Linked m calls reached ∧ calls.map Call.text <+: Mapping.texts m.entries ∧
    (outcome = .ok () → calls.map Call.text = Mapping.texts m.entries ∧
      ∃ answers p, calls.map Call.answer = answers.map .ok ∧
        (start m).run (answered m.entries answers) = .ok p ∧ t.registry.mapping = p.working) ∧
    ∀ fault, outcome = .error fault → t.registry.mapping = reached ∧
      ((∀ c ∈ calls, c.left = c.found) → t.registry.mapping = m) ∧
      ∃ answers, calls.map Call.answer = answers.map .ok ++ [.error fault] ∨
        (calls.map Call.answer = answers.map .ok ∧
          ∃ refusal, fault = .refused refusal ∧ (start m).run (answered m.entries answers) = .error refusal) := by
  obtain ⟨calls, hresult, hafter, hlinked, haccount⟩ :=
    renameEntries_recorded f (start s.registry.mapping) s.registry.mapping.entries s []
  have hnumber : (after (renameAll f s) s).registry.number = s.registry.number :=
    (Stays.renameEntries hf _ _ s.registry.number s rfl).1
  rw [List.nil_append] at hafter
  change result (renameAll f.recorded (s.withCalls [])) (s.withCalls []) = result (renameAll f s) s at hresult
  change after (renameAll f.recorded (s.withCalls [])) (s.withCalls []) = (after (renameAll f s) s).withCalls calls
    at hafter
  change Account _ _ calls (result (renameAll f s) s) at haccount
  refine ⟨calls, _, ?_, ?_, hlinked, haccount.asked, ?_, ?_⟩
  · rw [result_resolve_some, result_resolve_some, hresult]
  · rw [after_resolve_some, after_resolve_some, hresult, hafter]
    cases result (renameAll f s) s with
    | error fault => rfl
    | ok p => exact after_commit_withCalls _ p
  · intro hok
    rw [result_resolve_some] at hok
    rw [after_resolve_some]
    cases hpass : result (renameAll f s) s with
    | error fault =>
      rw [hpass] at hok
      cases hok
    | ok p =>
      obtain ⟨hasked, answers, hanswers, hrun⟩ := haccount.success p hpass
      exact ⟨hasked, answers, p, hanswers, hrun, mapping_after_commit p hnumber⟩
  · intro fault hfault
    rw [result_resolve_some] at hfault
    rw [after_resolve_some]
    cases hpass : result (renameAll f s) s with
    | ok p =>
      rw [hpass] at hfault
      cases hfault
    | error found =>
      rw [hpass] at hfault
      cases hfault
      exact ⟨rfl, hlinked.eq_of_still, haccount.failure fault hpass⟩

/-- Overrides an alias and renames all entries, and this from inside a pass. -/
def meddle : Resolver Unit := fun x => do
  tryCatch (register (.text "c") (.text x)) fun _ => pure ()
  resolve (some fun y => pure (some (y ++ "1")))
  return some (x ++ "2")

theorem resolve_meddle :
    let s : Host Unit := { registry := { mapping := { entries := [("a", "b")] } }, caller := () }
    (∀ x, Stays (meddle x)) ∧ result (resolve (some meddle)) s = .ok () ∧ ∃ calls,
      after (resolve (some meddle.recorded)) (s.withCalls []) = (after (resolve (some meddle)) s).withCalls calls ∧
      calls.map Call.text = ["a", "b"] ∧
      calls.map (·.left.entries) = [[("a1", "c1")], [("a11", "c11"), ("b1", "c1")]] ∧
      (after (resolve (some meddle)) s).registry.mapping.entries = [("a2", "b2")] := by
  intro s
  have hf : ∀ x, Stays (meddle x) := fun x =>
    (Stays.register _ _).tryCatch (fun _ => .pure ()) |>.bind fun _ =>
      (Stays.resolve fun g hg y => by cases hg; exact .pure _).bind fun _ => .pure _
  have hok : result (resolve (some meddle)) s = .ok () := rfl
  obtain ⟨calls, reached, -, hcalls, -, -, hsuccess, -⟩ := resolve_isolated hf s
  have hleft := congrArg (fun t => t.caller.calls.map (·.left.entries)) hcalls
  exact ⟨hf, hok, calls, hcalls, (hsuccess hok).1, hleft.symm.trans (by decide), by decide⟩

end Action

end AliasBook
