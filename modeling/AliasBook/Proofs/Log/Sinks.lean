import AliasBook.Log.Channel

/-! Which records a channel lets through, and who gets them. The setup in force follows from what was configured and
    reset last; a record that reaches the level of the setup goes to its sink, or to the root logger if there is none,
    and nobody else gets it. So a sink holds the lines of the records that were sent while it was in use (`InForce.replay`). -/

namespace AliasBook

/-- What logging was configured to: a level, and the handler that writes the lines. -/
structure Setup where
  level : Int
  handler : Handler

/-- What can be done to a channel. -/
inductive Event where
  | logged (time : Instant) (r : Record)
  | opened (output : String)
  | configured (level : Int) (formatter : Formatter) (output : String)
  | reset

/-- A record that was let through, and the setup that was in force at the time. -/
structure Emission where
  time : Instant
  record : Record
  setup : Option Setup

namespace Emission

def receiver (e : Emission) : Receiver :=
  match e.setup with
  | none => .root
  | some setup => .sink setup.handler.sink

/-- The line that is written for the record. It needs a setup, and a time that has a date. -/
def line? (e : Emission) : Option String :=
  e.setup.bind fun setup => (setup.handler.formatter.line e.time e.record).toOption

/-- What the record adds to the sink that gets it. -/
def text (e : Emission) : String :=
  (e.line?.map (· ++ "\n")).getD ""

end Emission

namespace Event

/-- The setup in force after the event. -/
def next (setup : Option Setup) : Event → Option Setup
  | .configured level formatter output => some ⟨level, formatter, Sink.ofName output⟩
  | .reset => none
  | .logged .. | .opened _ => setup

/-- The level that a record has to reach: the one of the setup, or else the one of the root logger. -/
def threshold (rootLevel : Int) : Option Setup → Int
  | none => rootLevel
  | some setup => if setup.level = Level.unset then rootLevel else setup.level

/-- The emission that the event makes, if it does. -/
def emission? (rootLevel : Int) (setup : Option Setup) : Event → Option Emission
  | .logged time r => if threshold rootLevel setup ≤ r.level then some ⟨time, r, setup⟩ else none
  | _ => none

/-- The emissions that the events make one after the other, in order. -/
def emissions (rootLevel : Int) : Option Setup → List Event → List Emission
  | _, [] => []
  | setup, e :: es => (e.emission? rootLevel setup).toList ++ emissions rootLevel (e.next setup) es

/-- What is logged comes from inside the library. -/
def IsInside : Event → Prop
  | .logged _ r => Channel.isInside r.logger = true
  | _ => True

end Event

namespace Channel

/-- The channel after an event. -/
def play (c : Channel) : Event → Channel
  | .logged time r => c.log time r
  | .opened output => c.openSink output
  | .configured level formatter output => c.configure level formatter output
  | .reset => c.reset

/-- The channel after events. -/
def replay (c : Channel) (es : List Event) : Channel :=
  es.foldl play c

/-- The text that a sink holds. -/
def textOf (c : Channel) : Sink → String
  | .screen => c.screen
  | .file name => (c.file? name).getD ""

/-- The channel is set up so, or not at all. -/
structure InForce (c : Channel) (setup : Option Setup) : Prop where
  handlers : c.handlers = (setup.map Setup.handler).toList
  propagates : c.propagates = setup.isNone
  isConfigured : c.isConfigured = setup.isSome
  level : c.level = (setup.map Setup.level).getD Level.unset

variable {c : Channel} {setup : Option Setup} {sink : Sink}

/-! ### Writing -/

theorem lookup_appendTo (name more k : String) (files : List (String × String)) :
    (appendTo name more files).lookup k =
      if k = name then some ((files.lookup k).getD "" ++ more) else files.lookup k := by
  induction files with
  | nil =>
    by_cases hk : k = name
    · simp [appendTo, hk]
    · have hne : (k == name) = false := by simpa using hk
      simp [appendTo, hk, List.lookup_cons, hne]
  | cons f files ih =>
    obtain ⟨x, text⟩ := f
    by_cases hx : x = name
    · subst hx
      by_cases hk : k = x
      · simp [appendTo, hk]
      · have hne : (k == x) = false := by simpa using hk
        simp [appendTo, hk, List.lookup_cons, hne]
    · rw [appendTo, if_neg hx, List.lookup_cons, List.lookup_cons, ih]
      by_cases hk : k = x
      · simp [hk, hx]
      · have hne : (k == x) = false := by simpa using hk
        simp [hne]

theorem textOf_write (c : Channel) (more : String) (target sink : Sink) :
    (c.write more target).textOf sink = if sink = target then c.textOf sink ++ more else c.textOf sink := by
  cases target with
  | screen => cases sink <;> simp [write, textOf, file?]
  | file name =>
    cases sink with
    | screen => simp [write, textOf]
    | file k =>
      simp only [write, textOf, file?, lookup_appendTo, Sink.file.injEq]
      split <;> simp

/-! ### Sending -/

/-- From `c` to `c'` just these records were sent: each was delivered to its receiver and to nobody else, and each sink got
    the lines of those that went to it. -/
structure Sends (c c' : Channel) (sent : List Emission) : Prop where
  rootLevel : c'.rootLevel = c.rootLevel
  delivered : c'.delivered = (sent.map fun e => (e.receiver, e.record)).reverse ++ c.delivered
  textOf : ∀ sink, c'.textOf sink =
    c.textOf sink ++ String.join ((sent.filter fun e => e.receiver = .sink sink).map Emission.text)

namespace Sends
variable {c' c'' : Channel} {sent more : List Emission}

theorem nothing (hroot : c'.rootLevel = c.rootLevel) (hdelivered : c'.delivered = c.delivered)
    (htext : ∀ sink, c'.textOf sink = c.textOf sink) : c.Sends c' [] :=
  ⟨hroot, hdelivered, fun sink => by simp [htext sink]⟩

theorem refl (c : Channel) : c.Sends c [] := nothing rfl rfl fun _ => rfl

theorem trans (h : c.Sends c' sent) (h' : c'.Sends c'' more) : c.Sends c'' (sent ++ more) where
  rootLevel := h'.rootLevel.trans h.rootLevel
  delivered := by simp [h'.delivered, h.delivered]
  textOf sink := by simp [h'.textOf sink, h.textOf sink, String.append_assoc]

/-- Delivering a record is all there is to an emission, once the line of it is written. -/
theorem deliver {e : Emission} (hroot : c'.rootLevel = c.rootLevel) (hdelivered : c'.delivered = c.delivered)
    (htext : ∀ sink, c'.textOf sink = if e.receiver = .sink sink then c.textOf sink ++ e.text else c.textOf sink) :
    c.Sends (c'.deliver e.receiver e.record) [e] where
  rootLevel := hroot
  delivered := congrArg ((e.receiver, e.record) :: ·) hdelivered
  textOf sink := by
    have hdeliver : (c'.deliver e.receiver e.record).textOf sink = c'.textOf sink := by cases sink <;> rfl
    rw [hdeliver, htext]
    by_cases hsink : e.receiver = .sink sink
    · simp [hsink]
    · simp [hsink]

theorem root (c : Channel) (time : Instant) (r : Record) : c.Sends (c.deliver .root r) [⟨time, r, none⟩] :=
  deliver (e := ⟨time, r, none⟩) rfl rfl fun sink => by simp [Emission.receiver]

theorem handle (c : Channel) (time : Instant) (r : Record) (setup : Setup) :
    c.Sends (c.handle time r setup.handler) [⟨time, r, some setup⟩] := by
  unfold Channel.handle
  cases hline : setup.handler.formatter.line time r with
  | ok line =>
    refine deliver (e := ⟨time, r, some setup⟩) ?_ ?_ fun sink => ?_
    · cases hsink : setup.handler.sink <;> rfl
    · cases hsink : setup.handler.sink <;> rfl
    · simp [textOf_write, Emission.receiver, Emission.text, Emission.line?, hline, Except.toOption, eq_comm]
  | error fault =>
    -- Nothing is written, and the emission has no line.
    exact deliver (e := ⟨time, r, some setup⟩) rfl rfl fun sink => by
      simp [Emission.text, Emission.line?, hline, Except.toOption]

end Sends

/-! ### One event -/

theorem InForce.levelOf (h : c.InForce setup) {logger : String} (hinside : isInside logger = true) :
    c.levelOf logger = Event.threshold c.rootLevel setup := by
  cases setup with
  | none => simp [Channel.levelOf, Event.threshold, h.level]
  | some setup =>
    by_cases hunset : setup.level = Level.unset
    · simp [Channel.levelOf, Event.threshold, h.level, hunset]
    · simp [Channel.levelOf, Event.threshold, h.level, hinside, hunset]

theorem InForce.deliver (h : c.InForce setup) (receiver : Receiver) (r : Record) : (c.deliver receiver r).InForce setup :=
  ⟨h.handlers, h.propagates, h.isConfigured, h.level⟩

theorem InForce.write (h : c.InForce setup) (more : String) (target : Sink) : (c.write more target).InForce setup := by
  cases target <;> exact ⟨h.handlers, h.propagates, h.isConfigured, h.level⟩

theorem InForce.handle (h : c.InForce setup) (time : Instant) (r : Record) (handler : Handler) :
    (c.handle time r handler).InForce setup := by
  unfold Channel.handle
  refine InForce.deliver ?_ _ _
  split
  · exact h.write _ _
  · exact h

/-- A record that reaches the level goes to the handler if there is one, and to the root logger if there is none. -/
theorem InForce.log (h : c.InForce setup) (time : Instant) {r : Record} (hinside : isInside r.logger = true) :
    c.log time r =
      if r.level < Event.threshold c.rootLevel setup then c
      else match setup with
        | none => c.deliver .root r
        | some setup => c.handle time r setup.handler := by
  rw [Channel.log, h.levelOf hinside, if_pos hinside]
  cases setup with
  | none => simp [h.handlers, h.propagates]
  | some setup => simp [h.handlers, h.propagates]

theorem InForce.play (h : c.InForce setup) {e : Event} (hinside : e.IsInside) :
    (c.play e).InForce (e.next setup) ∧ c.Sends (c.play e) (e.emission? c.rootLevel setup).toList := by
  cases e with
  | logged time r =>
    rw [Channel.play, h.log time hinside, Event.emission?]
    by_cases hlow : r.level < Event.threshold c.rootLevel setup
    · rw [if_pos hlow, if_neg (by omega)]
      exact ⟨h, .refl c⟩
    · rw [if_neg hlow, if_pos (by omega)]
      cases setup with
      | none => exact ⟨h.deliver _ _, .root c time r⟩
      | some setup => exact ⟨h.handle _ _ _, .handle c time r setup⟩
  | opened output =>
    refine ⟨h.write _ _, .nothing ?_ ?_ fun sink => ?_⟩
    · cases hsink : Sink.ofName output <;> simp [Channel.play, openSink, Channel.write, hsink]
    · cases hsink : Sink.ofName output <;> simp [Channel.play, openSink, Channel.write, hsink]
    · rw [Channel.play, openSink, textOf_write]
      simp
  | configured level formatter output => exact ⟨⟨rfl, rfl, rfl, rfl⟩, .nothing rfl rfl fun sink => by cases sink <;> rfl⟩
  | reset => exact ⟨⟨rfl, rfl, rfl, rfl⟩, .nothing rfl rfl fun sink => by cases sink <;> rfl⟩

/-! ### All events -/

/-- After events, the setup that was configured last is in force, and what was sent are the emissions of the events. -/
theorem InForce.replay (h : c.InForce setup) {es : List Event} (hinside : ∀ e ∈ es, e.IsInside) :
    (c.replay es).InForce (es.foldl Event.next setup) ∧ c.Sends (c.replay es) (Event.emissions c.rootLevel setup es) := by
  induction es generalizing c setup with
  | nil => exact ⟨h, .refl c⟩
  | cons e es ih =>
    obtain ⟨he, hes⟩ := List.forall_mem_cons.mp hinside
    obtain ⟨hforce, hsends⟩ := h.play he
    obtain ⟨hforce', hsends'⟩ := ih hforce hes
    rw [hsends.rootLevel] at hsends'
    exact ⟨hforce', hsends.trans hsends'⟩

end Channel

end AliasBook
