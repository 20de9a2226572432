import AliasBook.Log.Channel
import AliasBook.Proofs.Mapping.Rules

/-! Which of the records that were delivered are alarms. Logging any other record adds none. -/

namespace AliasBook

/-- Tells that a chain of aliases came to a name a second time. -/
def Record.isAlarm (r : Record) : Bool :=
  r.message = "Circular alias chain detected in registry" ∨
    r.message = "Alias chain revisits a name; returning last name reached"

theorem Notice.isAlarm_record (n : Notice) : n.record.isAlarm = n.isAlarm := by
  cases n with
  | rejectedSetting key value =>
    -- The message begins with the code of the error, whose second letter is a capital.
    have hother : ∀ text : String, text.toList.take 2 ≠ ['A', 'L'] → (rejectedSetting key value).record.message ≠ text := by
      rintro _ htext rfl
      apply htext
      simp [record, message, ErrorCode.invalidSetting, String.toList_append]
    have hfirst := hother "Circular alias chain detected in registry" (by simp)
    have hsecond := hother "Alias chain revisits a name; returning last name reached" (by simp)
    simp [Record.isAlarm, isAlarm, hfirst, hsecond]
  | _ => rfl

namespace Channel
variable {c : Channel} {r : Record}

/-- The alarms among the records that were delivered, newest first. -/
def alarms (c : Channel) : List (Receiver × Record) :=
  c.delivered.filter fun d => d.2.isAlarm

theorem alarms_deliver (receiver : Receiver) (h : r.isAlarm = false) : (c.deliver receiver r).alarms = c.alarms := by
  simp [alarms, deliver, h]

theorem alarms_write (more : String) (sink : Sink) : (c.write more sink).alarms = c.alarms := by
  cases sink <;> rfl

theorem alarms_handle (time : Instant) (handler : Handler) (h : r.isAlarm = false) :
    (c.handle time r handler).alarms = c.alarms := by
  unfold handle
  dsimp only
  rw [alarms_deliver _ h]
  split
  · exact alarms_write _ _
  · rfl

theorem alarms_log (time : Instant) (h : r.isAlarm = false) : (c.log time r).alarms = c.alarms := by
  have hhandled : ∀ (handlers : List Handler) (c : Channel),
      (handlers.foldl (fun c handler => c.handle time r handler) c).alarms = c.alarms := by
    intro handlers
    induction handlers with
    | nil => exact fun _ => rfl
    | cons handler handlers ih => exact fun c => (ih _).trans (alarms_handle time handler h)
  unfold log
  split
  · rfl
  · split
    · dsimp only
      split
      · rw [alarms_deliver _ h, hhandled]
      · exact hhandled _ _
    · exact alarms_deliver _ h

end Channel

end AliasBook
