import AliasBook.Proofs.Log.Alarms
import AliasBook.Proofs.Registry.Lasting
import AliasBook.Registry.Shared

/-! Nobody who uses a registry through its operations ever gets an alarm. The entries have no circles at any moment, and
    neither have the copies that bulk registration and renaming work on, whatever comes of them in the end
    (`Session.no_alarm`). -/

namespace AliasBook.Action
variable {ρ α : Type}

/-- Code that writes entries through operations only and leaves the alarms to them. Resolvers that it passes on are
    such code as well. -/
inductive Session : {α : Type} → Action ρ α → Prop
  | register (name a : Value) : Session (register name a)
  | registerMany (name aliases : Value) : Session (registerMany name aliases)
  | remove (a : Value) : Session (remove a)
  | clear : Session clear
  | loadFile (path : String) (bytes : Option ByteArray) : Session (loadFile path bytes)
  | resolve (resolver : Option (Resolver ρ)) : (∀ f ∈ resolver, ∀ x, Session (f x)) → Session (resolve resolver)
  | canonical (name : Value) : Session (canonical name)
  | hasAlias (name a : Value) : Session (hasAlias name a)
  | checkCircle (name a : Value) : Session (checkCircle name a)
  | openRegistry (policy : Policy) (isShared : Bool) : Session (openRegistry policy isShared)
  /-- Anything else, such as the other ways to look names up, or logging of one's own. -/
  | elsewhere {α : Type} (act : Action ρ α) :
      (∀ s, (after act s).registry.mapping = s.registry.mapping ∧ (after act s).channel.alarms = s.channel.alarms) →
      Session act
  | bind {α β : Type} {act : Action ρ α} {f : α → Action ρ β} : Session act → (∀ a, Session (f a)) → Session (act >>= f)
  | tryCatch {α : Type} {act : Action ρ α} {handle : Fault → Action ρ α} :
      Session act → (∀ fault, Session (handle fault)) → Session (tryCatch act handle)

/-- The entries are sound, and there are no other alarms than before. -/
def Calm (before : List (Receiver × Record)) (s : Host ρ) : Prop :=
  s.registry.mapping.Sound ∧ s.channel.alarms = before

theorem lasts_calm (before : List (Receiver × Record)) :
    Lasts Mapping.Sound (fun n => n.isAlarm = false) (Calm (ρ := ρ) before) where
  toRules := .sound
  entries _ hs := hs.1
  write _ _ hs hm := ⟨hm, hs.2⟩
  ask _ hs := hs
  told s n hs hn := ⟨hs.1, (Channel.alarms_log s.now (n.isAlarm_record.trans hn)).trans hs.2⟩

theorem Session.keeps {act : Action ρ α} (h : Session act) (before : List (Receiver × Record)) :
    Keeps (Calm before) act fun _ => True := by
  have hlasts := lasts_calm (ρ := ρ) before
  induction h with
  | register name a => exact hlasts.register name a
  | registerMany name aliases => exact hlasts.registerMany name aliases
  | remove a => exact hlasts.remove a
  | clear => exact hlasts.clear
  | loadFile path bytes => exact hlasts.loadFile path bytes
  | resolve resolver _ ih => exact hlasts.resolve ih
  | canonical name => exact hlasts.canonical name
  | hasAlias name a => exact hlasts.hasAlias name a
  | checkCircle name a => exact hlasts.checkCircle name a
  | openRegistry policy isShared => exact Keeps.modify fun _ hs => ⟨Mapping.sound_empty, hs.2⟩
  | elsewhere act hact =>
    intro s hs
    obtain ⟨hmapping, halarms⟩ := hact s
    exact ⟨⟨hmapping ▸ hs.1, halarms.trans hs.2⟩, fun _ _ => trivial⟩
  | bind _ _ ihact ihf => exact Keeps.bind ihact fun a _ => ihf a
  | tryCatch _ _ ihact ihhandle => exact Keeps.tryCatch ihact ihhandle

/-- Starting without entries, no alarm is ever logged, whatever the channel lets through. -/
theorem Session.no_alarm {act : Action ρ α} (h : Session act) {s : Host ρ} (hempty : s.registry.mapping = .empty) :
    (after act s).channel.alarms = s.channel.alarms :=
  (h.keeps s.channel.alarms s ⟨hempty ▸ Mapping.sound_empty, rfl⟩).1.2

/-- Swaps two names of a chain, which is refused on the way, and renames all with a resolver that lets a name of the
    chain stand for each text in the middle of the pass. -/
def shuffle : Action Unit Unit := do
  register (.text "b") (.text "a")
  let _ ← registerMany (.text "c") (.list [.text "b", .text "d"])
  tryCatch (resolve (some fun x => pure (some (if x = "a" then "b" else if x = "b" then "a" else x)))) fun _ => pure ()
  resolve (some fun x => do
    tryCatch (register (.text x) (.text "c")) fun _ => pure ()
    return some (x ++ "2"))
  let _ ← canonical (.text "a2")
  tryCatch (checkCircle (.text "a2") (.text "c2")) fun _ => pure ()

theorem shuffle_no_alarm :
    let s : Host Unit := { channel := { rootLevel := Level.debug }, caller := () }
    let t := after shuffle s
    t.registry.mapping.entries = [("a2", "b2"), ("b2", "c2"), ("d2", "c2")] ∧
      t.channel.atRoot.map Record.message = ["Alias definition registered", "Alias definitions registered",
        "Alias definition ignored since it points to same name",
        "Alias definition ignored since it points to same name", "Alias definitions resolved"] ∧
      t.channel.alarms = [] := by
  intro s t
  have still : Session (pure () : Action Unit Unit) := .elsewhere _ fun _ => ⟨rfl, rfl⟩
  have hsession : Session shuffle := by
    refine .bind (.register _ _) fun _ => .bind (.registerMany _ _) fun _ => ?_
    refine .bind (.tryCatch (.resolve _ fun f hf x => ?_) fun _ => still) fun _ => ?_
    · cases hf
      exact .elsewhere _ fun _ => ⟨rfl, rfl⟩
    · refine .bind (.resolve _ fun f hf x => ?_) fun _ => ?_
      · cases hf
        exact .bind (.tryCatch (.register _ _) fun _ => still) fun _ => .elsewhere _ fun _ => ⟨rfl, rfl⟩
      · exact .bind (.canonical _) fun _ => .tryCatch (.checkCircle _ _) fun _ => still
  exact ⟨by decide, by decide, hsession.no_alarm rfl⟩

/-- Entries that were written without checks do give alarms. -/
example :
    let s : Host Unit := { registry := { mapping := { entries := [("a", "b"), ("b", "a")] } }, caller := () }
    (after (hasAlias (.text "c") (.text "a") >>= fun _ => canonical (.text "a")) s).channel.alarms.length = 2 := by
  decide

end AliasBook.Action
