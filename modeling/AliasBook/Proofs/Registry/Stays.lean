import AliasBook.Proofs.Registry.Lasting

/-! Code that leaves the registry in use. It may change the entries, ask the policy and tell what it likes; every
    operation that writes entries is such code, and so is what is built of it. -/

namespace AliasBook.Action
variable {ρ α β : Type} {act : Action ρ α}

/-- Whatever becomes of the code, the registry in use is the same afterwards. -/
def Stays (act : Action ρ α) : Prop :=
  ∀ number, Keeps (fun s => s.registry.number = number) act fun _ => True

namespace Stays

theorem pure (a : α) : Stays (pure a : Action ρ α) := fun _ => Keeps.pure trivial

theorem throw (fault : Fault) : Stays (throw fault : Action ρ α) := fun _ => Keeps.throw fault

theorem bind {f : α → Action ρ β} (h : Stays act) (hf : ∀ a, Stays (f a)) : Stays (act >>= f) :=
  fun number => (h number).bind fun a _ => hf a number

theorem tryCatch {handle : Fault → Action ρ α} (h : Stays act) (hf : ∀ fault, Stays (handle fault)) :
    Stays (tryCatch act handle) :=
  fun number => (h number).tryCatch fun fault => hf fault number

theorem lasts (number : Nat) : Lasts (fun _ => True) (fun _ => True) (fun s : Host ρ => s.registry.number = number) where
  toRules := .any
  entries _ _ := trivial
  write _ _ hs _ := hs
  ask _ hs := hs
  told _ _ hs _ := hs

theorem register (name a : Value) : Stays (register name a : Action ρ Unit) :=
  fun number => (lasts number).register name a

theorem registerMany (name aliases : Value) : Stays (registerMany name aliases : Action ρ Nat) :=
  fun number => (lasts number).registerMany name aliases

theorem remove (a : Value) : Stays (remove a : Action ρ Unit) := fun number => (lasts number).remove a

theorem clear : Stays (clear : Action ρ Unit) := fun number => (lasts number).clear

theorem loadFile (path : String) (bytes : Option ByteArray) : Stays (loadFile path bytes : Action ρ Nat) :=
  fun number => (lasts number).loadFile path bytes

theorem renameEntries {f : Resolver ρ} (hf : ∀ x, Stays (f x)) (p : Renaming) (es : List (String × String)) :
    Stays (renameEntries f p es) :=
  fun number => ((lasts number).renameEntries (fun x => hf x number) trivial).mono fun _ _ => trivial

theorem resolve {resolver : Option (Resolver ρ)} (hf : ∀ f ∈ resolver, ∀ x, Stays (f x)) :
    Stays (resolve resolver) :=
  fun number => (lasts number).resolve fun f hresolver x => hf f hresolver x number

end Stays

end AliasBook.Action
