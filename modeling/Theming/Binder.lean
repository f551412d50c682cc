/-
# Binders

A binder keeps at most one active companion a target. It does not know what its companions are: it
calls on the code that makes and releases them, in whatever world they live. Binding goes through
these steps and ends at the first that fails.

| order | step | error |
| --- | --- | --- |
| 1 | the companion of the type is resolved | of the resolver, or `noBinding` |
| 2 | the handle is taken to the companion's type | `brokenAncestry`, `targetMismatch` |
| 3 | an active companion is released; faults are only told | |
| 4 | the companion is made | of the companion |
| 5 | it becomes active; one that became active meanwhile is released | |
-/

import Theming.Log
import Theming.Resolver

namespace Theming

/-- The active companions by target, and how companions are found. -/
structure Binder (κ : Type) where
  resolver : Resolver := {}
  active : List (TargetId × κ) := []

namespace Binder

/-- What a binder tells of. -/
inductive Notice where
  /-- A step of the resolver. -/
  | resolving (step : String)
  | alreadyBound (type label : String)
  | previousFailed (type : String) (error : BindingError)
  | boundConcurrently (type : String)
  | concurrentFailed (type : String) (error : BindingError)
  | bound (type companion : String)
  | notBound (type : String)
deriving DecidableEq, Repr

/-- How severe a notice is. -/
def Notice.level : Notice → Log.Level
  | .resolving _ | .bound _ _ | .notBound _ => .debug
  | .alreadyBound _ _ | .previousFailed _ _ => .warn
  | .boundConcurrently _ | .concurrentFailed _ _ => .warn

/-- The wording of a notice. -/
def Notice.message : Notice → String
  | .resolving step => step
  | .alreadyBound type label =>
    type ++ " is already bound by " ++ label ++ "; releasing it before rebinding"
  | .previousFailed type e => "Releasing previous binding of " ++ type ++ " failed: " ++ e.message
  | .boundConcurrently type => type ++ " was bound concurrently; releasing the other binding"
  | .concurrentFailed type e =>
    "Releasing concurrent binding of " ++ type ++ " failed: " ++ e.message
  | .bound type companion => "Bound " ++ type ++ " with " ++ companion
  | .notBound type => type ++ " is not bound; nothing to unbind"

/-- What the companions of a kind can be asked for once they are made, and whom the binder
tells. -/
structure Craft (m : Type → Type) (κ : Type) where
  unbind : κ → m (Except BindingError Unit)
  clear : κ → m Unit
  /-- The name that a companion goes by. -/
  label : κ → m String
  tell : Notice → m Unit

/-- Whether a target has an active companion. -/
def isBound {κ : Type} (b : Binder κ) (target : TargetId) : Bool := (b.active.lookup target).isSome

/-- The binder with one more companion to be found, in place of the one at its path. -/
def register {κ : Type} (b : Binder κ) (entry : CompanionEntry) : Binder κ :=
  { b with resolver := { b.resolver with registry := b.resolver.registry.insert entry } }

variable {κ : Type} {m : Type → Type} [Monad m] [MonadStateOf (Binder κ) m]

/-- Takes away the active companion of a target. -/
def remove (target : TargetId) : m (Option κ) :=
  modifyGet fun (b : Binder κ) =>
    (b.active.lookup target, { b with active := b.active.filter (·.1 != target) })

/-- Makes a companion the active one of a target and gives the one that was. -/
def insert (target : TargetId) (companion : κ) : m (Option κ) :=
  modifyGet fun (b : Binder κ) =>
    (b.active.lookup target,
      { b with active := (target, companion) :: b.active.filter (·.1 != target) })

/-- Releases a companion and makes it let go, even if the release fails. -/
def release (craft : Craft m κ) (companion : κ) : m (Except BindingError Unit) := do
  let result ← craft.unbind companion
  craft.clear companion
  return result

/-- Releases a companion and tells of a fault. -/
def releaseOrTell (craft : Craft m κ) (companion : κ) (complaint : BindingError → Notice) :
    m Unit := do
  match ← release craft companion with
  | .ok () => pure ()
  | .error e => craft.tell (complaint e)

/-- Resolves a type and tells the steps. -/
def resolve (craft : Craft m κ) (info : TypeInfo) :
    m (Except BindingError (Option CompanionEntry)) := do
  let resolution ← modifyGet fun (b : Binder κ) =>
    let resolution := b.resolver.resolve info
    (resolution, { b with resolver := resolution.resolver })
  resolution.told.forM fun step => craft.tell (.resolving step)
  return resolution.result

/-- The companion of a type and the handle to its part of a target. -/
def prepare (craft : Craft m κ) (info : TypeInfo) (target : TargetId) :
    m (Except BindingError (CompanionEntry × Handle)) := do
  match ← resolve craft info with
  | .error e => return .error e
  | .ok none => return .error (.noBinding info.name)
  | .ok (some entry) =>
    return (info.upcast ⟨target, [], info.declared⟩ entry.target).map fun handle => (entry, handle)

/-- Releases the active companion of a target before another one is made. -/
def releaseActive (craft : Craft m κ) (info : TypeInfo) (target : TargetId) : m Unit := do
  match ← remove target with
  | none => pure ()
  | some previous =>
    craft.tell (.alreadyBound info.name (← craft.label previous))
    releaseOrTell craft previous (.previousFailed info.name)

/-- Makes a companion the active one of a target and releases one that became active meanwhile. -/
def install (craft : Craft m κ) (info : TypeInfo) (target : TargetId) (companion : κ) :
    m Unit := do
  match ← insert target companion with
  | none => pure ()
  | some raced =>
    craft.tell (.boundConcurrently info.name)
    releaseOrTell craft raced (.concurrentFailed info.name)

/-- Binds a target of a type to the companion that `construct` makes for it. -/
def bind (craft : Craft m κ)
    (construct : CompanionEntry → Handle → m (Except BindingError κ)) (info : TypeInfo)
    (target : TargetId) : m (Except BindingError Unit) := do
  match ← prepare craft info target with
  | .error e => return .error e
  | .ok (entry, handle) =>
    releaseActive craft info target
    match ← construct entry handle with
    | .error e => return .error e
    | .ok companion =>
      install craft info target companion
      craft.tell (.bound info.name entry.name)
      return .ok ()

/-- Releases the active companion of a target of a type of a name; nothing is done if there is
none. -/
def unbind (craft : Craft m κ) (name : String) (target : TargetId) :
    m (Except BindingError Unit) := do
  match ← remove target with
  | some companion => release craft companion
  | none =>
    craft.tell (.notBound name)
    return .ok ()

end Binder
end Theming
