/-
# Binding targets of the world

The binder of the world, with the companions that are at work in it. What making a companion calls
may reach the binder again.
-/

import Theming.Live.Companions

namespace Theming
namespace Live

namespace World

/-- The binder is a part of the world. -/
instance (priority := low) binderState {m : Type → Type} [Monad m] :
    MonadStateOf (Binder CompanionId) (StateT World m) where
  get := fun w => pure (w.binder, w)
  set binder := fun w => pure (⟨⟩, { w with binder })
  modifyGet f := fun w => pure ((f w.binder).1, { w with binder := (f w.binder).2 })

/-- How companions are released in the world, and how a binder tells of it. -/
def craft {m : Type → Type} [Monad m] : Binder.Craft (StateT World m) CompanionId where
  unbind id := fun w => pure (w.unbindCompanion id)
  clear id := fun w => pure (⟨⟩, w.clearCompanion id)
  label id := fun w => pure (w.labelOf id, w)
  tell notice := fun w => pure (⟨⟩, w.tell notice.level notice.message)

/-- Resolves a type and tells the steps. -/
def resolve (w : World) (info : TypeInfo) :
    Except BindingError (Option CompanionEntry) × World :=
  Id.run ((Binder.resolve craft info).run w)

/-- Registers a companion. -/
def register (w : World) (entry : CompanionEntry) : World :=
  let w' := { w with binder := w.binder.register entry }
  match w.binder.resolver.registry.warning? entry with
  | some message => w'.tell .warn message
  | none => w'

/-- Releases the active companion of a target; nothing is done if there is none. -/
def unbind (w : World) (target : TargetId) : Except BindingError Unit × World :=
  let name := (w.targets[target]?.map fun t => t.type.info.name).getD ""
  Id.run ((Binder.unbind craft name target).run w)

/-- Whether a target has an active companion. -/
def isBound (w : World) (target : TargetId) : Bool := w.binder.isBound target

end World

/-- Binds a target: applies the current theme to it and keeps it up to date. -/
def bind (act : Act) (target : TargetId) (context : Context) :
    Step (Except BindingError Unit) := do
  match (← get).targets[target]? with
  | some t =>
    Binder.bind World.craft (fun entry handle => construct act entry handle context) t.type.info
      target
  | none => return .ok ()

/-- Binds a target in such a way that its companion may repeat the bind while it is made. -/
def bindRepeatably (act : Act) (target : TargetId) (context : Context) :
    Step (Except BindingError Unit) := do
  modify fun w => { w with repeatable := some (target, context) }
  let result ← bind act target context
  modify fun w => { w with repeatable := none }
  return result

end Live
end Theming
