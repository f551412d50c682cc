/-
# Chronicles

A chronicle tells how a world in order became another one: turn by turn, with what each turn of the
binder came to, whoever took it: the program or an observer in the middle of a notification. Between
two turns the binder, the companions and the lists of listeners stay as they are (`Calm`).

| turn | what happened |
| --- | --- |
| `registered` | the companion of a type became known |
| `resolved` | the companion of a type was asked for |
| `bound` | a target was bound with a context, or could not be |
| `unbound` | a target was unbound |

Every change of theme, and every command of a program, has a chronicle if what observers do has one
(`Course.ofLives`).
-/

import Theming.Proofs.Rebinding

namespace Theming
namespace Live

variable {setting : Setting} {w w' w'' : World}

/-! ## Turns -/

/-- A call of the binder, and what it came to. -/
inductive Turn where
  | registered (entry : CompanionEntry)
  | resolved (info : TypeInfo) (result : Except BindingError (Option CompanionEntry))
  | bound (target : TargetId) (context : Context) (result : Except BindingError Unit)
  | unbound (target : TargetId) (result : Except BindingError Unit)

/-- A turn leads from one world to another. What a bind comes to does not depend on what observers
may do. -/
inductive Takes (setting : Setting) : World → Turn → World → Prop where
  | register {w : World} {T : TypeDefinition} (name : String) (hT : setting.catalog.has T) :
      Takes setting w (.registered (.keeper T name)) (w.register (.keeper T name))
  | resolve {w : World} {T : TypeDefinition} (hT : setting.catalog.has T) :
      Takes setting w (.resolved T.info (w.resolve T.info).1) (w.resolve T.info).2
  | bind {w w' : World} {t : TargetId} {T : TypeDefinition} {context : Context}
      {r : Except BindingError Unit} (hT : w.typeOf? t = some T)
      (hcontext : setting.contexts context)
      (hrun : ∀ act, Live.bind act t context w = some (r, w')) :
      Takes setting w (.bound t context r) w'
  | unbind (w : World) (t : TargetId) :
      Takes setting w (.unbound t (w.unbind t).1) (w.unbind t).2

theorem World.binder_register (w : World) (entry : CompanionEntry) :
    (w.register entry).binder = w.binder.register entry := by
  rw [register]
  cases w.binder.resolver.registry.warning? entry <;> rfl

theorem World.companions_register (w : World) (entry : CompanionEntry) :
    (w.register entry).companions = w.companions := by
  rw [register]
  cases w.binder.resolver.registry.warning? entry <;> rfl

/-- Registering the companion of a declared type keeps the world in order. -/
theorem Sound.register (hs : Sound setting w) {T : TypeDefinition} (hT : setting.catalog.has T)
    (name : String) : Orders setting w (w.register (.keeper T name)) := by
  have hfinds : (w.binder.register (.keeper T name)).resolver.Finds setting.catalog.Keeps :=
    hs.finds.insert ⟨T, name, hT, rfl⟩
  have hregistered : Orders setting w { w with binder := w.binder.register (.keeper T name) } :=
    ⟨{ hs with finds := hfinds }, fun _ => rfl, fun _ => rfl⟩
  rw [World.register]
  cases w.binder.resolver.registry.warning? (.keeper T name) with
  | none => exact hregistered
  | some message => exact hregistered.tell .warn message

/-- A bind in a world in order is one that `Sound.bind` tells of. -/
theorem Sound.binds (hs : Sound setting w) {t : TargetId} {T : TypeDefinition}
    (hT : w.typeOf? t = some T) {context : Context} (hcontext : setting.contexts context)
    {r : Except BindingError Unit} (hrun : ∀ act, Live.bind act t context w = some (r, w')) :
    Binds setting T.info t context w r w' := by
  obtain ⟨r', w'', hrun', hbinds⟩ := hs.bind hT hcontext
  have hsame := (hrun fun _ _ => pure ()).symm.trans (hrun' fun _ _ => pure ())
  obtain ⟨rfl, rfl⟩ := Prod.mk.inj (Option.some.inj hsame)
  exact hbinds

/-- **A turn keeps the world in order.** -/
theorem Takes.orders {turn : Turn} (hs : Sound setting w) (h : Takes setting w turn w') :
    Orders setting w w' := by
  cases h with
  | register name hT => exact hs.register hT name
  | resolve hT =>
    rw [resolve_eq]
    exact (hs.resolving _).orders
  | bind hT hcontext hrun => exact (hs.binds hT hcontext hrun).orders
  | unbind t => exact (hs.unbind t).orders

/-! ## Between turns -/

/-- A step that leaves the binder, the companions and the listeners alone. -/
structure Calm (w w' : World) : Prop where
  binder : w'.binder = w.binder
  companions : w'.companions = w.companions
  listeners : ∀ b, w'.listeners b = w.listeners b
  types : ∀ t T, w.typeOf? t = some T → w'.typeOf? t = some T
  hosts : ∀ m, (w'.manager m).broadcaster = (w.manager m).broadcaster

theorem Steady.calm (h : Steady w w') : Calm w w' where
  binder := h.binder
  companions := h.companions
  listeners := h.listeners_eq
  types t _ hT := (h.types t).trans hT
  hosts m := (h.manager_skins m).1

theorem Calm.trans (h : Calm w w') (h' : Calm w' w'') : Calm w w'' where
  binder := h'.binder.trans h.binder
  companions := h'.companions.trans h.companions
  listeners b := (h'.listeners b).trans (h.listeners b)
  types t T hT := h'.types t T (h.types t T hT)
  hosts m := (h'.hosts m).trans (h.hosts m)

/-! ## Chronicles -/

/-- The turns by which one world became another, oldest first. -/
inductive Chronicle (setting : Setting) (w : World) : List Turn → World → Prop where
  | start : Chronicle setting w [] w
  | calm {turns : List Turn} {w' w'' : World} (h : Chronicle setting w turns w')
      (hcalm : Calm w' w'') (hs : Sound setting w'') : Chronicle setting w turns w''
  | turn {turns : List Turn} {turn : Turn} {w' w'' : World} (h : Chronicle setting w turns w')
      (hturn : Takes setting w' turn w'') : Chronicle setting w (turns ++ [turn]) w''

namespace Chronicle

variable {turns turns' : List Turn}

theorem append (h : Chronicle setting w turns w') (h' : Chronicle setting w' turns' w'') :
    Chronicle setting w (turns ++ turns') w'' := by
  induction h' with
  | start =>
    rw [List.append_nil]
    exact h
  | calm _ hcalm hs ih => exact ih.calm hcalm hs
  | turn _ hturn ih =>
    rw [← List.append_assoc]
    exact ih.turn hturn

theorem sound (hs : Sound setting w) (h : Chronicle setting w turns w') : Sound setting w' := by
  induction h with
  | start => exact hs
  | calm _ _ hs' _ => exact hs'
  | turn _ hturn ih => exact (hturn.orders ih).sound

theorem hosts (hs : Sound setting w) (h : Chronicle setting w turns w') (m : ManagerId) :
    (w'.manager m).broadcaster = (w.manager m).broadcaster := by
  induction h with
  | start => rfl
  | calm _ hcalm _ ih => exact (hcalm.hosts m).trans ih
  | turn h hturn ih => exact ((hturn.orders (h.sound hs)).alike.hosts m).trans ih

/-- Targets keep their types. -/
theorem types (hs : Sound setting w) (h : Chronicle setting w turns w') {t : TargetId}
    {T : TypeDefinition} (hT : w.typeOf? t = some T) : w'.typeOf? t = some T := by
  induction h with
  | start => exact hT
  | calm _ hcalm _ ih => exact hcalm.types t T ih
  | turn h hturn ih => exact ((hturn.orders (h.sound hs)).alike.types t).trans ih

end Chronicle

/-- One world has become the other in a way that can be told. -/
def Lives (setting : Setting) (w w' : World) : Prop := ∃ turns, Chronicle setting w turns w'

theorem Lives.of_calm (h : Calm w w') (hs : Sound setting w') : Lives setting w w' :=
  ⟨[], .calm .start h hs⟩

theorem Lives.of_turn {turn : Turn} (h : Takes setting w turn w') : Lives setting w w' :=
  ⟨[turn], .turn .start h⟩

/-- **What can be told is a course of worlds in order.** -/
theorem Course.ofLives (setting : Setting) : Course setting (Lives setting) where
  steady hs h := .of_calm h.calm (hs.steady h)
  trans := by
    rintro w w' w'' ⟨turns, h⟩ ⟨turns', h'⟩
    exact ⟨turns ++ turns', h.append h'⟩
  sound := by
    rintro w w' hs ⟨turns, h⟩
    exact h.sound hs

end Live
end Theming
