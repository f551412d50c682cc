/-
# Sessions

In a session a program gives its commands, and besides it notifies listeners and asks for companions
itself. There may be any number of broadcasters and managers, and a target may be bound with any
context whose broadcaster exists.

Observers may do in the middle of a change of theme whatever a session may do: bind and unbind
targets, the one at hand included, change the theme once more, register companions. What they do
calls observers again, but less deeply (`Improvises`). Every session has a chronicle
(`Session.lives`), so whatever can be told of turns holds of all that has happened at any depth.
-/

import Theming.Proofs.Runs

namespace Theming
namespace Live

variable {setting : Setting} {short : Prop} {act inner : Act} {w w' : World}

/-! ## What is done in a session -/

/-- What a program or an observer does. -/
inductive Deed where
  | command (c : Command)
  | notify (broadcaster : BroadcasterId) (skin : String)
  /-- Asks for the companion of a type. -/
  | resolve (type : TypeDefinition)
  | record (o : Occurrence)

/-- Does it. -/
def Deed.run (act : Act) : Deed → Step Unit
  | command c => c.run act
  | notify broadcaster skin => do
    let _ ← Live.notify act broadcaster skin
  | resolve type => modify fun w => (w.resolve type.info).2
  | record o => modify fun w => w.record o

/-- A deed of a program: it keeps to the types and contexts of the program. -/
def Deed.Of (setting : Setting) : Deed → Prop
  | command c => c.Of setting
  | resolve type => setting.catalog.has type
  | _ => True

/-- What is done one after the other. -/
structure Session (setting : Setting) where
  deeds : List Deed
  of : ∀ d ∈ deeds, d.Of setting

/-- Does all of it. -/
def Session.run (session : Session setting) (act : Act) : Step Unit :=
  session.deeds.forM (Deed.run act)

/-- What is done can be told, if what observers do can be. -/
theorem deed_lives (hact : Keeping setting short (Lives setting) act) (hs : Sound setting w)
    {d : Deed} (hd : d.Of setting) :
    Gives short (d.run act) w fun _ w' => Lives setting w w' := by
  cases d with
  | command c => exact command_lives hact hs hd
  | notify b skin =>
    exact (notify_keeping (.ofLives setting) hact hs b skin).bind fun _ _ h => Gives.pure h
  | resolve T => exact Gives.modify (.of_turn (.resolve hd))
  | record o => exact Gives.modify ((Course.ofLives setting).steady hs (.record w o))

/-- **A session can be told**, if what observers do can be. -/
theorem Session.lives (hact : Keeping setting short (Lives setting) act) (hs : Sound setting w)
    (session : Session setting) :
    Gives short (session.run act) w fun _ w' => Lives setting w w' := by
  have hcourse := Course.ofLives setting
  refine Gives.forM (fun _ w' => Lives setting w w') ⟨[], .start⟩ fun done d rest hd w' h' => ?_
  have hmem : d ∈ session.deeds := by
    rw [hd]
    exact List.mem_append_right _ List.mem_cons_self
  exact (deed_lives hact (hcourse.sound hs h') (session.of d hmem)).mono fun _ w'' h'' =>
    hcourse.trans h' h''

/-! ## What observers do -/

/-- What observers do comes to a session, with observers that act less deeply. -/
def Improvises (setting : Setting) : Nat → Act → Prop :=
  Deepens fun inner _ a w w' => setting.actions a →
    ∃ session : Session setting, session.run inner w = some ((), w')

/-- **What observers do can be told**, however deep it nests. -/
theorem Improvises.keeping {depth : Nat} (h : Improvises setting depth act) :
    Keeping setting True (Lives setting) act := by
  refine Deepens.elim (fun _ _ _ _ _ => trivial) (fun inner act _ hinner hact => ?_) h
  refine fun a ha v w hs => Gives.granted.mpr fun _ w' hrun => ?_
  obtain ⟨session, hsession⟩ := hact v a w w' hrun ha
  exact Gives.granted.mp (session.lives hinner hs) () w' hsession

/-- The setting of a program with a number of broadcasters, whose observers run the given user
code. -/
def Setting.shared (catalog : Catalog) (broadcasters : Nat) (code : Action → Prop) : Setting where
  catalog := catalog
  contexts context := context.broadcaster < broadcasters
  actions := code

/-- Where there is nothing yet, the world is in order. -/
theorem Sound.shared (catalog : Catalog) (broadcasters : Nat) (code : Action → Prop)
    (boundary : Boundary) (hosts : List BroadcasterId) :
    Sound (.shared catalog broadcasters code) (.opened boundary broadcasters hosts) :=
  .opened boundary hosts fun _ h => h

/-- **Every session with observers that improvise has a chronicle**, from the world in which there
is nothing yet. -/
theorem Session.told {catalog : Catalog} {broadcasters : Nat} {code : Action → Prop}
    (session : Session (.shared catalog broadcasters code)) {depth : Nat}
    (hact : Improvises (.shared catalog broadcasters code) depth act) (boundary : Boundary)
    (hosts : List BroadcasterId)
    (hrun : session.run act (.opened boundary broadcasters hosts) = some ((), w)) :
    ∃ turns, Chronicle (.shared catalog broadcasters code) (.opened boundary broadcasters hosts)
      turns w :=
  Gives.granted.mp (session.lives hact.keeping (.shared catalog broadcasters code boundary hosts))
    () w hrun

/-! ## Actions -/

/-- The actions that are deeds of a program with the given contexts: all but those that concern
listeners of its own. -/
inductive Action.Permitted (contexts : Context → Prop) : Action → Prop where
  | bind {t : TargetId} {context : Context} (h : contexts context) :
      Permitted contexts (.bind t context)
  | unbind {t : TargetId} : Permitted contexts (.unbind t)
  | rebind {t : TargetId} {context : Context} (h : contexts context) :
      Permitted contexts (.rebind t context)
  | activate {m : ManagerId} {skin : String} : Permitted contexts (.activate m skin)
  | set {s : SlotId} {v : Option Value} {limit : Nat} : Permitted contexts (.set s v limit)
  | observe {s : SlotId} {tag : String} {glance : Glance} {actions : List Action}
      (h : ∀ a ∈ actions, Permitted contexts a) :
      Permitted contexts (.observe s tag glance actions)
  | notify {b : BroadcasterId} {skin : String} : Permitted contexts (.notify b skin)
  | count {b : BroadcasterId} : Permitted contexts (.count b)

/-- The setting of a program with a number of broadcasters, whose observers take actions. -/
def Setting.acting (catalog : Catalog) (broadcasters : Nat) : Setting :=
  .shared catalog broadcasters (Action.Permitted fun context => context.broadcaster < broadcasters)

/-- One deed is a session. -/
theorem Session.of_deed {d : Deed} (hd : d.Of setting) (h : d.run inner w = some ((), w')) :
    ∃ session : Session setting, session.run inner w = some ((), w') :=
  ⟨⟨[d], fun _ hmem => List.mem_singleton.mp hmem ▸ hd⟩, Step.bind_eq h⟩

/-- One deed is a session also if it is taken down. -/
theorem Session.of_recorded {d : Deed} (hd : d.Of setting) (h : d.run inner w = some ((), w'))
    (o : Occurrence) :
    ∃ session : Session setting, session.run inner w = some ((), w'.record o) := by
  refine ⟨⟨[d, .record o], fun d' hmem => ?_⟩, Step.bind_eq h⟩
  rcases List.mem_cons.mp hmem with rfl | hmem
  · exact hd
  · exact List.mem_singleton.mp hmem ▸ trivial

/-- What comes of a deed after which something is taken down. -/
theorem session_of_recorded {α : Type} {x : Step α} (d : Deed) (hd : d.Of setting)
    (hx : d.run inner = (do let _ ← x)) (o : α → Occurrence) :
    Gives True (do let a ← x; modify fun w => w.record (o a)) w fun _ w' =>
      ∃ session : Session setting, session.run inner w = some ((), w') := by
  have hrun : Gives True x w fun a w' => x w = some (a, w') := Gives.granted.mpr fun _ _ h => h
  refine hrun.bind fun a w₁ h₁ => Gives.modify ?_
  refine Session.of_recorded hd ?_ (o a)
  rw [hx]
  exact Step.bind_eq h₁

/-- **Actions improvise.** -/
theorem perform_improvises (catalog : Catalog) (broadcasters : Nat) (depth : Nat) :
    Improvises (.acting catalog broadcasters) depth (perform depth) := by
  refine Deepens.of_tower rfl (fun depth v a w w' hrun ha => ?_) depth
  suffices h : Gives True (carryOut (perform depth) v a) w fun _ w' =>
      ∃ session : Session (.acting catalog broadcasters),
        session.run (perform depth) w = some ((), w') from
    Gives.granted.mp h () w' hrun
  cases ha with
  | @bind t context h =>
    have hd : (Deed.command (.bind t context)).Of (.acting catalog broadcasters) := h
    exact session_of_recorded _ hd rfl _
  | unbind => exact Session.of_recorded (d := .command (.unbind _)) trivial rfl _
  | @rebind t context h =>
    have hd : (Deed.command (.bind t context)).Of (.acting catalog broadcasters) := h
    exact session_of_recorded _ hd rfl _
  | activate =>
    exact Gives.granted.mpr fun _ _ h => Session.of_deed (d := .command (.activate _ _)) trivial h
  | @set s value limit =>
    rw [carryOut]
    cases value.or v with
    | none => exact ⟨⟨[], nofun⟩, rfl⟩
    | some value =>
      refine Gives.get_bind ?_
      split_ifs
      · exact Gives.granted.mpr fun _ _ h => Session.of_deed (d := .command (.set s value)) trivial h
      · exact ⟨⟨[], nofun⟩, rfl⟩
  | observe h => exact Session.of_deed (d := .command (.observe _ ⟨_, _, _⟩)) h rfl
  | notify =>
    exact Gives.granted.mpr fun _ _ h => Session.of_deed (d := .notify _ _) trivial h
  | count => exact Session.of_deed (d := .record _) trivial rfl

/-! ## A desk

A lamp is a panel with some more. A lamp shade is another type whose companion has the path of that of
the lamp. -/

namespace Desk

/-- The type of panels. -/
def panel : TypeDefinition where
  info := .root "Panel" "app::Panel"
  fields := [{ name := "tint", layout := .reactive .color, source := some (.color, 1) }]

/-- The type of lamps. -/
def lamp : TypeDefinition where
  info := .derived "Lamp" "app::Lamp" "base" panel.info
  fields := [
    { name := "base", layout := panel.layout },
    { name := "art", layout := .optional .drawable, source := some (.drawable, 2) }]

/-- The type of lamp shades. -/
def shade : TypeDefinition where
  info := .root "Shade" "app::Shade.Lamp"
  fields := [{ name := "tint", layout := .plain .color, source := some (.color, 3) }]

/-- The catalog of what is on a desk. -/
def types : Catalog where
  has A := A = panel ∨ A = lamp ∨ A = shade
  unique := by
    rintro A B (rfl | rfl | rfl) (rfl | rfl | rfl) h <;> first | rfl | exact absurd h (by decide)
  names := by rintro A (rfl | rfl | rfl) <;> decide
  parent := by
    rintro A declared name via up (rfl | rfl | rfl) hinfo <;> cases hinfo
    exact ⟨panel, .inl rfl, rfl, _, List.mem_cons_self, rfl, rfl⟩

end Desk

end Live
end Theming
