/-
# Companions at work

A companion that keeps bound fields works in the order of the fields.

| when | plain | optional | reactive |
| --- | --- | --- | --- |
| it is made, before the first update | | | the field gets an empty slot |
| the theme is applied | takes the value | takes some value | what its slot is to be set to is put aside |
| all fields are done | | | the slots are set |
| it is released | takes its default | takes none | |

It starts to listen after the first update and stops when it is released. Once it has let go of
its target nothing is done any more. A companion that records writes a line into a journal
instead.
-/

import Theming.Live.Skins
import Theming.Live.Slot

namespace Theming
namespace Live

/-- A value that a slot is to be set to. -/
structure Pending where
  slot : SlotId
  value : Value

namespace World

/-! ## Listening -/

/-- Changes a broadcaster. -/
def modifyBroadcaster (w : World) (id : BroadcasterId) (f : Broadcaster → Broadcaster) : World :=
  { w with broadcasters := w.broadcasters.modify id f }

/-- The registrations of a broadcaster, dead ones included. -/
def listeners (w : World) (id : BroadcasterId) : List Listener :=
  (w.broadcasters[id]?.map Broadcaster.listeners).getD []

/-- The registrations that are alive. -/
def liveListeners (w : World) (id : BroadcasterId) : List Listener :=
  (w.listeners id).filter w.isAlive

/-- Registers a listener. -/
def addListener (w : World) (id : BroadcasterId) (listener : Listener) : World :=
  w.modifyBroadcaster id fun b => { b with listeners := b.listeners ++ [listener] }

/-- Removes every registration of a listener and all dead ones. -/
def removeListener (w : World) (id : BroadcasterId) (listener : Listener) : World :=
  w.modifyBroadcaster id fun b =>
    { b with listeners := b.listeners.filter fun l => l != listener && w.isAlive l }

/-- Whether a listener is registered. -/
def hasListener (w : World) (id : BroadcasterId) (listener : Listener) : Bool :=
  (w.listeners id).contains listener

/-! ## Fields -/

/-- Gives the reactive ones of the fields empty slots. -/
def allocate (w : World) (target : Handle) : List BoundField → World
  | [] => w
  | field :: rest =>
    match field.shape with
    | .reactive =>
      let (slot, w) := w.addSlot
      allocate (w.assign target field.name (.reactive slot)) target rest
    | _ => allocate w target rest

/-- Brings one field up to date, or puts aside what its slot is to be set to. -/
def updateField (w : World) (target : Handle) (manager : ManagerId) (field : BoundField) :
    List Pending × World :=
  let (resource, w) := w.lookup manager field.kind field.key
  let value := field.form.convert resource
  match field.shape with
  | .value => ([], w.assign target field.name (.plain value))
  | .reference => ([], w.assign target field.name (.optional (some value)))
  | .reactive => ((w.slotAt? target field.name).toList.map fun slot => ⟨slot, value⟩, w)

/-- Brings fields up to date in order. -/
def updateFields (w : World) (target : Handle) (manager : ManagerId) :
    List BoundField → List Pending × World
  | [] => ([], w)
  | field :: rest =>
    let (first, w) := w.updateField target manager field
    let (others, w) := updateFields w target manager rest
    (first ++ others, w)

/-- Resets one field. -/
def resetField (target : Handle) (w : World) (field : BoundField) : World :=
  match field.shape with
  | .value => w.assign target field.name (.plain field.form.default)
  | .reference => w.assign target field.name (.optional none)
  | .reactive => w

/-- Resets fields in order. -/
def resetFields (w : World) (target : Handle) (fields : List BoundField) : World :=
  fields.foldl (resetField target) w

/-- Writes a line into the journal of what a handle leads to. -/
def note (w : World) (target : Handle) (journal line : String) : World :=
  w.modifyContent target.target (target.path ++ [journal]) (Content.note line)

/-! ## Companions -/

/-- Adds a companion. -/
def addCompanion (w : World) (companion : Companion) : CompanionId × World :=
  (w.companions.length, { w with companions := w.companions ++ [companion] })

/-- The handle of a companion to its target. -/
def targetOf? (w : World) (id : CompanionId) : Option Handle :=
  w.companions[id]?.bind Companion.target

/-- Makes a companion let go of its target. -/
def detach (w : World) (id : CompanionId) : World :=
  { w with companions := w.companions.modify id fun c => { c with target := none } }

end World

/-- Applies the current theme to the target of a companion. -/
def updateTheme (act : Act) (id : CompanionId) : Step Unit := do
  match (← get).companions[id]? with
  | some ⟨⟨_, _, _, _, _, .keep fields⟩, context, some target⟩ =>
    let (pending, w) := (← get).updateFields target context.manager fields
    set w
    pending.forM fun p => setSlot act p.slot p.value
  | _ => pure ()

/-- Makes a companion that keeps fields: it gets its target up to date and starts to listen. -/
def attach (act : Act) (entry : CompanionEntry) (fields : List BoundField) (target : Handle)
    (context : Context) : Step CompanionId := do
  let (id, w) := (← get).addCompanion ⟨entry, context, some target⟩
  set (w.allocate target fields)
  updateTheme act id
  modify fun w => w.addListener context.broadcaster (.companion id)
  return id

/-- Makes a companion that records, as its mode says. -/
def attachRecorder (act : Act) (entry : CompanionEntry) (journal : String) (target : Handle)
    (context : Context) : Step (Except BindingError CompanionId) := do
  match (← get).modes.lookup entry.target with
  | some (.refuse e) => return .error e
  | mode =>
    if mode = some .rebind then
      let repeatable := (← get).repeatable
      modify fun w => { w.setMode entry.target none with repeatable := none }
      match repeatable with
      | some (again, context) => act none (.rebind again context)
      | none => pure ()
    let (id, w) := ((← get).note target journal "bind").addCompanion ⟨entry, context, some target⟩
    set w
    return .ok id

/-- Makes the companion of an entry for a target of exactly its type. -/
def construct (act : Act) (entry : CompanionEntry) (target : Handle) (context : Context) :
    Step (Except BindingError CompanionId) := do
  match target.expect entry.target with
  | .error e => return .error e
  | .ok target =>
    match entry.conduct with
    | .keep fields => return .ok (← attach act entry fields target context)
    | .record journal => attachRecorder act entry journal target context

namespace World

/-- Stops a companion from listening and resets its target. -/
def unbindCompanion (w : World) (id : CompanionId) : Except BindingError Unit × World :=
  match w.companions[id]? with
  | none => (.ok (), w)
  | some ⟨entry, context, target⟩ =>
    match entry.conduct with
    | .keep fields =>
      let w := w.removeListener context.broadcaster (.companion id)
      match target with
      | some target => (.ok (), w.resetFields target fields)
      | none => (.error (.alreadyCleared entry.subject), w)
    | .record journal =>
      match target with
      | none => (.error (.alreadyCleared entry.subject), w)
      | some target =>
        if w.modes.lookup entry.target = some .failRelease then
          (.error (.alreadyCleared entry.subject), w.note target journal "unbind failed")
        else (.ok (), w.note target journal "unbind")

/-- Makes a companion let go of its target, which one that records writes down first. -/
def clearCompanion (w : World) (id : CompanionId) : World :=
  match w.companions[id]? with
  | some ⟨⟨_, _, _, _, _, .record journal⟩, _, some target⟩ =>
    (w.detach id).note target journal "clear"
  | _ => w.detach id

/-- The name that a companion goes by. -/
def labelOf (w : World) (id : CompanionId) : String :=
  (w.companions[id]?.map fun c => c.entry.label).getD ""

end World
end Live
end Theming
