/-
# The live world

Everything that changes while themes are applied: targets, reactive slots, companions, skins,
listeners, and a trace of what happened. Slots, targets, companions and so on are numbered in the
order in which they came into being.

A listener is only called while somebody holds it. The holders are the binder and those who made
a companion themselves, for companions; the owner who gave it a name, for scripts; and every
notification in progress, for the listeners it set out with.

What user code does when it is called back is a list of actions.
-/

import Theming.Binder
import Theming.Skin

namespace Theming
namespace Live

/-! ## Names for parts of the world -/

/-- The number of a companion. -/
abbrev CompanionId := Nat

/-- The number of a broadcaster. -/
abbrev BroadcasterId := Nat

/-- The number of a skin manager. -/
abbrev ManagerId := Nat

/-- The number of a scripted listener. -/
abbrev ScriptId := Nat

/-- Where a companion looks up resources, and where it hears of changes. -/
structure Context where
  manager : ManagerId
  broadcaster : BroadcasterId
deriving DecidableEq, Repr

/-! ## User code -/

/-- What an observer takes down besides the value. -/
inductive Glance where
  | nothing
  /-- The slot that was set. -/
  | slot
  /-- A whole target. -/
  | target (id : TargetId)
deriving DecidableEq, Repr

/-- What user code can do. -/
inductive Action where
  | bind (target : TargetId) (context : Context)
  | unbind (target : TargetId)
  /-- Binds a target while its companion is being made. -/
  | rebind (target : TargetId) (context : Context)
  | activate (manager : ManagerId) (skin : String)
  /-- Sets a slot whose version is below a limit, to the value observed if none is given. -/
  | set (slot : SlotId) (value : Option Value) (limit : Nat)
  | observe (slot : SlotId) (tag : String) (glance : Glance) (actions : List Action)
  | notify (broadcaster : BroadcasterId) (skin : String)
  | listen (broadcaster : BroadcasterId) (listener : String)
  | ignore (broadcaster : BroadcasterId) (listener : String)
  | drop (listener : String)
  | count (broadcaster : BroadcasterId)

/-- An observer of a slot. -/
structure Observer where
  tag : String
  glance : Glance := .nothing
  actions : List Action := []

/-- A listener that is no companion. -/
structure Script where
  name : String
  actions : List Action := []

/-! ## Trace -/

/-- What can be seen of a target at a moment. -/
inductive View where
  | plain (value : Value)
  | optional (value : Option Value)
  | reactive (value : Option Value) (version : Nat)
  | journal (lines : List String)
  | part (fields : List (String × View))

/-- What an observer took down. -/
inductive Sight where
  | nothing
  | slot (value : Option Value) (version : Nat)
  | target (id : TargetId) (view : View)

/-- Something that happened. -/
inductive Occurrence where
  | told (level : Log.Level) (message : String)
  | observed (tag : String) (value : Value) (sight : Sight)
  | bound (result : Except BindingError Unit)
  | unbound (result : Except BindingError Unit)
  | rebound (result : Except BindingError Unit)
  | applied (listener : String)
  | ignored (listener : String) (was : Bool)
  | counted (listeners : Nat)

/-! ## The parts of the world -/

/-- A shared, observable place for a value. -/
structure Slot where
  value : Option Value := none
  /-- How often it has been set. -/
  version : Nat := 0
  observers : List Observer := []

/-- An object that can be bound. -/
structure Target where
  type : TypeDefinition
  content : Content

/-- A companion that was made for a target. -/
structure Companion where
  entry : CompanionEntry
  context : Context
  /-- Its target, until it lets go of it. -/
  target : Option Handle

/-- Something to be told of a change of theme. -/
inductive Listener where
  | companion (id : CompanionId)
  | script (id : ScriptId)
deriving DecidableEq, Repr

/-- The listeners of a broadcaster in the order of their registration, and every change sent. -/
structure Broadcaster where
  listeners : List Listener := []
  changes : List String := []

/-- A subscriber, who has received the first changes of a broadcaster. -/
structure Receiver where
  broadcaster : BroadcasterId
  next : Nat

/-- The known skins, and the one that answers lookups. -/
structure SkinManager where
  broadcaster : BroadcasterId
  skins : List (String × Skin) := []
  active : Option Skin := none

/-- How companions that record behave. -/
inductive Mode where
  /-- They cannot be made. -/
  | refuse (error : BindingError)
  /-- They bind the target of the bind in progress once more when made. -/
  | rebind
  /-- They report a fault when released. -/
  | failRelease
deriving DecidableEq, Repr

/-- The live world. -/
structure World where
  targets : List Target := []
  slots : List Slot := []
  companions : List Companion := []
  scripts : List Script := []
  broadcasters : List Broadcaster := []
  managers : List SkinManager := []
  binder : Binder CompanionId := {}
  /-- Scripts that are held under a name. -/
  held : List (String × ScriptId) := []
  /-- Companions that are held under a name, outside of the binder. -/
  kept : List (String × CompanionId) := []
  /-- The listeners that notifications in progress set out with. -/
  pinned : List Listener := []
  /-- The modes of recording companions by the declared paths of their types. -/
  modes : List (String × Mode) := []
  /-- The bind in progress that a companion may repeat. -/
  repeatable : Option (TargetId × Context) := none
  trace : List Occurrence := []

/-- A computation on the world that may run out of fuel. -/
abbrev Step := StateT World Option

/-- How the actions of user code are carried out, with the value observed before them, if any. -/
abbrev Act := Option Value → Action → Step Unit

namespace World

/-! ## Trace and names -/

/-- Adds to the trace. -/
def record (w : World) (o : Occurrence) : World := { w with trace := w.trace ++ [o] }

/-- Adds a log event to the trace. -/
def tell (w : World) (level : Log.Level) (message : String) : World :=
  w.record (.told level message)

/-- A list of named things with one more, in place of the one of its name. -/
def named {α : Type} (name : String) (a : α) (items : List (String × α)) : List (String × α) :=
  (name, a) :: items.filter (·.1 != name)

/-- A list of named things without the one of a name. -/
def unnamed {α : Type} (name : String) (items : List (String × α)) : List (String × α) :=
  items.filter (·.1 != name)

/-- The number of the script held under a name. -/
def scriptOf? (w : World) (name : String) : Option ScriptId := w.held.lookup name

/-- Holds a new script under a name. -/
def hold (w : World) (script : Script) : World :=
  { w with scripts := w.scripts ++ [script], held := named script.name w.scripts.length w.held }

/-- Lets go of the script held under a name. -/
def drop (w : World) (name : String) : World := { w with held := unnamed name w.held }

/-- Holds a companion under a name. -/
def keep (w : World) (name : String) (id : CompanionId) : World :=
  { w with kept := named name id w.kept }

/-- Lets go of the companion held under a name. -/
def letGo (w : World) (name : String) : World := { w with kept := unnamed name w.kept }

/-- Changes the mode of the recording companions of a type. -/
def setMode (w : World) (type : String) (mode : Option Mode) : World :=
  { w with modes := match mode with
    | some m => named type m w.modes
    | none => unnamed type w.modes }

/-! ## Targets and slots -/

/-- Adds an empty slot. -/
def addSlot (w : World) : SlotId × World :=
  (w.slots.length, { w with slots := w.slots ++ [{}] })

/-- Stores a value in a slot. -/
def store (w : World) (id : SlotId) (value : Value) : World :=
  { w with slots := w.slots.modify id fun s =>
      { s with value := some value, version := s.version + 1 } }

/-- Adds an observer to a slot. -/
def observe (w : World) (id : SlotId) (observer : Observer) : World :=
  { w with slots := w.slots.modify id fun s => { s with observers := s.observers ++ [observer] } }

/-- The version of a slot. -/
def version (w : World) (id : SlotId) : Nat := (w.slots[id]?.map Slot.version).getD 0

mutual

/-- New content for a field; a reactive one gets a slot of its own. -/
def fresh (w : World) : Layout → Content × World
  | .plain form => (.plain form.default, w)
  | .optional _ => (.optional none, w)
  | .reactive _ =>
    let (id, w) := w.addSlot
    (.reactive id, w)
  | .journal => (.journal [], w)
  | .part fields =>
    let (contents, w) := freshAll w fields
    (.part contents, w)

/-- New content for fields, in order. -/
def freshAll (w : World) : List (String × Layout) → List (String × Content) × World
  | [] => ([], w)
  | (name, layout) :: rest =>
    let (content, w) := fresh w layout
    let (contents, w) := freshAll w rest
    ((name, content) :: contents, w)

end

/-- Adds a new target of a type. -/
def addTarget (w : World) (type : TypeDefinition) : TargetId × World :=
  let (content, w) := w.fresh type.layout
  (w.targets.length, { w with targets := w.targets ++ [⟨type, content⟩] })

/-- A handle to a whole target. -/
def handle? (w : World) (id : TargetId) : Option Handle :=
  w.targets[id]?.map fun t => ⟨id, [], t.type.info.declared⟩

/-- What a field at a path of a target holds. -/
def content? (w : World) (id : TargetId) (path : List String) : Option Content :=
  w.targets[id]?.bind fun t => t.content.at? path

/-- Changes what lies at a path of a target. -/
def modifyContent (w : World) (id : TargetId) (path : List String) (f : Content → Content) :
    World :=
  { w with targets := w.targets.modify id fun t => { t with content := t.content.modifyAt f path } }

/-- Puts something into a field of what a handle leads to. -/
def assign (w : World) (handle : Handle) (field : String) (content : Content) : World :=
  w.modifyContent handle.target (handle.path ++ [field]) fun _ => content

/-- The slot in a field of what a handle leads to. -/
def slotAt? (w : World) (handle : Handle) (field : String) : Option SlotId :=
  match w.content? handle.target (handle.path ++ [field]) with
  | some (.reactive id) => some id
  | _ => none

mutual

/-- What can be seen of a content. -/
def view (w : World) : Content → View
  | .plain value => .plain value
  | .optional value => .optional value
  | .reactive id => .reactive (w.slots[id]?.bind Slot.value) (w.version id)
  | .journal lines => .journal lines
  | .part fields => .part (viewAll w fields)

/-- What can be seen of fields. -/
def viewAll (w : World) : List (String × Content) → List (String × View)
  | [] => []
  | (name, content) :: rest => (name, view w content) :: viewAll w rest

end

/-- What can be seen of a target. -/
def viewTarget (w : World) (id : TargetId) : View :=
  match w.targets[id]? with
  | some t => w.view t.content
  | none => .part []

/-! ## Who is alive -/

/-- Whether somebody holds a listener. -/
def isAlive (w : World) : Listener → Bool
  | .companion id =>
    w.binder.active.any (·.2 == id) || w.kept.any (·.2 == id) ||
      w.pinned.contains (.companion id)
  | .script id => w.held.any (·.2 == id) || w.pinned.contains (.script id)

end World
end Live
end Theming
