/-
# Changes of theme

A notification goes to the listeners that are alive when it starts, in the order of their
registration, whatever they do to the list meanwhile; only then is the change sent to subscribers.

A broadcaster keeps the last 64 changes. A subscriber who missed older ones is told once how many,
and goes on with the oldest one that is kept.
-/

import Theming.Live.Companions

namespace Theming
namespace Live

/-- How many changes a broadcaster keeps for subscribers. -/
def changeLimit : Nat := 64

/-- Tells a listener that the theme has changed. -/
def Listener.apply (act : Act) : Listener → Step Unit
  | .companion id => updateTheme act id
  | .script id => do
    match (← get).scripts[id]? with
    | some s =>
      modify fun w => w.record (.applied s.name)
      s.actions.forM (act none)
    | none => pure ()

namespace World

/-- Drops the dead registrations of a broadcaster. -/
def sweep (w : World) (id : BroadcasterId) : World :=
  w.modifyBroadcaster id fun b => { b with listeners := b.listeners.filter w.isAlive }

/-- Sends a change to subscribers. -/
def send (w : World) (id : BroadcasterId) (skin : String) : World :=
  w.modifyBroadcaster id fun b => { b with changes := b.changes ++ [skin] }

end World

/-- Notifies the listeners of a broadcaster, then its subscribers, and gives the number of
listeners. -/
def notify (act : Act) (id : BroadcasterId) (skin : String) : Step Nat := do
  let live := (← get).liveListeners id
  let pinned := (← get).pinned
  modify fun w => { (w.sweep id) with pinned := live ++ pinned }
  modify fun w => w.tell .debug ("Theme changed to " ++ skin ++ "; notifying " ++
    toString live.length ++ " listeners")
  live.forM (Listener.apply act)
  modify fun w => ({ w with pinned } : World).send id skin
  return live.length

/-- Switches a manager to a skin and notifies the listeners of its broadcaster. -/
def activate (act : Act) (id : ManagerId) (name : String) : Step (Except SkinError Nat) := do
  let manager := (← get).manager id
  match manager.skin? name with
  | none => return .error (.unknownSkin name)
  | some skin =>
    modify fun w => w.modifyManager id fun m => { m with active := some skin }
    modify fun w => w.tell .info ("Activated skin " ++ name)
    return .ok (← notify act manager.broadcaster name)

/-! ## Subscribers -/

/-- What a subscriber gets. -/
inductive Received where
  | change (skin : String)
  | lagged (missed : Nat)
  | nothing
deriving DecidableEq, Repr

namespace World

/-- All changes that a broadcaster has sent. -/
def changes (w : World) (id : BroadcasterId) : List String :=
  (w.broadcasters[id]?.map Broadcaster.changes).getD []

/-- A new subscriber, who gets the changes from now on. -/
def subscribe (w : World) (id : BroadcasterId) : Receiver := ⟨id, (w.changes id).length⟩

/-- What a subscriber gets next, and the subscriber afterwards. -/
def receive (w : World) (r : Receiver) : Received × Receiver :=
  let sent := w.changes r.broadcaster
  let oldest := sent.length - changeLimit
  if r.next < oldest then (.lagged (oldest - r.next), { r with next := oldest })
  else
    match sent[r.next]? with
    | some skin => (.change skin, { r with next := r.next + 1 })
    | none => (.nothing, r)

end World
end Live
end Theming
