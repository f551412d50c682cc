/-
# Setting slots

A slot stores the value and counts it before it calls the observers that it had at that moment, in
the order in which they came. An observer takes down the value and what it glances at, and then
acts.
-/

import Theming.Live.World

namespace Theming
namespace Live

/-- The value and the version of a slot for diagnostics. -/
def debugSlot (value : Option Value) (version : Nat) : String :=
  "Reactive \x7b value: " ++ (match value with
    | some v => "Some(" ++ v.debug ++ ")"
    | none => "None") ++ ", version: " ++ toString version ++ " \x7d"

/-- What an observer of a slot sees. -/
def Glance.sight (w : World) (slot : SlotId) : Glance → Sight
  | .nothing => .nothing
  | .slot => .slot (w.slots[slot]?.bind Slot.value) (w.version slot)
  | .target id => .target id (w.viewTarget id)

/-- Calls an observer of a slot. -/
def Observer.call (act : Act) (slot : SlotId) (value : Value) (o : Observer) : Step Unit := do
  modify fun w => w.record (.observed o.tag value (o.glance.sight w slot))
  o.actions.forM (act (some value))

/-- The observers of a slot. -/
def World.observers (w : World) (slot : SlotId) : List Observer :=
  (w.slots[slot]?.map Slot.observers).getD []

/-- Sets a slot and calls its observers. -/
def setSlot (act : Act) (slot : SlotId) (value : Value) : Step Unit := do
  modify fun w => w.store slot value
  ((← get).observers slot).forM (Observer.call act slot value)

end Live
end Theming
