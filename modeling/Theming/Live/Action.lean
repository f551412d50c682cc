/-
# Actions

What the actions of user code do. Since they call the runtime again, which may call user code
again, they are carried out with a bound on how deep these calls may nest; a computation that
would go deeper has no result.
-/

import Theming.Live.Binding
import Theming.Live.Changes

namespace Theming
namespace Live

/-- Carries out one action; the actions of user code that it calls are carried out by `act`. -/
def carryOut (act : Act) (observed : Option Value) : Action → Step Unit
  | .bind target context => do
    let result ← bind act target context
    modify fun w => w.record (.bound result)
  | .unbind target => do
    let (result, w) := (← get).unbind target
    set (w.record (.unbound result))
  | .rebind target context => do
    let result ← bind act target context
    modify fun w => w.record (.rebound result)
  | .activate manager skin => do
    let _ ← activate act manager skin
  | .set slot value limit => do
    match value.or observed with
    | some value => if (← get).version slot < limit then setSlot act slot value
    | none => pure ()
  | .observe slot tag glance actions => modify fun w => w.observe slot ⟨tag, glance, actions⟩
  | .notify broadcaster skin => do
    let _ ← notify act broadcaster skin
  | .listen broadcaster listener => modify fun w =>
    match w.scriptOf? listener with
    | some id => w.addListener broadcaster (.script id)
    | none => w
  | .ignore broadcaster listener => modify fun w =>
    match w.scriptOf? listener with
    | some id => (w.removeListener broadcaster (.script id)).record
        (.ignored listener (w.hasListener broadcaster (.script id)))
    | none => w
  | .drop listener => modify fun w => w.drop listener
  | .count broadcaster => modify fun w =>
    w.record (.counted (w.liveListeners broadcaster).length)

/-- Carries out actions that nest at most to a given depth. -/
def perform : Nat → Act
  | 0 => fun _ _ => fun _ => none
  | depth + 1 => carryOut (perform depth)

end Live
end Theming
