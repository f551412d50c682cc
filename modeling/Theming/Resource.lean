/-
# Resources

What a skin hands out: colors and drawables, each under a 32-bit id.
-/

import Theming.Color
import Theming.Text.Quoted

namespace Theming

/-- The id of a resource inside a skin. -/
abbrev ResourceId := UInt32

/-- The two kinds of resource a field can be bound to. -/
inductive ResourceKind where
  | color
  | drawable
deriving DecidableEq, Repr

/-- The name of a resource kind. -/
def ResourceKind.render : ResourceKind → String
  | .color => "color"
  | .drawable => "drawable"

/-- The resource kind of a name. -/
def ResourceKind.parse? : String → Option ResourceKind
  | "color" => some .color
  | "drawable" => some .drawable
  | _ => none

/-- Something to draw. -/
inductive Drawable where
  /-- Nothing to draw. -/
  | empty
  /-- A solid fill. -/
  | solid (color : Color)
  /-- An image, by its path relative to the skin. -/
  | image (path : String)
deriving DecidableEq, Repr, Inhabited

/-- Whether there is nothing to draw. -/
def Drawable.isEmpty : Drawable → Bool
  | .empty => true
  | _ => false

/-- A drawable for diagnostics. -/
def Drawable.debug : Drawable → String
  | .empty => "Empty"
  | .solid color => "Solid \x7b color: " ++ color.debug ++ " \x7d"
  | .image path => "Image \x7b path: " ++ Text.quote path ++ " \x7d"

/-- A resource of either kind. -/
inductive Resource where
  | color (c : Color)
  | drawable (d : Drawable)
deriving DecidableEq, Repr

end Theming
