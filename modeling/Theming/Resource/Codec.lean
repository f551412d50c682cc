/-
# Resources in documents

| value | written as | also read from |
| --- | --- | --- |
| color | its text | |
| drawable | a record with a member `type` and the members of that type | a list: the type, then the members |
| resource kind | its name | a record `{name: null}` |

Members that a drawable does not need are ignored; those that it needs must stand there once.
-/

import Theming.Data.Value
import Theming.Resource

namespace Theming

/-- A color as a document value. -/
def Color.toData (c : Color) : Data := .text c.render

/-- Reads a color from a document value. -/
def Color.ofData? : Data → Option Color
  | .text s => (Color.parse s).toOption
  | _ => none

/-- A drawable as a document value. -/
def Drawable.toData : Drawable → Data
  | .empty => .record [("type", .text "empty")]
  | .solid color => .record [("type", .text "solid"), ("color", color.toData)]
  | .image path => .record [("type", .text "image"), ("path", .text path)]

/-- Reads a drawable from a document value. -/
def Drawable.ofData? : Data → Option Drawable
  | .record members =>
    match Data.member? "type" members with
    | some (.text "empty") => some .empty
    | some (.text "solid") =>
      (Data.member? "color" members).bind fun d => (Color.ofData? d).map .solid
    | some (.text "image") =>
      (Data.member? "path" members).bind fun d => d.asText?.map .image
    | _ => none
  | .list [.text "empty"] => some .empty
  | .list [.text "solid", color] => (Color.ofData? color).map .solid
  | .list [.text "image", .text path] => some (.image path)
  | _ => none

/-- A resource kind as a document value. -/
def ResourceKind.toData (kind : ResourceKind) : Data := .text kind.render

/-- Reads a resource kind from a document value. -/
def ResourceKind.ofData? : Data → Option ResourceKind
  | .text s => ResourceKind.parse? s
  | .record [(name, .null)] => ResourceKind.parse? name
  | _ => none

end Theming
