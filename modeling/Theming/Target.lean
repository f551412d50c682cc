/-
# Targets

What a bound object holds, field by field, and how a handle reaches into it.

| layout | content |
| --- | --- |
| plain | a value |
| optional | a value or none |
| reactive | the number of a slot |
| journal | lines that a companion writes down |
| part | fields of an embedded object, such as a parent |

A field takes a resource in its own form: a color also as a packed word or as text.
-/

import Theming.BindingError
import Theming.Declaration
import Theming.TypeInfo

namespace Theming

/-! ## Values -/

/-- What a field can hold. -/
inductive Value where
  | color (c : Color)
  | drawable (d : Drawable)
  | word (w : UInt32)
  | text (s : String)
  | flag (b : Bool)
deriving DecidableEq, Repr

/-- A value for diagnostics. -/
def Value.debug : Value → String
  | .color c => c.debug
  | .drawable d => d.debug
  | .word w => toString w.toNat
  | .text s => Text.quote s
  | .flag b => if b then "true" else "false"

/-- The kinds of value. -/
inductive ValueForm where
  | color
  | drawable
  | word
  | text
  | flag
deriving DecidableEq, Repr

namespace ValueForm

/-- The value that a field of a form starts with. -/
def default : ValueForm → Value
  | color => .color .transparent
  | drawable => .drawable .empty
  | word => .word 0
  | text => .text ""
  | flag => .flag false

/-- A resource in the form of a field. -/
def convert : ValueForm → Resource → Value
  | word, .color c => .word c.packed
  | text, .color c => .text c.render
  | _, .color c => .color c
  | _, .drawable d => .drawable d

end ValueForm

/-! ## Layouts and contents -/

/-- The number of a reactive slot. -/
abbrev SlotId := Nat

/-- What a field is made for. -/
inductive Layout where
  | plain (form : ValueForm)
  | optional (form : ValueForm)
  | reactive (form : ValueForm)
  | journal
  | part (fields : List (String × Layout))

/-- What a field holds. -/
inductive Content where
  | plain (value : Value)
  | optional (value : Option Value)
  | reactive (slot : SlotId)
  | journal (lines : List String)
  | part (fields : List (String × Content))

namespace Content

/-- The field of a name. -/
def field? (name : String) : Content → Option Content
  | part fields => fields.lookup name
  | _ => none

/-- What lies at a path of field names. -/
def at? : List String → Content → Option Content
  | [], c => some c
  | name :: path, c => (c.field? name).bind (at? path)

/-- The fields with the one of a name changed. -/
def modifyField (name : String) (f : Content → Content) :
    List (String × Content) → List (String × Content)
  | [] => []
  | (n, c) :: rest => if n = name then (n, f c) :: rest else (n, c) :: modifyField name f rest

/-- The content with what lies at a path changed; nothing changes if nothing lies there. -/
def modifyAt (f : Content → Content) : List String → Content → Content
  | [], c => f c
  | name :: path, part fields => part (modifyField name (modifyAt f path) fields)
  | _ :: _, c => c

/-- A journal with one more line. -/
def note (line : String) : Content → Content
  | journal lines => journal (lines ++ [line])
  | c => c

end Content

/-- The field of a layout at a path of field names. -/
def Layout.at? : List String → Layout → Option Layout
  | [], l => some l
  | name :: path, .part fields => (fields.lookup name).bind (Layout.at? path)
  | _ :: _, _ => none

/-! ## Types of targets -/

/-- A field of a type, and the resource it is bound to, if it is. -/
structure FieldDefinition where
  name : String
  layout : Layout
  source : Option (ResourceKind × ResourceId) := none

/-- A type of targets. -/
structure TypeDefinition where
  info : TypeInfo
  fields : List FieldDefinition

/-- A bound field and the form in which it takes resources. -/
structure BoundField extends Binding where
  form : ValueForm
deriving DecidableEq, Repr

/-- The binding of a field that is bound. -/
def FieldDefinition.bound? (field : FieldDefinition) : Option BoundField :=
  match field.source, field.layout with
  | some (kind, key), .plain form => some { name := field.name, shape := .value, kind, key, form }
  | some (kind, key), .optional form =>
    some { name := field.name, shape := .reference, kind, key, form }
  | some (kind, key), .reactive form =>
    some { name := field.name, shape := .reactive, kind, key, form }
  | _, _ => none

namespace TypeDefinition

/-- The bound fields of the type itself, in order. -/
def bound (type : TypeDefinition) : List BoundField := type.fields.filterMap FieldDefinition.bound?

/-- The layout of the type as an embedded part. -/
def layout (type : TypeDefinition) : Layout :=
  .part (type.fields.map fun field => (field.name, field.layout))

end TypeDefinition

/-! ## Handles -/

/-- The number of a target. -/
abbrev TargetId := Nat

/-- Access to a target or to a part of it. -/
structure Handle where
  target : TargetId
  /-- The fields that lead to the part, outermost first. -/
  path : List String
  /-- The declared path of the type of what it leads to. -/
  type : String
deriving DecidableEq, Repr

namespace Handle

/-- The handle, if it is one to a given type. -/
def expect (handle : Handle) (type : String) : Except BindingError Handle :=
  if handle.type = type then .ok handle else .error (.targetMismatch type handle.type)

/-- The handle to the part that a field of an object of a given type holds. -/
def project (handle : Handle) (type via part : String) : Except BindingError Handle :=
  (handle.expect type).map fun h => { h with path := h.path ++ [via], type := part }

/-- A handle for diagnostics. -/
def debug (handle : Handle) : String := "TargetHandle \x7b target: " ++ Text.quote handle.type ++ " \x7d"

/-- A handle whose type is not known beforehand, for diagnostics. -/
def debugErased (handle : Handle) : String :=
  "ErasedTarget \x7b type_name: " ++ Text.quote handle.type ++ " \x7d"

end Handle

/-- Follows the parents of a type from a handle to it up to another type; `origin` is the name to
report. -/
def TypeInfo.climb (origin goal : String) : TypeInfo → Handle → Except BindingError Handle
  | .root declared _, handle =>
    if declared = goal then .ok handle else .error (.brokenAncestry origin)
  | .derived declared _ via parent, handle =>
    if declared = goal then .ok handle
    else (handle.project declared via parent.declared).bind (parent.climb origin goal)

/-- A handle to the part of a target that is of a given type: the type itself or an ancestor. -/
def TypeInfo.upcast (info : TypeInfo) (handle : Handle) (goal : String) :
    Except BindingError Handle :=
  info.climb info.name goal handle

end Theming
