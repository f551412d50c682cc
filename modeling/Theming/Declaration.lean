/-
# Declaring types

The checked model of a described type: its bound fields in order, and the nested types that carry
bindings themselves or further in. The first fault in this order is reported.

| order | fault |
| --- | --- |
| 1 | the name of the type is no identifier |
| 2 | its annotated fields in turn: more than one resource annotation, then a name that is no identifier, then a type that cannot be read |
| 3 | its nested types in turn, in the same way |

Fields without a resource annotation are never looked at, and every nested type belongs to the
package of the outermost one.
-/

import Theming.Description
import Theming.Naming
import Theming.Resource
import Theming.Syntax.TypeExpr

namespace Theming

/-- How a bound field is written and reset. -/
inductive Shape where
  /-- A slot that is allocated when bound, receives each value, and is left alone on release. -/
  | reactive
  /-- An optional value, reset to none. -/
  | reference
  /-- A plain value, reset to its default. -/
  | value
deriving DecidableEq, Repr

/-- The name of a shape. -/
def Shape.render : Shape → String
  | .reactive => "reactive"
  | .reference => "reference"
  | .value => "value"

/-- The shape of a field of a type, by the last segment of its path. -/
def Shape.ofType (ty : Syntax.TypeExpr) : Shape :=
  match ty.form.lastSegment? with
  | some "Reactive" => .reactive
  | some "Option" => .reference
  | _ => .value

/-- Which resource a field receives, and how. -/
structure Binding where
  name : String
  shape : Shape
  kind : ResourceKind
  key : ResourceId
deriving DecidableEq, Repr

/-- A bound field of a declaring type, with its declared type. -/
structure FieldBinding extends Binding where
  type : Syntax.TypeExpr
deriving Repr

/-- Why a description has no model. -/
inductive ModelError where
  | conflictingAnnotations (type field : String)
  | invalidFieldType (type field text : String)
  | invalidIdentifier (text : String)
deriving DecidableEq, Repr

/-- The wording of a model error. -/
def ModelError.message : ModelError → String
  | .conflictingAnnotations type field =>
    "Field " ++ type ++ "." ++ field ++ " carries more than one resource annotation"
  | .invalidFieldType type field text =>
    "Field " ++ type ++ "." ++ field ++ " has an unparseable type `" ++ text ++
      "`: expected a type"
  | .invalidIdentifier text => "Not a valid identifier: " ++ text

/-- The resource that an annotation asks for. -/
def Annotation.resource? : Annotation → Option (ResourceKind × ResourceId)
  | .bindColor key => some (.color, key)
  | .bindDrawable key => some (.drawable, key)
  | .other _ => none

/-- The identifier that a name holds. -/
def checkIdentifier (name : String) : Except ModelError String :=
  match Syntax.identifier? name with
  | some word => .ok word
  | none => .error (.invalidIdentifier name)

/-- The binding of a described field, if it has a resource annotation. -/
def FieldBinding.ofDescription (typeName : String) (field : FieldDescription) :
    Except ModelError (Option FieldBinding) :=
  match field.annotations.filterMap Annotation.resource? with
  | [] => .ok none
  | [(kind, key)] => do
    let _ ← checkIdentifier field.name
    match Syntax.TypeExpr.parse? field.type with
    | some type => .ok (some { name := field.name, shape := Shape.ofType type, kind, key, type })
    | none => .error (.invalidFieldType typeName field.name field.type)
  | _ => .error (.conflictingAnnotations typeName field.name)

/-- The bindings of the described fields, in order. -/
def FieldBinding.allOfDescription (typeName : String) :
    List FieldDescription → Except ModelError (List FieldBinding)
  | [] => .ok []
  | field :: rest => do
    let binding ← FieldBinding.ofDescription typeName field
    let bindings ← FieldBinding.allOfDescription typeName rest
    return binding.toList ++ bindings

/-- A declaring type with its bound fields and the nested types that carry bindings. -/
structure DeclaringType where
  package : String
  /-- The types around it, outermost first. -/
  enclosing : List String
  name : String
  fields : List FieldBinding
  nested : List DeclaringType
deriving Repr

namespace DeclaringType

/-- Whether the type gets a companion of its own. -/
def qualifies (ty : DeclaringType) : Bool := !ty.fields.isEmpty

mutual

/-- Whether the type or a type nested in it gets a companion. -/
def hasBindings : DeclaringType → Bool
  | ⟨_, _, _, fields, nested⟩ => !fields.isEmpty || anyHasBindings nested

/-- Whether one of the types or a type nested in them gets a companion. -/
def anyHasBindings : List DeclaringType → Bool
  | [] => false
  | ty :: rest => ty.hasBindings || anyHasBindings rest

end

mutual

/-- The type and the types nested in it that get a companion, outer ones first. -/
def qualifying : DeclaringType → List DeclaringType
  | ⟨package, enclosing, name, fields, nested⟩ =>
    (if fields.isEmpty then [] else [⟨package, enclosing, name, fields, nested⟩]) ++
      allQualifying nested

/-- The types of a list and the types nested in them that get a companion. -/
def allQualifying : List DeclaringType → List DeclaringType
  | [] => []
  | ty :: rest => ty.qualifying ++ allQualifying rest

end

mutual

/-- The model of a described type inside a package and enclosing types. -/
def buildIn (package : String) (enclosing : List String) :
    TypeDescription → Except ModelError DeclaringType
  | ⟨_, name, fields, nested⟩ => do
    let _ ← checkIdentifier name
    let fields ← FieldBinding.allOfDescription name fields
    let nested ← buildAllIn package (enclosing ++ [name]) nested
    return ⟨package, enclosing, name, fields, nested⟩

/-- The models of described types that carry bindings; each description is checked. -/
def buildAllIn (package : String) (enclosing : List String) :
    List TypeDescription → Except ModelError (List DeclaringType)
  | [] => .ok []
  | desc :: rest => do
    let ty ← buildIn package enclosing desc
    let tys ← buildAllIn package enclosing rest
    return if ty.hasBindings then ty :: tys else tys

end

/-- The model of a described type and of everything nested in it. -/
def build (desc : TypeDescription) : Except ModelError DeclaringType :=
  buildIn desc.package [] desc

/-- The qualified name of the type. -/
def qualifiedName (ty : DeclaringType) : String :=
  Naming.qualifiedName ty.package ty.enclosing ty.name

/-- The name of its companion. -/
def companionName (ty : DeclaringType) : String := Naming.companionName ty.name

/-- The path of its companion. -/
def companionPath (ty : DeclaringType) : String := Naming.companionPath ty.qualifiedName

end DeclaringType
end Theming
