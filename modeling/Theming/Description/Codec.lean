/-
# Descriptions in documents

| record | needed | with a default |
| --- | --- | --- |
| type | `name` | `package` (empty), `fields`, `nested` (empty lists) |
| field | `name`, `type` | `annotations` (empty list) |
| annotation | exactly one of `bind_color`, `bind_drawable`, `other` | |

A repeated member is refused, an unknown one ignored. Where `positional` holds, a type or a field
may also be a list of its members in the order of its declaration, the last ones missing if they
have defaults.
-/

import Theming.Data.Value
import Theming.Description

namespace Theming

/-- An annotation as a document value. -/
def Annotation.toData : Annotation → Data
  | .bindColor key => .record [("bind_color", .ofWord key)]
  | .bindDrawable key => .record [("bind_drawable", .ofWord key)]
  | .other text => .record [("other", .text text)]

/-- Reads an annotation from a document value. -/
def Annotation.ofData? : Data → Option Annotation
  | .record [("bind_color", d)] => d.asWord?.map .bindColor
  | .record [("bind_drawable", d)] => d.asWord?.map .bindDrawable
  | .record [("other", .text s)] => some (.other s)
  | _ => none

/-- Sets a member that must not have been set before. -/
def Data.once {α : Type} (slot value : Option α) : Option (Option α) :=
  match slot, value with
  | none, some v => some (some v)
  | _, _ => none

namespace FieldDescription

/-- A field as a document value. -/
def toData (field : FieldDescription) : Data :=
  .record [("name", .text field.name), ("type", .text field.type),
    ("annotations", .list (field.annotations.map Annotation.toData))]

/-- The members of a field that have been read. -/
structure Draft where
  name : Option String := none
  type : Option String := none
  annotations : Option (List Annotation) := none

/-- The members of a field in order. -/
def memberNames : List String := ["name", "type", "annotations"]

/-- Reads one member of a field. -/
def Draft.add? (draft : Draft) (name : String) (d : Data) : Option Draft :=
  match name with
  | "name" => (Data.once draft.name d.asText?).map fun v => { draft with name := v }
  | "type" => (Data.once draft.type d.asText?).map fun v => { draft with type := v }
  | "annotations" =>
    (Data.once draft.annotations (d.asList?.bind fun ds => ds.mapM Annotation.ofData?)).map
      fun v => { draft with annotations := v }
  | _ => some draft

/-- The field of a finished draft. -/
def Draft.finish? (draft : Draft) : Option FieldDescription := do
  let name ← draft.name
  let type ← draft.type
  some { name, type, annotations := draft.annotations.getD [] }

/-- Reads members of a field in order. -/
def Draft.addAll? (draft : Draft) (members : List (String × Data)) : Option Draft :=
  members.foldlM (fun (draft : Draft) m => draft.add? m.1 m.2) draft

/-- Reads a field from a document value. -/
def ofData? (positional : Bool) : Data → Option FieldDescription
  | .record members => (Draft.addAll? {} members).bind Draft.finish?
  | .list items =>
    if positional && items.length ≤ memberNames.length then
      (Draft.addAll? {} (memberNames.zip items)).bind Draft.finish?
    else none
  | _ => none

end FieldDescription

namespace TypeDescription

mutual

/-- A type as a document value. -/
def toData : TypeDescription → Data
  | ⟨package, name, fields, nested⟩ =>
    .record [("package", .text package), ("name", .text name),
      ("fields", .list (fields.map FieldDescription.toData)), ("nested", .list (allToData nested))]

/-- Every type of a list as a document value. -/
def allToData : List TypeDescription → List Data
  | [] => []
  | type :: rest => type.toData :: allToData rest

end

/-- The members of a type that have been read. -/
structure Draft where
  package : Option String := none
  name : Option String := none
  fields : Option (List FieldDescription) := none
  nested : Option (List TypeDescription) := none

/-- The members of a type in order. -/
def memberNames : List String := ["package", "name", "fields", "nested"]

/-- The type of a finished draft. -/
def Draft.finish? (draft : Draft) : Option TypeDescription :=
  draft.name.map fun name =>
    { package := draft.package.getD "", name, fields := draft.fields.getD [],
      nested := draft.nested.getD [] }

mutual

/-- Reads a type from a document value. -/
def ofData? (positional : Bool) : Data → Option TypeDescription
  | .record members => (addMembers? positional {} members).bind Draft.finish?
  | .list items =>
    if positional then (addItems? positional {} memberNames items).bind Draft.finish? else none
  | _ => none

/-- Reads every type of a list. -/
def allOfData? (positional : Bool) : List Data → Option (List TypeDescription)
  | [] => some []
  | d :: rest => do
    let type ← ofData? positional d
    let types ← allOfData? positional rest
    some (type :: types)

/-- Reads one member of a type. -/
def addMember? (positional : Bool) (draft : Draft) (name : String) : Data → Option Draft
  | .text s => match name with
    | "package" => (Data.once draft.package (some s)).map fun v => { draft with package := v }
    | "name" => (Data.once draft.name (some s)).map fun v => { draft with name := v }
    | "fields" => none
    | "nested" => none
    | _ => some draft
  | .list items => match name with
    | "fields" =>
      (Data.once draft.fields (items.mapM (FieldDescription.ofData? positional))).map
        fun v => { draft with fields := v }
    | "nested" => (Data.once draft.nested (allOfData? positional items)).map
        fun v => { draft with nested := v }
    | "package" => none
    | "name" => none
    | _ => some draft
  | _ => if memberNames.contains name then none else some draft

/-- Reads the members of a record. -/
def addMembers? (positional : Bool) (draft : Draft) : List (String × Data) → Option Draft
  | [] => some draft
  | (name, d) :: rest => (addMember? positional draft name d).bind fun draft =>
    addMembers? positional draft rest

/-- Reads the items of a list as the members of the given names. -/
def addItems? (positional : Bool) (draft : Draft) : List String → List Data → Option Draft
  | _, [] => some draft
  | [], _ :: _ => none
  | name :: names, d :: rest => (addMember? positional draft name d).bind fun draft =>
    addItems? positional draft names rest

end

end TypeDescription
end Theming
