/-
# Declaring types in documents

| record | members |
| --- | --- |
| bound field | `name`, `ty`, `shape`, `kind`, `key` |
| declaring type | `package`, `enclosing`, `name`, `fields`, `nested` |
-/

import Theming.Data.Value
import Theming.Declaration

namespace Theming

/-- A bound field as a document value; its type is written as code. -/
def FieldBinding.toData (field : FieldBinding) : Data :=
  .record [("name", .text field.name), ("ty", .text field.type.render),
    ("shape", .text field.shape.render), ("kind", .text field.kind.render),
    ("key", .ofWord field.key)]

namespace DeclaringType

mutual

/-- A declaring type as a document value. -/
def toData : DeclaringType → Data
  | ⟨package, enclosing, name, fields, nested⟩ =>
    .record [("package", .text package), ("enclosing", .list (enclosing.map .text)),
      ("name", .text name), ("fields", .list (fields.map FieldBinding.toData)),
      ("nested", .list (allToData nested))]

/-- Every declaring type of a list as a document value. -/
def allToData : List DeclaringType → List Data
  | [] => []
  | ty :: rest => ty.toData :: allToData rest

end

end DeclaringType
end Theming
