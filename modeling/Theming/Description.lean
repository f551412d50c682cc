/-
# Descriptions of declaring types

A description is what a front end knows about a type before anything is checked: its name, its
fields with the text of their types, the annotations on each field, and the types nested in it.
-/

namespace Theming

/-- A mark on a field. -/
inductive Annotation where
  /-- The field takes the color of an id. -/
  | bindColor (key : UInt32)
  /-- The field takes the drawable of an id. -/
  | bindDrawable (key : UInt32)
  /-- A mark that means nothing here. -/
  | other (text : String)
deriving DecidableEq, Repr

/-- A described field. -/
structure FieldDescription where
  name : String
  type : String
  annotations : List Annotation := []
deriving DecidableEq, Repr

/-- A described type. The package counts for the outermost type only. -/
structure TypeDescription where
  package : String := ""
  name : String
  fields : List FieldDescription := []
  nested : List TypeDescription := []
deriving Repr

namespace FieldDescription

/-- The field with one more annotation behind the others. -/
def annotated (field : FieldDescription) (mark : Annotation) : FieldDescription :=
  { field with annotations := field.annotations ++ [mark] }

/-- The field built from its name and type by adding its annotations one by one. -/
def rebuild (field : FieldDescription) : FieldDescription :=
  field.annotations.foldl annotated { name := field.name, type := field.type }

end FieldDescription

namespace TypeDescription

/-- The type with one more field behind the others. -/
def withField (type : TypeDescription) (field : FieldDescription) : TypeDescription :=
  { type with fields := type.fields ++ [field] }

/-- The type with one more nested type behind the others. -/
def withNested (type inner : TypeDescription) : TypeDescription :=
  { type with nested := type.nested ++ [inner] }

mutual

/-- The type built from its package and name by adding its fields and nested types one by one,
each built in the same way. -/
def rebuild : TypeDescription → TypeDescription
  | ⟨package, name, fields, nested⟩ =>
    (rebuildAll nested).foldl withNested
      ((fields.map FieldDescription.rebuild).foldl withField { package := package, name := name })

/-- Every type of a list built anew. -/
def rebuildAll : List TypeDescription → List TypeDescription
  | [] => []
  | type :: rest => type.rebuild :: rebuildAll rest

end

end TypeDescription
end Theming
