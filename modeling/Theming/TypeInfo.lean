/-
# Bindable types

A type is identified by the path under which it is declared. Its qualified name, which decides
where its companion is looked up, may be another one. A type may hold its parent in one of its
fields, and so on up to a type without a parent.
-/

import Theming.Text.Quoted

namespace Theming

/-- A bindable type and its ancestors. -/
inductive TypeInfo where
  | root (declared name : String)
  /-- A type that holds its parent in the field `via`. -/
  | derived (declared name via : String) (parent : TypeInfo)
deriving DecidableEq, Repr

namespace TypeInfo

/-- The path under which the type is declared: its identity. -/
def declared : TypeInfo → String
  | root declared _ => declared
  | derived declared _ _ _ => declared

/-- The qualified name. -/
def name : TypeInfo → String
  | root _ name => name
  | derived _ name _ _ => name

/-- The parent. -/
def parent? : TypeInfo → Option TypeInfo
  | root _ _ => none
  | derived _ _ _ parent => some parent

/-- The type and its ancestors, nearest first. -/
def chain : TypeInfo → List TypeInfo
  | root declared name => [root declared name]
  | derived declared name via parent => derived declared name via parent :: parent.chain

/-- A type for diagnostics. -/
def debug (info : TypeInfo) : String :=
  "TypeInfo \x7b name: " ++ Text.quote info.name ++ ", rust_name: " ++ Text.quote info.declared ++
    ", parent: " ++ (match info.parent? with
      | some parent => "Some(" ++ Text.quote parent.name ++ ")"
      | none => "None") ++ " \x7d"

end TypeInfo
end Theming
