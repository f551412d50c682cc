/-
# Types of fields

What the library keeps of a type: its code and what kind of type it is. The last segment of its
path decides the shape of a field; parentheses around a path do not hide it.
-/

import Theming.Syntax.Grammar

namespace Theming
namespace Syntax

/-- A type that has been read. -/
structure TypeExpr where
  code : List Code
  form : TypeForm := .other
deriving Repr, Inhabited

namespace TypeExpr

/-- Reads a type. -/
def reader (g : Grammar) : Reader TypeExpr := do
  let (form, code) ← g (.type true)
  return { code, form }

/-- Reads a text as a type. -/
def parse? (s : String) : Option TypeExpr :=
  (trees? s).bind fun ts => (reader (Grammar.forTrees ts)).run? ts

/-- The text of a type. -/
def render (ty : TypeExpr) : String := Code.render ty.code

end TypeExpr

/-- The last segment of the path that a type is, also inside parentheses. -/
def TypeForm.lastSegment? : TypeForm → Option String
  | .path last _ => some last
  | .qualified last => some last
  | .paren inner => inner.lastSegment?
  | .bound => none
  | .other => none

end Syntax
end Theming
