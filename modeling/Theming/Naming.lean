/-
# Names of companions

A qualified name has `::` between module segments and `.` between nesting levels. A companion is
called after the innermost simple name and lives in the package of the outermost type.

| function | of `app::ui::Outer.Inner` |
| --- | --- |
| `packageOf` | `app::ui` |
| `simpleName` | `Inner` |
| `companionPath` | `app::ui::InnerThemeBinding` |
| `companionFileStem` of `Inner` | `inner_theme_binding` |

Two types of one package that share a simple name share a companion path, whatever encloses
them.
-/

import Theming.Text.Casing

namespace Theming
namespace Naming

/-- What follows a simple name in the name of its companion. -/
def companionSuffix : String := "ThemeBinding"

/-- What stands between two module segments. -/
def moduleSeparator : String := "::"

/-- What stands between two nesting levels. -/
def nestingSeparator : Char := '.'

/-- The text before and after the last occurrence of a separator. -/
def splitLast? (sep : List Char) : List Char → Option (List Char × List Char)
  | [] => none
  | c :: cs =>
    match splitLast? sep cs with
    | some (before, after) => some (c :: before, after)
    | none => if sep.isPrefixOf (c :: cs) then some ([], (c :: cs).drop sep.length) else none

/-- A simple name below its enclosing types, outermost first. -/
def nestedName (enclosing : List String) (simple : String) : String :=
  let outer := ".".intercalate enclosing
  if outer.isEmpty then simple else outer ++ "." ++ simple

/-- A name inside a package; nothing is put in front when the package is empty. -/
def inPackage (package name : String) : String :=
  if package.isEmpty then name else package ++ moduleSeparator ++ name

/-- The qualified name of a type from its package, enclosing types and simple name. -/
def qualifiedName (package : String) (enclosing : List String) (simple : String) : String :=
  inPackage package (nestedName enclosing simple)

/-- The package of a qualified name, empty for a bare type name. -/
def packageOf (qualified : String) : String :=
  match splitLast? moduleSeparator.toList qualified.toList with
  | some (package, _) => String.ofList package
  | none => ""

/-- The innermost simple name of a qualified name. -/
def simpleName (qualified : String) : String :=
  let nested := match splitLast? moduleSeparator.toList qualified.toList with
    | some (_, nested) => nested
    | none => qualified.toList
  match splitLast? [nestingSeparator] nested with
  | some (_, simple) => String.ofList simple
  | none => String.ofList nested

/-- The name of the companion of a simple name. -/
def companionName (simple : String) : String := simple ++ companionSuffix

/-- The path of the companion of a qualified name. -/
def companionPath (qualified : String) : String :=
  inPackage (packageOf qualified) (companionName (simpleName qualified))

/-- Whether an underscore goes before an upper-case character: after a lower-case character or an
ASCII digit, and at the last capital of a run that a lower-case character follows. -/
def startsWord (prev next : Option Char) : Bool :=
  match prev with
  | none => false
  | some p =>
    if Text.isLower p || p.isDigit then true
    else Text.isUpper p && next.any Text.isLower

/-- Snake case of the characters that follow `prev`. -/
def snakeAfter (prev : Option Char) : List Char → List Char
  | [] => []
  | c :: rest =>
    if Text.isUpper c then
      (if startsWord prev rest.head? then ['_'] else []) ++ Text.toLower c ++ snakeAfter (some c) rest
    else c :: snakeAfter (some c) rest

/-- Snake case: capitals become lower case, and an underscore marks where a word starts. -/
def snakeCase (name : String) : String := String.ofList (snakeAfter none name.toList)

/-- The stem of the file that holds the companion of a simple name. -/
def companionFileStem (simple : String) : String := snakeCase (companionName simple)

end Naming
end Theming
