/-
# Resolving types to companions

The companion of a type is the one at the path of its qualified name; a type without one takes the
companion of its parent. What is found for a type is kept in a table, absence included.

| order | at a type | result | kept |
| --- | --- | --- | --- |
| 1 | the table has it | as it stands | |
| 2 | a companion is at its path, for another type | an error | no |
| 3 | a companion is at its path, for this type | that companion | yes |
| 4 | it belongs to a framework | none | yes |
| 5 | it has a parent | as for the parent | unless an error |
| 6 | it has none | none | yes |

All steps but the first count as one traversal.
-/

import Theming.Boundary
import Theming.Registry

namespace Theming

/-- Where companions are looked up, and what has been found. -/
structure Resolver where
  registry : Registry := {}
  boundary : Boundary := Boundary.standard
  /-- What has been found for types, by their declared paths. -/
  table : List (String × Option CompanionEntry) := []
  traversals : Nat := 0

/-- What a resolution gives: its result, the resolver afterwards, and what it tells for
debugging. -/
structure Resolution where
  result : Except BindingError (Option CompanionEntry)
  resolver : Resolver
  told : List String := []

namespace Resolver

/-- The resolver with what was found for a type. -/
def keep (r : Resolver) (info : TypeInfo) (found : Option CompanionEntry) : Resolver :=
  { r with table := (info.declared, found) :: r.table.filter (·.1 != info.declared) }

/-- The resolver with one more traversal. -/
def traverse (r : Resolver) : Resolver := { r with traversals := r.traversals + 1 }

/-- What one look at a type gives. -/
inductive Look where
  | settled (resolution : Resolution)
  /-- The search goes on with the parent. -/
  | ascend (resolver : Resolver)

/-- Looks at one type, without its parent. -/
def look (r : Resolver) (info : TypeInfo) : Look :=
  match r.table.lookup info.declared with
  | some found => .settled ⟨.ok found, r, ["HIT: " ++ info.name ++ " cached in binding table"]⟩
  | none =>
    let r := r.traverse
    let path := Naming.companionPath info.name
    match r.registry.get? path with
    | some entry =>
      if entry.target = info.declared then
        .settled ⟨.ok (some entry), r.keep info (some entry),
          ["HIT: resolved " ++ info.name ++ " to " ++ path]⟩
      else .settled ⟨.error (.signatureMismatch info.name path entry.target), r, []⟩
    | none =>
      if r.boundary.isFramework info.name then
        .settled ⟨.ok none, r.keep info none,
          ["MISS: reached framework type " ++ info.name ++ "; abandoning search"]⟩
      else .ascend r

/-- The companion of a type or of its nearest ancestor that has one. -/
def resolve (r : Resolver) : TypeInfo → Resolution
  | .root declared name =>
    let info := TypeInfo.root declared name
    match r.look info with
    | .settled resolution => resolution
    | .ascend r => ⟨.ok none, r.keep info none, []⟩
  | .derived declared name via parent =>
    let info := TypeInfo.derived declared name via parent
    match r.look info with
    | .settled resolution => resolution
    | .ascend r =>
      let up := resolve r parent
      let told := ("Not found: trying parent " ++ parent.name ++ " of " ++ name) :: up.told
      match up.result with
      | .ok found => ⟨.ok found, up.resolver.keep info found, told⟩
      | .error e => ⟨.error e, up.resolver, told⟩

end Resolver
end Theming
