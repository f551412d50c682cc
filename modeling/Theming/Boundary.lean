/-
# The framework boundary

The search for a companion goes from a type to its ancestors and stops at the first framework
type, which is told by its qualified name.

| boundary | framework types |
| --- | --- |
| `prefixes` | names that start with one of the texts, `std::`, `core::` and `alloc::` by default |
| `suffix` | names that end with a text |
-/

import Theming.Data.Toml

namespace Theming

/-- What names belong to a framework. -/
structure Boundary where
  isFramework : String → Bool

namespace Boundary

/-- The names that start with one of the texts. -/
def prefixes (roots : List String) : Boundary :=
  ⟨fun name => roots.any fun root => root.toList.isPrefixOf name.toList⟩

/-- The names that end with a text. -/
def suffix (ending : String) : Boundary := ⟨fun name => ending.toList.isSuffixOf name.toList⟩

/-- The default prefixes. -/
def defaultRoots : List String := ["std::", "core::", "alloc::"]

/-- The boundary where no other is asked for. -/
def standard : Boundary := prefixes defaultRoots

/-- The prefixes that a configuration in TOML gives: its member `framework_roots`, if there. -/
def rootsOfToml? (text : String) : Option (List String) :=
  match Toml.parse? text with
  | some (.record members) =>
    match Data.membersOf "framework_roots" members with
    | [] => some defaultRoots
    | [.list items] => items.mapM Data.asText?
    | _ => none
  | _ => none

end Boundary
end Theming
