/-
# The companion registry

Companions are known by their path. An entry registered under a path replaces the one before, with
a warning if that one was for another type.
-/

import Theming.Naming
import Theming.Target

namespace Theming

/-- What a companion does to its target. -/
inductive Conduct where
  /-- It keeps bound fields up to date. -/
  | keep (fields : List BoundField)
  /-- It writes down in a journal what happens to it, and never listens. -/
  | record (journal : String)
deriving DecidableEq, Repr

/-- A companion that can be found. -/
structure CompanionEntry where
  path : String
  name : String
  /-- The declared path of the type that it is for. -/
  target : String
  /-- The name that its companions go by. -/
  label : String
  /-- The name that its companions give when they have let go of their target. -/
  subject : String
  conduct : Conduct
deriving DecidableEq, Repr

namespace CompanionEntry

/-- The entry of the companion that keeps the bound fields of a type. -/
def keeper (type : TypeDefinition) (name : String) : CompanionEntry where
  path := Naming.companionPath type.info.name
  name := name
  target := type.info.declared
  label := name
  subject := name
  conduct := .keep type.bound

/-- An entry for diagnostics. -/
def debug (entry : CompanionEntry) : String :=
  "CompanionEntry \x7b path: " ++ Text.quote entry.path ++ ", target: " ++
    Text.quote entry.target ++ " \x7d"

end CompanionEntry

/-- All known companions by path. -/
structure Registry where
  entries : List (String × CompanionEntry) := []

namespace Registry

/-- The companion at a path. -/
def get? (registry : Registry) (path : String) : Option CompanionEntry :=
  registry.entries.lookup path

/-- The registry with an entry in place of the one at its path. -/
def insert (registry : Registry) (entry : CompanionEntry) : Registry :=
  ⟨(entry.path, entry) :: registry.entries.filter (·.1 != entry.path)⟩

/-- The number of companions. -/
def size (registry : Registry) : Nat := registry.entries.length

/-- The warning that an entry is about to replace one for another type. -/
def warning? (registry : Registry) (entry : CompanionEntry) : Option String :=
  (registry.get? entry.path).bind fun previous =>
    if previous.target = entry.target then none
    else some ("Companion " ++ entry.path ++ " re-registered: " ++ entry.target ++ " replaces " ++
      previous.target)

end Registry
end Theming
