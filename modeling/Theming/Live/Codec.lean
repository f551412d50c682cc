/-
# Views in documents

| view | written as |
| --- | --- |
| plain, optional | the value, or null |
| reactive | a record of the version, whether there is a value, and the value |
| journal | a list of texts |
| part | a record of its fields |
-/

import Theming.Live.World
import Theming.Target.Codec

namespace Theming
namespace Live

/-- The value and the version of a slot as members of a record. -/
def slotMembers (value : Option Value) (version : Nat) : List (String × Data) :=
  [("version", .integer version), ("has", .bool value.isSome), ("value", Value.optionToData value)]

mutual

/-- A view as a document value. -/
def View.toData : View → Data
  | .plain value => value.toData
  | .optional value => Value.optionToData value
  | .reactive value version => .record (slotMembers value version)
  | .journal lines => .list (lines.map .text)
  | .part fields => .record (View.allToData fields)

/-- Views of fields as members of a record. -/
def View.allToData : List (String × View) → List (String × Data)
  | [] => []
  | (name, v) :: rest => (name, v.toData) :: View.allToData rest

end

end Live
end Theming
