/-
# Log events

| level | rank |
| --- | ---: |
| `ERROR` | 1 |
| `WARN` | 2 |
| `INFO` | 3 |
| `DEBUG` | 4 |

A lower rank is more severe.
-/

namespace Theming
namespace Log

/-- How severe an event is. -/
inductive Level where
  | error
  | warn
  | info
  | debug
deriving DecidableEq, Repr

/-- The rank of a level; the most severe has the lowest. -/
def Level.rank : Level → Nat
  | .error => 1
  | .warn => 2
  | .info => 3
  | .debug => 4

/-- The name of a level. -/
def Level.render : Level → String
  | .error => "ERROR"
  | .warn => "WARN"
  | .info => "INFO"
  | .debug => "DEBUG"

/-- Something worth telling, and the part of the program that tells it. -/
structure Event where
  level : Level
  source : String
  message : String
deriving DecidableEq, Repr

/-- An event as a line of text: the level right-aligned to five columns, the source, the
message. -/
def Event.render (e : Event) : String :=
  let name := e.level.render
  "".pushn ' ' (5 - name.length) ++ name ++ " " ++ e.source ++ ": " ++ e.message

end Log
end Theming
