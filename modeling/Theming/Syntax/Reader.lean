/-
# Reading token trees

A reader takes tokens off the front of a list, and fails without saying why. Multi-character
punctuation such as `::` is a run of joint characters; its last character may be joint or not.
-/

import Theming.Syntax.Code

namespace Theming
namespace Syntax

/-- A computation that reads token trees from the front and may fail. -/
abbrev Reader (α : Type) := StateT (List Tree) Option α

namespace Reader

/-- What a reader gives on a list that it has to read to the end. -/
def run? {α : Type} (r : Reader α) (ts : List Tree) : Option α :=
  match StateT.run r ts with
  | some (a, []) => some a
  | _ => none

/-- The tokens that are left. -/
def ahead : Reader (List Tree) := get

/-- Whether nothing is left. -/
def atEnd : Reader Bool := return (← get).isEmpty

/-- The tokens behind a run of punctuation. -/
def dropPunct? : List Char → List Tree → Option (List Tree)
  | [], ts => some ts
  | [c], .punct d _ :: ts => if c == d then some ts else none
  | c :: cs, .punct d true :: ts => if c == d then dropPunct? cs ts else none
  | _, _ => none

/-- Whether a run of punctuation comes first. -/
def startsPunct (s : String) (ts : List Tree) : Bool := (dropPunct? s.toList ts).isSome

/-- Whether a word comes first. -/
def startsWord (s : String) : List Tree → Bool
  | .word w :: _ => w == s
  | _ => false

/-- Whether a lifetime comes first. -/
def startsLifetime : List Tree → Bool
  | .lifetime _ :: _ => true
  | _ => false

/-- Whether a group of a delimiter comes first. -/
def startsGroup (d : Delimiter) : List Tree → Bool
  | .group d' _ :: _ => d == d'
  | _ => false

/-- Whether any word comes first, keywords included. -/
def startsAnyWord : List Tree → Bool
  | .word _ :: _ => true
  | _ => false

/-- Takes a run of punctuation. -/
def punct (s : String) : Reader (List Code) := fun ts =>
  (dropPunct? s.toList ts).map fun rest => ([.word s], rest)

/-- Takes a run of punctuation if it comes first. -/
def punct? (s : String) : Reader (List Code) := fun ts =>
  match dropPunct? s.toList ts with
  | some rest => some ([.word s], rest)
  | none => some ([], ts)

/-- Takes a given word. -/
def keyword (s : String) : Reader (List Code)
  | .word w :: ts => if w == s then some ([.word s], ts) else none
  | _ => none

/-- Takes a given word if it comes first. -/
def keyword? (s : String) : Reader (List Code)
  | .word w :: ts => if w == s then some ([.word s], ts) else some ([], .word w :: ts)
  | ts => some ([], ts)

/-- Takes any word, keywords included. -/
def anyWord : Reader String
  | .word w :: ts => some (w, ts)
  | _ => none

/-- Takes a lifetime. -/
def lifetime : Reader (List Code)
  | .lifetime s :: ts => some ([.word s], ts)
  | _ => none

/-- Takes a lifetime if it comes first. -/
def lifetime? : Reader (List Code)
  | .lifetime s :: ts => some ([.word s], ts)
  | ts => some ([], ts)

/-- Takes a literal. -/
def literal : Reader String
  | .literal s :: ts => some (s, ts)
  | _ => none

/-- Takes a group and reads all of its content. -/
def group {α : Type} (d : Delimiter) (inside : Reader α) : Reader α
  | .group d' content :: ts => if d = d' then (run? inside content).map fun a => (a, ts) else none
  | _ => none

/-- Takes a group of any kind as it was written. -/
def anyGroup : Reader (List Code)
  | .group d content :: ts => some ([.group d (Code.ofTrees "" content)], ts)
  | _ => none

/-- Takes items until the list ends, with separators between them; one may stand behind the
last item. -/
def separatedToEnd (separator : String) (item : Reader (List Code)) : Nat → Reader (List Code)
  | 0 => failure
  | fuel + 1 => do
    if ← atEnd then return []
    let first ← item
    if ← atEnd then return first
    let comma ← punct separator
    return first ++ comma ++ (← separatedToEnd separator item fuel)

/-- Takes items separated by commas until the list ends. -/
def commasToEnd (item : Reader (List Code)) : Reader (List Code) := do
  separatedToEnd "," item ((← ahead).length + 1)

/-- Takes items while a condition on the tokens ahead holds. -/
def whileAhead {α : Type} (goesOn : List Tree → Bool) (item : Reader α) : Nat → Reader (List α)
  | 0 => failure
  | fuel + 1 => do
    if goesOn (← ahead) then
      let first ← item
      return first :: (← whileAhead goesOn item fuel)
    else return []

/-- Takes as many items as a condition on the tokens ahead allows. -/
def many {α : Type} (goesOn : List Tree → Bool) (item : Reader α) : Reader (List α) := do
  whileAhead goesOn item ((← ahead).length + 1)

end Reader
end Syntax
end Theming
