/-
# Visibilities

| text | code |
| --- | --- |
| nothing | nothing |
| `pub` | `pub` |
| `pub(crate)`, `pub(self)`, `pub(super)` | `pub (crate)` and so on |
| `pub(in a::b)` | `pub (in a :: b)` |

Any other parentheses behind `pub` do not belong to the visibility.
-/

import Theming.Syntax.Identifier

namespace Theming
namespace Syntax

open Reader

/-- Segments joined by `::`, words such as `self` included, none with arguments. -/
def moduleSegments : Nat → Reader (List Code)
  | 0 => failure
  | fuel + 1 => do
    let ts ← ahead
    if startsIdentifier ts ||
        (["super", "self", "Self", "crate"].any fun w => startsWord w ts) then
      let w ← anyWord
      if startsPunct "::" (← ahead) then
        let colons ← punct "::"
        return .word w :: colons ++ (← moduleSegments fuel)
      else return [.word w]
    else failure

/-- A path without arguments. -/
def modulePath : Reader (List Code) := do
  let colons ← punct? "::"
  return colons ++ (← moduleSegments ((← ahead).length + 1))

/-- Takes a visibility; nothing at all is one too. -/
def visibility : Reader (List Code) := do
  if startsWord "pub" (← ahead) then
    let word ← keyword "pub"
    match ← ahead with
    | .group .paren [.word w] :: _ =>
      if w == "crate" || w == "self" || w == "super" then return word ++ (← anyGroup)
      else return word
    | .group .paren (.word "in" :: _) :: _ =>
      let inside ← group .paren do
        let within ← keyword "in"
        pure (within ++ (← modulePath))
      return word ++ Code.paren inside
    | _ => return word
  else return []

/-- Reads a text as a visibility. -/
def visibility? (s : String) : Option (List Code) :=
  (trees? s).bind fun ts => visibility.run? ts

end Syntax
end Theming
