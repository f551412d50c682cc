/-
# Printed code

Code is printed as words on one line. All words are separated by one space, except that nothing
is printed between `(` or `[` and what they enclose; braces have a space inside, and empty braces
one space between them.
-/

import Theming.Syntax.Tree

namespace Theming
namespace Syntax

/-- A printed word, or a group between delimiters. -/
inductive Code where
  | word (s : String)
  | group (d : Delimiter) (content : List Code)
deriving Inhabited, Repr

namespace Code

mutual

/-- One word or group as text. -/
def renderOne : Code → String
  | .word s => s
  | .group .paren content => "(" ++ render content ++ ")"
  | .group .bracket content => "[" ++ render content ++ "]"
  | .group .brace [] => "\x7b \x7d"
  | .group .brace content => "\x7b " ++ render content ++ " \x7d"

/-- A list of words and groups as text. -/
def render : List Code → String
  | [] => ""
  | [c] => renderOne c
  | c :: rest => renderOne c ++ " " ++ render rest

end

/-- The words of a text that is already spaced out. -/
def words (s : String) : List Code := (s.splitOn " ").map .word

/-- A group in parentheses. -/
def paren (content : List Code) : List Code := [.group .paren content]

/-- A group in brackets. -/
def bracket (content : List Code) : List Code := [.group .bracket content]

/-- A group in braces. -/
def brace (content : List Code) : List Code := [.group .brace content]

mutual

/-- Tokens as they were written: a joint punctuation character sticks to what follows it. `pre` is
the punctuation that waits for the next token. -/
def ofTrees (pre : String) : List Tree → List Code
  | [] => if pre.isEmpty then [] else [.word pre]
  | .punct c true :: rest => ofTrees (pre.push c) rest
  | .punct c false :: rest => .word (pre.push c) :: ofTrees "" rest
  | .word s :: rest => .word (pre ++ s) :: ofTrees "" rest
  | .lifetime s :: rest => .word (pre ++ s) :: ofTrees "" rest
  | .literal s :: rest => .word (pre ++ s) :: ofTrees "" rest
  | .group d content :: rest =>
    (if pre.isEmpty then [] else [.word pre]) ++ .group d (ofTrees "" content) :: ofTrees "" rest

end

end Code
end Syntax
end Theming
