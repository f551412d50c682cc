/-
# Token trees

Rust source text before it is understood: words, lifetimes, literals, punctuation characters and
groups between delimiters. A punctuation character is *joint* when another one follows it at once,
so `>` in `>>` is joint and `>` in `> >` is not.
-/

namespace Theming
namespace Syntax

/-- What surrounds a group. -/
inductive Delimiter where
  | paren
  | bracket
  | brace
deriving DecidableEq, Repr

/-- The delimiter that a character opens. -/
def Delimiter.opening? : Char → Option Delimiter
  | '(' => some .paren
  | '[' => some .bracket
  | '\x7b' => some .brace
  | _ => none

/-- The delimiter that a character closes. -/
def Delimiter.closing? : Char → Option Delimiter
  | ')' => some .paren
  | ']' => some .bracket
  | '\x7d' => some .brace
  | _ => none

/-- A token, or a group of them. -/
inductive Tree where
  /-- An identifier or a keyword; raw identifiers keep their `r#`. -/
  | word (s : String)
  /-- A lifetime with its quote. -/
  | lifetime (s : String)
  /-- A literal as written, with its suffix. -/
  | literal (s : String)
  | punct (c : Char) (joint : Bool)
  | group (d : Delimiter) (content : List Tree)
deriving Inhabited, Repr

mutual

/-- How many tokens and groups a tree holds. -/
def Tree.size : Tree → Nat
  | .group _ content => sizeAll content + 1
  | _ => 1

/-- How many tokens and groups a list of trees holds. -/
def sizeAll : List Tree → Nat
  | [] => 0
  | t :: ts => t.size + sizeAll ts

end

end Syntax
end Theming
