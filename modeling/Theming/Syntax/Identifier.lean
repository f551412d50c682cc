/-
# Identifiers

An identifier is a word that is no keyword, reserved words included. A text is an identifier if
its tokens are exactly one such word; blanks and comments around it do not matter, so the text and
the word it holds can differ.
-/

import Theming.Syntax.Lexer
import Theming.Syntax.Reader

namespace Theming
namespace Syntax

/-- Words that are no identifiers. -/
def keywords : List String :=
  ["_", "abstract", "as", "async", "await", "become", "box", "break", "const", "continue", "crate",
    "do", "dyn", "else", "enum", "extern", "false", "final", "fn", "for", "if", "impl", "in", "let",
    "loop", "macro", "match", "mod", "move", "mut", "override", "priv", "pub", "ref", "return",
    "Self", "self", "static", "struct", "super", "trait", "true", "try", "type", "typeof", "unsafe",
    "unsized", "use", "virtual", "where", "while", "yield"]

/-- Whether a word is an identifier. -/
def isIdentifier (w : String) : Bool := !keywords.contains w

/-- The identifier that a text holds. -/
def identifier? (s : String) : Option String :=
  match trees? s with
  | some [.word w] => if isIdentifier w then some w else none
  | _ => none

namespace Reader

/-- Whether an identifier comes first. -/
def startsIdentifier : List Tree → Bool
  | .word w :: _ => isIdentifier w
  | _ => false

/-- Takes an identifier. -/
def identifier : Reader String
  | .word w :: ts => if isIdentifier w then some (w, ts) else none
  | _ => none

end Reader

/-- A word without the mark of a raw identifier. -/
def withoutRaw (w : String) : String :=
  match w.toList with
  | 'r' :: '#' :: rest => String.ofList rest
  | _ => w

end Syntax
end Theming
