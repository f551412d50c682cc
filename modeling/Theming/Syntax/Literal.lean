/-
# Values of literals

| literal | value |
| --- | --- |
| string with escapes | its characters; a backslash at the end of a line drops the blanks that start the next ones, `\r\n` is one line feed |
| raw string | what stands between its quotes |
| integer | its digits in base 16, 8, 2 or 10, underscores dropped, whatever its suffix is |

A number with a point, or with an exponent in base ten, is no integer.
-/

import Theming.Syntax.Lexer

namespace Theming
namespace Syntax

/-- The characters behind the blanks and line breaks in front. -/
def dropLineBlanks (cs : List Char) : List Char :=
  cs.dropWhile fun c => c == ' ' || c == '\t' || c == '\n' || c == '\r'

/-- The characters of a string with escapes, up to its closing quote. -/
def cookedValue : Nat → List Char → List Char
  | 0, _ => []
  | fuel + 1, cs =>
    match cs with
    | '"' :: _ => []
    | '\r' :: '\n' :: rest => '\n' :: cookedValue fuel rest
    | '\\' :: '\n' :: rest => cookedValue fuel (dropLineBlanks rest)
    | '\\' :: '\r' :: rest => cookedValue fuel (dropLineBlanks rest)
    | '\\' :: 'n' :: rest => '\n' :: cookedValue fuel rest
    | '\\' :: 'r' :: rest => '\r' :: cookedValue fuel rest
    | '\\' :: 't' :: rest => '\t' :: cookedValue fuel rest
    | '\\' :: '0' :: rest => Char.ofNat 0 :: cookedValue fuel rest
    | '\\' :: 'x' :: a :: b :: rest =>
      Char.ofNat ((Text.digits? 16 0 [a, b]).getD 0) :: cookedValue fuel rest
    | '\\' :: 'u' :: '\x7b' :: rest =>
      match Lexer.codeDigits? 0 0 rest with
      | some (n, behind) => Char.ofNat n :: cookedValue fuel behind
      | none => []
    | '\\' :: c :: rest => c :: cookedValue fuel rest
    | c :: rest => c :: cookedValue fuel rest
    | [] => []

/-- The characters of a raw string behind its `r`. -/
def rawValue (cs : List Char) : List Char :=
  let hashes := cs.takeWhile (· == '#')
  let body := cs.drop (hashes.length + 1)
  (body.reverse.dropWhile (· != '"')).drop 1 |>.reverse

/-- The value of a string literal. -/
def stringValue? (literal : String) : Option String :=
  match literal.toList with
  | '"' :: rest => some (String.ofList (cookedValue (rest.length + 1) rest))
  | 'r' :: rest => some (String.ofList (rawValue rest))
  | _ => none

/-- Whether digits of base ten go on as an exponent, so that they belong to no integer. -/
def isExponent : Bool → List Char → Bool
  | digit, [] => digit
  | digit, c :: rest =>
    if c == '_' then isExponent digit rest
    else if c == '+' || c == '-' then true
    else if c.isDigit then isExponent true rest
    else digit

/-- The value of the digits in a base, up to the suffix. -/
def integerDigits? (base : Nat) : Option Nat → List Char → Option Nat
  | value, [] => value
  | value, c :: rest =>
    if c == '_' then integerDigits? base value rest
    else if c == '.' && base == 10 then none
    else if (c == 'e' || c == 'E') && base == 10 then
      if isExponent false rest then none else value
    else
      let known := if base > 10 then 16 else 10
      match Text.digit? known c with
      | some d => if d < base then integerDigits? base (some (base * value.getD 0 + d)) rest else none
      | none => value

/-- The value of an integer literal. -/
def integerValue? (literal : String) : Option Nat :=
  match literal.toList with
  | '0' :: 'x' :: rest => integerDigits? 16 none rest
  | '0' :: 'o' :: rest => integerDigits? 8 none rest
  | '0' :: 'b' :: rest => integerDigits? 2 none rest
  | c :: rest => if c.isDigit then integerDigits? 10 none (c :: rest) else none
  | [] => none

end Syntax
end Theming
