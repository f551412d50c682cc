/-
# JSON text

| rule | |
| --- | --- |
| blanks | space, tab, line feed, carriage return; no comments, no byte order mark |
| numbers | no leading zero, no `+`; with a fraction or an exponent, and `-0`, a number is no integer |
| texts | control characters must be escaped; `\u` escapes of a surrogate must come in pairs |
| nesting | any; a list or a record inside 127 others is a value that no decoder accepts |
-/

import Theming.Data.Value
import Theming.Text.Numeral

namespace Theming
namespace Json

/-- A character between the tokens of a JSON text. -/
def isBlank (c : Char) : Bool := c == ' ' || c == '\n' || c == '\t' || c == '\r'

/-- The text behind the blanks in front. -/
def skip (cs : List Char) : List Char := cs.dropWhile isBlank

/-- The text behind a given beginning. -/
def after? (start cs : List Char) : Option (List Char) :=
  if start.isPrefixOf cs then some (cs.drop start.length) else none

/-- A maximal run of decimal digits, and the text behind it. -/
def digitRun (cs : List Char) : List Char × List Char := cs.span Char.isDigit

/-- A fraction or an exponent behind a number: whether there is one, and the text behind it. -/
def fraction? (cs : List Char) : Option (Bool × List Char) :=
  let frac? : Option (Bool × List Char) := match cs with
    | '.' :: rest => match digitRun rest with
      | ([], _) => none
      | (_, rest) => some (true, rest)
    | _ => some (false, cs)
  frac?.bind fun (real, rest) => match rest with
    | c :: rest' =>
      if c == 'e' || c == 'E' then
        let digits := match rest' with
          | s :: r => if s == '+' || s == '-' then r else rest'
          | [] => []
        match digitRun digits with
        | ([], _) => none
        | (_, rest) => some (true, rest)
      else some (real, rest)
    | [] => some (real, [])

/-- A number without its sign. -/
def number? (negative : Bool) (cs : List Char) : Option (Data × List Char) :=
  match digitRun cs with
  | ([], _) => none
  | ('0' :: _ :: _, _) => none
  | (digits, rest) => (fraction? rest).bind fun (real, rest) =>
    (Text.digits? 10 0 digits).map fun n =>
      if real || (negative && n == 0) then (.other, rest)
      else (.integer (if negative then -n else n), rest)

/-- Four hexadecimal digits. -/
def unit? : List Char → Option (Nat × List Char)
  | a :: b :: c :: d :: rest => (Text.digits? 16 0 [a, b, c, d]).map fun n => (n, rest)
  | _ => none

/-- The code units of a text up to its closing quote; a character that stands for itself is one
unit. -/
def units? : Nat → List Char → Option (List Nat × List Char)
  | 0, _ => none
  | _, [] => none
  | fuel + 1, c :: cs =>
    if c == '"' then some ([], cs)
    else if c.toNat < 32 then none
    else if c == '\\' then
      let one (n : Nat) (rest : List Char) := (units? fuel rest).map fun (us, r) => (n :: us, r)
      match cs with
      | 'u' :: rest => (unit? rest).bind fun (n, rest) => one n rest
      | 'b' :: rest => one 8 rest
      | 't' :: rest => one 9 rest
      | 'n' :: rest => one 10 rest
      | 'f' :: rest => one 12 rest
      | 'r' :: rest => one 13 rest
      | '"' :: rest => one 34 rest
      | '\\' :: rest => one 92 rest
      | '/' :: rest => one 47 rest
      | _ => none
    else (units? fuel cs).map fun (us, r) => (c.toNat :: us, r)

/-- A unit that opens a surrogate pair. -/
def isHigh (n : Nat) : Bool := 0xD800 ≤ n && n < 0xDC00

/-- A unit that closes a surrogate pair. -/
def isLow (n : Nat) : Bool := 0xDC00 ≤ n && n < 0xE000

/-- The characters of code units, or nothing where half a surrogate pair stands alone. -/
def joinUnits? : List Nat → Option (List Char)
  | [] => some []
  | [n] => if isHigh n || isLow n then none else some [Char.ofNat n]
  | n :: m :: rest =>
    if isHigh n then
      if isLow m then
        (joinUnits? rest).map (Char.ofNat (0x10000 + (n - 0xD800) * 0x400 + (m - 0xDC00)) :: ·)
      else none
    else if isLow n then none
    else (joinUnits? (m :: rest)).map (Char.ofNat n :: ·)

/-- A text behind its opening quote. -/
def text? (cs : List Char) : Option (Option String × List Char) :=
  (units? (cs.length + 1) cs).map fun (us, rest) => ((joinUnits? us).map String.ofList, rest)

/-- A member name and its colon; no name if it holds half a surrogate pair. -/
def name? (cs : List Char) : Option (Option String × List Char) :=
  match skip cs with
  | '"' :: cs => (text? cs).bind fun (name, rest) => match skip rest with
    | ':' :: rest => some (name, rest)
    | _ => none
  | _ => none

/-- A list or a record, if as many may still be opened and every member has a name. -/
def nested (depth : Nat) (d : Option Data) : Data := if depth ≤ 1 then .other else d.getD .other

/-- One member before others, if it and they have names. -/
def consMember (name : Option String) (d : Data) (members : Option (List (String × Data))) :
    Option (List (String × Data)) := do return (← name, d) :: (← members)

mutual

/-- One value; the second number is one more than how many lists and records may still be opened
for a decoder. -/
def value? : Nat → Nat → List Char → Option (Data × List Char)
  | 0, _, _ => none
  | fuel + 1, depth, cs =>
    match skip cs with
    | '"' :: cs => (text? cs).map fun
      | (some s, rest) => (.text s, rest)
      | (none, rest) => (.other, rest)
    | '[' :: cs => match skip cs with
      | ']' :: rest => some (nested depth (some (.list [])), rest)
      | _ => (items? fuel (depth - 1) cs).map fun (ds, rest) =>
        (nested depth (some (.list ds)), rest)
    | '\x7b' :: cs => match skip cs with
      | '\x7d' :: rest => some (nested depth (some (.record [])), rest)
      | _ => (members? fuel (depth - 1) cs).map fun (ms, rest) =>
        (nested depth (ms.map .record), rest)
    | 'n' :: cs => (after? ['u', 'l', 'l'] cs).map fun rest => (.null, rest)
    | 't' :: cs => (after? ['r', 'u', 'e'] cs).map fun rest => (.bool true, rest)
    | 'f' :: cs => (after? ['a', 'l', 's', 'e'] cs).map fun rest => (.bool false, rest)
    | '-' :: cs => number? true cs
    | cs => number? false cs

/-- The items of a list and its closing bracket. -/
def items? : Nat → Nat → List Char → Option (List Data × List Char)
  | 0, _, _ => none
  | fuel + 1, depth, cs => (value? fuel depth cs).bind fun (d, rest) =>
    match skip rest with
    | ',' :: rest => (items? fuel depth rest).map fun (ds, rest) => (d :: ds, rest)
    | ']' :: rest => some ([d], rest)
    | _ => none

/-- The members of a record and its closing brace. -/
def members? : Nat → Nat → List Char → Option (Option (List (String × Data)) × List Char)
  | 0, _, _ => none
  | fuel + 1, depth, cs => (name? cs).bind fun (name, rest) =>
    (value? fuel depth rest).bind fun (d, rest) =>
      match skip rest with
      | ',' :: rest => (members? fuel depth rest).map fun (ms, rest) =>
        (consMember name d ms, rest)
      | '\x7d' :: rest => some (consMember name d (some []), rest)
      | _ => none

end

/-- How deep lists and records may nest for a decoder, and one. -/
def depthLimit : Nat := 128

/-- Reads a JSON text. -/
def parse? (s : String) : Option Data :=
  let cs := s.toList
  (value? (2 * cs.length + 2) depthLimit cs).bind fun (d, rest) =>
    if (skip rest).isEmpty then some d else none

/-- One character inside a JSON text. -/
def escapeChar (c : Char) : List Char :=
  if c == '"' then ['\\', '"']
  else if c == '\\' then ['\\', '\\']
  else if c == '\n' then ['\\', 'n']
  else if c == '\r' then ['\\', 'r']
  else if c == '\t' then ['\\', 't']
  else if c.toNat == 8 then ['\\', 'b']
  else if c.toNat == 12 then ['\\', 'f']
  else if c.toNat < 32 then
    ['\\', 'u', '0', '0', Nat.digitChar (c.toNat / 16), Nat.digitChar (c.toNat % 16)]
  else [c]

/-- A text as JSON. -/
def renderText (s : String) : String :=
  String.ofList ('"' :: s.toList.flatMap escapeChar ++ ['"'])

mutual

/-- A value as JSON text on one line, without blanks. -/
def render : Data → String
  | .null => "null"
  | .bool b => if b then "true" else "false"
  | .integer n => toString n
  | .text s => renderText s
  | .list items => "[" ++ ",".intercalate (renderItems items) ++ "]"
  | .record members => "\x7b" ++ ",".intercalate (renderMembers members) ++ "\x7d"
  | .other => "null"

/-- The items of a list, each as JSON text. -/
def renderItems : List Data → List String
  | [] => []
  | d :: ds => render d :: renderItems ds

/-- The members of a record, each as JSON text. -/
def renderMembers : List (String × Data) → List String
  | [] => []
  | (name, d) :: ms => (renderText name ++ ":" ++ render d) :: renderMembers ms

end

end Json
end Theming
