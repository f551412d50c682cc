/-
# Scalars of a TOML text

Keys, strings, numbers and dates. Every reader takes the text from its first character on and
gives back the text behind what it read.

| form | rule |
| --- | --- |
| bare key | letters, digits, `_` and `-` of ASCII |
| basic string | escapes `\b \t \n \f \r \" \\ \uXXXX \UXXXXXXXX`; no control character but tab |
| literal string | no escapes, no control character but tab |
| strings over lines | a line break right behind the opening quotes is dropped, `\r\n` is read as `\n`, up to two quotes may stand before the closing three |
| integer | decimal with a sign and without leading zeros, or `0x`, `0o`, `0b` without a sign; `_` between two digits; 64 bits with a sign |
| float, date | checked, and kept as `Data.other` |
-/

import Theming.Data.Value
import Theming.Text.Numeral

namespace Theming
namespace Toml

/-- A blank inside a line. -/
def isBlank (c : Char) : Bool := c == ' ' || c == '\t'

/-- The text behind the blanks in front. -/
def skip (cs : List Char) : List Char := cs.dropWhile isBlank

/-- A character that may stand in a comment or a string. -/
def isPlain (c : Char) : Bool := c == '\t' || (0x20 ≤ c.toNat && c.toNat != 0x7F)

/-- A character of a bare key. -/
def isBareKey (c : Char) : Bool := c.isAlphanum || c == '_' || c == '-'

/-- The text behind a line break. -/
def newline? : List Char → Option (List Char)
  | '\n' :: rest => some rest
  | '\r' :: '\n' :: rest => some rest
  | _ => none

/-- The text behind a comment, if there is one. -/
def skipComment : List Char → List Char
  | '#' :: rest => rest.dropWhile isPlain
  | cs => cs

/-- The text behind blanks, a comment and the end of the line. -/
def lineEnd? (cs : List Char) : Option (List Char) :=
  match skipComment (skip cs) with
  | [] => some []
  | cs => newline? cs

/-- The text behind blanks, comments and line breaks. -/
def skipLines : Nat → List Char → List Char
  | 0, cs => cs
  | fuel + 1, cs =>
    match skipComment (skip cs) with
    | [] => []
    | rest => match newline? rest with
      | some rest => skipLines fuel rest
      | none => rest

/-- The text behind all blanks and line breaks. -/
def skipBlankLines : Nat → List Char → List Char
  | 0, cs => cs
  | fuel + 1, cs =>
    match newline? (skip cs) with
    | some rest => skipBlankLines fuel rest
    | none => skip cs

/-- A character given by `k` hexadecimal digits. -/
def codePoint? (k : Nat) (cs : List Char) : Option (Char × List Char) :=
  let digits := cs.take k
  if digits.length < k then none
  else (Text.digits? 16 0 digits).bind fun n =>
    if n.isValidChar then some (Char.ofNat n, cs.drop k) else none

/-- An escape behind its backslash. -/
def escape? : List Char → Option (Char × List Char)
  | 'b' :: rest => some (Char.ofNat 8, rest)
  | 't' :: rest => some ('\t', rest)
  | 'n' :: rest => some ('\n', rest)
  | 'f' :: rest => some (Char.ofNat 12, rest)
  | 'r' :: rest => some ('\r', rest)
  | '"' :: rest => some ('"', rest)
  | '\\' :: rest => some ('\\', rest)
  | 'u' :: rest => codePoint? 4 rest
  | 'U' :: rest => codePoint? 8 rest
  | _ => none

/-- A basic string behind its opening quote. -/
def basic? : Nat → List Char → Option (List Char × List Char)
  | 0, _ => none
  | fuel + 1, cs => match cs with
    | '"' :: rest => some ([], rest)
    | '\\' :: rest => (escape? rest).bind fun (c, rest) =>
      (basic? fuel rest).map fun (s, rest) => (c :: s, rest)
    | c :: rest =>
      if isPlain c then (basic? fuel rest).map fun (s, rest) => (c :: s, rest) else none
    | [] => none

/-- A literal string behind its opening quote. -/
def literal? (cs : List Char) : Option (List Char × List Char) :=
  let (s, rest) := cs.span fun c => isPlain c && c != '\''
  match rest with
  | '\'' :: rest => some (s, rest)
  | _ => none

/-- A run of quotes inside a string over lines: fewer than three belong to the text, else up to two
do and the next three close it. -/
def closing (quote : Char) (cs : List Char) : List Char × Option (List Char) :=
  let run := cs.takeWhile (· == quote)
  if run.length < 3 then (run, none)
  else
    let kept := min (run.length - 3) 2
    (run.take kept, some (cs.drop (kept + 3)))

/-- A basic string over lines behind its opening quotes. -/
def basicLines? : Nat → List Char → Option (List Char × List Char)
  | 0, _ => none
  | fuel + 1, cs =>
    let go (c : List Char) (rest : List Char) :=
      (basicLines? fuel rest).map fun (s, rest) => (c ++ s, rest)
    match cs with
    | '"' :: _ => match closing '"' cs with
      | (quotes, some rest) => some (quotes, rest)
      | (quotes, none) => go quotes (cs.drop quotes.length)
    | '\\' :: rest => match newline? (skip rest) with
      | some behind => go [] (skipBlankLines behind.length behind)
      | none => (escape? rest).bind fun (c, rest) => go [c] rest
    | c :: rest =>
      if isPlain c then go [c] rest
      else (newline? cs).bind fun rest => go ['\n'] rest
    | [] => none

/-- A literal string over lines behind its opening quotes. -/
def literalLines? : Nat → List Char → Option (List Char × List Char)
  | 0, _ => none
  | fuel + 1, cs =>
    let go (c : List Char) (rest : List Char) :=
      (literalLines? fuel rest).map fun (s, rest) => (c ++ s, rest)
    match cs with
    | '\'' :: _ => match closing '\'' cs with
      | (quotes, some rest) => some (quotes, rest)
      | (quotes, none) => go quotes (cs.drop quotes.length)
    | c :: rest =>
      if isPlain c then go [c] rest
      else (newline? cs).bind fun rest => go ['\n'] rest
    | [] => none

/-- A line break right behind the opening quotes is no part of a string over lines. -/
def dropFirstBreak (cs : List Char) : List Char := (newline? cs).getD cs

/-- A string of any of the four forms. -/
def string? (cs : List Char) : Option (String × List Char) :=
  let read := match cs with
    | '"' :: '"' :: '"' :: rest => basicLines? (rest.length + 1) (dropFirstBreak rest)
    | '"' :: rest => basic? (rest.length + 1) rest
    | '\'' :: '\'' :: '\'' :: rest => literalLines? (rest.length + 1) (dropFirstBreak rest)
    | '\'' :: rest => literal? rest
    | _ => none
  read.map fun (s, rest) => (String.ofList s, rest)

/-- One segment of a key: bare, or a string on one line. -/
def segment? (cs : List Char) : Option (String × List Char) :=
  match cs with
  | '"' :: rest => (basic? (rest.length + 1) rest).map fun (s, rest) => (String.ofList s, rest)
  | '\'' :: rest => (literal? rest).map fun (s, rest) => (String.ofList s, rest)
  | _ => match cs.span isBareKey with
    | ([], _) => none
    | (s, rest) => some (String.ofList s, rest)

/-- The segments of a dotted key, blanks around each. -/
def segments? : Nat → List Char → Option (List String × List Char)
  | 0, _ => none
  | fuel + 1, cs => (segment? (skip cs)).bind fun (s, rest) =>
    match skip rest with
    | '.' :: rest => (segments? fuel rest).map fun (ss, rest) => (s :: ss, rest)
    | rest => some ([s], rest)

/-- How many segments a key may have, and one. -/
def keyLimit : Nat := 80

/-- A dotted key. -/
def key? (cs : List Char) : Option (List String × List Char) :=
  (segments? (cs.length + 1) cs).filter fun (ss, _) => ss.length < keyLimit

/-- Digits with single underscores between them: the digits, and the text behind. -/
def digitRun (isDigit : Char → Bool) : List Char → Option (List Char × List Char)
  | [] => none
  | [c] => if isDigit c then some ([c], []) else none
  | c :: d :: rest =>
    if !isDigit c then none
    else if d == '_' then (digitRun isDigit rest).map fun (ds, r) => (c :: ds, r)
    else if isDigit d then (digitRun isDigit (d :: rest)).map fun (ds, r) => (c :: ds, r)
    else some ([c], d :: rest)

/-- An integer of 64 bits with a sign. -/
def fits (n : Int) : Bool := Int64.minValue.toInt ≤ n && n ≤ Int64.maxValue.toInt

/-- The digits of an integer in a radix other than ten. -/
def radixInteger? (radix : Nat) (cs : List Char) : Option (Data × List Char) :=
  (digitRun (fun c => (Text.digit? radix c).isSome) cs).bind fun (ds, rest) =>
    (Text.digits? radix 0 ds).bind fun n =>
      if fits n then some (.integer n, rest) else none

/-- Whether `digits · 10 ^ exponent` is beyond the doubles: at least half a unit above the largest. -/
def overflows (digits : Nat) (exponent : Int) : Bool :=
  let size : Int := (Nat.toDigits 10 digits).length + exponent
  if digits == 0 || size < 309 then false
  else if size > 309 then true
  else
    let bound := Nat.pow 2 1024 - Nat.pow 2 970
    if 0 ≤ exponent then bound ≤ digits * Nat.pow 10 exponent.toNat
    else bound * Nat.pow 10 (-exponent).toNat ≤ digits

/-- The exponent of a float: its value, and the text behind. -/
def exponent? : List Char → Option (Int × List Char)
  | c :: rest =>
    if c == 'e' || c == 'E' then
      let (negative, rest) := match rest with
        | '-' :: r => (true, r)
        | '+' :: r => (false, r)
        | r => (false, r)
      (digitRun Char.isDigit rest).bind fun (ds, rest) =>
        (Text.digits? 10 0 ds).map fun n => (if negative then -n else n, rest)
    else none
  | [] => none

/-- A decimal integer or a float behind its sign. -/
def decimal? (negative : Bool) (cs : List Char) : Option (Data × List Char) :=
  let whole? := match cs with
    | '0' :: rest => some (['0'], rest)
    | _ => digitRun Char.isDigit cs
  whole?.bind fun (whole, rest) =>
    let finish (digits : List Char) (shift : Nat) (behind : List Char) (exp : Int) :=
      (Text.digits? 10 0 digits).bind fun n =>
        if overflows n (exp - shift) then none else some (Data.other, behind)
    match rest with
    | '.' :: rest => (digitRun Char.isDigit rest).bind fun (frac, rest) =>
      match rest with
      | c :: _ =>
        if c == 'e' || c == 'E' then (exponent? rest).bind fun (e, rest) =>
          finish (whole ++ frac) frac.length rest e
        else finish (whole ++ frac) frac.length rest 0
      | [] => finish (whole ++ frac) frac.length [] 0
    | c :: _ =>
      if c == 'e' || c == 'E' then (exponent? rest).bind fun (e, rest) => finish whole 0 rest e
      else integer whole rest
    | [] => integer whole []
where
  integer (whole rest : List Char) : Option (Data × List Char) :=
    (Text.digits? 10 0 whole).bind fun n =>
      let signed : Int := if negative then -n else n
      if fits signed then some (.integer signed, rest) else none

/-- A number of any form, infinities and not-a-numbers included. -/
def number? (cs : List Char) : Option (Data × List Char) :=
  let signed (negative : Bool) (rest : List Char) := match rest with
    | 'i' :: 'n' :: 'f' :: rest => some (Data.other, rest)
    | 'n' :: 'a' :: 'n' :: rest => some (Data.other, rest)
    | _ => decimal? negative rest
  match cs with
  | '0' :: 'x' :: rest => radixInteger? 16 rest
  | '0' :: 'o' :: rest => radixInteger? 8 rest
  | '0' :: 'b' :: rest => radixInteger? 2 rest
  | '-' :: rest => signed true rest
  | '+' :: rest => signed false rest
  | _ => signed false cs

/-- A number of exactly `k` decimal digits between two bounds. -/
def field? (k lo hi : Nat) (cs : List Char) : Option (Nat × List Char) :=
  let digits := cs.take k
  if digits.length < k then none
  else (Text.digits? 10 0 digits).bind fun n =>
    if lo ≤ n ∧ n ≤ hi then some (n, cs.drop k) else none

/-- The text behind one given character. -/
def expect? (c : Char) : List Char → Option (List Char)
  | d :: rest => if d == c then some rest else none
  | [] => none

/-- How many days a month has. -/
def daysIn (year month : Nat) : Nat :=
  if month == 2 then
    if year % 4 == 0 && (year % 100 != 0 || year % 400 == 0) then 29 else 28
  else if month == 4 || month == 6 || month == 9 || month == 11 then 30
  else 31

/-- The text behind a time of day; the seconds are needed, their fraction is not. -/
def time? (cs : List Char) : Option (List Char) := do
  let (_, cs) ← field? 2 0 23 cs
  let cs ← expect? ':' cs
  let (_, cs) ← field? 2 0 59 cs
  let cs ← expect? ':' cs
  let (_, cs) ← field? 2 0 60 cs
  match cs with
  | '.' :: rest => match rest.span Char.isDigit with
    | ([], _) => none
    | (_, rest) => some rest
  | _ => some cs

/-- The text behind the offset of a time, if there is one. -/
def offset? : List Char → Option (List Char)
  | 'Z' :: rest => some rest
  | 'z' :: rest => some rest
  | c :: rest =>
    if c == '+' || c == '-' then do
      let (_, cs) ← field? 2 0 23 rest
      let cs ← expect? ':' cs
      let (_, cs) ← field? 2 0 59 cs
      some cs
    else some (c :: rest)
  | [] => some []

/-- The text behind a date. -/
def date? (cs : List Char) : Option (List Char) := do
  let (year, cs) ← field? 4 0 9999 cs
  let cs ← expect? '-' cs
  let (month, cs) ← field? 2 1 12 cs
  let cs ← expect? '-' cs
  let (_, cs) ← field? 2 1 (daysIn year month) cs
  some cs

/-- The text behind a date, a date with a time, or a time of day. -/
def moment? (cs : List Char) : Option (List Char) :=
  match date? cs with
  | some rest => match rest with
    | c :: behind =>
      if c == 'T' || c == 't' || c == ' ' then
        match time? behind with
        | some rest => offset? rest
        | none => some rest
      else some rest
    | [] => some []
  | none => time? cs

/-- A number or a date. -/
def numberOrDate? (cs : List Char) : Option (Data × List Char) :=
  match moment? cs with
  | some rest => some (.other, rest)
  | none => number? cs

end Toml
end Theming
