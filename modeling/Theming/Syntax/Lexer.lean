/-
# From text to token trees

| token | rule |
| --- | --- |
| blank | white space, the two direction marks, `//` and nested `/* */` comments |
| doc comment | `///`, `//!`, `/** */`, `/*! */` stand for the attribute `#[doc = "…"]` |
| word | a start character or `_`, then continuing characters; after `r#` a raw identifier |
| lifetime | a quote and a word that no quote closes |
| literal | strings, bytes, C strings (raw or with escapes), characters, integers and floats; a word directly behind is its suffix |
| punctuation | one of `~!@#$%^&*-=+` and the bar, `;:,<.>/?` |
| group | `()`, `[]`, braces, properly nested |

Readers of one token take the text from its first character on and give back the text behind it.
-/

import Theming.Syntax.Tree
import Theming.Text.Blank
import Theming.Text.Quoted
import Theming.Text.Word
import Theming.Text.Numeral

namespace Theming
namespace Syntax
namespace Lexer

/-- White space between tokens; the marks for the direction of text count as such. -/
def isBlank (c : Char) : Bool := Text.isBlank c || c == '\u200E' || c == '\u200F'

/-- The text behind a beginning. -/
def after? (start cs : List Char) : Option (List Char) :=
  if start.isPrefixOf cs then some (cs.drop start.length) else none

/-- A text split at the end of its first line; a carriage return before the line feed belongs to
neither part. -/
def splitLine : List Char → List Char × List Char
  | [] => ([], [])
  | '\n' :: rest => ([], '\n' :: rest)
  | '\r' :: '\n' :: rest => ([], '\n' :: rest)
  | c :: rest => let (line, behind) := splitLine rest; (c :: line, behind)

/-- The inside of a block comment of a nesting depth, and the text behind it. -/
def blockBody? : Nat → List Char → Option (List Char × List Char)
  | _, [] => none
  | _, [_] => none
  | depth, '/' :: '*' :: rest => (blockBody? (depth + 1) rest).map fun (body, behind) =>
    ('/' :: '*' :: body, behind)
  | depth, '*' :: '/' :: rest =>
    if depth = 0 then some ([], rest)
    else (blockBody? (depth - 1) rest).map fun (body, behind) => ('*' :: '/' :: body, behind)
  | depth, c :: rest => (blockBody? depth rest).map fun (body, behind) => (c :: body, behind)

/-- The text behind one comment that is not documentation. -/
def comment? (cs : List Char) : Option (List Char) :=
  match cs with
  | '/' :: '/' :: '/' :: '/' :: rest => some (splitLine rest).2
  | '/' :: '/' :: '/' :: _ => none
  | '/' :: '/' :: '!' :: _ => none
  | '/' :: '/' :: rest => some (splitLine rest).2
  | '/' :: '*' :: '*' :: '/' :: rest => some rest
  | '/' :: '*' :: '*' :: '*' :: rest => (blockBody? 0 ('*' :: '*' :: rest)).map Prod.snd
  | '/' :: '*' :: '*' :: _ => none
  | '/' :: '*' :: '!' :: _ => none
  | '/' :: '*' :: rest => (blockBody? 0 rest).map Prod.snd
  | _ => none

/-- The text behind all blanks and comments. -/
def skip : Nat → List Char → List Char
  | 0, cs => cs
  | fuel + 1, cs =>
    match comment? cs with
    | some rest => skip fuel rest
    | none => match cs with
      | c :: rest => if isBlank c then skip fuel rest else cs
      | [] => []

/-- The text of a doc comment, whether it is an inner one, and the text behind it. -/
def docComment? (cs : List Char) : Option (List Char × Bool × List Char) :=
  match cs with
  | '/' :: '/' :: '!' :: rest => let (doc, behind) := splitLine rest; some (doc, true, behind)
  | '/' :: '/' :: '/' :: '/' :: _ => none
  | '/' :: '/' :: '/' :: rest => let (doc, behind) := splitLine rest; some (doc, false, behind)
  | '/' :: '*' :: '!' :: rest => (blockBody? 0 rest).map fun (doc, behind) => (doc, true, behind)
  | '/' :: '*' :: '*' :: '*' :: _ => none
  | '/' :: '*' :: '*' :: rest => (blockBody? 0 rest).map fun (doc, behind) => (doc, false, behind)
  | _ => none

/-- Whether a carriage return stands anywhere but before a line feed. -/
def hasLoneReturn : List Char → Bool
  | [] => false
  | '\r' :: '\n' :: rest => hasLoneReturn rest
  | c :: rest => c == '\r' || hasLoneReturn rest

/-- A plain word and the text behind it. -/
def plainWord? : List Char → Option (List Char × List Char)
  | c :: rest => if Text.isWordStart c then
      let (part, behind) := rest.span Text.isWordPart
      some (c :: part, behind)
    else none
  | [] => none

/-- Words that a raw identifier cannot be. -/
def notRaw : List String := ["_", "super", "self", "Self", "crate"]

/-- A word, raw or plain, and the text behind it. -/
def word? (cs : List Char) : Option (List Char × List Char) :=
  match cs with
  | 'r' :: '#' :: rest => (plainWord? rest).bind fun (w, behind) =>
    if notRaw.contains (String.ofList w) then none else some ('r' :: '#' :: w, behind)
  | _ => plainWord? cs

/-- The text behind the suffix of a literal. -/
def dropSuffix (cs : List Char) : List Char :=
  match plainWord? cs with
  | some (_, behind) => behind
  | none => cs

/-- A hexadecimal digit. -/
def isHex (c : Char) : Bool := (Text.digit? 16 c).isSome

/-- What a kind of text literal admits. -/
structure TextRule where
  /-- A character that may stand for itself. -/
  plain : Char → Bool
  /-- Letters that may follow a backslash. -/
  simple : List Char
  /-- The two digits behind `\x`. -/
  hexPair : Char → Char → Bool
  /-- Whether `\u` with a code point is known, and which code points it may name. -/
  code : Nat → Bool

/-- The simple escapes. -/
def simpleEscapes : List Char := ['n', 'r', 't', '\\', '\'', '"', '0']

/-- Strings and characters. -/
def stringRule : TextRule where
  plain _ := true
  simple := simpleEscapes
  hexPair a b := '0' ≤ a && a ≤ '7' && isHex b
  code := Nat.isValidChar

/-- Byte strings and bytes. -/
def byteRule : TextRule where
  plain c := c.toNat < 128
  simple := simpleEscapes
  hexPair a b := isHex a && isHex b
  code _ := false

/-- C strings, which hold no null. -/
def cRule : TextRule where
  plain c := c.toNat != 0
  simple := ['n', 'r', 't', '\\', '\'', '"']
  hexPair a b := isHex a && isHex b && !(a == '0' && b == '0')
  code n := Nat.isValidChar n && n != 0

/-- The digits of `\u` behind its brace: at most six, underscores among them after the first. -/
def codeDigits? : Nat → Nat → List Char → Option (Nat × List Char)
  | _, _, [] => none
  | value, len, c :: rest =>
    if c == '\x7d' then if len = 0 then none else some (value, rest)
    else if c == '_' then if len = 0 then none else codeDigits? value len rest
    else (Text.digit? 16 c).bind fun d =>
      if len = 6 then none else codeDigits? (16 * value + d) (len + 1) rest

/-- The text behind an escape, without its backslash. -/
def escape? (rule : TextRule) (cs : List Char) : Option (List Char) :=
  match cs with
  | 'x' :: a :: b :: rest => if rule.hexPair a b then some rest else none
  | 'u' :: '\x7b' :: rest => (codeDigits? 0 0 rest).bind fun (n, behind) =>
    if rule.code n then some behind else none
  | c :: rest => if rule.simple.contains c then some rest else none
  | [] => none

/-- The text behind the blanks at the start of a line, after a backslash at the end of the line
before. A carriage return must stand before a line feed, and some text must follow. -/
def continued? : List Char → Option (List Char)
  | [] => none
  | '\r' :: '\n' :: rest => continued? rest
  | '\r' :: _ => none
  | c :: rest => if c == ' ' || c == '\t' || c == '\n' then continued? rest else some (c :: rest)

/-- The text behind a literal with escapes and its suffix, from the character after its opening
quote on. -/
def cooked? (rule : TextRule) : Nat → List Char → Option (List Char)
  | 0, _ => none
  | fuel + 1, cs =>
    match cs with
    | '"' :: rest => some (dropSuffix rest)
    | '\r' :: '\n' :: rest => cooked? rule fuel rest
    | '\r' :: _ => none
    | '\\' :: '\n' :: rest => (continued? rest).bind (cooked? rule fuel)
    | '\\' :: '\r' :: rest => (continued? ('\r' :: rest)).bind (cooked? rule fuel)
    | '\\' :: rest => (escape? rule rest).bind (cooked? rule fuel)
    | c :: rest => if rule.plain c then cooked? rule fuel rest else none
    | [] => none

/-- The text behind the body and the suffix of a raw literal that a quote and `hashes` close. -/
def rawBody? (rule : TextRule) (hashes : List Char) : List Char → Option (List Char)
  | [] => none
  | '\r' :: '\n' :: rest => rawBody? rule hashes rest
  | '\r' :: _ => none
  | c :: rest =>
    if c == '"' && hashes.isPrefixOf rest then some (dropSuffix (rest.drop hashes.length))
    else if rule.plain c then rawBody? rule hashes rest
    else none

/-- The text behind a raw literal, from its hashes on. -/
def raw? (rule : TextRule) (cs : List Char) : Option (List Char) :=
  let hashes := cs.takeWhile (· == '#')
  match cs.drop hashes.length with
  | '"' :: rest => if hashes.length ≤ 255 then rawBody? rule hashes rest else none
  | _ => none

/-- The text behind one character between single quotes and its suffix, from the character after
the opening quote on. -/
def quotedChar? (rule : TextRule) (cs : List Char) : Option (List Char) :=
  let behind := match cs with
    | '\\' :: rest => escape? rule rest
    | c :: rest => if rule.plain c then some rest else none
    | [] => none
  behind.bind fun rest => (after? ['\''] rest).map dropSuffix

/-- The text behind a number must not continue as a word. -/
def wordEnds? : List Char → Option (List Char)
  | c :: rest => if Text.isWordPart c then none else some (c :: rest)
  | [] => some []

/-- The digits of a float before its exponent: whether there is a point, whether an exponent
begins, and the text behind. -/
def floatDigits? : Bool → List Char → Option (Bool × Bool × List Char)
  | dot, [] => some (dot, false, [])
  | dot, c :: rest =>
    if c.isDigit || c == '_' then floatDigits? dot rest
    else if c == '.' then
      if dot then some (dot, false, c :: rest)
      else if rest.head?.any fun d => d == '.' || Text.isWordStart d then none
      else floatDigits? true rest
    else if c == 'e' || c == 'E' then some (dot, true, rest)
    else some (dot, false, c :: rest)

/-- The text behind the value of an exponent; nothing where a second sign stands or no digit
does. -/
def exponent? : Bool → Bool → List Char → Option (List Char)
  | _, value, [] => if value then some [] else none
  | sign, value, c :: rest =>
    if c == '+' || c == '-' then
      if value then some (c :: rest)
      else if sign then none
      else exponent? true value rest
    else if c.isDigit then exponent? sign true rest
    else if c == '_' then exponent? sign value rest
    else if value then some (c :: rest)
    else none

/-- The text behind a floating point number. A number with a point whose exponent is broken ends
before the exponent. -/
def float? (cs : List Char) : Option (List Char) :=
  match cs with
  | c :: rest =>
    if !c.isDigit then none
    else (floatDigits? false rest).bind fun (dot, exp, behind) =>
      let digits? : Option (List Char) :=
        if exp then match exponent? false false behind with
          | some rest => some rest
          | none => if dot then some (cs.drop (cs.length - behind.length - 1)) else none
        else if dot then some behind
        else none
      digits?.bind fun rest => wordEnds? (dropSuffix rest)
  | [] => none

/-- The digits of an integer in a base: whether there was one, and the text behind. Letters beyond
the base begin the suffix; a decimal digit beyond it is an error. -/
def intDigits? (base : Nat) : Bool → List Char → Option (Bool × List Char)
  | some', [] => some (some', [])
  | some', c :: rest =>
    if c == '_' then
      if !some' && base == 10 then none else intDigits? base some' rest
    else match Text.digit? 16 c with
      | some d =>
        if d < base then intDigits? base true rest
        else if c.isDigit then none
        else some (some', c :: rest)
      | none => some (some', c :: rest)

/-- The text behind an integer. -/
def int? (cs : List Char) : Option (List Char) :=
  let (base, digits) := match cs with
    | '0' :: 'x' :: rest => (16, rest)
    | '0' :: 'o' :: rest => (8, rest)
    | '0' :: 'b' :: rest => (2, rest)
    | _ => (10, cs)
  (intDigits? base false digits).bind fun (some', rest) =>
    if some' then wordEnds? (dropSuffix rest) else none

/-- The text behind a literal of any kind. -/
def literal? (cs : List Char) : Option (List Char) :=
  let fuel := cs.length + 1
  match cs with
  | '"' :: rest => cooked? stringRule fuel rest
  | '\'' :: rest => quotedChar? stringRule rest
  | 'r' :: rest => raw? stringRule rest
  | 'b' :: '"' :: rest => cooked? byteRule fuel rest
  | 'b' :: '\'' :: rest => quotedChar? byteRule rest
  | 'b' :: 'r' :: rest => raw? byteRule rest
  | 'c' :: '"' :: rest => cooked? cRule fuel rest
  | 'c' :: 'r' :: rest => raw? cRule rest
  | _ => (float? cs).or (int? cs)

/-- Beginnings that only a literal has, so that a broken literal is no word. -/
def literalStarts : List String :=
  ["r\"", "r#\"", "r##", "b\"", "b'", "br\"", "br#", "c\"", "cr\"", "cr#"]

/-- A punctuation character. -/
def isPunct (c : Char) : Bool := "~!@#$%^&*-=+|;:,<.>/?'".toList.contains c

/-- Whether punctuation goes on here; a comment is none. -/
def punctAhead : List Char → Bool
  | '/' :: '/' :: _ => false
  | '/' :: '*' :: _ => false
  | c :: _ => isPunct c
  | [] => false

/-- A token that is no group, and the text behind it. -/
def leaf? (cs : List Char) : Option (Tree × List Char) :=
  match literal? cs with
  | some rest => some (.literal (String.ofList (cs.take (cs.length - rest.length))), rest)
  | none =>
    if punctAhead cs then
      match cs with
      | '\'' :: rest => (word? rest).bind fun (w, behind) =>
        let closed := match behind with
          | '\'' :: _ => true
          | '#' :: _ => !(['r', '#'].isPrefixOf rest)
          | _ => false
        if closed then none else some (.lifetime (String.ofList ('\'' :: w)), behind)
      | c :: rest => some (.punct c (punctAhead rest), rest)
      | [] => none
    else if literalStarts.any fun s => s.toList.isPrefixOf cs then none
    else (word? cs).map fun (w, behind) => (.word (String.ofList w), behind)

/-- A token or one side of a group. -/
inductive Lexeme where
  | leaf (t : Tree)
  | opening (d : Delimiter)
  | closing (d : Delimiter)
deriving Repr

/-- A doc comment as the attribute it stands for. -/
def docLexemes (doc : List Char) (inner : Bool) : List Lexeme :=
  .leaf (.punct '#' false) :: (if inner then [.leaf (.punct '!' false)] else []) ++
    [.opening .bracket, .leaf (.word "doc"), .leaf (.punct '=' false),
      .leaf (.literal (Text.literal (String.ofList doc))), .closing .bracket]

/-- The lexemes of a text. -/
def lexemes? : Nat → List Char → Option (List Lexeme)
  | 0, _ => none
  | fuel + 1, cs =>
    let cs := skip cs.length cs
    match docComment? cs with
    | some (doc, inner, rest) =>
      if hasLoneReturn doc then none
      else (lexemes? fuel rest).map (docLexemes doc inner ++ ·)
    | none => match cs with
      | [] => some []
      | c :: rest => match Delimiter.opening? c, Delimiter.closing? c with
        | some d, _ => (lexemes? fuel rest).map (.opening d :: ·)
        | _, some d => (lexemes? fuel rest).map (.closing d :: ·)
        | none, none => (leaf? cs).bind fun (t, rest) => (lexemes? fuel rest).map (.leaf t :: ·)

/-- Groups lexemes: the trees of the innermost open group, newest first, and the groups around it. -/
def nest? : List Tree → List (Delimiter × List Tree) → List Lexeme → Option (List Tree)
  | inner, [], [] => some inner.reverse
  | _, _ :: _, [] => none
  | inner, outer, .leaf t :: rest => nest? (t :: inner) outer rest
  | inner, outer, .opening d :: rest => nest? [] ((d, inner) :: outer) rest
  | inner, (d, around) :: outer, .closing d' :: rest =>
    if d = d' then nest? (.group d inner.reverse :: around) outer rest else none
  | _, [], .closing _ :: _ => none

end Lexer

/-- The token trees of a text; a byte order mark may stand in front. -/
def trees? (s : String) : Option (List Tree) :=
  let cs := match s.toList with
    | '\uFEFF' :: rest => rest
    | cs => cs
  (Lexer.lexemes? (cs.length + 1) cs).bind (Lexer.nest? [] [])

end Syntax
end Theming
