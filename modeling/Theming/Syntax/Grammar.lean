/-
# The phrases of types and constant expressions

A rule reads one phrase and gives the code that it prints as: every token a word, punctuation of
several characters one word, closing angles apart from each other. Rules call each other through a
grammar that they take as an argument; `parse` closes the circle, bounding how deep phrases nest
by the size of the text.

| phrase | forms |
| --- | --- |
| type | path, `<T as Trait>::Name`, tuple, parentheses, array, slice, reference, pointer, function pointer, `dyn`, `impl`, bare bounds, macro, `!`, `_` |
| expression | literals, paths, operators, casts, ranges, calls, fields, indices, macros, tuples, arrays, struct literals, closures, blocks, `if`, `let`, `match`, loops |
| pattern | `_`, `..`, literals and their ranges, bindings, references, tuples, slices, path, tuple and struct patterns, alternatives |
-/

import Theming.Syntax.Identifier

namespace Theming
namespace Syntax

/-- What a type is, as far as the rules around it and the shape of a field care. -/
inductive TypeForm where
  /-- A path: its last segment, and whether it is a single segment. -/
  | path (last : String) (single : Bool)
  /-- A path that starts from `<T>` or `<T as Trait>`. -/
  | qualified (last : String)
  /-- A type in parentheses. -/
  | paren (inner : TypeForm)
  /-- A single trait bound without `dyn`. -/
  | bound
  | other
deriving Repr, Inhabited

/-- The phrases that rules ask for. -/
inductive Phrase where
  /-- A type; `plus` allows further bounds behind a `+`. -/
  | type (plus : Bool)
  /-- An expression; `structs` allows struct literals. -/
  | expression (structs : Bool)
  /-- The statements between the braces of a block. -/
  | statements
  | pattern

/-- How a phrase is read; expressions and patterns have no form. -/
abbrev Grammar := Phrase → Reader (TypeForm × List Code)

namespace Grammar

open Reader

/-- A type. -/
def type (g : Grammar) (plus : Bool) : Reader (List Code) := return (← g (.type plus)).2

/-- An expression. -/
def expression (g : Grammar) : Reader (List Code) := return (← g (.expression true)).2

/-- A block in braces. -/
def block (g : Grammar) : Reader (List Code) :=
  return Code.brace (← group .brace (return (← g .statements).2))

/-- Whether a literal comes first; a number may have a minus sign. -/
def startsLiteral : List Tree → Bool
  | .literal _ :: _ => true
  | .word w :: _ => w == "true" || w == "false"
  | .punct '-' _ :: .literal s :: _ => s.toList.head?.any Char.isDigit
  | _ => false

/-- A literal, with its minus sign apart. -/
def literalCode : Reader (List Code)
  | .literal s :: ts => some ([.word s], ts)
  | .word w :: ts => if w == "true" || w == "false" then some ([.word w], ts) else none
  | .punct '-' _ :: .literal s :: ts => some ([.word "-", .word s], ts)
  | _ => none

/-- A constant argument: a literal or a block. -/
def constArgument (g : Grammar) : Reader (List Code) := do
  if startsLiteral (← ahead) then literalCode else block g

/-! ## Lifetimes and bounds -/

/-- Lifetimes joined by `+`, as far as they go; one `+` may stand behind the last. -/
def lifetimeBounds : Nat → Reader (List Code)
  | 0 => failure
  | fuel + 1 => do
    if startsLifetime (← ahead) then
      let first ← lifetime
      if startsPunct "+" (← ahead) then
        let plus ← punct "+"
        return first ++ plus ++ (← lifetimeBounds fuel)
      else return first
    else return []

/-- A lifetime parameter with its bounds. -/
def lifetimeParam : Reader (List Code) := do
  let name ← lifetime
  if startsPunct ":" (← ahead) then
    let colon ← punct ":"
    return name ++ colon ++ (← lifetimeBounds ((← ahead).length + 1))
  else return name

/-- Lifetime parameters up to a closing angle. -/
def lifetimeParams : Nat → Reader (List Code)
  | 0 => failure
  | fuel + 1 => do
    if startsPunct ">" (← ahead) then return []
    let first ← lifetimeParam
    if startsPunct ">" (← ahead) then return first
    let comma ← punct ","
    return first ++ comma ++ (← lifetimeParams fuel)

/-- `for<…>` in front of a bound or a function pointer. -/
def binder : Reader (List Code) := do
  let start ← keyword "for"
  let opening ← punct "<"
  let params ← lifetimeParams ((← ahead).length + 1)
  let closing ← punct ">"
  return start ++ opening ++ params ++ closing

/-- `for<…>` if it comes first. -/
def binder? : Reader (List Code) := do
  if startsWord "for" (← ahead) then binder else return []

/-- `-> T` if it comes first. -/
def returnType? (g : Grammar) : Reader (List Code) := do
  if startsPunct "->" (← ahead) then
    let arrow ← punct "->"
    return arrow ++ (← g.type false)
  else return []

/-! ## Paths -/

/-- A path or a segment of one. -/
structure PathCode where
  code : List Code
  last : String
  /-- Whether no segment has arguments. -/
  plain : Bool
  /-- Whether it is one segment without a leading `::`. -/
  single : Bool

/-- Joins bounds by `+` until the tokens ahead match; a `+` may stand behind the last bound. -/
def boundsUntil (stop : List Tree → Bool) (bound : Reader (Bool × List Code)) :
    Nat → Reader (List Code)
  | 0 => failure
  | fuel + 1 => do
    if stop (← ahead) then return []
    let (_, first) ← bound
    if startsPunct "+" (← ahead) then
      let plus ← punct "+"
      return first ++ plus ++ (← boundsUntil stop bound fuel)
    else return first

/-- Inputs in parentheses and an output, behind a path such as `Fn`. -/
def callArguments (g : Grammar) : Reader (List Code) := do
  let inputs ← group .paren (commasToEnd (g.type true))
  return Code.paren inputs ++ (← g.returnType?)

/-- Lifetimes come before all other arguments in print; a comma is added where one is missing. -/
def orderArguments (args : List (Bool × List Code × Bool)) : List Code :=
  let comma (there : Bool) : List Code := if there then [.word ","] else []
  let first := args.filter fun a => a.1
  let others := args.filter fun a => !a.1
  let closed := match first.getLast? with
    | none => true
    | some (_, _, there) => there
  let rec go : Bool → List (Bool × List Code × Bool) → List Code
    | _, [] => []
    | closed, (_, code, there) :: rest => comma (!closed) ++ code ++ comma there ++ go there rest
  first.flatMap (fun a => a.2.1 ++ comma a.2.2) ++ go closed others

mutual

/-- One trait or lifetime bound, and whether it is a trait. -/
def bound (g : Grammar) : Nat → Reader (Bool × List Code)
  | 0 => failure
  | fuel + 1 => do
    let ts ← ahead
    if startsLifetime ts then return (false, ← lifetime)
    else if startsGroup .paren ts then
      return (true, Code.paren (← group .paren (traitBound g fuel)))
    else return (true, ← traitBound g fuel)

/-- A trait bound: `?`, `for<…>`, a path, arguments in parentheses. -/
def traitBound (g : Grammar) : Nat → Reader (List Code)
  | 0 => failure
  | fuel + 1 => do
    let before ← binder?
    let maybe ← punct? "?"
    let behind ← if before.isEmpty then binder? else pure []
    let p ← path g false fuel
    let ts ← ahead
    let closed := match p.code.getLast? with
      | some (.word w) => w != ">"
      | _ => true
    if closed && (startsGroup .paren ts ||
        startsPunct "::" ts && startsGroup .paren (ts.drop 2)) then
      let _ ← punct? "::"
      return maybe ++ before ++ behind ++ p.code ++ (← g.callArguments)
    else return maybe ++ before ++ behind ++ p.code

/-- One argument between angles, and whether it is a lifetime. -/
def genericArgument (g : Grammar) : Nat → Reader (Bool × List Code)
  | 0 => failure
  | fuel + 1 => do
    let ts ← ahead
    if startsLifetime ts && !startsPunct "+" (ts.drop 1) then return (true, ← lifetime)
    else if startsLiteral ts || startsGroup .brace ts then return (false, ← g.constArgument)
    else
      let (form, code) ← g (.type true)
      let ts ← ahead
      match form with
      | .path _ true =>
        if startsPunct "=" ts then
          let equals ← punct "="
          let ts ← ahead
          let value ← if startsLiteral ts || startsGroup .brace ts then g.constArgument
            else g.type true
          return (false, code ++ equals ++ value)
        else if startsPunct ":" ts then
          let colon ← punct ":"
          let stop (ts : List Tree) := startsPunct "," ts || startsPunct ">" ts
          return (false, code ++ colon ++
            (← boundsUntil stop (bound g fuel) ((← ahead).length + 1)))
        else return (false, code)
      | _ => return (false, code)

/-- The arguments up to a closing angle: whether each is a lifetime, its code, and whether a comma
follows. -/
def argumentList (g : Grammar) : Nat → Reader (List (Bool × List Code × Bool))
  | 0 => failure
  | fuel + 1 => do
    if startsPunct ">" (← ahead) then return []
    let (isLifetime, code) ← genericArgument g fuel
    if startsPunct ">" (← ahead) then return [(isLifetime, code, false)]
    let _ ← punct ","
    return (isLifetime, code, true) :: (← argumentList g fuel)

/-- Arguments between angles. -/
def genericArguments (g : Grammar) : Nat → Reader (List Code)
  | 0 => failure
  | fuel + 1 => do
    let colons ← punct? "::"
    let opening ← punct "<"
    let args ← argumentList g fuel
    let closing ← punct ">"
    return colons ++ opening ++ orderArguments args ++ closing

/-- One segment of a path; in an expression arguments need `::` before them. -/
def segment (g : Grammar) (inExpression : Bool) : Nat → Reader PathCode
  | 0 => failure
  | fuel + 1 => do
    let ts ← ahead
    if ["super", "self", "crate", "try"].any fun w => startsWord w ts then
      let w ← anyWord
      return ⟨[.word w], w, true, true⟩
    else
      let w ← if startsWord "Self" ts then anyWord else identifier
      let ts ← ahead
      let direct := !inExpression && startsPunct "<" ts && !startsPunct "<=" ts &&
        !startsPunct "<<=" ts
      if direct || startsPunct "::" ts && startsPunct "<" (ts.drop 2) then
        return ⟨.word w :: (← genericArguments g fuel), w, false, true⟩
      else return ⟨[.word w], w, true, true⟩

/-- The segments behind the first one. -/
def moreSegments (g : Grammar) (inExpression : Bool) (sofar : PathCode) : Nat → Reader PathCode
  | 0 => failure
  | fuel + 1 => do
    let ts ← ahead
    if startsPunct "::" ts && !startsGroup .paren (ts.drop 2) then
      let colons ← punct "::"
      let s ← segment g inExpression fuel
      moreSegments g inExpression
        ⟨sofar.code ++ colons ++ s.code, s.last, sofar.plain && s.plain, false⟩ fuel
    else return sofar

/-- A path. -/
def path (g : Grammar) (inExpression : Bool) : Nat → Reader PathCode
  | 0 => failure
  | fuel + 1 => do
    let colons ← punct? "::"
    let s ← segment g inExpression fuel
    moreSegments g inExpression
      ⟨colons ++ s.code, s.last, s.plain, s.single && colons.isEmpty⟩ fuel

end

/-- A number of steps that bounds how often one of the rules above can call another within one
phrase. -/
def steps : Reader Nat := return 4 * (← ahead).length + 8

/-- One bound. -/
def oneBound (g : Grammar) : Reader (Bool × List Code) := do g.bound (← steps)

/-- Whether another bound can start here. -/
def startsBound (ts : List Tree) : Bool :=
  startsAnyWord ts || startsPunct "::" ts || startsPunct "?" ts || startsLifetime ts ||
    startsGroup .paren ts

/-- Parameters that a type captures, up to a closing angle: whether each is a lifetime, its code,
and whether a comma follows. -/
def capturedParams : Nat → Reader (List (Bool × List Code × Bool))
  | 0 => failure
  | fuel + 1 => do
    let ts ← ahead
    if startsPunct ">" ts then return []
    let isLifetime := startsLifetime ts
    let code ← if isLifetime then lifetime
      else if startsWord "Self" ts then keyword "Self"
      else pure [Code.word (← identifier)]
    if startsPunct ">" (← ahead) then return [(isLifetime, code, false)]
    let _ ← punct ","
    return (isLifetime, code, true) :: (← capturedParams fuel)

/-- `use<…>`, the parameters that a type captures. -/
def captures : Reader (List Code) := do
  let word ← keyword "use"
  let opening ← punct "<"
  let params ← capturedParams ((← ahead).length + 1)
  let closing ← punct ">"
  return word ++ opening ++ orderArguments params ++ closing

/-- Bounds joined by `+`, and whether each is more than a lifetime; without `plus` only one.
`capturing` allows `use<…>` among them. -/
def bounds (g : Grammar) (capturing plus : Bool) : Nat → Reader (List Bool × List Code)
  | 0 => failure
  | fuel + 1 => do
    let (isTrait, first) ← if capturing && startsWord "use" (← ahead) then
        pure (true, ← captures)
      else g.oneBound
    if plus && startsPunct "+" (← ahead) then
      let sign ← punct "+"
      if startsBound (← ahead) then
        let (traits, rest) ← bounds g capturing plus fuel
        return (isTrait :: traits, first ++ sign ++ rest)
      else return ([isTrait], first ++ sign)
    else return ([isTrait], first)

/-- Bounds that are not lifetimes only. -/
def traitBounds (g : Grammar) (capturing plus : Bool) : Reader (List Code) := do
  let (traits, code) ← g.bounds capturing plus ((← ahead).length + 1)
  if traits.contains true then return code else failure

/-- Further bounds, each behind a `+`. -/
def moreBounds (g : Grammar) : Nat → Reader (List Code)
  | 0 => failure
  | fuel + 1 => do
    if startsPunct "+" (← ahead) then
      let sign ← punct "+"
      let (_, next) ← g.oneBound
      return sign ++ next ++ (← moreBounds g fuel)
    else return []

/-- A path that may start from `<T>` or `<T as Trait>`, and whether it does. -/
def qualifiedPath (g : Grammar) (inExpression : Bool) : Reader (Bool × PathCode) := do
  if startsPunct "<" (← ahead) then
    let opening ← punct "<"
    let this ← g.type true
    let cast ← if startsWord "as" (← ahead) then do
        let word ← keyword "as"
        let p ← g.path false (← steps)
        pure (word ++ p.code)
      else pure []
    let closing ← punct ">"
    let colons ← punct "::"
    let fuel ← steps
    let s ← g.segment inExpression fuel
    let more ← qualifiedRest fuel
      ⟨opening ++ this ++ cast ++ closing ++ colons ++ s.code, s.last, false, false⟩
    return (true, more)
  else return (false, ← g.path inExpression (← steps))
where
  qualifiedRest : Nat → PathCode → Reader PathCode
    | 0, _ => failure
    | fuel + 1, sofar => do
      if startsPunct "::" (← ahead) then
        let colons ← punct "::"
        let s ← g.segment inExpression fuel
        qualifiedRest fuel ⟨sofar.code ++ colons ++ s.code, s.last, false, false⟩
      else return sofar

/-! ## Types -/

/-- What stands between the parentheses of a type. -/
inductive Inside where
  /-- A type that the parentheses finish. -/
  | done (form : TypeForm) (code : List Code)
  /-- A `?` bound, behind which more bounds may follow. -/
  | optional (code : List Code)
  /-- A single type. -/
  | single (form : TypeForm) (code : List Code)

/-- The content of parentheses in a type. -/
def inside (g : Grammar) : Reader Inside := do
  let ts ← ahead
  if ts.isEmpty then return .done .other []
  else if startsLifetime ts then return .done (.paren .other) (← g.type true)
  else if startsPunct "?" ts then
    let (_, code) ← g.oneBound
    return .optional code
  else
    let (form, first) ← g (.type true)
    if startsPunct "," (← ahead) then
      let comma ← punct ","
      return .done .other (first ++ comma ++ (← commasToEnd (g.type true)))
    else return .single form first

/-- A type that starts with parentheses. -/
def parenType (g : Grammar) (plus : Bool) : Reader (TypeForm × List Code) := do
  match ← group .paren g.inside with
  | .done form code => return (form, Code.paren code)
  | .optional code => return (.other, Code.paren code ++ (← g.moreBounds ((← ahead).length + 1)))
  | .single form code =>
    let isBound := match form with
      | .path _ _ => true
      | .bound => true
      | _ => false
    if plus && isBound && startsPunct "+" (← ahead) then
      return (.other, Code.paren code ++ (← g.moreBounds ((← ahead).length + 1)))
    else return (.paren form, Code.paren code)

/-- An attribute as it was written. -/
def attributeCode : Reader (List Code) := do
  let sign ← punct "#"
  match ← ahead with
  | .group .bracket _ :: _ => return sign ++ (← anyGroup)
  | _ => failure

/-- The attributes in front. -/
def attributes : Reader (List Code) := do
  return (← many (startsPunct "#") attributeCode).flatten

/-- The inputs of a function pointer: types, with or without names, and `...` at the end. Only the
first one may be named `self` or be `mut self`. -/
def pointerInputs (g : Grammar) (first : Bool) : Nat → Reader (List Code)
  | 0 => failure
  | fuel + 1 => do
    if ← atEnd then return []
    let attrs ← attributes
    let own := first && startsWord "mut" (← ahead) && startsWord "self" ((← ahead).drop 1)
    let mutable ← if own then keyword "mut" else pure []
    let ts ← ahead
    let named := (startsIdentifier ts || startsWord "_" ts || first && startsWord "self" ts) &&
      startsPunct ":" (ts.drop 1) && !startsPunct "::" (ts.drop 1)
    let name ← if named then do
        let w ← anyWord
        let colon ← punct ":"
        pure (Code.word w :: colon)
      else pure []
    if !own && !startsWord "self" ts && startsPunct "..." (← ahead) then
      let dots ← punct "..."
      let comma ← punct? ","
      if ← atEnd then return attrs ++ name ++ dots ++ comma else failure
    else
      let input ← if own && !named then keyword "self" else g.type true
      if ← atEnd then return attrs ++ mutable ++ name ++ input
      let comma ← punct ","
      return attrs ++ mutable ++ name ++ input ++ comma ++ (← pointerInputs g false fuel)

/-- A function pointer. -/
def functionPointer (g : Grammar) : Reader (List Code) := do
  let unsafety ← keyword? "unsafe"
  let external ← keyword? "extern"
  let abi ← match external.isEmpty, ← ahead with
    | false, .literal s :: _ => if s.toList.head? == some '"' || s.toList.head? == some 'r' then
        pure [Code.word (← literal)] else failure
    | _, _ => pure []
  let fn ← keyword "fn"
  let inputs ← group .paren (do g.pointerInputs true ((← ahead).length + 1))
  return unsafety ++ external ++ abi ++ fn ++ Code.paren inputs ++ (← g.returnType?)

/-- A type that starts with a path. -/
def pathType (g : Grammar) (plus : Bool) (lifetimes : List Code) :
    Reader (TypeForm × List Code) := do
  let (isQualified, p) ← g.qualifiedPath false
  if isQualified then return (.qualified p.last, p.code)
  let ts ← ahead
  if startsPunct "!" ts && !startsPunct "!=" ts && p.plain then
    let bang ← punct "!"
    return (.other, p.code ++ bang ++ (← anyGroup))
  else if !lifetimes.isEmpty || plus && startsPunct "+" ts then
    if plus && startsPunct "+" ts then
      let sign ← punct "+"
      let more ← if startsBound (← ahead) then do
          pure (← g.bounds false plus ((← ahead).length + 1)).2
        else pure []
      return (.other, lifetimes ++ p.code ++ sign ++ more)
    else return (.bound, lifetimes ++ p.code)
  else return (.path p.last p.single, p.code)

/-- Whether a path can start here. -/
def startsPath (ts : List Tree) : Bool :=
  startsIdentifier ts || (["super", "self", "Self", "crate"].any fun w => startsWord w ts)

/-- The rule of types. -/
def typeRule (g : Grammar) (plus : Bool) : Reader (TypeForm × List Code) := do
  let lifetimes ← binder?
  let ts ← ahead
  let pointer := startsWord "fn" ts || startsWord "unsafe" ts || startsWord "extern" ts
  if !lifetimes.isEmpty && !(startsPath ts || pointer) then failure
  else if startsGroup .paren ts then g.parenType plus
  else if pointer then return (.other, lifetimes ++ (← g.functionPointer))
  else if startsPath ts || startsPunct "::" ts || startsPunct "<" ts then g.pathType plus lifetimes
  else if startsWord "dyn" ts then
    let word ← keyword "dyn"
    let star ← punct? "*"
    return (.other, word ++ star ++ (← g.traitBounds false plus))
  else if startsWord "impl" ts then
    let word ← keyword "impl"
    return (.other, word ++ (← g.traitBounds true plus))
  else if startsGroup .bracket ts then
    let code ← group .bracket do
      let element ← g.type true
      if startsPunct ";" (← ahead) then
        let semicolon ← punct ";"
        pure (element ++ semicolon ++ (← g.expression))
      else pure element
    return (.other, Code.bracket code)
  else if startsPunct "*" ts then
    let star ← punct "*"
    let word ← if startsWord "const" (← ahead) then keyword "const" else keyword "mut"
    return (.other, star ++ word ++ (← g.type false))
  else if startsPunct "&" ts then
    let sign ← punct "&"
    let life ← lifetime?
    let mutable ← keyword? "mut"
    return (.other, sign ++ life ++ mutable ++ (← g.type false))
  else if startsPunct "!" ts then return (.other, ← punct "!")
  else if startsWord "_" ts then return (.other, ← keyword "_")
  else if startsLifetime ts then return (.other, ← g.traitBounds false plus)
  else failure

/-! ## Patterns -/

/-- Whether a range begins here. -/
def startsRange (ts : List Tree) : Bool := startsPunct ".." ts

/-- The sign of a range. -/
def rangeSign : Reader (List Code) := do
  let ts ← ahead
  if startsPunct "..=" ts then punct "..="
  else if startsPunct "..." ts then punct "..."
  else punct ".."

/-- One field of a struct pattern. -/
def fieldPattern (g : Grammar) : Reader (List Code) := do
  let attrs ← attributes
  let ts ← ahead
  if startsPunct ".." ts then return attrs ++ (← punct "..")
  else
    let name ← match ts with
      | .literal s :: .punct ':' _ :: _ => do let _ ← literal; pure [Code.word s]
      | _ => do
        let byRef ← keyword? "ref"
        let mutable ← keyword? "mut"
        let w ← identifier
        pure (byRef ++ mutable ++ [Code.word w])
    if startsPunct ":" (← ahead) then
      let colon ← punct ":"
      return attrs ++ name ++ colon ++ (← g .pattern).2
    else return attrs ++ name

/-- One pattern without alternatives. -/
def simplePattern (g : Grammar) : Reader (List Code) := do
  let ts ← ahead
  let rangeEnd (first : List Code) : Reader (List Code) := do
    if startsRange (← ahead) then
      let sign ← rangeSign
      if startsLiteral (← ahead) then return first ++ sign ++ (← literalCode)
      else if startsPath (← ahead) then
        return first ++ sign ++ (← g.qualifiedPath true).2.code
      else return first ++ sign
    else return first
  if startsWord "_" ts then keyword "_"
  else if startsRange ts then
    let sign ← rangeSign
    if startsLiteral (← ahead) then return sign ++ (← literalCode) else return sign
  else if startsLiteral ts then rangeEnd (← literalCode)
  else if startsPunct "&" ts then
    let sign ← punct "&"
    let mutable ← keyword? "mut"
    return sign ++ mutable ++ (← g .pattern).2
  else if startsGroup .paren ts then
    return Code.paren (← group .paren (commasToEnd (return (← g .pattern).2)))
  else if startsGroup .bracket ts then
    return Code.bracket (← group .bracket (commasToEnd (return (← g .pattern).2)))
  else if startsWord "ref" ts || startsWord "mut" ts then
    let byRef ← keyword? "ref"
    let mutable ← keyword? "mut"
    let w ← identifier
    if startsPunct "@" (← ahead) then
      let sign ← punct "@"
      return byRef ++ mutable ++ .word w :: sign ++ (← g .pattern).2
    else return byRef ++ mutable ++ [.word w]
  else
    let (_, p) ← g.qualifiedPath true
    let ts ← ahead
    if startsPunct "@" ts && p.single && p.plain then
      let sign ← punct "@"
      return p.code ++ sign ++ (← g .pattern).2
    else if startsPunct "!" ts && !startsPunct "!=" ts && p.plain then
      let bang ← punct "!"
      return p.code ++ bang ++ (← anyGroup)
    else if startsGroup .paren ts then
      return p.code ++ Code.paren (← group .paren (commasToEnd (return (← g .pattern).2)))
    else if startsGroup .brace ts then
      return p.code ++ Code.brace (← group .brace (commasToEnd g.fieldPattern))
    else rangeEnd p.code

/-- Alternatives joined by a bar. -/
def alternatives (g : Grammar) : Nat → Reader (List Code)
  | 0 => failure
  | fuel + 1 => do
    let first ← g.simplePattern
    let ts ← ahead
    if startsPunct "|" ts && !startsPunct "||" ts && !startsPunct "|=" ts then
      let bar ← punct "|"
      return first ++ bar ++ (← alternatives g fuel)
    else return first

/-- The rule of patterns; a bar may stand in front. -/
def patternRule (g : Grammar) : Reader (List Code) := do
  let ts ← ahead
  let bar ← if startsPunct "|" ts && !startsPunct "||" ts then punct "|" else pure []
  return bar ++ (← g.alternatives (ts.length + 1))

/-! ## Expressions -/

/-- Binary operators, a longer one before its beginnings. -/
def operators : List String :=
  ["<<=", ">>=", "&&", "||", "<<", ">>", "==", "!=", "<=", ">=", "+=", "-=", "*=", "/=", "%=",
    "^=", "&=", "|=", "+", "-", "*", "/", "%", "^", "&", "|", "<", ">", "="]

/-- Operators that compare, of which two cannot stand side by side. -/
def comparisons : List String := ["==", "!=", "<=", ">=", "<", ">"]

/-- Operators that bind less tightly than comparisons. -/
def looser : List String :=
  ["&&", "||", "=", "+=", "-=", "*=", "/=", "%=", "^=", "&=", "|=", "<<=", ">>="]

/-- The operator that comes first. -/
def operatorAhead? (ts : List Tree) : Option String :=
  if startsPunct "=>" ts then none else operators.find? fun op => startsPunct op ts

/-- A label, if one comes first. -/
def label? : Reader (List Code) := do
  if startsLifetime (← ahead) then
    let name ← lifetime
    return name ++ (← punct ":")
  else return []

/-- One arm of a `match`. -/
def arms (g : Grammar) : Nat → Reader (List Code)
  | 0 => failure
  | fuel + 1 => do
    if ← atEnd then return []
    let attrs ← attributes
    let pattern ← g.patternRule
    let guarded ← if startsWord "if" (← ahead) then do
        let word ← keyword "if"
        pure (word ++ (← g.expression))
      else pure []
    let arrow ← punct "=>"
    let isBlock := startsGroup .brace (← ahead)
    let body ← g.expression
    let arm := attrs ++ pattern ++ guarded ++ arrow ++ body
    if startsPunct "," (← ahead) then
      let comma ← punct ","
      return arm ++ comma ++ (← arms g fuel)
    else if isBlock then return arm ++ (← arms g fuel)
    else if ← atEnd then return arm
    else failure

/-- The condition of an `if` or a `while`: an expression without struct literals. -/
def condition (g : Grammar) : Reader (List Code) := return (← g (.expression false)).2

/-- An `if` with its branches. -/
def ifExpression (g : Grammar) : Nat → Reader (List Code)
  | 0 => failure
  | fuel + 1 => do
    let word ← keyword "if"
    let test ← g.condition
    let body ← g.block
    if startsWord "else" (← ahead) then
      let otherwise ← keyword "else"
      if startsWord "if" (← ahead) then
        return word ++ test ++ body ++ otherwise ++ (← ifExpression g fuel)
      else return word ++ test ++ body ++ otherwise ++ (← g.block)
    else return word ++ test ++ body

/-- The inputs of a closure, up to the closing bar. -/
def closureInputs (g : Grammar) : Nat → Reader (List Code)
  | 0 => failure
  | fuel + 1 => do
    if startsPunct "|" (← ahead) then return []
    let attrs ← attributes
    let input ← g.simplePattern
    let typed ← if startsPunct ":" (← ahead) then do
        let colon ← punct ":"
        pure (colon ++ (← g.type true))
      else pure []
    if startsPunct "|" (← ahead) then return attrs ++ input ++ typed
    let comma ← punct ","
    return attrs ++ input ++ typed ++ comma ++ (← closureInputs g fuel)

/-- Whether a closure comes first. -/
def startsClosure (ts : List Tree) : Bool :=
  startsPunct "|" ts || startsWord "move" ts || startsWord "static" ts ||
    startsWord "const" ts && !startsGroup .brace (ts.drop 1) ||
    startsWord "async" ts && (startsPunct "|" (ts.drop 1) || startsWord "move" (ts.drop 1)) ||
    startsWord "for" ts && startsPunct "<" (ts.drop 1) &&
      (startsLifetime (ts.drop 2) || startsPunct ">" (ts.drop 2))

/-- A closure. -/
def closure (g : Grammar) (structs : Bool) : Reader (List Code) := do
  let lifetimes ← binder?
  let constant ← keyword? "const"
  let fixed ← keyword? "static"
  let delayed ← keyword? "async"
  let taken ← keyword? "move"
  let opening ← punct "|"
  let inputs ← g.closureInputs ((← ahead).length + 1)
  let closing ← punct "|"
  let head := lifetimes ++ constant ++ fixed ++ delayed ++ taken ++ opening ++ inputs ++ closing
  if startsPunct "->" (← ahead) then
    let arrow ← punct "->"
    let output ← g.type true
    return head ++ arrow ++ output ++ (← g.block)
  else return head ++ (← g (.expression structs)).2

/-- One field of a struct literal. -/
def fieldValue (g : Grammar) : Reader (List Code) := do
  let attrs ← attributes
  let ts ← ahead
  if startsPunct ".." ts then
    let dots ← punct ".."
    if ← atEnd then return attrs ++ dots else return attrs ++ dots ++ (← g.expression)
  else
    let name ← match ts with
      | .literal s :: _ => do let _ ← literal; pure s
      | _ => identifier
    if startsPunct ":" (← ahead) then
      let colon ← punct ":"
      return attrs ++ .word name :: colon ++ (← g.expression)
    else return attrs ++ [.word name]

/-- Words that start an expression with its own block. -/
def blockWords : List String := ["if", "match", "while", "loop", "for", "unsafe", "const", "try"]

/-- Whether an expression ends with its own block, so that a statement needs no semicolon. -/
def startsBlockLike : List Tree → Bool
  | .group .brace _ :: _ => true
  | .word w :: _ => blockWords.contains w
  | .lifetime _ :: _ => true
  | _ => false

/-- An operand without what may stand behind it. -/
def atom (g : Grammar) (structs : Bool) : Reader (List Code) := do
  let ts ← ahead
  if startsLiteral ts then literalCode
  else if startsGroup .paren ts then
    return Code.paren (← group .paren (commasToEnd g.expression))
  else if startsGroup .bracket ts then
    let code ← group .bracket do
      if ← atEnd then pure []
      else
        let first ← g.expression
        if startsPunct ";" (← ahead) then
          let semicolon ← punct ";"
          pure (first ++ semicolon ++ (← g.expression))
        else if ← atEnd then pure first
        else
          let comma ← punct ","
          pure (first ++ comma ++ (← commasToEnd g.expression))
    return Code.bracket code
  else if startsGroup .brace ts then g.block
  else if startsWord "async" ts && (startsGroup .brace (ts.drop 1) ||
      startsWord "move" (ts.drop 1) && startsGroup .brace (ts.drop 2)) then
    let word ← keyword "async"
    let taken ← keyword? "move"
    return word ++ taken ++ (← g.block)
  else if startsClosure ts then g.closure structs
  else if startsWord "if" ts then g.ifExpression (ts.length + 1)
  else if startsWord "match" ts then
    let word ← keyword "match"
    let subject := (← g (.expression false)).2
    let body ← group .brace (do g.arms ((← ahead).length + 1))
    return word ++ subject ++ Code.brace body
  else if startsWord "unsafe" ts || startsWord "const" ts ||
      startsWord "try" ts && startsGroup .brace (ts.drop 1) then
    let w ← anyWord
    return .word w :: (← g.block)
  else if startsWord "return" ts || startsWord "break" ts || startsWord "yield" ts then
    let w ← anyWord
    let life ← if w == "break" then lifetime? else pure []
    let rest ← ahead
    if rest.isEmpty || startsPunct ";" rest || startsPunct "," rest then return .word w :: life
    else return .word w :: life ++ (← g (.expression structs)).2
  else if startsWord "continue" ts then
    let word ← keyword "continue"
    return word ++ (← lifetime?)
  else if startsWord "become" ts then
    let word ← keyword "become"
    return word ++ (← g.expression)
  else if startsWord "_" ts then keyword "_"
  else if startsLifetime ts || startsWord "while" ts || startsWord "loop" ts ||
      startsWord "for" ts then
    let label ← label?
    let rest ← ahead
    if startsWord "while" rest then
      let word ← keyword "while"
      let test ← g.condition
      return label ++ word ++ test ++ (← g.block)
    else if startsWord "loop" rest then
      let word ← keyword "loop"
      return label ++ word ++ (← g.block)
    else if startsWord "for" rest then
      let word ← keyword "for"
      let pattern ← g.patternRule
      let within ← keyword "in"
      let source := (← g (.expression false)).2
      return label ++ word ++ pattern ++ within ++ source ++ (← g.block)
    else return label ++ (← g.block)
  else if startsWord "try" ts && !startsPunct "!" (ts.drop 1) && !startsPunct "::" (ts.drop 1) then
    failure
  else
    let (_, p) ← g.qualifiedPath true
    let rest ← ahead
    if startsPunct "!" rest && !startsPunct "!=" rest && p.plain then
      let bang ← punct "!"
      return p.code ++ bang ++ (← anyGroup)
    else if structs && startsGroup .brace rest then
      return p.code ++ Code.brace (← group .brace (commasToEnd g.fieldValue))
    else return p.code

/-- The numbers of nested tuple fields in one token, such as `0.1`. -/
def tupleFields (s : String) : List Code :=
  (List.intersperse "." (s.splitOn ".")).map .word

/-- Fields, calls, indices and question marks behind an operand. -/
def suffixes (g : Grammar) : Nat → Reader (List Code)
  | 0 => failure
  | fuel + 1 => do
    let ts ← ahead
    if startsGroup .paren ts then
      let args ← group .paren (commasToEnd g.expression)
      return Code.paren args ++ (← suffixes g fuel)
    else if startsGroup .bracket ts then
      let index ← group .bracket g.expression
      return Code.bracket index ++ (← suffixes g fuel)
    else if startsPunct "?" ts then
      let sign ← punct "?"
      return sign ++ (← suffixes g fuel)
    else if startsPunct "." ts && !startsRange ts then
      let dot ← punct "."
      let name ← match ← ahead with
        | .literal s :: _ => do let _ ← literal; pure (tupleFields s)
        | .word "await" :: _ => keyword "await"
        | _ => do
          let w ← identifier
          let generics ← if startsPunct "::" (← ahead) then do
              g.genericArguments (← steps)
            else pure []
          pure (.word w :: generics)
      return dot ++ name ++ (← suffixes g fuel)
    else return []

/-- The qualifiers behind the `&` of a reference. -/
def referenceKind : Reader (List Code) := do
  let ts ← ahead
  let next := ts.drop 1
  if startsWord "raw" ts && (startsWord "mut" next || startsWord "const" next) then
    let raw ← keyword "raw"
    return raw ++ [.word (← anyWord)]
  else keyword? "mut"

/-- An operand with the attributes, signs and `let` patterns in front of it and what stands behind
it. -/
def operand (g : Grammar) (structs : Bool) : Nat → Reader (List Code)
  | 0 => failure
  | fuel + 1 => do
    let attrs ← attributes
    let ts ← ahead
    if startsPunct "&" ts then
      let sign ← punct "&"
      let kind ← referenceKind
      return attrs ++ sign ++ kind ++ (← operand g structs fuel)
    else if startsPunct "*" ts then
      let sign ← punct "*"
      return attrs ++ sign ++ (← operand g structs fuel)
    else if startsPunct "!" ts then
      let sign ← punct "!"
      return attrs ++ sign ++ (← operand g structs fuel)
    else if startsPunct "-" ts then
      let sign ← punct "-"
      return attrs ++ sign ++ (← operand g structs fuel)
    else if startsWord "let" ts then
      let word ← keyword "let"
      let pattern ← g.patternRule
      let equals ← punct "="
      return attrs ++ word ++ pattern ++ equals ++ (← operand g structs fuel)
    else
      let first ← g.atom structs
      return attrs ++ first ++ (← g.suffixes ((← ahead).length + 1))

/-- The operators and operands behind the first operand. `compared` says whether a comparison
stands directly before. -/
def operations (g : Grammar) (structs compared : Bool) : Nat → Reader (List Code)
  | 0 => failure
  | fuel + 1 => do
    let ts ← ahead
    if startsWord "as" ts then
      let word ← keyword "as"
      let target ← g.type false
      return word ++ target ++ (← operations g structs compared fuel)
    else if startsRange ts then
      let sign ← if startsPunct "..=" ts then punct "..=" else punct ".."
      let rest ← ahead
      if rest.isEmpty || startsPunct "," rest || startsPunct ";" rest || startsPunct "=>" rest ||
          (!structs && startsGroup .brace rest) then return sign
      else
        let next ← g.operand structs (rest.length + 1)
        return sign ++ next ++ (← operations g structs false fuel)
    else match operatorAhead? ts with
      | none => return []
      | some op =>
        if compared && comparisons.contains op then failure
        else
          let sign ← punct op
          let next ← g.operand structs ((← ahead).length + 1)
          let compared := if comparisons.contains op then true
            else if looser.contains op then false else compared
          return sign ++ next ++ (← operations g structs compared fuel)

/-- The rule of expressions; a range may lack its start. -/
def expressionRule (g : Grammar) (structs : Bool) : Reader (List Code) := do
  let attrs ← attributes
  let ts ← ahead
  if startsRange ts then return attrs ++ (← g.operations structs false (ts.length + 1))
  else
    let first ← g.operand structs (ts.length + 1)
    return attrs ++ first ++ (← g.operations structs false ((← ahead).length + 1))

/-- A `let` statement. -/
def letStatement (g : Grammar) : Reader (List Code) := do
  let word ← keyword "let"
  let pattern ← g.patternRule
  let typed ← if startsPunct ":" (← ahead) then do
      let colon ← punct ":"
      pure (colon ++ (← g.type true))
    else pure []
  let value ← if startsPunct "=" (← ahead) then do
      let equals ← punct "="
      pure (equals ++ (← g.expression))
    else pure []
  let otherwise ← if startsWord "else" (← ahead) then do
      let word ← keyword "else"
      pure (word ++ (← g.block))
    else pure []
  return word ++ pattern ++ typed ++ value ++ otherwise ++ (← punct ";")

/-- The rule of the statements of a block. -/
def statementsRule (g : Grammar) : Nat → Reader (List Code)
  | 0 => failure
  | fuel + 1 => do
    let ts ← ahead
    if ts.isEmpty then return []
    else if startsPunct ";" ts then
      let semicolon ← punct ";"
      return semicolon ++ (← statementsRule g fuel)
    else if startsWord "let" ts then
      let first ← g.letStatement
      return first ++ (← statementsRule g fuel)
    else if startsBlockLike ts then
      let first ← g.atom true
      let rest ← ahead
      if startsPunct "." rest || startsPunct "?" rest then
        let more ← g.suffixes (rest.length + 1)
        let more' ← g.operations true false (rest.length + 1)
        let semicolon ← punct? ";"
        if semicolon.isEmpty && !(← atEnd) then failure
        else return first ++ more ++ more' ++ semicolon ++ (← statementsRule g fuel)
      else return first ++ (← statementsRule g fuel)
    else
      let first ← g.expression
      let semicolon ← punct? ";"
      if semicolon.isEmpty && !(← atEnd) then failure
      else return first ++ semicolon ++ (← statementsRule g fuel)

/-- All rules over one grammar. -/
def rule (g : Grammar) : Phrase → Reader (TypeForm × List Code)
  | .type plus => g.typeRule plus
  | .expression structs => return (.other, ← g.expressionRule structs)
  | .statements => do return (.other, ← g.statementsRule ((← ahead).length + 1))
  | .pattern => return (.other, ← g.patternRule)

/-- The grammar of phrases that nest at most so deep. -/
def upTo : Nat → Grammar
  | 0 => fun _ => failure
  | depth + 1 => rule (upTo depth)

/-- A grammar deep enough for a text: each phrase inside another one leaves a token to it, but for
a bounded number of steps. -/
def forTrees (ts : List Tree) : Grammar := upTo (4 * sizeAll ts + 8)

end Grammar
end Syntax
end Theming
