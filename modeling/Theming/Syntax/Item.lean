/-
# Declared types

A struct, an enum or a union as it is written in source text, with everything that a derivation
looks at. Bounds, `where` clauses and discriminants are read and dropped.
-/

import Theming.Syntax.TypeExpr
import Theming.Syntax.Visibility

namespace Theming
namespace Syntax

/-- What follows the path of an attribute. -/
inductive AttributeArguments where
  | none
  /-- Tokens between delimiters of any kind. -/
  | list (content : List Tree)
  /-- A value behind `=`. -/
  | value
deriving Repr

/-- An attribute of an item or a field. -/
structure Attribute where
  /-- The words of its path; a leading `::` counts as an empty word. -/
  path : List String
  arguments : AttributeArguments
deriving Repr

/-- Whether an attribute is called by a single word. -/
def Attribute.isNamed (attr : Attribute) (name : String) : Bool := attr.path == [name]

/-- A named field. -/
structure NamedField where
  attributes : List Attribute
  name : String
  type : TypeExpr
deriving Repr

/-- What a type is made of. -/
inductive Body where
  | named (fields : List NamedField)
  | tuple
  | unit
  | enumeration
  | union
deriving Repr

/-- A declared type. -/
structure Item where
  attributes : List Attribute
  visibility : List Code
  name : String
  /-- Whether there is at least one generic parameter. -/
  isGeneric : Bool
  body : Body
deriving Repr

namespace ItemGrammar

open Reader

/-- The words of an attribute's path: identifiers and the keywords that paths may hold. -/
def attributeWords : Nat → Reader (List String)
  | 0 => failure
  | fuel + 1 => do
    let ts ← ahead
    let w ← if Grammar.startsPath ts then anyWord else identifier
    if startsPunct "::" (← ahead) then
      let _ ← punct "::"
      return w :: (← attributeWords fuel)
    else return [w]

/-- The arguments of an attribute. -/
def attributeArguments (g : Grammar) : Reader AttributeArguments := do
  let ts ← ahead
  match ts with
  | .group _ content :: _ =>
    let _ ← anyGroup
    return .list content
  | _ =>
    if startsPunct "=" ts then
      let _ ← punct "="
      if startsPunct "#" (← ahead) then failure
      let _ ← g.expression
      return .value
    else return .none

/-- One attribute. -/
def oneAttribute (g : Grammar) : Reader Attribute := do
  let _ ← punct "#"
  group .bracket do
    if startsWord "unsafe" (← ahead) then
      let word ← anyWord
      return ⟨[word], ← attributeArguments g⟩
    else
      let colons ← punct? "::"
      let words ← attributeWords ((← ahead).length + 1)
      let arguments ← attributeArguments g
      return ⟨(if colons.isEmpty then [] else [""]) ++ words, arguments⟩

/-- The attributes in front. -/
def attributes (g : Grammar) : Reader (List Attribute) := many (startsPunct "#") (oneAttribute g)

/-- The bounds of a parameter, up to a token that cannot go on with them. -/
def parameterBounds (g : Grammar) (stop : List Tree → Bool) : Reader Unit := do
  let _ ← Grammar.boundsUntil stop g.oneBound ((← ahead).length + 1)

/-- One generic parameter. -/
def parameter (g : Grammar) : Reader Unit := do
  let _ ← attributes g
  let ts ← ahead
  if startsLifetime ts then
    let _ ← Grammar.lifetimeParam
  else if startsWord "const" ts then
    let _ ← keyword "const"
    let _ ← identifier
    let _ ← punct ":"
    let _ ← g.type true
    if startsPunct "=" (← ahead) then
      let _ ← punct "="
      let ts ← ahead
      if startsIdentifier ts then
        let _ ← identifier
      else
        let _ ← g.constArgument
  else
    if startsWord "_" ts then
      let _ ← anyWord
    else
      let _ ← identifier
    if startsPunct ":" (← ahead) then
      let _ ← punct ":"
      parameterBounds g fun ts => startsPunct "," ts || startsPunct ">" ts || startsPunct "=" ts
    if startsPunct "=" (← ahead) then
      let _ ← punct "="
      let _ ← g.type true

/-- Generic parameters up to a closing angle, counted. -/
def parameters (g : Grammar) : Nat → Reader Nat
  | 0 => failure
  | fuel + 1 => do
    if startsPunct ">" (← ahead) then return 0
    parameter g
    if startsPunct ">" (← ahead) then return 1
    let _ ← punct ","
    return (← parameters g fuel) + 1

/-- Whether there are generic parameters; empty angles have none. -/
def generics (g : Grammar) : Reader Bool := do
  if startsPunct "<" (← ahead) then
    let _ ← punct "<"
    let count ← parameters g ((← ahead).length + 1)
    let _ ← punct ">"
    return count != 0
  else return false

/-- Where the predicates of a `where` clause end. -/
def endsPredicates (ts : List Tree) : Bool :=
  ts.isEmpty || startsGroup .brace ts || startsPunct "," ts || startsPunct ";" ts ||
    startsPunct ":" ts && !startsPunct "::" ts || startsPunct "=" ts

/-- One predicate of a `where` clause. -/
def predicate (g : Grammar) : Reader Unit := do
  let ts ← ahead
  if startsLifetime ts && startsPunct ":" (ts.drop 1) then
    let _ ← lifetime
    let _ ← punct ":"
    parameterBounds g endsPredicates
  else
    let _ ← Grammar.binder?
    let _ ← g.type true
    let _ ← punct ":"
    parameterBounds g endsPredicates

/-- The predicates of a `where` clause. -/
def predicates (g : Grammar) : Nat → Reader Unit
  | 0 => failure
  | fuel + 1 => do
    if endsPredicates (← ahead) then return
    predicate g
    if startsPunct "," (← ahead) then
      let _ ← punct ","
      predicates g fuel

/-- A `where` clause, if one comes first. -/
def whereClause (g : Grammar) : Reader Bool := do
  if startsWord "where" (← ahead) then
    let _ ← keyword "where"
    predicates g ((← ahead).length + 1)
    return true
  else return false

/-- Takes items separated by commas until the list ends. -/
def listToEnd {α : Type} (item : Reader α) : Nat → Reader (List α)
  | 0 => failure
  | fuel + 1 => do
    if ← atEnd then return []
    let first ← item
    if ← atEnd then return [first]
    let _ ← punct ","
    return first :: (← listToEnd item fuel)

/-- Whether a struct or union without a name comes first. -/
def startsAnonymous (ts : List Tree) : Bool :=
  startsWord "struct" ts || startsWord "union" ts && startsGroup .brace (ts.drop 1)

/-- A named field. A field `_` may have a struct or a union without a name as its type; `depth`
bounds how deep these nest. -/
def namedField (g : Grammar) : (depth : Nat) → Reader NamedField
  | 0 => failure
  | depth + 1 => do
    let attrs ← attributes g
    let _ ← visibility
    let unnamed := startsWord "_" (← ahead)
    let name ← if unnamed then anyWord else identifier
    let _ ← punct ":"
    let ts ← ahead
    if unnamed && startsAnonymous ts then
      let _ ← anyWord
      let _ ← group .brace (do listToEnd (namedField g depth) ((← ahead).length + 1))
      return ⟨attrs, name, { code := Code.ofTrees "" (ts.take 2) }⟩
    else return ⟨attrs, name, ← TypeExpr.reader g⟩

/-- A field without a name. -/
def tupleField (g : Grammar) : Reader Unit := do
  let _ ← attributes g
  let _ ← visibility
  let _ ← g.type true

/-- The named fields between braces. -/
def namedFields (g : Grammar) : Reader (List NamedField) :=
  group .brace do
    let ts ← ahead
    listToEnd (namedField g (sizeAll ts + 1)) (ts.length + 1)

/-- The fields without names between parentheses. -/
def tupleFields (g : Grammar) : Reader Unit := do
  let _ ← group .paren (do listToEnd (tupleField g) ((← ahead).length + 1))

/-- A variant of an enum. -/
def variant (g : Grammar) : Reader Unit := do
  let _ ← attributes g
  let _ ← visibility
  let _ ← identifier
  let ts ← ahead
  if startsGroup .brace ts then
    let _ ← namedFields g
  else if startsGroup .paren ts then tupleFields g
  if startsPunct "=" (← ahead) then
    let _ ← punct "="
    let _ ← g.expression

/-- What follows the name and the parameters of a struct. -/
def structBody (g : Grammar) : Reader Body := do
  let hasWhere ← whereClause g
  let ts ← ahead
  if !hasWhere && startsGroup .paren ts then
    tupleFields g
    let _ ← whereClause g
    let _ ← punct ";"
    return .tuple
  else if startsGroup .brace ts then return .named (← namedFields g)
  else
    let _ ← punct ";"
    return .unit

/-- The rule of declared types. -/
def reader (g : Grammar) : Reader Item := do
  let attrs ← attributes g
  let vis ← visibility
  let word ← anyWord
  let name ← identifier
  let isGeneric ← generics g
  match word with
  | "struct" => return ⟨attrs, vis, name, isGeneric, ← structBody g⟩
  | "enum" =>
    let _ ← whereClause g
    let _ ← group .brace (do listToEnd (variant g) ((← ahead).length + 1))
    return ⟨attrs, vis, name, isGeneric, .enumeration⟩
  | "union" =>
    let _ ← whereClause g
    let _ ← namedFields g
    return ⟨attrs, vis, name, isGeneric, .union⟩
  | _ => failure

end ItemGrammar

/-- Reads a text as a declared type. -/
def Item.parse? (s : String) : Option Item :=
  (trees? s).bind fun ts => (ItemGrammar.reader (Grammar.forTrees ts)).run? ts

end Syntax
end Theming
