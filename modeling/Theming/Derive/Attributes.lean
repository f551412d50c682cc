/-
# Theme attributes

`#[theme(…)]` on a type holds entries `key = value`, each with or without a comma behind it.

| key | value | inside one attribute | over several attributes |
| --- | --- | --- | --- |
| `name` | string | last | last |
| `enclosing` | string, cut at dots, empty parts dropped | last | last that is not empty |
| `extends` | path | last | last |
| `via` | identifier | last | last |

After merging, `extends` and `via` must both be there or both be missing.
-/

import Theming.Declaration
import Theming.Syntax.Item
import Theming.Syntax.Literal

namespace Theming

/-- Why nothing can be derived for an item. -/
inductive DeriveError where
  /-- The content of an attribute cannot be read. -/
  | malformedAttribute
  | unknownKey (key : String)
  | extendsWithoutVia
  | viaWithoutExtends
  | generic
  | notStruct
  | unnamedFields
  | severalAnnotations
  | model (error : ModelError)
deriving DecidableEq, Repr

/-- The wording of a derivation error. -/
def DeriveError.message : DeriveError → String
  | .malformedAttribute => "unreadable attribute"
  | .unknownKey key => "unknown theme attribute: " ++ key
  | .extendsWithoutVia => "`extends` needs `via = <field>` naming the field that holds the parent"
  | .viaWithoutExtends => "`via` without `extends`"
  | .generic => "theme bindings do not support generic types"
  | .notStruct => "ThemeBinding can only be derived for structs"
  | .unnamedFields => "ThemeBinding needs named fields"
  | .severalAnnotations => "a field can carry only one resource annotation"
  | .model error => error.message

namespace Derive

open Syntax (Code Tree Grammar Attribute)

/-- One entry of a theme attribute. -/
inductive ThemeEntry where
  | name (text : String)
  | enclosing (segments : List String)
  | extends' (path : List Code)
  | via (field : String)
deriving Repr

/-- The theme attributes of an item. -/
structure ThemeAttributes where
  name : Option String := none
  enclosing : List String := []
  extends' : Option (List Code) := none
  via : Option String := none
deriving Repr, Inhabited

/-- The parts of an enclosing text between its dots that are not empty. -/
def enclosingSegments (text : String) : List String :=
  ((text.toList.splitOn Naming.nestingSeparator).map String.ofList).filter fun s => !s.isEmpty

/-- Sets what an entry says. -/
def ThemeAttributes.set (attrs : ThemeAttributes) : ThemeEntry → ThemeAttributes
  | .name text => { attrs with name := some text }
  | .enclosing segments => { attrs with enclosing := segments }
  | .extends' path => { attrs with extends' := some path }
  | .via field => { attrs with via := some field }

/-- The attributes that the entries of one attribute say. -/
def ThemeAttributes.ofEntries (entries : List ThemeEntry) : ThemeAttributes :=
  entries.foldl ThemeAttributes.set {}

/-- The attributes with what a later attribute says on top. -/
def ThemeAttributes.merge (sofar later : ThemeAttributes) : ThemeAttributes where
  name := later.name.or sofar.name
  enclosing := if later.enclosing.isEmpty then sofar.enclosing else later.enclosing
  extends' := later.extends'.or sofar.extends'
  via := later.via.or sofar.via

/-- The attributes whose parent entries fit together. -/
def ThemeAttributes.check (attrs : ThemeAttributes) : Except DeriveError ThemeAttributes :=
  match attrs.extends', attrs.via with
  | some _, none => .error .extendsWithoutVia
  | none, some _ => .error .viaWithoutExtends
  | _, _ => .ok attrs

/-- The value of an entry of a key, and the tokens behind it. -/
def entryValue (key : String) (ts : List Tree) : Except DeriveError (ThemeEntry × List Tree) :=
  let orMalformed (r : Option (ThemeEntry × List Tree)) := match r with
    | some found => Except.ok found
    | none => .error .malformedAttribute
  match key with
  | "name" => orMalformed (match ts with
    | .literal s :: rest => (Syntax.stringValue? s).map fun v => (.name v, rest)
    | _ => none)
  | "enclosing" => orMalformed (match ts with
    | .literal s :: rest =>
      (Syntax.stringValue? s).map fun v => (.enclosing (enclosingSegments v), rest)
    | _ => none)
  | "extends" =>
    let fuel := 4 * ts.length + 8
    orMalformed (((Grammar.forTrees ts).path false fuel ts).map fun (p, rest) =>
      (.extends' p.code, rest))
  | "via" => orMalformed ((Syntax.Reader.identifier ts).map fun (w, rest) => (.via w, rest))
  | _ => .error (.unknownKey key)

/-- The entries of an attribute's tokens. -/
def entries : Nat → List Tree → Except DeriveError (List ThemeEntry)
  | _, [] => .ok []
  | 0, _ => .error .malformedAttribute
  | fuel + 1, .word key :: .punct '=' _ :: ts => do
    if !Syntax.isIdentifier key then throw .malformedAttribute
    let (entry, rest) ← entryValue key ts
    let rest := match rest with
      | .punct ',' _ :: rest => rest
      | _ => rest
    return entry :: (← entries fuel rest)
  | _, _ => .error .malformedAttribute

/-- The attributes that one theme attribute says. -/
def ofAttribute (attr : Attribute) : Except DeriveError ThemeAttributes :=
  match attr.arguments with
  | .list content => (entries (content.length + 1) content).map ThemeAttributes.ofEntries
  | _ => .error .malformedAttribute

/-- The theme attributes among the attributes of an item, merged and checked. -/
def themeAttributes (attrs : List Attribute) : Except DeriveError ThemeAttributes := do
  let parts ← (attrs.filter fun a => a.isNamed "theme").mapM ofAttribute
  (parts.foldl ThemeAttributes.merge {}).check

end Derive
end Theming
