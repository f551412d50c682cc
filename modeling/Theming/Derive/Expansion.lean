/-
# Derived code

From a declared type to its description, and to the code that the two derivations put beside it:
`Themed`, which tells the runtime the qualified name and the parent of the type, and
`ThemeBinding`, which adds the companion if a field is bound. Faults are reported in the order
generics, theme attributes, description, model.
-/

import Theming.Companion.Source
import Theming.Derive.Attributes

namespace Theming
namespace Derive

open Syntax (Code Tree Item NamedField Attribute)
open Syntax.Code (words paren bracket brace)

/-- The 32-bit key that an attribute gives: one integer literal, of any suffix. -/
def annotationKey (attr : Attribute) : Except DeriveError UInt32 :=
  match attr.arguments with
  | .list [.literal s] =>
    match (Syntax.integerValue? s).filter (· < UInt32.size) with
    | some n => .ok (UInt32.ofNat n)
    | none => .error .malformedAttribute
  | _ => .error .malformedAttribute

/-- The resource annotations among the attributes of a field. -/
def resourceAnnotations : List Attribute → Except DeriveError (List Annotation)
  | [] => .ok []
  | attr :: rest => do
    if attr.isNamed "bind_color" then
      let key ← annotationKey attr
      return .bindColor key :: (← resourceAnnotations rest)
    else if attr.isNamed "bind_drawable" then
      let key ← annotationKey attr
      return .bindDrawable key :: (← resourceAnnotations rest)
    else resourceAnnotations rest

/-- The description of a named field. -/
def describeField (field : NamedField) : Except DeriveError FieldDescription := do
  let annotations ← resourceAnnotations field.attributes
  if annotations.length > 1 then throw .severalAnnotations
  return { name := field.name, type := field.type.render, annotations }

/-- The description of a declared type: a struct with named fields or none at all. -/
def describe (item : Item) : Except DeriveError TypeDescription :=
  match item.body with
  | .named fields => do
    let fields ← fields.mapM describeField
    return { name := item.name, fields }
  | .unit => .ok { name := item.name }
  | .tuple => .error .unnamedFields
  | .enumeration => .error .notStruct
  | .union => .error .notStruct

/-- Refuses generic parameters. -/
def rejectGenerics (item : Item) : Except DeriveError Unit :=
  if item.isGeneric then .error .generic else .ok ()

/-- The code that names the type: as given, or from its module, enclosing types and simple name. -/
def nameCode (simple : String) (attrs : ThemeAttributes) : List Code :=
  match attrs.name with
  | some name => words ":: std :: string :: String :: from" ++ paren (Companion.string name)
  | none =>
    let enclosing := attrs.enclosing.map fun s => Code.word (Text.literal s)
    words ":: theme_runtime :: naming :: qualified_name" ++
      paren (words ":: core :: module_path !" ++ paren [] ++ words ", &" ++
        bracket (enclosing.intersperse (.word ",")) ++ words "," ++ Companion.string simple ++
        words ",")

/-- The function to the parent and the call that takes it, for a type that has one. -/
def parentCode (word : String) (attrs : ThemeAttributes) : List Code × List Code :=
  match attrs.extends', attrs.via with
  | some parent, some via =>
    (words "fn upcast" ++ paren (words "target : & mut" ++ [.word word]) ++ words "-> & mut" ++
        parent ++ brace (words "& mut target ." ++ [.word via]),
      words ". with_parent :: <" ++ [.word word] ++ words "," ++ parent ++ words ">" ++
        paren (words "upcast"))
  | _, _ => ([], [])

/-- The code of the type's information. -/
def themedCode (word : String) (attrs : ThemeAttributes) : List Code :=
  let (upcast, withParent) := parentCode word attrs
  words "#" ++ bracket (words "automatically_derived") ++
    words "impl :: theme_runtime :: Themed for" ++ [.word word] ++
    brace (words "fn type_info" ++ paren [] ++ words "-> & 'static :: theme_runtime :: TypeInfo" ++
      brace (words "static INFO : :: std :: sync :: OnceLock < :: theme_runtime :: TypeInfo > =" ++
        words ":: std :: sync :: OnceLock :: new" ++ paren [] ++ words "; INFO . get_or_init" ++
        paren (words "||" ++ brace (upcast ++ words ":: theme_runtime :: TypeInfo :: new :: <" ++
          [.word word] ++ words ">" ++ paren (nameCode word attrs) ++ withParent))))

/-- The code that `Themed` derives. -/
def expandThemed (item : Item) : Except DeriveError (List Code) := do
  rejectGenerics item
  let attrs ← themeAttributes item.attributes
  return themedCode item.name attrs

/-- The model of an item under its theme attributes. -/
def model (item : Item) (attrs : ThemeAttributes) : Except DeriveError DeclaringType := do
  let desc ← describe item
  let ty ← (DeclaringType.build desc).mapError .model
  return { ty with enclosing := attrs.enclosing }

/-- The code that `ThemeBinding` derives. -/
def expandBinding (item : Item) : Except DeriveError (List Code) := do
  rejectGenerics item
  let attrs ← themeAttributes item.attributes
  let ty ← model item attrs
  let companion ← (Companion.synthesize item.visibility ty).mapError .model
  return themedCode item.name attrs ++ companion.getD []

end Derive
end Theming
