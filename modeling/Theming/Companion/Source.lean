/-
# Source of a companion

The code of a companion is one struct and three `impl` blocks around five lists of statements,
each with one statement per field concerned, in the order of declaration.

| list | fields | where it stands |
| --- | --- | --- |
| allocations | reactive | `init_variables`, which exists only if there is one |
| pending | reactive | `update_theme`, before the update |
| updates | all | `update_theme`, under the lock of the target |
| publishes | reactive | `update_theme`, after the lock is dropped |
| resets | all but reactive | `unbind`, after the listener is removed and the target found |

The constructor allocates, updates, and only then adds the listener.
-/

import Theming.Declaration
import Theming.Text.Quoted

namespace Theming
namespace Companion

open Syntax (Code)
open Syntax.Code (words paren bracket brace)

/-- A bound field and the word of its name in code. -/
structure Member where
  word : String
  binding : Binding
deriving DecidableEq, Repr

/-- What the code of a companion is made from. -/
structure Source where
  visibility : List Code
  /-- The word of the declaring type. -/
  target : String
  /-- The word of the companion. -/
  companion : String
  /-- The names as given, for documentation and strings. -/
  targetName : String
  companionName : String
  members : List Member

/-! ## Statements -/

/-- A string literal. -/
def string (s : String) : List Code := [.word (Text.literal s)]

/-- `Some(…)`. -/
def some' (inner : List Code) : List Code := words ":: core :: option :: Option :: Some" ++ paren inner

/-- `None`. -/
def none' : List Code := words ":: core :: option :: Option :: None"

/-- `Into::into(…)`. -/
def into (inner : List Code) : List Code := words ":: core :: convert :: Into :: into" ++ paren inner

/-- `Clone::clone(…)`. -/
def clone (inner : List Code) : List Code := words ":: core :: clone :: Clone :: clone" ++ paren inner

/-- `Default::default()`. -/
def default' : List Code := words ":: core :: default :: Default :: default" ++ paren []

/-- The variable that holds a reactive field's slot and value until they are published. -/
def Member.pending (m : Member) : String := "pending_" ++ Syntax.withoutRaw m.word

/-- The field of the target. -/
def Member.place (m : Member) : List Code := words "target ." ++ [.word m.word]

/-- The current resource of a binding's kind and key. -/
def lookup (b : Binding) : List Code :=
  words (match b.kind with
    | .color => "resources . get_color"
    | .drawable => "resources . get_drawable") ++ paren [.word (toString b.key.toNat)]

/-- Gives a reactive field a fresh slot. -/
def Member.allocation (m : Member) : List Code := m.place ++ words "=" ++ default' ++ words ";"

/-- Declares what a reactive field will publish. -/
def Member.declaration (m : Member) : List Code :=
  words "let mut" ++ [.word m.pending] ++ words "=" ++ none' ++ words ";"

/-- Takes over the current resource in the form of the field's shape. -/
def Member.update (m : Member) : List Code :=
  match m.binding.shape with
  | .reactive =>
    .word m.pending :: words "=" ++
      some' (paren (clone (words "&" ++ m.place) ++ words "," ++ into (lookup m.binding) ++
        words ",")) ++ words ";"
  | .reference => m.place ++ words "=" ++ some' (into (lookup m.binding)) ++ words ";"
  | .value => m.place ++ words "=" ++ into (lookup m.binding) ++ words ";"

/-- Publishes the value of a reactive field. -/
def Member.publish (m : Member) : List Code :=
  words "if let" ++ some' (paren (words "reactive , value")) ++ words "=" ++ [.word m.pending] ++
    brace (words "reactive . set_value" ++ paren (words "value") ++ words ";")

/-- Resets a field that is not reactive. -/
def Member.reset (m : Member) : List Code :=
  match m.binding.shape with
  | .reactive => []
  | .reference => m.place ++ words "=" ++ none' ++ words ";"
  | .value => m.place ++ words "=" ++ default' ++ words ";"

/-- Whether the field of a member is reactive. -/
def Member.isReactive (m : Member) : Bool := m.binding.shape == .reactive

namespace Source

/-- The reactive fields, in order. -/
def reactive (s : Source) : List Member := s.members.filter Member.isReactive

/-- The fields that are reset, in order. -/
def resettable (s : Source) : List Member := s.members.filter fun m => !m.isReactive

/-- `target.update(|target| { … });` -/
def updateTarget (statements : List Code) : List Code :=
  words "target . update" ++ paren (words "| target |" ++ brace statements) ++ words ";"

/-! ## Parts -/

/-- An attribute. -/
def attribute' (inner : List Code) : List Code := words "#" ++ bracket inner

/-- A line of documentation. -/
def doc (literal : String) : List Code := attribute' (words "doc =" ++ [.word literal])

/-- The struct. -/
def declaration (s : Source) : List Code :=
  doc (Text.literal ("Theme binding companion for [`" ++ s.targetName ++ "`].")) ++
    s.visibility ++ words "struct" ++ [.word s.companion] ++
    brace (words "context : :: theme_runtime :: ThemeContext , target :" ++
      words ":: theme_runtime :: parking_lot :: Mutex < :: core :: option :: Option <" ++
      words ":: theme_runtime :: TargetHandle <" ++ [.word s.target] ++ words ">> , > ,")

/-- The call that allocates, where there is something to allocate. -/
def initCall (s : Source) : List Code :=
  if s.reactive.isEmpty then [] else words "binding . init_variables" ++ paren [] ++ words ";"

/-- The constructor. -/
def constructor (s : Source) : List Code :=
  doc "r\" Bind a new companion to `target`, apply the current theme and\"" ++
    doc "r\" start listening for theme changes.\"" ++ s.visibility ++ words "fn new" ++
    paren (words "target : :: theme_runtime :: TargetHandle <" ++ [.word s.target] ++
      words "> , context : & :: theme_runtime :: ThemeContext ,") ++
    words "-> :: std :: sync :: Arc < Self >" ++
    brace (words "let binding = Self" ++
      brace (words "context :" ++ clone (words "context") ++
        words ", target : :: theme_runtime :: parking_lot :: Mutex :: new" ++
        paren (some' (words "target") ++ words ",") ++ words ",") ++ words ";" ++
      s.initCall ++ words "binding . update_theme" ++ paren [] ++
      words "; let binding = :: std :: sync :: Arc :: new" ++ paren (words "binding") ++
      words "; context . broadcaster" ++ paren [] ++ words ". add_listener" ++
      paren (words ":: std :: sync :: Arc :: clone" ++ paren (words "& binding") ++
        words "as :: std :: sync :: Arc < dyn :: theme_runtime :: ThemeListener >") ++
      words "; binding")

/-- The registry entry. -/
def entry (s : Source) : List Code :=
  doc "r\" Registry entry for this companion.\"" ++ s.visibility ++ words "fn entry" ++ paren [] ++
    words "-> :: theme_runtime :: CompanionEntry" ++
    brace (words ":: theme_runtime :: CompanionEntry :: new :: <" ++ [.word s.target] ++
      words ">" ++ paren (words ":: theme_runtime :: naming :: companion_path" ++
        paren (words "<" ++ [.word s.target] ++
          words "as :: theme_runtime :: Themed > :: type_info" ++ paren [] ++ words ". name" ++
          paren [] ++ words ",") ++
        words "," ++ string s.companionName ++ words ", Self :: construct ,"))

/-- The registration. -/
def register (s : Source) : List Code :=
  doc "r\" Make this companion discoverable by the type resolver.\"" ++ s.visibility ++
    words "fn register" ++ paren (words "registry : & :: theme_runtime :: CompanionRegistry") ++
    brace (words "registry . register" ++ paren (words "Self :: entry" ++ paren []) ++ words ";")

/-- The constructor behind the registry entry. -/
def construct (s : Source) : List Code :=
  words "fn construct" ++
    paren (words "target : :: theme_runtime :: ErasedTarget ," ++
      words "context : & :: theme_runtime :: ThemeContext ,") ++
    words "-> :: core :: result :: Result < :: std :: sync :: Arc <" ++
    words "dyn :: theme_runtime :: Unbinder > , :: theme_runtime :: BindingError , >" ++
    brace (words "let target = target . downcast :: <" ++ [.word s.target] ++ words ">" ++
      paren [] ++ words "? ; let binding : :: std :: sync :: Arc <" ++
      words "dyn :: theme_runtime :: Unbinder > = Self :: new" ++
      paren (words "target , context") ++ words "; :: core :: result :: Result :: Ok" ++
      paren (words "binding"))

/-- The allocations, where there are some. -/
def initVariables (s : Source) : List Code :=
  if s.reactive.isEmpty then []
  else
    words "fn init_variables" ++ paren (words "& self") ++
      brace (words "let" ++ some' (words "target") ++ words "= self . target . lock" ++ paren [] ++
        words ". clone" ++ paren [] ++ words "else" ++ brace (words "return ;") ++ words ";" ++
        updateTarget (s.reactive.flatMap Member.allocation))

/-- The update: all fields under the lock, then the reactive ones are published. -/
def updateTheme (s : Source) : List Code :=
  doc "r\" Recompute every bound field from the current resources.\"" ++ s.visibility ++
    words "fn update_theme" ++ paren (words "& self") ++
    brace (words "let guard = self . target . lock" ++ paren [] ++ words "; let" ++
      some' (words "target") ++ words "= guard . as_ref" ++ paren [] ++ words "else" ++
      brace (words "return ;") ++ words "; let resources = self . context . resources" ++
      paren [] ++ words ";" ++ s.reactive.flatMap Member.declaration ++
      updateTarget (s.members.flatMap Member.update) ++ words ":: core :: mem :: drop" ++
      paren (words "guard") ++ words ";" ++ s.reactive.flatMap Member.publish)

/-- The block of the companion's own functions. -/
def inherent (s : Source) : List Code :=
  attribute' (words "allow" ++ paren (words "dead_code")) ++ words "impl" ++ [.word s.companion] ++
    brace (s.constructor ++ s.entry ++ s.register ++ s.construct ++ s.initVariables ++
      s.updateTheme)

/-- The listener block. -/
def listener (s : Source) : List Code :=
  attribute' (words "automatically_derived") ++
    words "impl :: theme_runtime :: ThemeListener for" ++ [.word s.companion] ++
    brace (words "fn apply_theme" ++ paren (words "& self") ++
      brace (words "self . update_theme" ++ paren [] ++ words ";"))

/-- The resets, or nothing to do with the target. -/
def release (s : Source) : List Code :=
  if s.resettable.isEmpty then words "let _ = target ;"
  else updateTarget (s.members.flatMap Member.reset)

/-- The release block. -/
def unbinder (s : Source) : List Code :=
  attribute' (words "automatically_derived") ++
    words "impl :: theme_runtime :: Unbinder for" ++ [.word s.companion] ++
    brace (words "fn unbind" ++ paren (words "& self") ++
      words "-> :: core :: result :: Result <" ++ paren [] ++
      words ", :: theme_runtime :: BindingError >" ++
      brace (words "self . context . broadcaster" ++ paren [] ++ words ". remove_listener" ++
        paren (words "self") ++ words "; let guard = self . target . lock" ++ paren [] ++
        words "; let target = guard . as_ref" ++ paren [] ++ words ". ok_or_else" ++
        paren (words "||" ++ brace (words ":: theme_runtime :: BindingError :: AlreadyCleared" ++
          paren (words ":: std :: string :: String :: from" ++ paren (string s.companionName) ++
            words ","))) ++ words "? ;" ++ s.release ++
        words ":: core :: result :: Result :: Ok" ++ paren (paren [])) ++
      words "fn clear" ++ paren (words "& self") ++
      brace (words "self . target . lock" ++ paren [] ++ words ". take" ++ paren [] ++
        words ";") ++
      words "fn companion_name" ++ paren (words "& self") ++ words "-> & 'static str" ++
      brace (string s.companionName))

/-- The whole code of a companion. -/
def code (s : Source) : List Code := s.declaration ++ s.inherent ++ s.listener ++ s.unbinder

end Source

/-- The members of bound fields; each name must hold an identifier. -/
def membersOf : List FieldBinding → Except ModelError (List Member)
  | [] => .ok []
  | field :: rest => do
    let word ← checkIdentifier field.name
    let members ← membersOf rest
    return ⟨word, field.toBinding⟩ :: members

/-- The visibility of companions that no item gives one. -/
def defaultVisibility : List Code := words "pub"

/-- What the companion of a type is made from; none without bound fields. -/
def Source.ofType (visibility : List Code) (ty : DeclaringType) :
    Except ModelError (Option Source) :=
  if ty.qualifies then do
    let target ← checkIdentifier ty.name
    let companion ← checkIdentifier ty.companionName
    let members ← membersOf ty.fields
    return some
      { visibility, target, companion, targetName := ty.name, companionName := ty.companionName,
        members }
  else .ok none

/-- The code of a type's companion; none without bound fields. -/
def synthesize (visibility : List Code) (ty : DeclaringType) :
    Except ModelError (Option (List Code)) :=
  (Source.ofType visibility ty).map (Option.map Source.code)

/-- The first line of a generated file. -/
def header (ty : DeclaringType) : String :=
  "// @generated by themegen for `" ++ ty.qualifiedName ++ "`. Do not edit."

/-- The text of a generated file; none without bound fields. -/
def render (visibility : List Code) (ty : DeclaringType) : Except ModelError (Option String) :=
  (synthesize visibility ty).map (Option.map fun code =>
    header ty ++ "\n\n" ++ Code.render code ++ "\n")

end Companion
end Theming
