/-
# Skins

A skin is a named table of colors and drawables. In a TOML file the ids are the keys of two
tables, and everything else of the file is checked before the first id is read.

| order | a skin file is refused if |
| --- | --- |
| 1 | it is no TOML, has no text `name`, or a color or drawable cannot be read |
| 2 | a key of `colors`, in byte order, is no id |
| 3 | a key of `drawables`, in byte order, is no id |

An id is an unsigned 32-bit numeral, perhaps with a `+`, between white space. Of two keys with one
id the later in byte order wins.
-/

import Theming.Data.Toml
import Theming.FileTree
import Theming.Resource.Codec
import Theming.Text.Blank

namespace Theming

/-- A table of values by id, in increasing order of the ids. -/
abbrev ResourceTable (α : Type) := List (ResourceId × α)

/-- The table with a value put under an id, in place of the one before. -/
def ResourceTable.insert {α : Type} (id : ResourceId) (value : α) :
    ResourceTable α → ResourceTable α
  | [] => [(id, value)]
  | (key, old) :: rest =>
    if id < key then (id, value) :: (key, old) :: rest
    else if id = key then (id, value) :: rest
    else (key, old) :: insert id value rest

/-- A named set of resources. -/
structure Skin where
  name : String
  colors : ResourceTable Color := []
  drawables : ResourceTable Drawable := []
deriving DecidableEq, Repr

/-- Why a skin cannot be loaded or switched to. -/
inductive SkinError where
  | unreadable (path : String) (fault : FileFault)
  | malformed
  | invalidResourceId (key : String)
  | unknownSkin (name : String)
deriving DecidableEq, Repr

/-- The wording of a skin error. -/
def SkinError.message : SkinError → String
  | .unreadable path fault => "Failed to read skin " ++ path ++ ": " ++ fault.message
  | .malformed => "Invalid skin file: not a skin"
  | .invalidResourceId key => "Invalid resource id: " ++ key
  | .unknownSkin name => "Unknown skin: " ++ name

namespace Skin

/-- The skin with a color under an id. -/
def withColor (skin : Skin) (id : ResourceId) (color : Color) : Skin :=
  { skin with colors := ResourceTable.insert id color skin.colors }

/-- The skin with a drawable under an id. -/
def withDrawable (skin : Skin) (id : ResourceId) (drawable : Drawable) : Skin :=
  { skin with drawables := ResourceTable.insert id drawable skin.drawables }

/-- The color of an id. -/
def color? (skin : Skin) (id : ResourceId) : Option Color := skin.colors.lookup id

/-- The drawable of an id. -/
def drawable? (skin : Skin) (id : ResourceId) : Option Drawable := skin.drawables.lookup id

/-! ## Skin files -/

/-- A skin file whose values have been read, but not its ids. -/
structure File where
  name : String
  colors : List (String × Color)
  drawables : List (String × Drawable)

/-- The entries of a table, each read in the same way. -/
def File.entries? {α : Type} (read : Data → Option α) : Data → Option (List (String × α))
  | .record members => members.mapM fun (key, d) => (read d).map fun value => (key, value)
  | _ => none

/-- The entries of a table that may be missing. -/
def File.table? {α : Type} (read : Data → Option α) (name : String)
    (members : List (String × Data)) : Option (List (String × α)) :=
  match Data.membersOf name members with
  | [] => some []
  | [d] => File.entries? read d
  | _ => none

/-- Reads the values of a skin file. -/
def File.ofData? : Data → Option File
  | .record members => do
    let name ← (← Data.member? "name" members).asText?
    let colors ← File.table? Color.ofData? "colors" members
    let drawables ← File.table? Drawable.ofData? "drawables" members
    return { name, colors, drawables }
  | _ => none

/-- The id that a key stands for. -/
def resourceId (key : String) : Except SkinError ResourceId :=
  match Text.word? 10 (Text.trim key.toList) with
  | some id => .ok id
  | none => .error (.invalidResourceId key)

/-- The entries of a table in byte order of their keys; the order of code points is the same. -/
def sortedByKey {α : Type} (entries : List (String × α)) : List (String × α) :=
  entries.mergeSort fun a b => decide (a.1 ≤ b.1)

/-- The table of the entries of a file, the later one winning. -/
def tableOf {α : Type} (entries : List (String × α)) : Except SkinError (ResourceTable α) :=
  (sortedByKey entries).foldlM (fun (table : ResourceTable α) (entry : String × α) => do
    let id ← resourceId entry.1
    return table.insert id entry.2) []

/-- The skin of a file. -/
def ofFile (file : File) : Except SkinError Skin := do
  let colors ← tableOf file.colors
  let drawables ← tableOf file.drawables
  return { name := file.name, colors, drawables }

/-- Reads a skin from TOML text. -/
def ofToml (text : String) : Except SkinError Skin :=
  match (Toml.parse? text).bind File.ofData? with
  | some file => ofFile file
  | none => .error .malformed

/-- Loads a skin from a file. -/
def load (tree : FileTree) (path : String) : Except SkinError Skin := do
  ofToml (← (tree.readText path).mapError (SkinError.unreadable path))

end Skin
end Theming
