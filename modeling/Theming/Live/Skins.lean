/-
# Skins of a manager

The first skin that is added becomes active. An active skin stays as it is when a skin of its name
is added again. Ids that the active skin lacks, and all ids as long as there is none, stand for a
transparent color and an empty drawable, with a warning.

Of a directory every file with the extension `toml` is loaded, in byte order of the names; those
that are no skins are skipped with a warning.
-/

import Theming.Live.World
import Theming.Path

namespace Theming
namespace Live

namespace SkinManager

/-- The manager with a skin, in place of the one of its name. -/
def add (m : SkinManager) (skin : Skin) : SkinManager :=
  { m with skins := World.named skin.name skin m.skins, active := m.active.or (some skin) }

/-- The skin of a name. -/
def skin? (m : SkinManager) (name : String) : Option Skin := m.skins.lookup name

/-- The names of the known skins, sorted. -/
def names (m : SkinManager) : List String :=
  (m.skins.map Prod.fst).mergeSort fun a b => decide (a ≤ b)

/-- The color of an id, or what to warn of. -/
def color (m : SkinManager) (id : ResourceId) : Except String Color :=
  match m.active with
  | none => .error ("No active skin; color " ++ toString id.toNat ++ " is transparent")
  | some skin =>
    match skin.color? id with
    | some color => .ok color
    | none => .error ("Skin " ++ skin.name ++ " has no color " ++ toString id.toNat)

/-- The drawable of an id, or what to warn of. -/
def drawable (m : SkinManager) (id : ResourceId) : Except String Drawable :=
  match m.active with
  | none => .error ("No active skin; drawable " ++ toString id.toNat ++ " is empty")
  | some skin =>
    match skin.drawable? id with
    | some drawable => .ok drawable
    | none => .error ("Skin " ++ skin.name ++ " has no drawable " ++ toString id.toNat)

end SkinManager

namespace World

/-- A manager; one that does not exist has no skins. -/
def manager (w : World) (id : ManagerId) : SkinManager := (w.managers[id]?).getD ⟨0, [], none⟩

/-- Changes a manager. -/
def modifyManager (w : World) (id : ManagerId) (f : SkinManager → SkinManager) : World :=
  { w with managers := w.managers.modify id f }

/-- Adds a skin to a manager. -/
def addSkin (w : World) (id : ManagerId) (skin : Skin) : World :=
  let w := if (w.manager id).active.isSome then w
    else w.tell .debug ("Skin " ++ skin.name ++ " is now active")
  w.modifyManager id fun m => m.add skin

/-- Loads a skin file into a manager and gives the name of the skin. -/
def loadSkin (w : World) (tree : FileTree) (id : ManagerId) (path : String) :
    Except SkinError String × World :=
  match Skin.load tree path with
  | .error e => (.error e, w)
  | .ok skin =>
    let w := w.tell .debug ("Loaded skin " ++ skin.name ++ " from " ++ path)
    (.ok skin.name, w.addSkin id skin)

/-- Loads skin files in order, skipping those that are none. -/
def loadFiles (w : World) (tree : FileTree) (id : ManagerId) :
    List String → List String × World
  | [] => ([], w)
  | path :: rest =>
    match w.loadSkin tree id path with
    | (.ok name, w) =>
      let (names, w) := loadFiles w tree id rest
      (name :: names, w)
    | (.error e, w) =>
      loadFiles (w.tell .warn ("Skipping skin " ++ path ++ ": " ++ e.message)) tree id rest

/-- The skin files of a directory whose entries are given, in byte order of their names. -/
def skinFiles (directory : String) (names : List String) : List String :=
  ((names.mergeSort fun a b => decide (a ≤ b)).map (Path.join directory)).filter fun path =>
    Path.extension? path == some "toml"

/-- Loads the skin files of a directory and gives the names of the skins. -/
def loadDirectory (w : World) (tree : FileTree) (id : ManagerId) (directory : String) :
    Except SkinError (List String) × World :=
  if !tree.contains directory then
    (.ok [], w.tell .debug ("Skin directory does not exist: " ++ directory))
  else
    match tree.namesIn directory with
    | .error fault => (.error (.unreadable directory fault), w)
    | .ok names =>
      let (loaded, w) := w.loadFiles tree id (skinFiles directory names)
      (.ok loaded, w)

/-- Looks up a color. -/
def lookupColor (w : World) (manager : ManagerId) (id : ResourceId) : Color × World :=
  match (w.manager manager).color id with
  | .ok color => (color, w)
  | .error warning => (.transparent, w.tell .warn warning)

/-- Looks up a drawable. -/
def lookupDrawable (w : World) (manager : ManagerId) (id : ResourceId) : Drawable × World :=
  match (w.manager manager).drawable id with
  | .ok drawable => (drawable, w)
  | .error warning => (.empty, w.tell .warn warning)

/-- Looks up a resource of a kind. -/
def lookup (w : World) (manager : ManagerId) (kind : ResourceKind) (id : ResourceId) :
    Resource × World :=
  match kind with
  | .color =>
    let (color, w) := w.lookupColor manager id
    (.color color, w)
  | .drawable =>
    let (drawable, w) := w.lookupDrawable manager id
    (.drawable drawable, w)

end World
end Live
end Theming
