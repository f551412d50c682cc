/-
# Manifests

A manifest lists the described types of a generation run, and perhaps where the companions go.

| order | a manifest cannot be loaded if |
| --- | --- |
| 1 | nothing is found at its path |
| 2 | it cannot be read as text |
| 3 | its extension is neither `toml` nor `json` |
| 4 | its text does not have that format |

Both members, `output` and `types`, may be missing; `output` may be null in JSON.
-/

import Theming.Data.Json
import Theming.Data.Toml
import Theming.Declaration
import Theming.Description.Codec
import Theming.FileTree
import Theming.Log
import Theming.Path

namespace Theming

/-- The described types of a generation run. -/
structure Manifest where
  output : Option String := none
  types : List TypeDescription := []

/-- Why a manifest gives no models. -/
inductive ManifestError where
  | notFound (path : String)
  | unsupportedFormat (path : String)
  | unreadable (fault : FileFault)
  | malformedToml
  | malformedJson
  | model (type : String) (error : ModelError)
deriving DecidableEq, Repr

/-- The wording of a manifest error. -/
def ManifestError.message : ManifestError → String
  | .notFound path => "Manifest not found: " ++ path
  | .unsupportedFormat path =>
    "Unsupported manifest format (expected .toml or .json): " ++ path
  | .unreadable fault => "Failed to read file: " ++ fault.message
  | .malformedToml => "Failed to parse TOML: not a manifest"
  | .malformedJson => "Failed to parse JSON: not a manifest"
  | .model type error => "Invalid declaring type " ++ type ++ ": " ++ error.message

/-- The wordings of what lies behind a manifest error, the nearest first. -/
def ManifestError.causes : ManifestError → List String
  | .unreadable fault => [fault.message]
  | .malformedToml => ["not a manifest"]
  | .malformedJson => ["not a manifest"]
  | .model _ error => [error.message]
  | _ => []

namespace Manifest

/-- The output directory of a manifest that names none. -/
def defaultOutput : String := "generated"

/-! ## In documents -/

/-- A manifest as a document value. -/
def toData (manifest : Manifest) : Data :=
  .record [("output", match manifest.output with
    | some path => .text path
    | none => .null), ("types", .list (TypeDescription.allToData manifest.types))]

/-- The members of a manifest that have been read. -/
structure Draft where
  output : Option (Option String) := none
  types : Option (List TypeDescription) := none

/-- The members of a manifest in order. -/
def memberNames : List String := ["output", "types"]

/-- An optional text. -/
def output? : Data → Option (Option String)
  | .null => some none
  | .text s => some (some s)
  | _ => none

/-- Reads one member of a manifest. -/
def Draft.add? (positional : Bool) (draft : Draft) (name : String) (d : Data) : Option Draft :=
  match name with
  | "output" => (Data.once draft.output (output? d)).map fun v => { draft with output := v }
  | "types" =>
    (Data.once draft.types (d.asList?.bind (TypeDescription.allOfData? positional))).map
      fun v => { draft with types := v }
  | _ => some draft

/-- Reads members of a manifest in order. -/
def Draft.addAll? (positional : Bool) (draft : Draft) (members : List (String × Data)) :
    Option Draft :=
  members.foldlM (fun draft m => draft.add? positional m.1 m.2) draft

/-- The manifest of a finished draft. -/
def Draft.finish (draft : Draft) : Manifest :=
  { output := draft.output.getD none, types := draft.types.getD [] }

/-- Reads a manifest from a document value. -/
def ofData? (positional : Bool) : Data → Option Manifest
  | .record members => (Draft.addAll? positional {} members).map Draft.finish
  | .list items =>
    if positional && items.length ≤ memberNames.length then
      (Draft.addAll? positional {} (memberNames.zip items)).map Draft.finish
    else none
  | _ => none

/-- Reads a manifest from TOML text. -/
def ofToml (text : String) : Except ManifestError Manifest :=
  match (Toml.parse? text).bind (ofData? false) with
  | some manifest => .ok manifest
  | none => .error .malformedToml

/-- Reads a manifest from JSON text. -/
def ofJson (text : String) : Except ManifestError Manifest :=
  match (Json.parse? text).bind (ofData? true) with
  | some manifest => .ok manifest
  | none => .error .malformedJson

/-! ## Loading -/

/-- Loads a manifest in the format that the extension of its path names. -/
def load (tree : FileTree) (path : String) : Except ManifestError Manifest := do
  if !tree.contains path then throw (.notFound path)
  let text ← (tree.readText path).mapError .unreadable
  match Path.extension? path with
  | some "toml" => ofToml text
  | some "json" => ofJson text
  | _ => throw (.unsupportedFormat path)

/-- An event of a manifest. -/
def event (level : Log.Level) (message : String) : Log.Event :=
  ⟨level, "themegen::manifest", message⟩

/-- Tells that a manifest was loaded. -/
def loaded (manifest : Manifest) (path : String) : Log.Event :=
  event .info ("Loaded manifest " ++ path ++ " (" ++ toString manifest.types.length ++ " types)")

/-- The output directory of a manifest that was loaded from a path. -/
def outputDir (manifest : Manifest) (path : String) : String :=
  Path.join ((Path.parent? path).getD "") (manifest.output.getD defaultOutput)

/-! ## Models -/

/-- Tells that the model of a type was built. -/
def built (ty : DeclaringType) : Log.Event :=
  event .debug (ty.qualifiedName ++ ": " ++ toString ty.fields.length ++ " bound fields, " ++
    toString ty.nested.length ++ " nested types with bindings")

/-- The models of described types up to the first that has none, and what is told on the way. -/
def modelsOf : List TypeDescription → Except ManifestError (List DeclaringType) × List Log.Event
  | [] => (.ok [], [])
  | desc :: rest =>
    match DeclaringType.build desc with
    | .error e => (.error (.model desc.name e), [])
    | .ok ty =>
      let (models, log) := modelsOf rest
      (models.map (ty :: ·), built ty :: log)

/-- The models of the listed types. -/
def models (manifest : Manifest) : Except ManifestError (List DeclaringType) × List Log.Event :=
  modelsOf manifest.types

end Manifest
end Theming
