/-
# Generation

A run loads a manifest, builds the models of all its types, and only then writes companions. It
fails before anything is written; what fails afterwards is in the report.
-/

import Theming.Emission
import Theming.Manifest

namespace Theming

/-- What a generation run is asked for. -/
structure GenerationRequest where
  manifest : String
  /-- The output directory, if it is not to be the manifest's. -/
  out : Option String := none
  dryRun : Bool := false
deriving DecidableEq, Repr

/-- What a generation run leaves behind. -/
structure Generation where
  result : Except ManifestError EmitReport
  tree : FileTree
  log : List Log.Event

namespace GenerationRequest

/-- The output directory of a run. -/
def outDir (request : GenerationRequest) (manifest : Manifest) : String :=
  request.out.getD (manifest.outputDir request.manifest)

/-- Tells that companions are about to be written. -/
def begun (request : GenerationRequest) (manifest : Manifest) : Log.Event :=
  ⟨.info, "themegen", "Generating companions into " ++ request.outDir manifest ++
    (if request.dryRun then " (dry run)" else "")⟩

/-- Runs a generation. -/
def run (request : GenerationRequest) (tree : FileTree) : Generation :=
  match Manifest.load tree request.manifest with
  | .error e => ⟨.error e, tree, []⟩
  | .ok manifest =>
    let loaded := manifest.loaded request.manifest
    match manifest.models with
    | (.error e, log) => ⟨.error e, tree, loaded :: log⟩
    | (.ok models, log) =>
      let emitter : Emitter := ⟨request.outDir manifest, request.dryRun⟩
      let pass := emitter.emitAll models tree
      ⟨.ok pass.report, pass.tree, loaded :: log ++ request.begun manifest :: pass.log⟩

end GenerationRequest
end Theming
