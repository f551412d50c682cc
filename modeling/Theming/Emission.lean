/-
# Emission

One file per qualifying type, at `<out>/<package folders>/<stem>.rs`. A pass takes the qualifying
types of all models in order, and a failure does not stop it.

| step | event |
| --- | --- |
| the companion path was claimed before: a collision | `WARN` |
| the file is written, or would be in a dry run | `DEBUG` |
| the type fails: its source cannot be made, or a folder or the file cannot be written | `ERROR` |
| the end of the pass | `INFO` |
-/

import Theming.Companion.Source
import Theming.FileTree
import Theming.Log
import Theming.Path

namespace Theming

/-- Why no companion could be written for a type. -/
inductive EmitError where
  | model (error : ModelError)
  | io (path : String) (fault : FileFault)
deriving DecidableEq, Repr

/-- The wording of an emission error. -/
def EmitError.message : EmitError → String
  | .model error => "Failed to synthesize companion: " ++ error.message
  | .io path fault => "Failed to write " ++ path ++ ": " ++ fault.message

/-- A companion that was written. -/
structure EmittedCompanion where
  /-- The qualified name of the declaring type. -/
  declaring : String
  /-- The path of its companion. -/
  companion : String
  file : String
deriving DecidableEq, Repr

/-- What became of a pass. -/
structure EmitReport where
  written : List EmittedCompanion := []
  /-- The qualified names of the types that failed. -/
  failed : List (String × EmitError) := []
  /-- The companion paths that were claimed again, once for each time. -/
  collisions : List String := []
deriving DecidableEq, Repr

/-- Whether nothing failed. -/
def EmitReport.isSuccess (report : EmitReport) : Bool := report.failed.isEmpty

/-- Where companions go, and whether they are only planned. -/
structure Emitter where
  outDir : String
  dryRun : Bool := false
deriving DecidableEq, Repr

namespace Emitter

/-- The segments of a package. -/
def packageSegments (package : String) : List String :=
  (package.splitOn Naming.moduleSeparator).filter (!·.isEmpty)

/-- The file of a companion from the package and name of its declaring type. -/
def companionFileOf (outDir package name : String) : String :=
  Path.join ((packageSegments package).foldl Path.join outDir)
    (Naming.companionFileStem name ++ ".rs")

/-- The file of the companion of a type. -/
def companionFile (emitter : Emitter) (ty : DeclaringType) : String :=
  companionFileOf emitter.outDir ty.package ty.name

/-- Writes a text to a path after making the folders above it. -/
def save (path text : String) (tree : FileTree) : Except EmitError Unit × FileTree :=
  let (made, tree) := match Path.parent? path with
    | some parent =>
      let (made, tree) := tree.makeDirectories parent
      (made.mapError (EmitError.io parent), tree)
    | none => (.ok (), tree)
  match made with
  | .error e => (.error e, tree)
  | .ok () =>
    match tree.write path text with
    | .ok tree => (.ok (), tree)
    | .error fault => (.error (.io path fault), tree)

/-- Writes the companion of one type and gives its file; without bound fields nothing is
written. -/
def emit (emitter : Emitter) (ty : DeclaringType) (tree : FileTree) :
    Except EmitError String × FileTree :=
  let path := emitter.companionFile ty
  match Companion.render Companion.defaultVisibility ty with
  | .error e => (.error (.model e), tree)
  | .ok none => (.ok path, tree)
  | .ok (some text) =>
    if emitter.dryRun then (.ok path, tree)
    else
      let (saved, tree) := save path text tree
      (saved.map fun _ => path, tree)

end Emitter

namespace Emission

/-- A pass under way. -/
structure Pass where
  tree : FileTree
  report : EmitReport := {}
  /-- The declaring type that last claimed each companion path. -/
  claimed : List (String × String) := []
  log : List Log.Event := []

/-- An event of a pass. -/
def event (level : Log.Level) (message : String) : Log.Event :=
  ⟨level, "theme_codegen::emit", message⟩

namespace Pass

/-- Adds an event. -/
def tell (pass : Pass) (level : Log.Level) (message : String) : Pass :=
  { pass with log := pass.log ++ [event level message] }

/-- Claims a companion path for a declaring type. -/
def claim (pass : Pass) (companion declaring : String) : Pass :=
  let pass' := { pass with claimed := (companion, declaring) :: pass.claimed }
  match pass.claimed.lookup companion with
  | none => pass'
  | some previous =>
    { pass' with
      report := { pass.report with collisions := pass.report.collisions ++ [companion] } }.tell
      .warn ("Companion " ++ companion ++ " is claimed by both " ++ previous ++ " and " ++
        declaring ++ "; the later one wins")

/-- Takes down what became of a type. -/
def record (pass : Pass) (companion declaring : String) : Except EmitError String → Pass
  | .ok file =>
    { pass with
      report := { pass.report with
        written := pass.report.written ++ [EmittedCompanion.mk declaring companion file] } }.tell
      .debug ("Wrote " ++ file ++ " for " ++ declaring)
  | .error e =>
    { pass with
      report := { pass.report with failed := pass.report.failed ++ [(declaring, e)] } }.tell
      .error ("Failed to emit companion for " ++ declaring ++ ": " ++ e.message)

/-- Claims, writes and takes down one type. -/
def step (emitter : Emitter) (pass : Pass) (ty : DeclaringType) : Pass :=
  let pass := pass.claim ty.companionPath ty.qualifiedName
  let (outcome, tree) := emitter.emit ty pass.tree
  record { pass with tree } ty.companionPath ty.qualifiedName outcome

/-- Tells how a pass ended. -/
def close (pass : Pass) : Pass :=
  pass.tell .info ("Emitted " ++ toString pass.report.written.length ++ " companions (" ++
    toString pass.report.failed.length ++ " failed)")

end Pass
end Emission

/-- Writes the companions of all qualifying types of the models. -/
def Emitter.emitAll (emitter : Emitter) (models : List DeclaringType) (tree : FileTree) :
    Emission.Pass :=
  ((models.flatMap DeclaringType.qualifying).foldl (Emission.Pass.step emitter) { tree }).close

end Theming
