/-
# The program

A run sees the part of the disk that it can touch: its manifest, the files that it would write,
and the directories above them. Afterwards what is new or different goes back to the disk.
-/

import Theming.CommandLine
import Theming.Data.Json

namespace Theming
namespace Disk

/-- What the disk has at a location. -/
def probe (location : Location) : IO (Option Entry) := do
  let path := (← IO.currentDir) / ("/" ++ "/".intercalate location)
  if ← path.isDir then return some .directory
  else
    try return some (.file (← IO.FS.readBinFile path))
    catch _ => return none

/-- Takes into a tree what the disk has along the parts of a path. -/
def captureAlong (tree : FileTree) (location : Location) : List String → IO FileTree
  | [] => return tree
  | part :: rest =>
    match tree.step location part with
    | .error _ => return tree
    | .ok next => do
      let found ← if (tree.at? next).isSome then pure none else probe next
      captureAlong (match found with
        | some entry => tree.put next entry
        | none => tree) next rest

/-- Takes into a tree what the disk has along a path. -/
def capture (tree : FileTree) (path : String) : IO FileTree :=
  captureAlong tree (tree.start path) (path.splitOn "/")

/-- The tree of the working directory, as if it were empty. -/
def workingTree : IO FileTree := do
  let working := ((toString (← IO.currentDir)).splitOn "/").filter (!·.isEmpty)
  let above := (List.range working.length).map fun n => (working.take (n + 1), Entry.directory)
  return ⟨above, working⟩

/-- The tree that a run with some arguments needs. -/
def treeFor (args : List String) : IO FileTree := do
  let tree ← workingTree
  match CommandLine.parse? args with
  | none => return tree
  | some options =>
    let tree ← capture tree options.request.manifest
    match ({ options.request with dryRun := true }.run tree).result with
    | .ok report => report.written.foldlM (fun tree w => capture tree w.file) tree
    | .error _ => return tree

/-- Writes an entry to the disk. -/
def save (location : Location) : Entry → IO Unit
  | .directory => IO.FS.createDirAll ("/" ++ "/".intercalate location)
  | .file bytes => IO.FS.writeBinFile ("/" ++ "/".intercalate location) bytes

/-- Writes to the disk what a tree has and an earlier one had not; older entries come first. -/
def writeBack (earlier later : FileTree) : IO Unit :=
  later.entries.reverse.forM fun (location, entry) =>
    if (earlier.at? location).any entry.same then pure () else save location entry

end Disk

namespace CommandLine

/-- An event as one line of JSON. -/
def renderJson (e : Log.Event) : String :=
  Json.render (.record [("level", .text e.level.render),
    ("fields", .record [("message", .text e.message)]), ("target", .text e.source)])

/-- How the program is used. -/
def usage : String :=
  "Usage: themegen [-m|--manifest <MANIFEST>] [-o|--out <OUT>] [--dry-run] [--log-json]"

end CommandLine
end Theming

open Theming in
/-- Runs the program. -/
def main (args : List String) : IO UInt32 := do
  if args.contains "--help" || args.contains "-h" then
    IO.println CommandLine.usage
    return 0
  let tree ← Disk.treeFor args
  let outcome := CommandLine.run args (← IO.getEnv "RUST_LOG") tree
  for e in outcome.log do
    IO.println (if outcome.logJson then CommandLine.renderJson e else e.render)
  Disk.writeBack tree outcome.tree
  outcome.lines.forM IO.println
  let errors := outcome.errors.getD CommandLine.usage
  if !errors.isEmpty then IO.eprintln errors
  return outcome.code.toUInt32
