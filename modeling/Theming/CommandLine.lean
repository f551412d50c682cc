/-
# The command line

| option | |
| --- | --- |
| `-m FILE`, `-mFILE`, `-m=FILE`, `--manifest FILE`, `--manifest=FILE` | the manifest, else `themegen.toml` |
| `-o DIR` and so on, `--out DIR`, `--out=DIR` | the output directory, else the manifest's |
| `--dry-run` | list the companions instead of writing them |
| `--log-json` | write events as JSON |

Each option stands at most once, its value is not empty, and a separate value does not start with
a dash unless it is one. The exit code is 2 for a wrong use, 1 for a failed run, else 0.
-/

import Theming.Generation
import Theming.Log.Filter

namespace Theming
namespace CommandLine

/-! ## Options -/

/-- The options of a run. -/
structure Options where
  manifest : Option String := none
  out : Option String := none
  dryRun : Bool := false
  logJson : Bool := false
deriving DecidableEq, Repr

/-- The options that take a value. -/
inductive Key where
  | manifest
  | out
deriving DecidableEq, Repr

/-- Sets an option that must not have been set, to a value that is not empty. -/
def Options.set? (options : Options) (key : Key) (value : String) : Option Options :=
  if value.isEmpty then none
  else match key with
    | .manifest => if options.manifest.isSome then none else some { options with manifest := value }
    | .out => if options.out.isSome then none else some { options with out := value }

/-- A separate value: no text that looks like an option. -/
def isValue (arg : String) : Bool := arg == "-" || !arg.startsWith "-"

/-- What an argument says. -/
inductive Argument where
  | dryRun
  | logJson
  /-- An option with its value in the same argument. -/
  | attached (key : Key) (value : String)
  /-- An option whose value is the next argument. -/
  | awaiting (key : Key)
  /-- The mark that no options follow. -/
  | stop
deriving DecidableEq, Repr

/-- A value behind a short option; an equals sign in front of it does not count. -/
def shortValue (key : Key) : List Char → Argument
  | [] => .awaiting key
  | '=' :: value => .attached key (String.ofList value)
  | value => .attached key (String.ofList value)

/-- A value behind the name of a long option. -/
def longValue? (key : Key) : List Char → Option Argument
  | [] => some (.awaiting key)
  | '=' :: value => some (.attached key (String.ofList value))
  | _ => none

/-- Reads an argument. -/
def argument? (arg : String) : Option Argument :=
  match arg with
  | "--dry-run" => some .dryRun
  | "--log-json" => some .logJson
  | "--" => some .stop
  | _ =>
    let cs := arg.toList
    if "--manifest".toList.isPrefixOf cs then longValue? .manifest (cs.drop 10)
    else if "--out".toList.isPrefixOf cs then longValue? .out (cs.drop 5)
    else match cs with
      | '-' :: 'm' :: value => some (shortValue .manifest value)
      | '-' :: 'o' :: value => some (shortValue .out value)
      | _ => none

/-- Reads arguments on top of the options set before. -/
def parseFrom? (options : Options) : List String → Option Options
  | [] => some options
  | arg :: rest =>
    match argument? arg with
    | some .dryRun =>
      if options.dryRun then none else parseFrom? { options with dryRun := true } rest
    | some .logJson =>
      if options.logJson then none else parseFrom? { options with logJson := true } rest
    | some (.attached key value) => (options.set? key value).bind fun o => parseFrom? o rest
    | some (.awaiting key) =>
      match rest with
      | value :: rest =>
        if isValue value then (options.set? key value).bind fun o => parseFrom? o rest else none
      | [] => none
    | some .stop => if rest.isEmpty then some options else none
    | none => none

/-- Reads the arguments of a run. -/
def parse? (args : List String) : Option Options := parseFrom? {} args

/-- What the options ask for. -/
def Options.request (options : Options) : GenerationRequest :=
  { manifest := options.manifest.getD "themegen.toml", out := options.out, dryRun := options.dryRun }

/-! ## Reports -/

/-- A numbered or a lone cause; its further lines are indented as far as its text. -/
def renderCause (number : Option Nat) (cause : String) : String :=
  let (mark, indent) := match number with
    | some n => ("".pushn ' ' (5 - (toString n).length) ++ toString n ++ ": ", "       ")
    | none => ("    ", "    ")
  mark ++ ("\n" ++ indent).intercalate (cause.splitOn "\n")

/-- The report of an error and of what lies behind it. -/
def renderError (message : String) (causes : List String) : String :=
  "Error: " ++ message ++
    match causes with
    | [] => ""
    | [cause] => "\n\nCaused by:\n" ++ renderCause none cause
    | _ => "\n\nCaused by:\n" ++
      "\n".intercalate (causes.zipIdx.map fun (cause, n) => renderCause (some n) cause)

/-- The line of a companion that would be written. -/
def renderPlanned (e : EmittedCompanion) : String := e.companion ++ " -> " ++ e.file

/-! ## Runs -/

/-- What a run shows and leaves behind. -/
structure Outcome where
  code : Nat
  /-- The events that pass the filter, all of them before the lines. -/
  log : List Log.Event
  logJson : Bool
  lines : List String
  /-- What goes to the error output; none where the use was wrong. -/
  errors : Option String
  tree : FileTree

/-- The version of the program. -/
def version : String := "0.1.0"

/-- Tells that the program has started. -/
def started : Log.Event := ⟨.info, "themegen", "themegen v" ++ version⟩

/-- Runs the program on arguments, with the filter setting of its environment. -/
def run (args : List String) (filter : Option String) (tree : FileTree) : Outcome :=
  match parse? args with
  | none => ⟨2, [], false, [], none, tree⟩
  | some options =>
    let request := options.request
    let generation := request.run tree
    let log := (started :: generation.log).filter (Log.Filter.ofSetting filter).passes
    let (code, lines, errors) := match generation.result with
      | .error e =>
        (1, [], renderError ("Failed to generate from " ++ request.manifest)
          (e.message :: e.causes))
      | .ok report =>
        let lines := if options.dryRun then report.written.map renderPlanned else []
        if report.isSuccess then (0, lines, "")
        else
          let failed := report.failed.length
          let total := failed + report.written.length
          (1, lines, renderError (toString failed ++ " of " ++ toString total ++
            " companions failed") [])
    ⟨code, log, options.logJson, lines, some errors, generation.tree⟩

end CommandLine
end Theming
