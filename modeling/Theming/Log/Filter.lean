/-
# Log filters

A filter is a list of directives between commas. Of the directives whose target starts the source
of an event, the one with the longest target decides, the later of two with equal targets; if none
does, the event is dropped.

| directive | meaning |
| --- | --- |
| `info`, `3` | every source up to that level, letters in either case |
| `a::b` | sources that start with `a::b`, every level |
| `a::b=info` | the same up to that level; every level if nothing follows the `=` |
| `[span]`, `a::b[span]=info` | nothing outside of spans, so no event here |

A filter without directives lets errors through. Any other text is no filter.
-/

import Theming.Log
import Theming.Text.Word

namespace Theming
namespace Log

/-- A limit on the ranks that pass, for sources that start with a target. -/
structure Directive where
  target : String
  limit : Nat
deriving DecidableEq, Repr

/-- The rank of the finest level, which lets every event pass. -/
def finest : Nat := 5

/-- The limit that a level name or a digit stands for. -/
def limit? (cs : List Char) : Option Nat :=
  match String.ofList (cs.map Char.toLower) with
  | "off" => some 0
  | "error" => some 1
  | "warn" => some 2
  | "info" => some 3
  | "debug" => some 4
  | "trace" => some 5
  | "0" => some 0
  | "1" => some 1
  | "2" => some 2
  | "3" => some 3
  | "4" => some 4
  | "5" => some 5
  | _ => none

/-- A character of a target. -/
def isTargetChar (c : Char) : Bool := c == ':' || c == '-' || Text.isWordPart c

/-- The text behind a span in brackets, if it starts with one. -/
def afterSpan? : List Char → Option (List Char)
  | '[' :: cs =>
    match cs.dropWhile (· != ']') with
    | _ :: rest => some rest
    | [] => none
  | _ => none

/-- The limit behind a target: nothing, or `=` and perhaps a level. -/
def level? : List Char → Option Nat
  | [] => some finest
  | ['='] => some finest
  | '=' :: cs => limit? cs
  | _ => none

/-- The directive of a text; a directive on spans is read and dropped. -/
def directive? (cs : List Char) : Option (Option Directive) :=
  match limit? cs with
  | some limit => some (some ⟨"", limit⟩)
  | none =>
    let (target, rest) := cs.span isTargetChar
    match afterSpan? rest with
    | some behind => (level? (behind.dropWhile isTargetChar)).map fun _ => none
    | none =>
      if target.isEmpty then none
      else (level? rest).map fun limit =>
        some ⟨if (limit? target).isSome then "" else String.ofList target, limit⟩

/-- A list of directives, later ones winning over earlier ones with the same target. -/
structure Filter where
  directives : List Directive
deriving DecidableEq, Repr

namespace Filter

/-- The pieces of a text between commas that are not empty. -/
def pieces (s : String) : List String := (s.splitOn ",").filter (!·.isEmpty)

/-- Reads a filter. -/
def parse? (s : String) : Option Filter :=
  match pieces s with
  | [] => some ⟨[⟨"", Level.error.rank⟩]⟩
  | texts => (texts.mapM fun t => directive? t.toList).map fun ds => ⟨ds.filterMap id⟩

/-- The directive that decides over a source. -/
def deciding? (f : Filter) (source : String) : Option Directive :=
  f.directives.foldl (fun best d =>
    if d.target.isPrefixOf source && best.all fun b => b.target.length ≤ d.target.length
    then some d else best) none

/-- Whether an event passes. -/
def passes (f : Filter) (e : Event) : Bool :=
  (f.deciding? e.source).any fun d => e.level.rank ≤ d.limit

/-- The filter of a program run that asks for none, or for one that cannot be read. -/
def standard : Filter := ⟨[⟨"themegen", 3⟩, ⟨"theme_codegen", 3⟩]⟩

/-- The filter that a program run asks for. -/
def ofSetting (setting : Option String) : Filter := (setting.bind parse?).getD standard

end Filter
end Log
end Theming
