/-
# TOML text

A document is a sequence of lines, each a header `[a.b]`, a header `[[a.b]]` or an assignment
`a.b = value`. Values nest at most 79 arrays and inline tables deep. A byte order mark may stand
in front.
-/

import Theming.Data.Toml.Scalar
import Theming.Data.Toml.Table

namespace Theming
namespace Toml

/-- The last segment of a path and the segments before it. -/
def splitPath? (path : List String) : Option (List String × String) :=
  path.getLast?.map fun key => (path.dropLast, key)

mutual

/-- One value; the second number bounds how many arrays and inline tables may still be opened. -/
def value? : Nat → Nat → List Char → Option (Data × List Char)
  | 0, _, _ => none
  | fuel + 1, depth, cs =>
    match cs with
    | '"' :: _ => (string? cs).map fun (s, rest) => (.text s, rest)
    | '\'' :: _ => (string? cs).map fun (s, rest) => (.text s, rest)
    | '[' :: rest =>
      if depth ≤ 1 then none
      else (items? fuel (depth - 1) rest).map fun (ds, rest) => (.list ds, rest)
    | '\x7b' :: rest =>
      if depth ≤ 1 then none
      else match skip rest with
        | '\x7d' :: rest => some (.record [], rest)
        | _ => (inline? fuel (depth - 1) [] rest).map fun (es, rest) =>
          (.record (entriesToData es), rest)
    | 't' :: 'r' :: 'u' :: 'e' :: rest => some (.bool true, rest)
    | 'f' :: 'a' :: 'l' :: 's' :: 'e' :: rest => some (.bool false, rest)
    | _ => numberOrDate? cs

/-- The items of an array and its closing bracket; a comma may follow the last item. -/
def items? : Nat → Nat → List Char → Option (List Data × List Char)
  | 0, _, _ => none
  | fuel + 1, depth, cs =>
    match skipLines cs.length cs with
    | ']' :: rest => some ([], rest)
    | cs => (value? fuel depth cs).bind fun (d, rest) =>
      match skipLines rest.length rest with
      | ',' :: rest => (items? fuel depth rest).map fun (ds, rest) => (d :: ds, rest)
      | ']' :: rest => some ([d], rest)
      | _ => none

/-- The assignments of an inline table and its closing brace, all on one line. -/
def inline? : Nat → Nat → Entries → List Char → Option (Entries × List Char)
  | 0, _, _, _ => none
  | fuel + 1, depth, entries, cs => (key? cs).bind fun (path, rest) =>
    (splitPath? path).bind fun (path, key) =>
      (expect? '=' rest).bind fun rest =>
        (value? fuel depth (skip rest)).bind fun (d, rest) =>
          (entries.assign? true key d path).bind fun entries =>
            match skip rest with
            | ',' :: rest => inline? fuel depth entries rest
            | '\x7d' :: rest => some (entries, rest)
            | _ => none

end

/-- How deep arrays and inline tables may nest, and one. -/
def depthLimit : Nat := 80

/-- The lines of a document, applied to what the lines before have built. -/
def lines? : Nat → (header : List String) → Entries → List Char → Option Entries
  | 0, _, _, _ => none
  | fuel + 1, header, entries, cs =>
    match skip cs with
    | [] => some entries
    | '#' :: rest => (lineEnd? ('#' :: rest)).bind (lines? fuel header entries)
    | '\n' :: rest => lines? fuel header entries rest
    | '\r' :: '\n' :: rest => lines? fuel header entries rest
    | '[' :: '[' :: rest => (key? rest).bind fun (path, rest) => do
      let rest ← expect? ']' rest
      let rest ← expect? ']' rest
      let rest ← lineEnd? rest
      let entries ← entries.alter? openElement? path
      lines? fuel path entries rest
    | '[' :: rest => (key? rest).bind fun (path, rest) => do
      let rest ← expect? ']' rest
      let rest ← lineEnd? rest
      let entries ← entries.alter? openTable? path
      lines? fuel path entries rest
    | cs => (key? cs).bind fun (path, rest) => do
      let (path, key) ← splitPath? path
      let rest ← expect? '=' rest
      let rest := skip rest
      let (d, rest) ← value? (2 * rest.length + 2) depthLimit rest
      let rest ← lineEnd? rest
      let entries ← entries.assignUnder? header path key d
      lines? fuel header entries rest

/-- Reads a TOML text; the result is always a record. -/
def parse? (s : String) : Option Data :=
  let cs := match s.toList with
    | '\uFEFF' :: rest => rest
    | cs => cs
  (lines? (cs.length + 1) [] [] cs).map fun entries => .record (entriesToData entries)

end Toml
end Theming
