/-
# Tables under construction

A TOML document names its tables in three ways, and each way restricts what may be added later.

| table named by | kind | a header may name it again | a dotted key may extend it |
| --- | --- | --- | --- |
| its own header `[a]` | `header` | no | no |
| a longer header `[a.b]` | `implicit` | once | only on the way to a dotted part |
| a dotted key `a.b = 1` | `dotted` | no | yes |

An array of tables `[[a]]` grows at its end, and a path through it means its newest element.
-/

import Theming.Data.Value

namespace Theming
namespace Toml

/-- How a table came to be named. -/
inductive TableKind where
  | header
  | implicit
  | dotted
deriving DecidableEq, Repr

/-- What a key stands for while the document is read. -/
inductive Item where
  | leaf (d : Data)
  | table (kind : TableKind) (entries : List (String × Item))
  /-- An array of tables: its newest element, and the older ones, newest first. -/
  | tables (newest : List (String × Item)) (older : List (List (String × Item)))
deriving Inhabited

/-- The keys of a table, in order of appearance. -/
abbrev Entries := List (String × Item)

/-- Puts an item under a key, in place of the one there. -/
def Entries.put (key : String) (item : Item) : Entries → Entries
  | [] => [(key, item)]
  | (k, old) :: rest => if k == key then (k, item) :: rest else (k, old) :: Entries.put key item rest

/-- Puts a value under a dotted key. `open?` says whether the table reached so far may take it
itself. -/
def Entries.assign? (canTake : Bool) (key : String) (d : Data) :
    List String → Entries → Option Entries
  | [], entries =>
    if canTake && (entries.lookup key).isNone then some (entries ++ [(key, .leaf d)]) else none
  | p :: path, entries =>
    match entries.lookup p with
    | none => (Entries.assign? true key d path []).map fun es =>
      entries ++ [(p, .table .dotted es)]
    | some (.table kind es) =>
      if kind = .header then none
      else (Entries.assign? (kind = .dotted) key d path es).map fun es =>
        Entries.put p (.table kind es) entries
    | some (.tables newest older) => (Entries.assign? false key d path newest).map fun es =>
      Entries.put p (.tables es older) entries
    | some (.leaf _) => none

/-- Changes what the last key of a header path stands for, naming the tables on the way. -/
def Entries.alter? (f : Option Item → Option Item) : List String → Entries → Option Entries
  | [], _ => none
  | [key], entries => (f (entries.lookup key)).map fun item => Entries.put key item entries
  | p :: path, entries =>
    match entries.lookup p with
    | none => (Entries.alter? f path []).map fun es => entries ++ [(p, .table .implicit es)]
    | some (.table kind es) => (Entries.alter? f path es).map fun es =>
      Entries.put p (.table kind es) entries
    | some (.tables newest older) => (Entries.alter? f path newest).map fun es =>
      Entries.put p (.tables es older) entries
    | some (.leaf _) => none

/-- Opens the table of a header: a new one, or one that longer headers have named. -/
def openTable? : Option Item → Option Item
  | none => some (.table .header [])
  | some (.table .implicit es) => some (.table .header es)
  | _ => none

/-- Opens the next element of an array of tables. -/
def openElement? : Option Item → Option Item
  | none => some (.tables [] [])
  | some (.tables newest older) => some (.tables [] (newest :: older))
  | _ => none

/-- Puts a value under a dotted key of the table that a header has opened. -/
def Entries.assignUnder? (header path : List String) (key : String) (d : Data)
    (entries : Entries) : Option Entries :=
  match header with
  | [] => entries.assign? true key d path
  | _ => entries.alter? (fun
    | some (.table kind es) => (Entries.assign? true key d path es).map (.table kind)
    | some (.tables newest older) =>
      (Entries.assign? true key d path newest).map fun es => .tables es older
    | _ => none) header

mutual

/-- The finished value of an item. -/
def Item.toData : Item → Data
  | .leaf d => d
  | .table _ entries => .record (entriesToData entries)
  | .tables newest older => .list (olderToData older ++ [.record (entriesToData newest)])

/-- The finished members of a table. -/
def entriesToData : List (String × Item) → List (String × Data)
  | [] => []
  | (key, item) :: rest => (key, item.toData) :: entriesToData rest

/-- The finished older elements of an array of tables, oldest first. -/
def olderToData : List (List (String × Item)) → List Data
  | [] => []
  | entries :: rest => olderToData rest ++ [.record (entriesToData entries)]

end

end Toml
end Theming
