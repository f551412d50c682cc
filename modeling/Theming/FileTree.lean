/-
# Trees of files

A tree maps locations, lists of names below the root, to directories and files. A path is looked
up part by part, from the root or from the working directory.

| part | step |
| --- | --- |
| empty, `.` | stays; what it stands at must be a directory |
| `..` | goes up; the root is above itself |
| a name | goes down; what it starts from must be a directory |

Only the last location may be missing. A path holds no zero character and less than 4096 bytes, a
name at most 255 bytes.
-/

namespace Theming

/-- Where a file or a directory is: the names below the root. -/
abbrev Location := List String

/-- What can be found at a location. -/
inductive Entry where
  | directory
  | file (bytes : ByteArray)

/-- Whether two entries are the same, files byte for byte. -/
def Entry.same : Entry → Entry → Bool
  | .directory, .directory => true
  | .file a, .file b => a.data == b.data
  | _, _ => false

/-- The files of a run. -/
structure FileTree where
  /-- Everything but the root, which is a directory. -/
  entries : List (Location × Entry)
  /-- Where paths that are not absolute start. -/
  working : Location

/-- Why a path cannot be used. -/
inductive FileFault where
  | missing
  | notDirectory
  | isDirectory
  | invalidName
  | invalidText
deriving DecidableEq, Repr

/-- The wording of a fault. -/
def FileFault.message : FileFault → String
  | .missing => "No such file or directory"
  | .notDirectory => "Not a directory"
  | .isDirectory => "Is a directory"
  | .invalidName => "Invalid file name"
  | .invalidText => "stream did not contain valid UTF-8"

namespace FileTree

/-- A tree that holds nothing but its working directory. -/
def scratch : FileTree := ⟨[(["work"], .directory)], ["work"]⟩

/-- The entry at a location. -/
def at? (tree : FileTree) : Location → Option Entry
  | [] => some .directory
  | location => tree.entries.lookup location

/-- The tree with an entry put at a location. -/
def put (tree : FileTree) (location : Location) (entry : Entry) : FileTree :=
  { tree with entries := (location, entry) :: tree.entries.filter (·.1 != location) }

/-- Whether a text can be looked up at all. -/
def isPath (path : String) : Bool :=
  path.utf8ByteSize < 4096 && !path.toList.contains (Char.ofNat 0)

/-- Whether a name can stand in a directory. -/
def isName (name : String) : Bool := name.utf8ByteSize ≤ 255

/-- Refuses a location that is no directory. -/
def requireDirectory (tree : FileTree) (location : Location) : Except FileFault Unit :=
  match tree.at? location with
  | some .directory => .ok ()
  | some (.file _) => .error .notDirectory
  | none => .error .missing

/-- The location that one part of a path leads to. -/
def step (tree : FileTree) (location : Location) (part : String) : Except FileFault Location := do
  tree.requireDirectory location
  if part.isEmpty || part == "." then return location
  else if part == ".." then return location.dropLast
  else if isName part then return location ++ [part]
  else throw .invalidName

/-- Where a path starts. -/
def start (tree : FileTree) (path : String) : Location :=
  if path.startsWith "/" then [] else tree.working

/-- The location of a path. -/
def locate (tree : FileTree) (path : String) : Except FileFault Location :=
  if path.isEmpty then .error .missing
  else if !isPath path then .error .invalidName
  else (path.splitOn "/").foldlM tree.step (tree.start path)

/-- The entry of a path. -/
def find (tree : FileTree) (path : String) : Except FileFault Entry := do
  let location ← tree.locate path
  match tree.at? location with
  | some entry => return entry
  | none => throw .missing

/-- Whether a path leads to something. -/
def contains (tree : FileTree) (path : String) : Bool := (tree.find path).isOk

/-- The text of a file. -/
def readText (tree : FileTree) (path : String) : Except FileFault String := do
  match ← tree.find path with
  | .directory => throw .isDirectory
  | .file bytes =>
    match String.fromUTF8? bytes with
    | some text => return text
    | none => throw .invalidText

/-- The names in a directory, in the order of the tree. -/
def namesIn (tree : FileTree) (path : String) : Except FileFault (List String) := do
  let location ← tree.locate path
  tree.requireDirectory location
  return tree.entries.filterMap fun (l, _) =>
    if l.dropLast == location then l.getLast? else none

/-- The tree with a text written to a path, in place of what the file held. -/
def write (tree : FileTree) (path text : String) : Except FileFault FileTree := do
  let location ← tree.locate path
  match tree.at? location with
  | some .directory => throw .isDirectory
  | _ => return tree.put location (.file text.toUTF8)

/-- Goes along the parts of a path and makes the directories that are missing; those made before
a fault stay. -/
def makeAlong (tree : FileTree) (location : Location) :
    List String → Except FileFault Unit × FileTree
  | [] => (tree.requireDirectory location, tree)
  | part :: rest =>
    match tree.step location part with
    | .error fault => (.error fault, tree)
    | .ok next =>
      if (tree.at? next).isSome then makeAlong tree next rest
      else makeAlong (tree.put next .directory) next rest

/-- Makes a directory and those above it; the empty path needs none. -/
def makeDirectories (tree : FileTree) (path : String) : Except FileFault Unit × FileTree :=
  if path.isEmpty then (.ok (), tree)
  else if !isPath path then (.error .invalidName, tree)
  else tree.makeAlong (tree.start path) (path.splitOn "/")

/-- The tree with an entry put below the working directory, and the directories above it. -/
def place (tree : FileTree) (path : String) (entry : Entry) : FileTree :=
  let location := tree.working ++ (path.splitOn "/").filter (!·.isEmpty)
  let above := (List.range location.length).map fun n => location.take n
  let tree := above.foldl (fun (tree : FileTree) (l : Location) =>
    if (tree.at? l).isSome then tree else tree.put l .directory) tree
  if entry matches .directory && (tree.at? location).isSome then tree
  else tree.put location entry

/-- Everything below the working directory, by its path from there. -/
def listing (tree : FileTree) : List (String × Entry) :=
  tree.entries.filterMap fun (location, entry) =>
    if tree.working.isPrefixOf location && location != tree.working then
      some ("/".intercalate (location.drop tree.working.length), entry)
    else none

end FileTree
end Theming
