/-
# Paths as text

A path is kept as it was spelled. A part between slashes is trivial if it is empty or `.`; only
the parts that are not trivial count, except that a path may start with a slash or with `.`.

| path | parent | file name | extension |
| --- | --- | --- | --- |
| `a//b/./` | `a` | `b` | |
| `./m.toml` | `.` | `m.toml` | `toml` |
| `.toml` | (empty) | `.toml` | |
| `a/..` | `a` | | |
| `.` | (empty) | | |
| `/`, (empty) | none | | |
-/

namespace Theming
namespace Path

/-- The parts between slashes. -/
def parts (path : String) : List String := path.splitOn "/"

/-- A part that does not count. -/
def isTrivial (part : String) : Bool := part.isEmpty || part == "."

/-- Whether a path starts at the root. -/
def isAbsolute (path : String) : Bool := path.startsWith "/"

/-- A path with another one behind it; an absolute one takes its place. -/
def join (base path : String) : String :=
  if isAbsolute path then path
  else if base.isEmpty || base.endsWith "/" then base ++ path
  else base ++ "/" ++ path

/-- The start of a path that is no part, a slash or a `.`, and the text behind it. -/
def splitStart (path : String) : String × String :=
  match path.toList with
  | '/' :: rest => ("/", String.ofList rest)
  | ['.'] => (".", "")
  | '.' :: '/' :: rest => (".", String.ofList ('/' :: rest))
  | _ => ("", path)

/-- The parts of a text in reverse order without the trivial ones that end it. -/
def significant (body : String) : List String := (parts body).reverse.dropWhile isTrivial

/-- The path without its last part. -/
def parent? (path : String) : Option String :=
  let (start, body) := splitStart path
  match significant body with
  | _ :: rest => some (start ++ "/".intercalate (rest.dropWhile isTrivial).reverse)
  | [] => if start == "." then some "" else none

/-- The last part, unless it leads upwards. -/
def fileName? (path : String) : Option String :=
  match significant (splitStart path).2 with
  | name :: _ => if name == ".." then none else some name
  | [] => none

/-- What follows the last dot of the file name, unless nothing stands before that dot. -/
def extension? (path : String) : Option String :=
  (fileName? path).bind fun name =>
    match name.toList.reverse.span (· != '.') with
    | (extension, '.' :: _ :: _) => some (String.ofList extension.reverse)
    | _ => none

end Path
end Theming
