/-
# Binding errors

| error | raised by |
| --- | --- |
| `signatureMismatch` | resolving: the companion at the expected path is for another type |
| `noBinding` | binding: neither the type nor an ancestor has a companion |
| `alreadyCleared` | releasing a companion that has let go of its target |
| `targetMismatch` | taking a handle for one to another type |
| `brokenAncestry` | looking for a type that is no ancestor |
-/

namespace Theming

/-- Why a target cannot be bound or released. -/
inductive BindingError where
  | signatureMismatch (type companion found : String)
  | noBinding (type : String)
  | alreadyCleared (companion : String)
  | targetMismatch (expected found : String)
  | brokenAncestry (type : String)
deriving DecidableEq, Repr

/-- The wording of a binding error. -/
def BindingError.message : BindingError → String
  | .signatureMismatch type companion found =>
    "Unable to find binding constructor for " ++ type ++ ": " ++ companion ++ " binds " ++ found
  | .noBinding type => "No theme binding for " ++ type ++ "; does it have any bound fields?"
  | .alreadyCleared companion => "Bindings already cleared: " ++ companion
  | .targetMismatch expected found =>
    "Target type mismatch: expected " ++ expected ++ ", found " ++ found
  | .brokenAncestry type =>
    "Ancestor chain of " ++ type ++ " does not reach the companion's target type"

end Theming
