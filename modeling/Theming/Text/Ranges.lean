/-
# Sets of code points as lists of closed ranges

Every table of this folder lists the code points from `U+0080` on as closed ranges in
increasing order; below that the classes are written out at their definitions, so that
proofs about ASCII text never open a table.
-/

namespace Theming
namespace Text

/-- A table of closed ranges of code points. -/
abbrev Ranges := List (Nat × Nat)

/-- Membership of a code point in one of the ranges. -/
def Ranges.has (t : Ranges) (n : Nat) : Bool := t.any fun r => r.1 ≤ n && n ≤ r.2

@[simp] theorem Ranges.has_nil (n : Nat) : Ranges.has [] n = false := rfl

@[simp] theorem Ranges.has_cons (lo hi : Nat) (t : Ranges) (n : Nat) :
    Ranges.has ((lo, hi) :: t) n = ((decide (lo ≤ n) && decide (n ≤ hi)) || Ranges.has t n) := rfl

end Text
end Theming
