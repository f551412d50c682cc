/-
# Numerals

Reading an unsigned numeral in a radix up to 16.

| rule | |
| --- | --- |
| sign | one `+` may stand in front; `-` is never accepted |
| digits | at least one, every character a digit of the radix, letters in either case |
| value | below a bound |
-/

namespace Theming
namespace Text

/-- The value of a digit in a radix up to 16, letters counting in either case. -/
def digit? (radix : Nat) (c : Char) : Option Nat :=
  let n := c.toNat
  let d? : Option Nat :=
    if 48 ≤ n ∧ n ≤ 57 then some (n - 48)
    else if 97 ≤ n ∧ n ≤ 102 then some (n - 87)
    else if 65 ≤ n ∧ n ≤ 70 then some (n - 55)
    else none
  d?.filter (· < radix)

theorem digit?_lt {radix d : Nat} {c : Char} (h : digit? radix c = some d) : d < radix := by
  simpa using (Option.filter_eq_some_iff.1 h).2

/-- The value of a list of digits, most significant first, on top of what was read before. -/
def digits? (radix : Nat) : Nat → List Char → Option Nat
  | acc, [] => some acc
  | acc, c :: cs => (digit? radix c).bind fun d => digits? radix (radix * acc + d) cs

/-- The digits of a numeral, without its sign. -/
def dropPlus : List Char → List Char
  | '+' :: rest => rest
  | cs => cs

/-- An unsigned numeral below a bound, with an optional `+`. -/
def numeral? (radix bound : Nat) (cs : List Char) : Option Nat :=
  match dropPlus cs with
  | [] => none
  | body => (digits? radix 0 body).filter (· < bound)

theorem numeral?_lt {radix bound n : Nat} {cs : List Char}
    (h : numeral? radix bound cs = some n) : n < bound := by
  unfold numeral? at h
  split at h
  · simp at h
  · simpa using (Option.filter_eq_some_iff.1 h).2

/-- A numeral that fits 32 bits. -/
def word? (radix : Nat) (cs : List Char) : Option UInt32 :=
  (numeral? radix UInt32.size cs).map UInt32.ofNat

end Text
end Theming
