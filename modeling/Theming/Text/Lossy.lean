/-
# Bytes as text, whatever they are

A run of bytes is read as UTF-8. Where it is none, the longest beginning of a character that
stands there, or else one byte, becomes one replacement character.
-/

namespace Theming
namespace Text

/-- What stands for bytes that are no character. -/
def replacement : Char := Char.ofNat 0xFFFD

/-- The number of bytes behind a leading byte, the range of the first of them, and the bits that
the leading byte gives. -/
def leading? (n : Nat) : Option (Nat × Nat × Nat × Nat) :=
  if 0xC2 ≤ n ∧ n ≤ 0xDF then some (1, 0x80, 0xBF, n - 0xC0)
  else if n = 0xE0 then some (2, 0xA0, 0xBF, n - 0xE0)
  else if n = 0xED then some (2, 0x80, 0x9F, n - 0xE0)
  else if 0xE1 ≤ n ∧ n ≤ 0xEF then some (2, 0x80, 0xBF, n - 0xE0)
  else if n = 0xF0 then some (3, 0x90, 0xBF, n - 0xF0)
  else if 0xF1 ≤ n ∧ n ≤ 0xF3 then some (3, 0x80, 0xBF, n - 0xF0)
  else if n = 0xF4 then some (3, 0x80, 0x8F, n - 0xF0)
  else none

/-- The rest of a character: how many more bytes, the range of the next one, and the bits so far.
The character, or a replacement, and the bytes behind it. -/
def continued : Nat → Nat → Nat → Nat → List UInt8 → Char × List UInt8
  | 0, _, _, bits, bytes => (Char.ofNat bits, bytes)
  | _ + 1, _, _, _, [] => (replacement, [])
  | more + 1, lo, hi, bits, b :: rest =>
    if lo ≤ b.toNat ∧ b.toNat ≤ hi then
      continued more 0x80 0xBF (bits * 64 + (b.toNat - 0x80)) rest
    else (replacement, b :: rest)

/-- The characters of at most a given number of bytes. -/
def lossyChars : Nat → List UInt8 → List Char
  | 0, _ => []
  | _, [] => []
  | fuel + 1, b :: rest =>
    if b < 0x80 then Char.ofNat b.toNat :: lossyChars fuel rest
    else match leading? b.toNat with
      | some (more, lo, hi, bits) =>
        let (c, rest) := continued more lo hi bits rest
        c :: lossyChars fuel rest
      | none => replacement :: lossyChars fuel rest

/-- Bytes as text. -/
def lossy (bytes : ByteArray) : String := String.ofList (lossyChars bytes.size bytes.toList)

end Text
end Theming
