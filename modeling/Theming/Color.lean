/-
# Colors

A color is a packed 32-bit word `AARRGGBB`. Its text is `#` and eight upper-case hexadecimal
digits. A color literal is read in three steps, and the first that fails gives the error.

| step | error |
| --- | --- |
| cut off a leading `#` | `missingHash` |
| read the rest as a hexadecimal numeral that fits 32 bits | `invalidHex` |
| 6 bytes: opaque; 8 bytes: as it stands; else | `invalidLength` |
-/

import Theming.Text.Numeral

namespace Theming

/-- A packed `AARRGGBB` color. -/
structure Color where
  packed : UInt32
deriving DecidableEq, Repr, Inhabited

/-- Why a text is no color. -/
inductive ColorError where
  | missingHash (text : String)
  | invalidHex (text : String)
  | invalidLength (text : String)
deriving DecidableEq, Repr

/-- The wording of a color error. -/
def ColorError.message : ColorError → String
  | .missingHash text => "Color must start with '#': " ++ text
  | .invalidHex text => "Invalid hex digits in color: " ++ text
  | .invalidLength text => "Color must have 6 or 8 hex digits: " ++ text

namespace Color

/-- Nothing visible. -/
def transparent : Color := ⟨0⟩

/-- Opaque black. -/
def black : Color := ⟨0xFF000000⟩

/-- Opaque white. -/
def white : Color := ⟨0xFFFFFFFF⟩

/-- A color from its four channels. -/
def argb (a r g b : UInt8) : Color :=
  ⟨(a.toUInt32 <<< 24) ||| (r.toUInt32 <<< 16) ||| (g.toUInt32 <<< 8) ||| b.toUInt32⟩

/-- An opaque color from its channels. -/
def rgb (r g b : UInt8) : Color := argb 0xFF r g b

/-- The alpha channel. -/
def alpha (c : Color) : UInt8 := (c.packed >>> 24).toUInt8

/-- The red channel. -/
def red (c : Color) : UInt8 := (c.packed >>> 16).toUInt8

/-- The green channel. -/
def green (c : Color) : UInt8 := (c.packed >>> 8).toUInt8

/-- The blue channel. -/
def blue (c : Color) : UInt8 := c.packed.toUInt8

/-- The upper-case hexadecimal digit of a number below 16. -/
def hexDigit (n : Nat) : Char := if n < 10 then Char.ofNat (48 + n) else Char.ofNat (55 + n)

/-- The lowest `k` hexadecimal digits of a number, most significant first. -/
def hexDigits : Nat → Nat → List Char
  | 0, _ => []
  | k + 1, n => hexDigits k (n / 16) ++ [hexDigit (n % 16)]

/-- The text of a color. -/
def render (c : Color) : String := String.ofList ('#' :: hexDigits 8 c.packed.toNat)

/-- Reads a color literal. -/
def parse (s : String) : Except ColorError Color :=
  match s.toList with
  | '#' :: hex =>
    match Text.word? 16 hex with
    | none => .error (.invalidHex s)
    | some value =>
      match (String.ofList hex).utf8ByteSize with
      | 6 => .ok ⟨0xFF000000 ||| value⟩
      | 8 => .ok ⟨value⟩
      | _ => .error (.invalidLength s)
  | _ => .error (.missingHash s)

/-- A color for diagnostics: the packed word in decimal. -/
def debug (c : Color) : String := "Color(" ++ toString c.packed.toNat ++ ")"

end Color
end Theming
