/-
# Color literals

A hexadecimal digit is a letter of the alphabet `0123456789ABCDEF` in either case, and it stands for
its place there; digits one after the other stand for a numeral.

| literal | color |
| --- | --- |
| `#` and 8 digits | their numeral |
| `#` and 6 digits | their numeral below an alpha of `FF` |
| `#`, a `+` and 7 or 5 digits | the same, as if the `+` were a zero |

These literals are read and no others (`Color.parse_isOk_iff`): a `+` in front of the digits counts
as one of the six or eight characters. Without a `+`, the color has its literal, in upper case and
with its alpha, as its text (`Color.render_eq`, `Color.render_spelled_six`), and the text of every
color is read back (`Color.parse_render`).
-/

import Mathlib.Data.Bool.AllAny
import Mathlib.Data.List.Induction
import Mathlib.Data.Nat.Digits.Defs
import Mathlib.Data.String.Basic
import Mathlib.Tactic.Ring
import Theming.Color
import Theming.Proofs.Numerals

namespace Theming
namespace Color

/-- The hexadecimal digits in order. -/
def alphabet : List Char := "0123456789ABCDEF".toList

/-- A hexadecimal digit, a letter in either case. -/
def IsDigit (c : Char) : Prop := c.toUpper ∈ alphabet

instance (c : Char) : Decidable (IsDigit c) := inferInstanceAs (Decidable (c.toUpper ∈ alphabet))

/-- What a digit stands for. -/
def digitValue (c : Char) : Nat := alphabet.idxOf c.toUpper

/-- What digits stand for, the first one being the most significant. -/
def numeral (cs : List Char) : Nat := Nat.ofDigits 16 (cs.map digitValue).reverse

/-- A color literal: what stands between its `#` and its digits, and the digits. -/
structure Spells (s : String) (sign digits : List Char) : Prop where
  text : s.toList = '#' :: (sign ++ digits)
  isSign : sign = [] ∨ sign = ['+']
  isDigit : ∀ c ∈ digits, IsDigit c
  length : (sign ++ digits).length = 6 ∨ (sign ++ digits).length = 8

/-- The color of a literal: six characters leave the alpha out, which then is the highest. -/
def spelled (sign digits : List Char) : Color :=
  if (sign ++ digits).length = 6 then ⟨0xFF000000 ||| UInt32.ofNat (numeral digits)⟩
  else ⟨UInt32.ofNat (numeral digits)⟩

/-! ## Digits -/

/-- The digits of the reader are those of the alphabet. -/
theorem digit?_eq (c : Char) :
    Text.digit? 16 c = if IsDigit c then some (digitValue c) else none := by
  by_cases hc : c.toNat < 128
  · have hall : ∀ n < 128, Text.digit? 16 (Char.ofNat n) =
        if IsDigit (Char.ofNat n) then some (digitValue (Char.ofNat n)) else none := by
      decide +kernel
    simpa using hall c.toNat hc
  · have hupper : c.toUpper = c := dif_neg fun h => hc (by have : c.toNat ≤ 122 := h.2; omega)
    have hnot : ¬ IsDigit c := by
      intro h
      have hall : ∀ d ∈ alphabet, d.toNat < 128 := List.all_iff_forall_prop.mp (by decide)
      exact hc (hall c (hupper ▸ h))
    have hrange : ¬ (48 ≤ c.toNat ∧ c.toNat ≤ 57) ∧ ¬ (97 ≤ c.toNat ∧ c.toNat ≤ 102) ∧
        ¬ (65 ≤ c.toNat ∧ c.toNat ≤ 70) := by omega
    rw [if_neg hnot, Text.digit?, if_neg hrange.1, if_neg hrange.2.1, if_neg hrange.2.2,
      Option.filter_none]

theorem digitValue_lt {c : Char} (h : IsDigit c) : digitValue c < 16 :=
  List.idxOf_lt_length_of_mem h

theorem numeral_append_singleton (cs : List Char) (c : Char) :
    numeral (cs ++ [c]) = 16 * numeral cs + digitValue c := by
  rw [numeral, List.map_append, List.reverse_append, List.map_singleton, List.reverse_singleton,
    List.singleton_append, Nat.ofDigits_cons, ← numeral]
  exact Nat.add_comm ..

theorem numeral_cons (c : Char) (cs : List Char) :
    numeral (c :: cs) = 16 ^ cs.length * digitValue c + numeral cs := by
  rw [numeral, List.map_cons, List.reverse_cons, Nat.ofDigits_append, List.length_reverse,
    List.length_map, Nat.ofDigits_singleton, Nat.add_comm, ← numeral]

theorem numeral_lt {cs : List Char} (h : ∀ c ∈ cs, IsDigit c) : numeral cs < 16 ^ cs.length := by
  have hlt := Nat.ofDigits_lt_base_pow_length (b := 16) (l := (cs.map digitValue).reverse)
    (by decide) (by simpa using fun c hc => digitValue_lt (h c hc))
  rwa [List.length_reverse, List.length_map] at hlt

theorem digits?_of_isDigit {cs : List Char} (h : ∀ c ∈ cs, IsDigit c) (acc : Nat) :
    Text.digits? 16 acc cs = some (16 ^ cs.length * acc + numeral cs) := by
  induction cs generalizing acc with
  | nil => rw [Text.digits?, List.length_nil, Nat.pow_zero, Nat.one_mul]; rfl
  | cons c cs ih =>
    have hc := h c List.mem_cons_self
    rw [Text.digits?, digit?_eq, if_pos hc, Option.bind_some,
      ih fun d hd => h d (List.mem_cons_of_mem c hd), numeral_cons, List.length_cons]
    congr 1
    ring

theorem isDigit_of_digits? {cs : List Char} {acc n : Nat} (h : Text.digits? 16 acc cs = some n) :
    ∀ c ∈ cs, IsDigit c := by
  induction cs generalizing acc with
  | nil => exact fun _ hc => absurd hc List.not_mem_nil
  | cons c cs ih =>
    rw [Text.digits?, digit?_eq] at h
    obtain ⟨d, hd, hrest⟩ := Option.bind_eq_some_iff.mp h
    have hc : IsDigit c := by
      by_contra hnot
      rw [if_neg hnot] at hd
      cases hd
    exact List.forall_mem_cons.mpr ⟨hc, ih hrest⟩

/-! ## Printed digits -/

theorem isDigit_hexDigit {n : Nat} (hn : n < 16) :
    IsDigit (hexDigit n) ∧ digitValue (hexDigit n) = n := by
  have hall : ∀ n < 16, IsDigit (hexDigit n) ∧ digitValue (hexDigit n) = n := by decide
  exact hall n hn

theorem hexDigit_digitValue {c : Char} (h : IsDigit c) : hexDigit (digitValue c) = c.toUpper := by
  have hall : ∀ d ∈ alphabet, hexDigit (alphabet.idxOf d) = d :=
    List.all_iff_forall_prop.mp (by decide)
  exact hall c.toUpper h

@[simp] theorem length_hexDigits (k n : Nat) : (hexDigits k n).length = k := by
  induction k generalizing n with
  | zero => rfl
  | succ k ih => rw [hexDigits, List.length_append, ih, List.length_singleton]

theorem isDigit_of_mem_hexDigits {k n : Nat} : ∀ c ∈ hexDigits k n, IsDigit c := by
  induction k generalizing n with
  | zero => exact fun _ hc => absurd hc List.not_mem_nil
  | succ k ih =>
    intro c hc
    rcases List.mem_append.mp hc with hc | hc
    · exact ih c hc
    · exact List.mem_singleton.mp hc ▸ (isDigit_hexDigit (Nat.mod_lt n (by decide))).1

/-- The lowest digits of a number stand for what is left of it below their power. -/
theorem numeral_hexDigits (k n : Nat) : numeral (hexDigits k n) = n % 16 ^ k := by
  induction k generalizing n with
  | zero => rw [Nat.pow_zero, Nat.mod_one]; rfl
  | succ k ih =>
    rw [hexDigits, numeral_append_singleton, ih, (isDigit_hexDigit (Nat.mod_lt n (by decide))).2,
      Nat.pow_succ', Nat.mod_mul, Nat.add_comm]

/-- Digits that are read and printed again come out in upper case. -/
theorem hexDigits_numeral {cs : List Char} (h : ∀ c ∈ cs, IsDigit c) :
    hexDigits cs.length (numeral cs) = cs.map Char.toUpper := by
  induction cs using List.reverseRecOn with
  | nil => rfl
  | append_singleton cs c ih =>
    have hc := h c (by simp)
    have hlt := digitValue_lt hc
    have hdiv : (16 * numeral cs + digitValue c) / 16 = numeral cs := by omega
    have hmod : (16 * numeral cs + digitValue c) % 16 = digitValue c := by omega
    rw [List.length_append, List.length_singleton, hexDigits, numeral_append_singleton, hdiv, hmod,
      ih fun d hd => h d (List.mem_append_left _ hd), hexDigit_digitValue hc, List.map_append,
      List.map_singleton]

/-! ## Reading -/

theorem utf8ByteSize_ofList {cs : List Char} (h : ∀ c ∈ cs, c.utf8Size = 1) :
    (String.ofList cs).utf8ByteSize = cs.length := by
  rw [String.utf8ByteSize_ofList]
  induction cs with
  | nil => rfl
  | cons c cs ih =>
    rw [String.utf8Len_cons, h c List.mem_cons_self, ih fun d hd => h d (List.mem_cons_of_mem c hd),
      List.length_cons]

theorem utf8Size_of_isDigit {c : Char} (h : IsDigit c) : c.utf8Size = 1 := by
  rw [Char.utf8Size_eq_one_iff]
  by_contra hc
  have hupper : c.toUpper = c := dif_neg fun h => hc (UInt32.le_trans h.2 (by decide))
  have hall : ∀ d ∈ alphabet, d.val ≤ 127 := List.all_iff_forall_prop.mp (by decide)
  exact hc (hall c (hupper ▸ h))

/-- The numerals of 32 bits. -/
theorem word?_eq_some_iff {cs : List Char} {w : UInt32} : Text.word? 16 cs = some w ↔
    ∃ sign digits, cs = sign ++ digits ∧ (sign = [] ∨ sign = ['+']) ∧ (∀ c ∈ digits, IsDigit c) ∧
      digits ≠ [] ∧ numeral digits < UInt32.size ∧ UInt32.ofNat (numeral digits) = w := by
  constructor
  · intro h
    obtain ⟨n, hn, hw⟩ := Option.map_eq_some_iff.mp h
    obtain ⟨sign, digits, hcs, hsign, hne, hread, hlt⟩ := Text.numeral?_eq_some_iff.mp hn
    have hdigits := isDigit_of_digits? hread
    rw [digits?_of_isDigit hdigits, Nat.mul_zero, Nat.zero_add] at hread
    obtain rfl := Option.some.inj hread
    exact ⟨sign, digits, hcs, hsign, hdigits, hne, hlt, hw⟩
  · rintro ⟨sign, digits, hcs, hsign, hdigits, hne, hlt, rfl⟩
    have hread : Text.digits? 16 0 digits = some (numeral digits) := by
      rw [digits?_of_isDigit hdigits, Nat.mul_zero, Nat.zero_add]
    have hn := Text.numeral?_eq_some_iff.mpr ⟨sign, digits, hcs, hsign, hne, hread, hlt⟩
    rw [Text.word?, hn, Option.map_some]

theorem utf8ByteSize_literal {sign digits : List Char} (hsign : sign = [] ∨ sign = ['+'])
    (hdigits : ∀ c ∈ digits, IsDigit c) :
    (String.ofList (sign ++ digits)).utf8ByteSize = (sign ++ digits).length := by
  refine utf8ByteSize_ofList fun c hc => ?_
  rcases List.mem_append.mp hc with hc | hc
  · rcases hsign with rfl | rfl
    · exact absurd hc List.not_mem_nil
    · exact List.mem_singleton.mp hc ▸ rfl
  · exact utf8Size_of_isDigit (hdigits c hc)

/-- A literal fits 32 bits. -/
theorem Spells.numeral_lt {s : String} {sign digits : List Char} (h : Spells s sign digits) :
    numeral digits < UInt32.size := by
  have hlen : digits.length ≤ 8 := by
    have := h.length
    rw [List.length_append] at this
    omega
  exact (Color.numeral_lt h.isDigit).trans_le (Nat.pow_le_pow_right (by decide) hlen)

theorem Spells.parse {s : String} {sign digits : List Char} (h : Spells s sign digits) :
    parse s = .ok (spelled sign digits) := by
  have hne : digits ≠ [] := by
    rintro rfl
    rcases h.isSign with rfl | rfl <;> exact absurd h.length (by decide)
  have hword := word?_eq_some_iff.mpr
    ⟨sign, digits, rfl, h.isSign, h.isDigit, hne, h.numeral_lt, rfl⟩
  have hsize := utf8ByteSize_literal h.isSign h.isDigit
  rw [Color.parse, h.text, spelled]
  simp only [hword, hsize]
  rcases h.length with hlen | hlen
  · rw [hlen, if_pos rfl]
    rfl
  · rw [hlen, if_neg (by decide)]
    rfl

theorem exists_spells {s : String} {c : Color} (h : parse s = .ok c) :
    ∃ sign digits, Spells s sign digits := by
  rw [parse] at h
  split at h
  · rename_i rest htext
    cases hword : Text.word? 16 rest with
    | none => simp [hword] at h
    | some value =>
      obtain ⟨sign, digits, rfl, hsign, hdigits, -, -, -⟩ := word?_eq_some_iff.mp hword
      refine ⟨sign, digits, htext, hsign, hdigits, ?_⟩
      rw [← utf8ByteSize_literal hsign hdigits]
      simp only [hword] at h
      split at h
      · exact .inl ‹_›
      · exact .inr ‹_›
      · exact nomatch h
  · exact nomatch h

/-- **The color literals, and what they stand for.** -/
theorem parse_eq_ok_iff {s : String} {c : Color} :
    parse s = .ok c ↔ ∃ sign digits, Spells s sign digits ∧ spelled sign digits = c := by
  constructor
  · intro h
    obtain ⟨sign, digits, hspells⟩ := exists_spells h
    exact ⟨sign, digits, hspells, Except.ok.inj (hspells.parse.symm.trans h)⟩
  · rintro ⟨sign, digits, hspells, rfl⟩
    exact hspells.parse

/-- **Which texts are color literals.** Those of a `#` and six or eight characters, all of them
hexadecimal digits but for one `+` that may stand before them; so, unless there is a `+` behind the
`#`, those of a `#` and six or eight hexadecimal digits. -/
theorem parse_isOk_iff (s : String) :
    ((∃ c, parse s = .ok c) ↔ ∃ sign digits, Spells s sign digits) ∧
      (s.toList[1]? ≠ some '+' → ((∃ c, parse s = .ok c) ↔ ∃ digits, Spells s [] digits)) := by
  have hiff : (∃ c, parse s = .ok c) ↔ ∃ sign digits, Spells s sign digits :=
    ⟨fun ⟨_, h⟩ => exists_spells h, fun ⟨_, _, h⟩ => ⟨_, h.parse⟩⟩
  refine ⟨hiff, fun hplus => hiff.trans ⟨?_, fun ⟨digits, h⟩ => ⟨[], digits, h⟩⟩⟩
  rintro ⟨sign, digits, h⟩
  rcases h.isSign with rfl | rfl
  · exact ⟨digits, h⟩
  · exact absurd (by rw [h.text]; rfl) hplus

/-- Six digits are a literal, and four are none. -/
theorem parse_six_not_four : "#336aB9".toList[1]? ≠ some '+' ∧ (∃ c, parse "#336aB9" = .ok c) ∧
    "#3366".toList[1]? ≠ some '+' ∧ ¬ ∃ c, parse "#3366" = .ok c := by
  have hsix : "#336aB9".toList[1]? ≠ some '+' := by decide
  have hfour : "#3366".toList[1]? ≠ some '+' := by decide
  refine ⟨hsix, ((parse_isOk_iff _).2 hsix).mpr ⟨"336aB9".toList, rfl, .inl rfl,
    List.all_iff_forall_prop.mp (by decide), .inl rfl⟩, hfour, fun h => ?_⟩
  obtain ⟨digits, hspells⟩ := ((parse_isOk_iff _).2 hfour).mp h
  have hdigits : "3366".toList = digits := (List.cons.inj hspells.text).2
  exact absurd (hdigits ▸ hspells.length) (by decide)

/-- A `+` and five digits are read, though they are not six. -/
theorem parse_plus : (∃ c, parse "#+12345" = .ok c) ∧ ¬ ∃ digits, Spells "#+12345" [] digits := by
  refine ⟨⟨⟨0xFF012345⟩, by decide +kernel⟩, fun ⟨digits, h⟩ => ?_⟩
  have hdigits : '+' :: "12345".toList = digits := (List.cons.inj h.text).2
  exact absurd (h.isDigit '+' (hdigits ▸ List.mem_cons_self)) (by decide)

/-! ## Printing -/

/-- Eight digits with the numeral of a color are its text but for their case. -/
theorem render_eq {c : Color} {digits : List Char} (hdigits : ∀ d ∈ digits, IsDigit d)
    (hlen : digits.length = 8) (h : c.packed.toNat = numeral digits) :
    c.render = String.ofList ('#' :: digits.map Char.toUpper) := by
  rw [render, h, ← hlen, hexDigits_numeral hdigits]

/-- The text of a color is a literal of it. -/
theorem parse_render (c : Color) : parse c.render = .ok c := by
  have hspells : Spells c.render [] (hexDigits 8 c.packed.toNat) :=
    ⟨String.toList_ofList, .inl rfl, isDigit_of_mem_hexDigits, .inr (length_hexDigits ..)⟩
  have hnumeral : numeral (hexDigits 8 c.packed.toNat) = c.packed.toNat := by
    rw [numeral_hexDigits]
    exact Nat.mod_eq_of_lt c.packed.toNat_lt
  rw [hspells.parse, spelled, List.nil_append, length_hexDigits, if_neg (by decide), hnumeral,
    UInt32.ofNat_toNat]

theorem parse_digits {digits : List Char} (hdigits : ∀ d ∈ digits, IsDigit d)
    (hlen : digits.length = 6 ∨ digits.length = 8) :
    parse (String.ofList ('#' :: digits)) = .ok (spelled [] digits) :=
  Spells.parse ⟨String.toList_ofList, .inl rfl, hdigits, hlen⟩

/-- Eight digits are the whole color. -/
theorem toNat_spelled_eight {digits : List Char} (hdigits : ∀ d ∈ digits, IsDigit d)
    (hlen : digits.length = 8) : (spelled [] digits).packed.toNat = numeral digits := by
  rw [spelled, List.nil_append, hlen, if_neg (by decide)]
  exact UInt32.toNat_ofNat_of_lt' ((numeral_lt hdigits).trans_eq (by rw [hlen]; rfl))

/-- Six digits are a color whose first two digits are `FF`. -/
theorem toNat_spelled_six {digits : List Char} (hdigits : ∀ d ∈ digits, IsDigit d)
    (hlen : digits.length = 6) :
    (spelled [] digits).packed.toNat = numeral ('F' :: 'F' :: digits) := by
  have hlt : numeral digits < 2 ^ 24 := (numeral_lt hdigits).trans_eq (by rw [hlen]; rfl)
  have hword : (UInt32.ofNat (numeral digits)).toNat = numeral digits :=
    UInt32.toNat_ofNat_of_lt' (hlt.trans (by decide))
  have hor := Nat.shiftLeft_add_eq_or_of_lt hlt 0xFF
  have hF : digitValue 'F' = 15 := by decide
  rw [spelled, List.nil_append, hlen, if_pos rfl, UInt32.toNat_or, hword, numeral_cons,
    numeral_cons, List.length_cons, hlen, hF]
  exact hor.symm.trans (by rw [Nat.shiftLeft_eq]; omega)

/-- So six digits are printed behind their alpha. -/
theorem render_spelled_six {digits : List Char} (hdigits : ∀ d ∈ digits, IsDigit d)
    (hlen : digits.length = 6) : (spelled [] digits).render =
      String.ofList ('#' :: 'F' :: 'F' :: digits.map Char.toUpper) := by
  have hall : ∀ d ∈ 'F' :: 'F' :: digits, IsDigit d :=
    List.forall_mem_cons.mpr ⟨by decide, List.forall_mem_cons.mpr ⟨by decide, hdigits⟩⟩
  exact render_eq hall (by rw [List.length_cons, List.length_cons, hlen])
    (toNat_spelled_six hdigits hlen)

/-! ## Channels -/

/-- A channel on top of lower ones is added to them. -/
theorem shiftLeft_or {x below k : Nat} (hx : x < 2 ^ 8) (hbelow : below < 2 ^ k) (hk : k ≤ 24) :
    x <<< k % 2 ^ 32 ||| below = 2 ^ k * x + below := by
  have hpow : 2 ^ k * x < 2 ^ 32 :=
    (Nat.mul_lt_mul_of_le_of_lt (Nat.pow_le_pow_right (by decide) hk) hx (by decide)).trans_eq rfl
  rw [Nat.mod_eq_of_lt (by rwa [Nat.shiftLeft_eq, Nat.mul_comm]),
    ← Nat.shiftLeft_add_eq_or_of_lt hbelow, Nat.shiftLeft_eq, Nat.mul_comm]

/-- A color packs its channels. -/
theorem toNat_argb (a r g b : UInt8) : (argb a r g b).packed.toNat =
    2 ^ 24 * a.toNat + (2 ^ 16 * r.toNat + (2 ^ 8 * g.toNat + b.toNat)) := by
  have ha := a.toNat_lt
  have hr := r.toNat_lt
  have hg := g.toNat_lt
  have hb := b.toNat_lt
  simp only [argb, UInt32.toNat_or, UInt32.toNat_shiftLeft, UInt8.toNat_toUInt32]
  rw [Nat.or_assoc, Nat.or_assoc, show (8 : UInt32).toNat % 32 = 8 from rfl,
    show (16 : UInt32).toNat % 32 = 16 from rfl, show (24 : UInt32).toNat % 32 = 24 from rfl,
    shiftLeft_or hg hb (by decide), shiftLeft_or hr (by omega) (by decide),
    shiftLeft_or ha (by omega) (by decide)]

/-- The channels of a color make it. -/
theorem argb_channels (c : Color) : argb c.alpha c.red c.green c.blue = c := by
  have hc := c.packed.toNat_lt
  have halpha : c.alpha.toNat = c.packed.toNat / 2 ^ 24 % 2 ^ 8 := by
    simp [alpha, Nat.shiftRight_eq_div_pow]
  have hred : c.red.toNat = c.packed.toNat / 2 ^ 16 % 2 ^ 8 := by
    simp [red, Nat.shiftRight_eq_div_pow]
  have hgreen : c.green.toNat = c.packed.toNat / 2 ^ 8 % 2 ^ 8 := by
    simp [green, Nat.shiftRight_eq_div_pow]
  have hblue : c.blue.toNat = c.packed.toNat % 2 ^ 8 := by simp [blue]
  have hpacked : (argb c.alpha c.red c.green c.blue).packed = c.packed := by
    rw [← UInt32.toNat_inj, toNat_argb, halpha, hred, hgreen, hblue]
    omega
  exact congrArg Color.mk hpacked

end Color
end Theming
