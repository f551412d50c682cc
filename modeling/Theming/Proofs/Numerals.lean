/-
# Numerals of 32 bits

| part | what it may be |
| --- | --- |
| sign | nothing, or a `+` |
| digits | at least one digit of the radix, leading zeros included |

What is read is the number of the digits if it is below the bound (`numeral?_eq_some_iff`); in radix
ten the digits are those of ASCII (`word?_ten_eq_some_iff`). White space around a numeral is cut off
beforehand (`trim_eq`, `exists_trim`).
-/

import Mathlib.Data.Bool.AllAny
import Mathlib.Data.String.Basic
import Mathlib.Tactic.SplitIfs
import Theming.Text.Blank
import Theming.Text.Numeral

namespace Theming
namespace Text

/-! ## Any radix -/

/-- A sign is no digit, so the digits start behind it. -/
theorem dropPlus_append {radix acc n : Nat} {sign digits : List Char}
    (hsign : sign = [] ∨ sign = ['+']) (hdigits : digits? radix acc digits = some n) :
    dropPlus (sign ++ digits) = digits := by
  rcases hsign with rfl | rfl
  · rw [List.nil_append, dropPlus.eq_def]
    split
    · cases hdigits
    · rfl
  · rfl

theorem exists_dropPlus (cs : List Char) :
    ∃ sign, (sign = [] ∨ sign = ['+']) ∧ cs = sign ++ dropPlus cs := by
  rw [dropPlus.eq_def]
  split
  · exact ⟨['+'], .inr rfl, rfl⟩
  · exact ⟨[], .inl rfl, rfl⟩

/-- **Which texts are numerals, and of which number.** -/
theorem numeral?_eq_some_iff {radix bound n : Nat} {cs : List Char} :
    numeral? radix bound cs = some n ↔ ∃ sign digits, cs = sign ++ digits ∧
      (sign = [] ∨ sign = ['+']) ∧ digits ≠ [] ∧ digits? radix 0 digits = some n ∧ n < bound := by
  constructor
  · intro h
    obtain ⟨sign, hsign, hcs⟩ := exists_dropPlus cs
    have hlt := numeral?_lt h
    rw [numeral?] at h
    split at h
    · cases h
    · rename_i hne
      exact ⟨sign, _, hcs, hsign, hne, (Option.filter_eq_some_iff.mp h).1, hlt⟩
  · rintro ⟨sign, digits, rfl, hsign, hne, hread, hlt⟩
    rw [numeral?, dropPlus_append hsign hread]
    split
    · exact absurd rfl hne
    · rw [hread, Option.filter_some, if_pos (decide_eq_true hlt)]

/-! ## Radix ten -/

theorem isDigit_iff {c : Char} : c.isDigit = true ↔ 48 ≤ c.toNat ∧ c.toNat ≤ 57 := by
  rw [Char.isDigit, Bool.and_eq_true, decide_eq_true_iff, decide_eq_true_iff]
  rfl

theorem digit?_ten (c : Char) :
    digit? 10 c = if c.isDigit then some (c.toNat - '0'.toNat) else none := by
  by_cases hten : 48 ≤ c.toNat ∧ c.toNat ≤ 57
  · have hlt : c.toNat - 48 < 10 := by omega
    rw [if_pos (isDigit_iff.mpr hten), digit?, if_pos hten, Option.filter_some,
      if_pos (decide_eq_true hlt)]
    rfl
  -- A letter is a digit of a greater value.
  · rw [if_neg (mt isDigit_iff.mp hten), digit?, if_neg hten]
    split_ifs with hlower hupper
    · exact Option.filter_some_neg (by simpa using (by omega : 10 ≤ c.toNat - 87))
    · exact Option.filter_some_neg (by simpa using (by omega : 10 ≤ c.toNat - 55))
    · rfl

theorem digits?_ten_of_isDigit {cs : List Char} (h : ∀ c ∈ cs, c.isDigit = true) (acc : Nat) :
    digits? 10 acc cs = some (Nat.ofDigitChars 10 cs acc) := by
  induction cs generalizing acc with
  | nil => rfl
  | cons c cs ih =>
    rw [digits?, digit?_ten, if_pos (h c List.mem_cons_self), Option.bind_some,
      ih fun d hd => h d (List.mem_cons_of_mem c hd), Nat.ofDigitChars_cons]

theorem isDigit_of_digits?_ten {cs : List Char} {acc n : Nat} (h : digits? 10 acc cs = some n) :
    ∀ c ∈ cs, c.isDigit = true := by
  induction cs generalizing acc with
  | nil => exact List.forall_mem_nil _
  | cons c cs ih =>
    rw [digits?, digit?_ten] at h
    obtain ⟨d, hd, hrest⟩ := Option.bind_eq_some_iff.mp h
    split_ifs at hd with hc
    exact List.forall_mem_cons.mpr ⟨hc, ih hrest⟩

/-- **The decimal numerals of 32 bits.** -/
theorem word?_ten_eq_some_iff {cs : List Char} {w : UInt32} : word? 10 cs = some w ↔
    ∃ sign digits, cs = sign ++ digits ∧ (sign = [] ∨ sign = ['+']) ∧ digits ≠ [] ∧
      (∀ c ∈ digits, c.isDigit = true) ∧ Nat.ofDigitChars 10 digits 0 = w.toNat := by
  constructor
  · intro h
    obtain ⟨n, hn, rfl⟩ := Option.map_eq_some_iff.mp h
    obtain ⟨sign, digits, hcs, hsign, hne, hread, hlt⟩ := numeral?_eq_some_iff.mp hn
    have hdigits := isDigit_of_digits?_ten hread
    rw [digits?_ten_of_isDigit hdigits] at hread
    rw [UInt32.toNat_ofNat_of_lt' hlt]
    exact ⟨sign, digits, hcs, hsign, hne, hdigits, Option.some.inj hread⟩
  · rintro ⟨sign, digits, hcs, hsign, hne, hdigits, hvalue⟩
    have hread : digits? 10 0 digits = some w.toNat := by
      rw [digits?_ten_of_isDigit hdigits, hvalue]
    have hn := numeral?_eq_some_iff.mpr ⟨sign, digits, hcs, hsign, hne, hread, w.toNat_lt_size⟩
    rw [word?, hn, Option.map_some, UInt32.ofNat_toNat]

/-! ## White space around -/

/-- A digit is no white space. -/
theorem isBlank_of_isDigit {c : Char} (h : c.isDigit = true) : isBlank c = false := by
  have hrange := isDigit_iff.mp h
  rw [isBlank]
  generalize c.toNat = n at hrange
  simp only [Bool.or_eq_false_iff, Bool.and_eq_false_iff, beq_eq_false_iff_ne,
    decide_eq_false_iff_not]
  omega

theorem dropWhile_isBlank {before rest : List Char} (hbefore : ∀ c ∈ before, isBlank c = true)
    (hrest : ∀ c ∈ rest.head?, isBlank c = false) :
    (before ++ rest).dropWhile isBlank = rest := by
  rw [List.dropWhile_append_of_pos hbefore]
  cases rest with
  | nil => rfl
  | cons c rest => exact List.dropWhile_cons_of_neg (by simp [hrest c rfl])

/-- **White space at both ends is cut off**, and no other character. -/
theorem trim_eq {before body after : List Char} (hbefore : ∀ c ∈ before, isBlank c = true)
    (hafter : ∀ c ∈ after, isBlank c = true) (hne : body ≠ [])
    (hbody : ∀ c ∈ body, isBlank c = false) : trim (before ++ body ++ after) = body := by
  have hhead : ∀ c ∈ (body ++ after).head?, isBlank c = false := by
    rw [List.head?_append_of_ne_nil _ hne]
    exact fun c hc => hbody c (List.mem_of_head? hc)
  have hlast : ∀ c ∈ body.reverse.head?, isBlank c = false := fun c hc =>
    hbody c (List.mem_reverse.mp (List.mem_of_head? hc))
  rw [trim, List.append_assoc, dropWhile_isBlank hbefore hhead, List.reverse_append,
    dropWhile_isBlank (fun c hc => hafter c (List.mem_reverse.mp hc)) hlast, List.reverse_reverse]

theorem exists_dropWhile (cs : List Char) :
    ∃ before, (∀ c ∈ before, isBlank c = true) ∧ cs = before ++ cs.dropWhile isBlank :=
  ⟨cs.takeWhile isBlank, fun _ hc => List.all_eq_true.mp List.all_takeWhile _ hc,
    List.takeWhile_append_dropWhile.symm⟩

theorem exists_trim (cs : List Char) : ∃ before after, (∀ c ∈ before, isBlank c = true) ∧
    (∀ c ∈ after, isBlank c = true) ∧ cs = before ++ trim cs ++ after := by
  obtain ⟨before, hbefore, hcs⟩ := exists_dropWhile cs
  obtain ⟨after, hafter, hrest⟩ := exists_dropWhile (cs.dropWhile isBlank).reverse
  refine ⟨before, after.reverse, hbefore, fun c hc => hafter c (List.mem_reverse.mp hc), ?_⟩
  have hback := congrArg List.reverse hrest
  rw [List.reverse_reverse, List.reverse_append] at hback
  rw [trim, List.append_assoc, ← hback]
  exact hcs

end Text
end Theming
