/-
# Literals of texts

A text is written down as a string literal, and the value of the literal is the text
(`stringValue?_literal`): each escape stands for its character alone, and a null is spelled out where
the digit behind it would be read with it. Two texts with one literal are one text.

A literal has its quotes at its ends only, and no line feed, so it is printed as one word.
-/

import Theming.Proofs.Printing
import Theming.Syntax.Literal
import Theming.Text.Quoted

namespace Theming
namespace Text

/-! ## Hexadecimal digits -/

theorem hexDigits_eq_if (n : Nat) : hexDigits n =
    if n < 16 then [n.digitChar] else hexDigits (n / 16) ++ [(n % 16).digitChar] :=
  Nat.toDigits_eq_if (by decide)

theorem exists_of_mem_hexDigits {n : Nat} {c : Char} (h : c ∈ hexDigits n) :
    ∃ d < 16, c = d.digitChar := by
  induction n using Nat.strongRecOn with
  | ind n ih =>
    rw [hexDigits_eq_if] at h
    split_ifs at h with hlt
    · exact ⟨n, hlt, List.mem_singleton.mp h⟩
    · rcases List.mem_append.mp h with h | h
      · exact ih (n / 16) (by omega) h
      · exact ⟨n % 16, Nat.mod_lt _ (by decide), List.mem_singleton.mp h⟩

theorem codeDigits?_digitChar {d : Nat} (hd : d < 16) (value : Nat) {len : Nat} (hlen : len < 6)
    (rest : List Char) : Syntax.Lexer.codeDigits? value len (d.digitChar :: rest) =
      Syntax.Lexer.codeDigits? (16 * value + d) (len + 1) rest := by
  have hdigit : ∀ d < 16, d.digitChar ≠ '\x7d' ∧ d.digitChar ≠ '_' ∧
      digit? 16 d.digitChar = some d := by decide
  obtain ⟨hbrace, hscore, hvalue⟩ := hdigit d hd
  simp [Syntax.Lexer.codeDigits?, hbrace, hscore, hvalue, Nat.ne_of_lt hlen]

/-- The digits of a number give the number, as long as there are at most six. -/
theorem codeDigits?_hexDigits {n : Nat} (hlen : (hexDigits n).length ≤ 6) (rest : List Char) :
    Syntax.Lexer.codeDigits? 0 0 (hexDigits n ++ rest) =
      Syntax.Lexer.codeDigits? n (hexDigits n).length rest := by
  induction n using Nat.strongRecOn generalizing rest with
  | ind n ih =>
    rw [hexDigits_eq_if] at hlen ⊢
    split_ifs at hlen ⊢ with hlt
    · exact (codeDigits?_digitChar hlt 0 (by decide) rest).trans (by simp)
    · rw [List.length_append, List.length_singleton] at hlen ⊢
      rw [List.append_assoc, ih (n / 16) (by omega) (by omega), List.singleton_append,
        codeDigits?_digitChar (Nat.mod_lt _ (by decide)) _ (by omega), Nat.div_add_mod]

theorem length_hexDigits_toNat (c : Char) : (hexDigits c.toNat).length ≤ 6 := by
  refine (Nat.length_toDigits_le_iff (by decide) (by decide)).mpr ?_
  have hvalid : c.toNat < 0xd800 ∨ 0xdfff < c.toNat ∧ c.toNat < 0x110000 := c.valid
  omega

/-! ## Values -/

theorem cookedValue_escapeChar (c : Char) (fuel : Nat) (rest : List Char) :
    Syntax.cookedValue (fuel + 1) (escapeChar c ++ rest) = c :: Syntax.cookedValue fuel rest := by
  rw [escapeChar]
  split_ifs with hquote hback htab hline hreturn hnull hhidden
  · rw [hquote]
    rfl
  · rw [hback]
    rfl
  · rw [htab]
    rfl
  · rw [hline]
    rfl
  · rw [hreturn]
    rfl
  · rw [show c = Char.ofNat 0 by rw [← hnull, Char.ofNat_toNat]]
    rfl
  · have hdigits := codeDigits?_hexDigits (length_hexDigits_toNat c) ('\x7d' :: rest)
    have hend : Syntax.Lexer.codeDigits? c.toNat (hexDigits c.toNat).length ('\x7d' :: rest) =
        some (c.toNat, rest) := by
      simp [Syntax.Lexer.codeDigits?, hexDigits]
    rw [hend] at hdigits
    simp [Syntax.cookedValue, hdigits]
  · simp [Syntax.cookedValue, hback, hreturn]

/-- A null and the digit behind it are not read as one. -/
theorem cookedValue_escapeLiteral (cs : List Char) {fuel : Nat} (hfuel : cs.length < fuel) :
    Syntax.cookedValue fuel (escapeLiteral cs ++ ['"']) = cs := by
  induction cs generalizing fuel with
  | nil =>
    cases fuel with
    | zero => cases hfuel
    | succ fuel => rfl
  | cons c rest ih =>
    cases fuel with
    | zero => cases hfuel
    | succ fuel =>
      have hrest := ih (Nat.lt_of_succ_lt_succ hfuel)
      rw [escapeLiteral, List.append_assoc]
      split_ifs with hnull
      · have hzero : c = Char.ofNat 0 := by rw [← hnull.1, Char.ofNat_toNat]
        rw [hzero]
        exact congrArg _ hrest
      · rw [cookedValue_escapeChar, hrest]

theorem length_escapeLiteral (cs : List Char) : cs.length ≤ (escapeLiteral cs).length := by
  induction cs with
  | nil => exact Nat.le_refl _
  | cons c rest ih =>
    have hpiece : 0 < (escapeChar c).length := by
      rw [escapeChar]
      split_ifs <;> simp
    rw [escapeLiteral, List.length_append, List.length_cons]
    split_ifs
    · simp only [List.length_cons]
      omega
    · omega

/-- **The value of the literal of a text is the text.** -/
theorem stringValue?_literal (s : String) : Syntax.stringValue? (literal s) = some s := by
  have hlength := length_escapeLiteral s.toList
  have hvalue : Syntax.cookedValue ((escapeLiteral s.toList ++ ['"']).length + 1)
      (escapeLiteral s.toList ++ ['"']) = s.toList :=
    cookedValue_escapeLiteral s.toList (by rw [List.length_append]; omega)
  rw [Syntax.stringValue?, literal, String.toList_ofList, List.cons_append]
  exact congrArg some ((congrArg String.ofList hvalue).trans String.ofList_toList)

theorem literal_inj {s s' : String} : literal s = literal s' ↔ s = s' := by
  refine ⟨fun h => ?_, congrArg literal⟩
  rw [← Option.some_inj, ← stringValue?_literal, h, stringValue?_literal]

/-! ## Printing -/

open Syntax.Code (goesOn)

theorem goesOn_cons {c : Char} (hquote : c ≠ '"') (hback : c ≠ '\\') (hline : c ≠ '\n')
    (rest : List Char) : goesOn .quoted (c :: rest) = goesOn .quoted rest := by
  simp [goesOn, Syntax.Place.next, hquote, hback, hline]

theorem goesOn_hexDigits (n : Nat) (rest : List Char) :
    goesOn .quoted (hexDigits n ++ rest) = goesOn .quoted rest := by
  have hdigit : ∀ d < 16, d.digitChar ≠ '"' ∧ d.digitChar ≠ '\\' ∧ d.digitChar ≠ '\n' := by decide
  have hplain : ∀ digits : List Char, (∀ c ∈ digits, ∃ d < 16, c = d.digitChar) →
      goesOn .quoted (digits ++ rest) = goesOn .quoted rest := by
    intro digits hdigits
    induction digits with
    | nil => rfl
    | cons c others ih =>
      obtain ⟨⟨d, hd, rfl⟩, hothers⟩ := List.forall_mem_cons.mp hdigits
      obtain ⟨hquote, hback, hline⟩ := hdigit d hd
      rw [List.cons_append, goesOn_cons hquote hback hline, ih hothers]
  exact hplain _ fun c => exists_of_mem_hexDigits

theorem goesOn_escapeChar (c : Char) (rest : List Char) :
    goesOn .quoted (escapeChar c ++ rest) = goesOn .quoted rest := by
  rw [escapeChar]
  split_ifs with hquote hback htab hline hreturn hnull hhidden
  any_goals rfl
  · rw [List.append_assoc, List.append_assoc]
    exact (goesOn_hexDigits c.toNat ('\x7d' :: rest)).trans rfl
  · exact goesOn_cons hquote hback hline rest

theorem goesOn_escapeLiteral (cs : List Char) :
    goesOn .quoted (escapeLiteral cs ++ ['"']) = true := by
  induction cs with
  | nil => rfl
  | cons c rest ih =>
    rw [escapeLiteral, List.append_assoc]
    split_ifs
    · exact ih
    · rw [goesOn_escapeChar, ih]

/-- A literal is printed as one word. -/
theorem isSolidWord_literal (s : String) : Syntax.Code.isSolidWord (literal s) = true := by
  simpa [Syntax.Code.isSolidWord, literal, goesOn, Syntax.Place.next, Syntax.Code.isBreak]
    using goesOn_escapeLiteral s.toList

end Text

namespace Syntax

/-! ## Numerals -/

theorem integerDigits?_digitChar {d : Nat} (hd : d < 10) (value : Option Nat) (rest : List Char) :
    integerDigits? 10 value (d.digitChar :: rest) =
      integerDigits? 10 (some (10 * value.getD 0 + d)) rest := by
  have hdigit : ∀ d < 10, d.digitChar ≠ '_' ∧ d.digitChar ≠ '.' ∧ d.digitChar ≠ 'e' ∧
      d.digitChar ≠ 'E' ∧ Text.digit? 10 d.digitChar = some d := by decide
  obtain ⟨hscore, hpoint, hlower, hupper, hvalue⟩ := hdigit d hd
  simp [integerDigits?, hscore, hpoint, hlower, hupper, hvalue, hd]

theorem integerDigits?_toDigits (n : Nat) (rest : List Char) :
    integerDigits? 10 none (Nat.toDigits 10 n ++ rest) = integerDigits? 10 (some n) rest := by
  induction n using Nat.strongRecOn generalizing rest with
  | ind n ih =>
    rw [Nat.toDigits_eq_if (by decide)]
    split_ifs with hlt
    · exact (integerDigits?_digitChar hlt none rest).trans (by simp)
    · rw [List.append_assoc, ih (n / 10) (by omega), List.singleton_append,
        integerDigits?_digitChar (Nat.mod_lt _ (by decide)), Option.getD_some, Nat.div_add_mod]

/-- The numeral of a number has its value. -/
theorem integerValue?_toString (n : Nat) : integerValue? (toString n) = some n := by
  have hdigit : ∀ c ∈ Nat.toDigits 10 n, c.isDigit = true := fun c hc =>
    Nat.isDigit_of_mem_toDigits (by decide) (by decide) hc
  have hvalue : integerDigits? 10 none (Nat.toDigits 10 n) = some n := by
    rw [← List.append_nil (Nat.toDigits 10 n), integerDigits?_toDigits, integerDigits?]
  rw [integerValue?, Nat.toString_eq_ofList_toDigits, String.toList_ofList]
  -- None of the marks of another base is a digit.
  split
  · rename_i hmark
    exact absurd (hdigit 'x' (by simp [hmark])) (by decide)
  · rename_i hmark
    exact absurd (hdigit 'o' (by simp [hmark])) (by decide)
  · rename_i hmark
    exact absurd (hdigit 'b' (by simp [hmark])) (by decide)
  · rename_i c rest _ _ _ hdigits
    rw [hdigits] at hdigit hvalue
    rw [if_pos (hdigit c List.mem_cons_self), hvalue]
  · rename_i hdigits
    exact absurd hdigits Nat.toDigits_ne_nil

/-! ## Identifiers -/

/-- An identifier is printed as one word. -/
theorem isSolidWord_of_identifier {w : String} (hne : w ≠ "")
    (h : ∀ c ∈ w.toList, c = '#' ∨ Text.isWordStart c = true ∨ Text.isWordPart c = true) :
    Code.isSolidWord w = true :=
  Code.isSolidWord_of_chars (by decide) hne h

/-- So is a numeral. -/
theorem isSolidWord_toString (n : Nat) : Code.isSolidWord (toString n) = true := by
  rw [Nat.toString_eq_ofList_toDigits]
  refine Code.isSolidWord_of_chars (P := fun c => c.isDigit = true) (by decide) (by simp)
    fun c hc => ?_
  rw [String.toList_ofList] at hc
  exact Nat.isDigit_of_mem_toDigits (by decide) (by decide) hc

end Syntax
end Theming
