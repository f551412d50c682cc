/-
# Scanning a longer text

What becomes of the tokens of a text when word characters are put behind it.

| before the addition | afterwards |
| --- | --- |
| blanks and comments in front of a word | the same (`skip_append`) |
| a beginning that only a literal has | none that was not there (`prefix_of_prefix_append`) |
| a word with nothing behind it | a longer word (`extendWord`) |
| a word with text behind it | the same word, and the longer text behind it |

So the first word of the longer text is known as soon as one knows whether text was behind it
before (`Lexer.firstWord?_append`). A text is an identifier iff it starts with a word that is no
keyword and only blanks and comments follow (`identifier?_eq_some`).
-/

import Mathlib.Data.List.Basic
import Mathlib.Data.List.TakeDrop
import Mathlib.Data.List.TakeWhile
import Theming.Syntax.Identifier

namespace Theming
namespace Syntax
namespace Lexer

/-! ## Blanks in front -/

section Blanks

variable {cs rest : List Char}

theorem splitLine_append (h : (splitLine cs).2 ≠ []) (more : List Char) :
    (splitLine (cs ++ more)).2 = (splitLine cs).2 ++ more := by
  fun_induction splitLine cs with
  | case1 => exact absurd rfl h
  | case2 rest => rfl
  | case3 rest => rfl
  | case4 c rest hn hr line behind heq ih =>
    rw [heq] at ih
    obtain ⟨d, rest, rfl⟩ : ∃ d rest', rest = d :: rest' := by
      cases rest with
      | nil => cases heq; exact absurd rfl h
      | cons d rest' => exact ⟨d, rest', rfl⟩
    rw [← ih h, List.cons_append, List.cons_append, splitLine]
    · exact hn
    · rintro rest' hc hd
      obtain ⟨rfl, -⟩ := List.cons.inj hd
      exact hr _ hc rfl

theorem blockBody?_append {depth : Nat} {body : List Char}
    (h : blockBody? depth cs = some (body, rest)) (more : List Char) :
    blockBody? depth (cs ++ more) = some (body, rest ++ more) := by
  fun_induction blockBody? depth cs generalizing body rest with
  | case1 => cases h
  | case2 => cases h
  | case3 depth cs ih =>
    obtain ⟨⟨inside, behind⟩, hinside, heq⟩ := Option.map_eq_some_iff.mp h
    cases heq
    rw [List.cons_append, List.cons_append, blockBody?, ih hinside]
    rfl
  | case4 cs =>
    cases h
    rfl
  | case5 depth cs hdepth ih =>
    obtain ⟨⟨inside, behind⟩, hinside, heq⟩ := Option.map_eq_some_iff.mp h
    cases heq
    rw [List.cons_append, List.cons_append, blockBody?, if_neg hdepth, ih hinside]
    rfl
  | case6 depth c cs hopen hclose hne ih =>
    obtain ⟨⟨inside, behind⟩, hinside, heq⟩ := Option.map_eq_some_iff.mp h
    cases heq
    obtain ⟨d, cs, rfl⟩ : ∃ d cs', cs = d :: cs' := by
      cases cs with
      | nil => cases hinside
      | cons d cs' => exact ⟨d, cs', rfl⟩
    rw [List.cons_append, blockBody?, ih hinside]
    · rfl
    · exact List.cons_ne_nil _ _
    · rintro cs' rfl hd
      obtain ⟨rfl, -⟩ := List.cons.inj hd
      exact hclose cs rfl rfl
    · rintro cs' rfl hd
      obtain ⟨rfl, -⟩ := List.cons.inj hd
      exact hne cs rfl rfl

/-- A comment that text follows ends where it ends, whatever follows that text. -/
theorem comment?_append (h : comment? cs = some rest) (hne : rest ≠ []) (more : List Char) :
    comment? (cs ++ more) = some (rest ++ more) := by
  rw [comment?.eq_def] at h
  split at h
  case h_1 cs =>
    cases h
    exact congrArg some (splitLine_append hne more)
  case h_4 cs hslashes hslash hbang =>
    cases h
    obtain ⟨c, cs, rfl⟩ : ∃ c cs', cs = c :: cs' := by
      cases cs with
      | nil => exact absurd rfl hne
      | cons c cs' => exact ⟨c, cs', rfl⟩
    rw [← splitLine_append hne more, List.cons_append, List.cons_append, comment?]
    · exact fun _ heq => hslash cs (by rw [(List.cons.inj heq).1])
    · exact fun _ heq => hslash cs (by rw [(List.cons.inj heq).1])
    · exact fun _ heq => hbang cs (by rw [(List.cons.inj heq).1])
  case h_5 cs =>
    cases h
    rfl
  case h_6 cs =>
    obtain ⟨⟨body, behind⟩, hbody, rfl⟩ := Option.map_eq_some_iff.mp h
    have hmore := blockBody?_append hbody more
    rw [List.cons_append, List.cons_append, List.cons_append, List.cons_append, comment?]
    exact congrArg (Option.map Prod.snd) hmore
  case h_9 cs hclosed hstars hstar hbang =>
    obtain ⟨⟨body, behind⟩, hbody, rfl⟩ := Option.map_eq_some_iff.mp h
    obtain ⟨c, cs, rfl⟩ : ∃ c cs', cs = c :: cs' := by
      cases cs with
      | nil => cases hbody
      | cons c cs' => exact ⟨c, cs', rfl⟩
    have hmore := blockBody?_append hbody more
    rw [List.cons_append, List.cons_append, comment?, hmore]
    · rfl
    · exact fun _ heq => hstar cs (by rw [(List.cons.inj heq).1])
    · exact fun _ heq => hstar cs (by rw [(List.cons.inj heq).1])
    · exact fun _ heq => hstar cs (by rw [(List.cons.inj heq).1])
    · exact fun _ heq => hbang cs (by rw [(List.cons.inj heq).1])
  all_goals cases h

theorem comment?_of_ne {c : Char} (h : c ≠ '/') (cs : List Char) : comment? (c :: cs) = none := by
  rw [comment?.eq_def]
  split <;> first | rfl | (rename_i heq; exact absurd (List.cons.inj heq).1 h)

/-- All blanks, the two marks for the direction of text among them. -/
def blanks : List Char :=
  ([9, 10, 11, 12, 13, 0x20, 0x85, 0xA0, 0x1680, 0x2000, 0x2001, 0x2002, 0x2003, 0x2004, 0x2005,
    0x2006, 0x2007, 0x2008, 0x2009, 0x200A, 0x200E, 0x200F, 0x2028, 0x2029, 0x202F, 0x205F,
    0x3000] : List Nat).map Char.ofNat

theorem mem_blanks {c : Char} (h : isBlank c = true) : c ∈ blanks := by
  rw [isBlank, Bool.or_eq_true, Bool.or_eq_true, beq_iff_eq, beq_iff_eq] at h
  rcases h with (h | rfl) | rfl
  · rw [← Char.ofNat_toNat c]
    refine List.mem_map_of_mem ?_
    simp only [Text.isBlank, Bool.or_eq_true, Bool.and_eq_true, decide_eq_true_eq,
      beq_iff_eq] at h
    simp only [List.mem_cons, List.not_mem_nil, or_false]
    omega
  · decide
  · decide

theorem isBlank_of_isWordStart {c : Char} (h : Text.isWordStart c = true) : isBlank c = false := by
  have hnone : blanks.all (!Text.isWordStart ·) = true := by decide +kernel
  rw [← Bool.not_eq_true]
  intro hblank
  have hc := List.all_eq_true.mp hnone c (mem_blanks hblank)
  rw [h] at hc
  cases hc

theorem skip_nil (fuel : Nat) : skip fuel [] = [] := by
  cases fuel <;> rfl

theorem skip_of_comment (h : comment? cs = some rest) (fuel : Nat) :
    skip (fuel + 1) cs = skip fuel rest := by
  rw [skip.eq_def]
  simp only [h]

theorem skip_of_not_comment {c : Char} (h : comment? (c :: cs) = none) (fuel : Nat) :
    skip (fuel + 1) (c :: cs) = if isBlank c then skip fuel cs else c :: cs := by
  rw [skip.eq_def]
  simp only [h]

/-- A word comes first behind the same blanks, whatever follows it. -/
theorem skip_append {fuel : Nat} {c : Char} (h : skip fuel cs = c :: rest)
    (hstart : Text.isWordStart c = true) (more : List Char) (extra : Nat) :
    skip (fuel + extra) (cs ++ more) = c :: (rest ++ more) := by
  have hslash : c ≠ '/' := by
    rintro rfl
    cases hstart
  have hstop : ∀ fuel, skip fuel (c :: (rest ++ more)) = c :: (rest ++ more) := by
    intro fuel
    cases fuel with
    | zero => rfl
    | succ fuel =>
      rw [skip_of_not_comment (comment?_of_ne hslash _), isBlank_of_isWordStart hstart]
      rfl
  induction fuel generalizing cs with
  | zero =>
    rw [skip] at h
    rw [h]
    exact hstop _
  | succ fuel ih =>
    rw [Nat.add_right_comm]
    cases hcomment : comment? cs with
    | some behind =>
      rw [skip_of_comment hcomment] at h
      have hne : behind ≠ [] := by
        rintro rfl
        cases (skip_nil fuel).symm.trans h
      rw [skip_of_comment (comment?_append hcomment hne more)]
      exact ih h
    | none =>
      cases cs with
      | nil => cases h
      | cons d cs =>
        rw [skip_of_not_comment hcomment] at h
        split_ifs at h with hblank
        · have hd : d ≠ '/' := by
            rintro rfl
            cases hblank
          rw [List.cons_append, skip_of_not_comment (comment?_of_ne hd _), if_pos hblank]
          exact ih h
        · rw [h]
          exact hstop _

end Blanks
/-! ## Literals in front -/

section Literals

variable {c : Char} {cs : List Char}

theorem isDigit_of_isWordStart (h : Text.isWordStart c = true) : c.isDigit = false := by
  rw [← Bool.not_eq_true, Char.isDigit_iff_toNat]
  rintro ⟨hlo, hhi⟩
  have hzero : '0'.toNat = 48 := rfl
  have hnine : '9'.toNat = 57 := rfl
  have hascii : c.toNat < 128 := by omega
  rw [Text.isWordStart, if_pos hascii, decide_eq_true_eq] at h
  rcases h with ⟨h, -⟩ | ⟨h, -⟩ | rfl
  · have hge : 'a'.toNat ≤ c.toNat := h
    have ha : 'a'.toNat = 97 := rfl
    omega
  · have hge : 'A'.toNat ≤ c.toNat := h
    have ha : 'A'.toNat = 65 := rfl
    omega
  · exact absurd hhi (by decide)

theorem isDigit_of_digit? {d : Nat} (h : Text.digit? 16 c = some d) (hd : d < 10) :
    c.isDigit = true := by
  have hzero : '0'.toNat = 48 := rfl
  have hnine : '9'.toNat = 57 := rfl
  obtain ⟨h, -⟩ := Option.filter_eq_some_iff.mp h
  rw [Char.isDigit_iff_toNat]
  split_ifs at h <;> cases h <;> omega

theorem float?_of_isWordStart (h : Text.isWordStart c = true) : float? (c :: cs) = none := by
  rw [float?, isDigit_of_isWordStart h]
  rfl

theorem intDigits?_of_isWordStart (h : Text.isWordStart c = true) :
    (intDigits? 10 false (c :: cs)).bind (fun (digit, rest) =>
      if digit then wordEnds? (dropSuffix rest) else none) = none := by
  rw [intDigits?]
  by_cases hscore : (c == '_') = true
  · rw [if_pos hscore]
    rfl
  · rw [if_neg hscore]
    cases hdigit : Text.digit? 16 c with
    | none => rfl
    | some d =>
      have hlarge : ¬ d < 10 := fun hd => by
        cases (isDigit_of_digit? hdigit hd).symm.trans (isDigit_of_isWordStart h)
      dsimp only
      rw [if_neg hlarge, isDigit_of_isWordStart h]
      rfl

theorem int?_of_isWordStart (h : Text.isWordStart c = true) : int? (c :: cs) = none := by
  have hzero : c ≠ '0' := by
    rintro rfl
    cases h
  rw [int?]
  · exact intDigits?_of_isWordStart h
  all_goals exact fun _ heq => hzero (List.cons.inj heq).1

theorem raw?_eq_none (rule : TextRule) (hquote : ¬ ['"'] <+: cs) (hhash : ¬ ['#', '"'] <+: cs)
    (hhashes : ¬ ['#', '#'] <+: cs) : raw? rule cs = none := by
  rw [raw?]
  cases cs with
  | nil => rfl
  | cons c cs =>
    by_cases hc : c = '#'
    · subst hc
      cases cs with
      | nil => rfl
      | cons d cs =>
        have hd : d ≠ '#' := by
          rintro rfl
          exact hhashes (List.prefix_append _ _)
        have hd' : d ≠ '"' := by
          rintro rfl
          exact hhash (List.prefix_append _ _)
        have htake : (d :: cs).takeWhile (· == '#') = [] := by simp [hd]
        rw [List.takeWhile_cons_of_pos rfl, htake]
        split
        · rename_i heq
          exact absurd (List.cons.inj heq).1 hd'
        · rfl
    · have htake : (c :: cs).takeWhile (· == '#') = [] := by simp [hc]
      rw [htake]
      split
      · rename_i heq
        rw [(List.cons.inj heq).1] at hquote
        exact absurd (List.prefix_append _ _) hquote
      · rfl

/-- **A text that starts like a word is no literal**, unless it has one of the beginnings that only
a literal has. -/
theorem literal?_eq_none (hstart : Text.isWordStart c = true)
    (hnone : ∀ start ∈ literalStarts, ¬ start.toList <+: c :: cs) :
    literal? (c :: cs) = none := by
  have hfloat : float? (c :: cs) = none := float?_of_isWordStart hstart
  have hint : int? (c :: cs) = none := int?_of_isWordStart hstart
  have hstarts : ∀ (start : String) {rest : List Char}, start ∈ literalStarts →
      c :: cs ≠ start.toList ++ rest := fun start _ hmem heq =>
    hnone start hmem (heq ▸ List.prefix_append _ _)
  -- Behind two letters of a raw literal one hash is already too many.
  have hraw : ∀ (rule : TextRule) (letter : String) {rest : List Char},
      letter ++ "\"" ∈ literalStarts → letter ++ "#" ∈ literalStarts →
        c :: cs = letter.toList ++ rest → raw? rule rest = none := by
    intro rule letter rest hquote hhash heq
    have hno : ∀ mark : Char, letter.push mark ∈ literalStarts →
        ∀ more, ¬ mark :: more <+: rest := by
      rintro mark hmem more ⟨behind, rfl⟩
      have hpushed : c :: cs = (letter.push mark).toList ++ (more ++ behind) := by
        rw [heq, String.toList_push]
        simp
      exact hstarts _ hmem hpushed
    exact raw?_eq_none rule (hno _ hquote _) (hno _ hhash _) (hno _ hhash _)
  rw [literal?.eq_def]
  split
  case h_1 heq =>
    rw [(List.cons.inj heq).1] at hstart
    cases hstart
  case h_2 heq =>
    rw [(List.cons.inj heq).1] at hstart
    cases hstart
  case h_3 rest heq =>
    refine raw?_eq_none _ ?_ ?_ ?_
    · rintro ⟨behind, rfl⟩
      exact hstarts "r\"" (by decide) heq
    · rintro ⟨behind, rfl⟩
      exact hstarts "r#\"" (by decide) heq
    · rintro ⟨behind, rfl⟩
      exact hstarts "r##" (by decide) heq
  case h_4 rest heq => exact absurd heq (hstarts "b\"" (by decide))
  case h_5 rest heq => exact absurd heq (hstarts "b'" (by decide))
  case h_6 rest heq => exact hraw _ "br" (by decide) (by decide) heq
  case h_7 rest heq => exact absurd heq (hstarts "c\"" (by decide))
  case h_8 rest heq => exact hraw _ "cr" (by decide) (by decide) heq
  case h_9 =>
    dsimp only
    rw [hfloat, hint]
    rfl

end Literals
/-! ## Words -/

section Words

variable {cs w behind more : List Char}

/-- A word and the text behind it, with more text behind that. Where there was none, the word goes
on. -/
def extendWord (w behind more : List Char) : List Char × List Char :=
  if behind.isEmpty then (w ++ more, []) else (w, behind ++ more)

theorem plainWord?_append (h : plainWord? cs = some (w, behind))
    (hmore : ∀ c ∈ more, Text.isWordPart c = true) :
    plainWord? (cs ++ more) = some (extendWord w behind more) := by
  cases cs with
  | nil => cases h
  | cons c cs =>
    rw [plainWord?] at h
    rw [List.cons_append, plainWord?]
    split_ifs at h ⊢ with hstart
    rw [List.span_eq_takeWhile_dropWhile] at h ⊢
    cases h
    rw [extendWord, List.takeWhile_append, List.dropWhile_append]
    have hsplit : cs.takeWhile Text.isWordPart ++ cs.dropWhile Text.isWordPart = cs :=
      List.takeWhile_append_dropWhile
    by_cases hnil : cs.dropWhile Text.isWordPart = []
    · rw [hnil, List.append_nil] at hsplit
      rw [hnil, hsplit, if_pos rfl, if_pos List.isEmpty_nil, if_pos List.isEmpty_nil,
        List.takeWhile_eq_self_iff.mpr hmore, List.dropWhile_eq_nil_iff.mpr hmore]
      rfl
    · have hlength := congrArg List.length hsplit
      rw [List.length_append] at hlength
      have hne : (cs.dropWhile Text.isWordPart).length ≠ 0 := mt List.length_eq_zero_iff.mp hnil
      rw [if_neg (by omega), if_neg (by simpa using hnil), if_neg (by simpa using hnil)]

theorem word?_start (h : word? cs = some (w, behind)) :
    ∃ c rest, cs = c :: rest ∧ Text.isWordStart c = true := by
  rw [word?.eq_def] at h
  split at h
  · exact ⟨'r', _, rfl, by decide⟩
  · cases cs with
    | nil => cases h
    | cons c rest =>
      rw [plainWord?] at h
      split_ifs at h with hstart
      exact ⟨c, rest, rfl, hstart⟩

/-- **A word goes on with word characters behind it**, or stays as it is if text is behind it. -/
theorem word?_append (h : word? cs = some (w, behind))
    (hmore : ∀ c ∈ more, Text.isWordPart c = true)
    (hraw : ∀ w, notRaw.contains (String.ofList (w ++ more)) = false) :
    word? (cs ++ more) = some (extendWord w behind more) := by
  rw [word?.eq_def] at h
  split at h
  case h_1 rest =>
    obtain ⟨⟨w', behind'⟩, hplain, h⟩ := Option.bind_eq_some_iff.mp h
    dsimp only at h
    split_ifs at h with hbanned
    cases h
    rw [List.cons_append, List.cons_append, word?, plainWord?_append hplain hmore]
    rw [extendWord, extendWord]
    split_ifs
    · rw [Option.bind_some]
      dsimp only
      rw [hraw, if_neg Bool.false_ne_true]
      rfl
    · rw [Option.bind_some]
      exact if_neg hbanned
  case h_2 hplain =>
    rw [word?.eq_def]
    split
    · rename_i rest hcs
      exfalso
      cases cs with
      | nil => cases h
      | cons c cs =>
        obtain ⟨rfl, htail⟩ := List.cons.inj hcs
        cases cs with
        | nil =>
          obtain rfl : more = '#' :: rest := htail
          cases hmore '#' List.mem_cons_self
        | cons d cs =>
          obtain rfl : d = '#' := (List.cons.inj htail).1
          exact hplain _ rfl
    · exact plainWord?_append h hmore

/-! ## The first word of a text -/

/-- The word that a text starts with, blanks and comments apart, and the text behind it. -/
def firstWord? (cs : List Char) : Option (List Char × List Char) :=
  let cs := skip cs.length cs
  if literalStarts.any fun start => start.toList.isPrefixOf cs then none else word? cs

/-- What it means that a text starts with a word. -/
theorem firstWord?_eq_some : firstWord? cs = some (w, behind) ↔
    ∃ c rest, skip cs.length cs = c :: rest ∧ Text.isWordStart c = true ∧
      (∀ start ∈ literalStarts, ¬ start.toList <+: c :: rest) ∧
      word? (c :: rest) = some (w, behind) := by
  rw [firstWord?]
  generalize skip cs.length cs = text
  split_ifs with hliteral
  · refine ⟨False.elim, ?_⟩
    rintro ⟨c, rest, rfl, -, hnone, -⟩
    obtain ⟨start, hstart, hbegins⟩ := List.any_eq_true.mp hliteral
    exact absurd (List.isPrefixOf_iff_prefix.mp hbegins) (hnone start hstart)
  · refine ⟨fun h => ?_, ?_⟩
    · obtain ⟨c, rest, rfl, hstart⟩ := word?_start h
      refine ⟨c, rest, rfl, hstart, fun start hmem hbegins => hliteral ?_, h⟩
      exact List.any_eq_true.mpr ⟨start, hmem, List.isPrefixOf_iff_prefix.mpr hbegins⟩
    · rintro ⟨c, rest, rfl, -, -, hword⟩
      exact hword

/-- A beginning that ends in no character of the text added is one of the text before. -/
theorem prefix_of_prefix_append {start : List Char} {mark : Char}
    (hlast : start.getLast? = some mark) (hmark : mark ∉ more) (h : start <+: cs ++ more) :
    start <+: cs := by
  rcases List.prefix_or_prefix_of_prefix h (List.prefix_append cs more) with h | ⟨added, rfl⟩
  · exact h
  · cases added with
    | nil => simp
    | cons c added =>
      have hadded : c :: added <+: more := (List.prefix_append_right_inj cs).mp h
      rw [List.getLast?_append_of_ne_nil _ (List.cons_ne_nil _ _)] at hlast
      exact absurd (hadded.subset (List.mem_of_getLast? hlast)) hmark

theorem firstWord?_append (h : firstWord? cs = some (w, behind))
    (hmore : ∀ c ∈ more, Text.isWordPart c = true)
    (hraw : ∀ w, notRaw.contains (String.ofList (w ++ more)) = false) :
    firstWord? (cs ++ more) = some (extendWord w behind more) := by
  obtain ⟨c, rest, hskip, hstart, hnone, hword⟩ := firstWord?_eq_some.mp h
  rw [firstWord?_eq_some]
  refine ⟨c, rest ++ more, ?_, hstart, fun start hmem hbegins => ?_,
    word?_append hword hmore hraw⟩
  · rw [List.length_append]
    exact skip_append hskip hstart more _
  · obtain ⟨mark, hlast, hmark⟩ : ∃ mark, start.toList.getLast? = some mark ∧
        Text.isWordPart mark = false := by
      have hmarks : ∀ start ∈ literalStarts,
          (start.toList.getLast?.filter fun mark => !Text.isWordPart mark).isSome = true := by
        decide
      obtain ⟨mark, hlast⟩ := Option.isSome_iff_exists.mp (hmarks start hmem)
      obtain ⟨hlast, hmark⟩ := Option.filter_eq_some_iff.mp hlast
      exact ⟨mark, hlast, by simpa using hmark⟩
    refine hnone start hmem (prefix_of_prefix_append hlast (fun hin => ?_) hbegins)
    cases (hmore mark hin).symm.trans hmark

/-! ## Lexemes -/

theorem docComment?_of_ne {c : Char} (h : c ≠ '/') (cs : List Char) :
    docComment? (c :: cs) = none := by
  rw [docComment?.eq_def]
  split <;> first | rfl | (rename_i heq; exact absurd (List.cons.inj heq).1 h)

theorem punctAhead_of_isWordStart {c : Char} (h : Text.isWordStart c = true) (cs : List Char) :
    punctAhead (c :: cs) = false := by
  have hnone : "~!@#$%^&*-=+|;:,<.>/?'".toList.all (!Text.isWordStart ·) = true := by decide
  have hpunct : isPunct c = false := by
    rw [← Bool.not_eq_true, isPunct, List.contains_iff_mem]
    intro hmem
    have hc := List.all_eq_true.mp hnone c hmem
    rw [h] at hc
    cases hc
  rw [punctAhead.eq_def]
  split
  · rfl
  · rfl
  · rename_i heq
    rw [← (List.cons.inj heq).1]
    exact hpunct
  · rfl

theorem leaf?_of_word {c : Char} {rest : List Char} (hstart : Text.isWordStart c = true)
    (hnone : ∀ start ∈ literalStarts, ¬ start.toList <+: c :: rest)
    (hword : word? (c :: rest) = some (w, behind)) :
    leaf? (c :: rest) = some (.word (String.ofList w), behind) := by
  have hliteral :
      ¬ (literalStarts.any fun start => start.toList.isPrefixOf (c :: rest)) = true := by
    rw [List.any_eq_true]
    rintro ⟨start, hmem, hbegins⟩
    exact hnone start hmem (List.isPrefixOf_iff_prefix.mp hbegins)
  rw [leaf?, literal?_eq_none hstart hnone]
  dsimp only
  rw [punctAhead_of_isWordStart hstart, if_neg Bool.false_ne_true, if_neg hliteral, hword]
  · rfl
  · rintro rfl
    cases hstart

/-- **A text that starts with a word has it as its first lexeme.** -/
theorem lexemes?_of_firstWord (h : firstWord? cs = some (w, behind)) (fuel : Nat) :
    lexemes? (fuel + 1) cs =
      (lexemes? fuel behind).map (.leaf (.word (String.ofList w)) :: ·) := by
  obtain ⟨c, rest, hskip, hstart, hnone, hword⟩ := firstWord?_eq_some.mp h
  have hne : ∀ d, Text.isWordStart d = false → c ≠ d := by
    rintro d hd rfl
    cases hd.symm.trans hstart
  have hopening : Delimiter.opening? c = none := by
    rw [Delimiter.opening?.eq_def]
    split <;> first | rfl | exact absurd rfl (hne _ (by decide))
  have hclosing : Delimiter.closing? c = none := by
    rw [Delimiter.closing?.eq_def]
    split <;> first | rfl | exact absurd rfl (hne _ (by decide))
  rw [lexemes?, hskip]
  dsimp only
  rw [docComment?_of_ne (hne _ (by decide)), hopening, hclosing]
  dsimp only
  rw [leaf?_of_word hstart hnone hword]
  rfl

theorem word?_of_leaf {word : String} (h : leaf? cs = some (.word word, behind)) :
    ¬ (literalStarts.any fun start => start.toList.isPrefixOf cs) = true ∧
      word? cs = some (word.toList, behind) := by
  rw [leaf?.eq_def] at h
  split at h
  · cases h
  · split_ifs at h with hpunct hliteral
    · split at h
      · obtain ⟨_, _, h⟩ := Option.bind_eq_some_iff.mp h
        dsimp only at h
        split_ifs at h
        cases h
      · cases h
      · cases h
    · obtain ⟨⟨w, rest⟩, hword, heq⟩ := Option.map_eq_some_iff.mp h
      cases heq
      rw [String.toList_ofList]
      exact ⟨hliteral, hword⟩

/-- **A word is the first lexeme only of a text that starts with it.** -/
theorem firstWord?_of_lexemes {fuel : Nat} {word : String} {ls : List Lexeme}
    (h : lexemes? (fuel + 1) cs = some (.leaf (.word word) :: ls)) :
    ∃ behind, firstWord? cs = some (word.toList, behind) ∧ lexemes? fuel behind = some ls := by
  rw [lexemes?] at h
  rw [firstWord?]
  generalize skip cs.length cs = text at h ⊢
  dsimp only at h ⊢
  cases hdoc : docComment? text with
  | some found =>
    rw [hdoc] at h
    dsimp only at h
    split_ifs at h
    obtain ⟨_, _, heq⟩ := Option.map_eq_some_iff.mp h
    cases heq
  | none =>
    rw [hdoc] at h
    dsimp only at h
    cases text with
    | nil => cases h
    | cons c rest =>
      dsimp only at h
      split at h
      · obtain ⟨_, _, heq⟩ := Option.map_eq_some_iff.mp h
        cases heq
      · obtain ⟨_, _, heq⟩ := Option.map_eq_some_iff.mp h
        cases heq
      · obtain ⟨⟨t, behind⟩, hleaf, h⟩ := Option.bind_eq_some_iff.mp h
        obtain ⟨ls', hls, heq⟩ := Option.map_eq_some_iff.mp h
        cases heq
        obtain ⟨hliteral, hword⟩ := word?_of_leaf hleaf
        exact ⟨behind, (if_neg hliteral).trans hword, hls⟩

/-- A text without lexemes holds nothing but blanks and comments. -/
theorem lexemes?_eq_nil {fuel : Nat} :
    lexemes? (fuel + 1) cs = some [] ↔ skip cs.length cs = [] := by
  rw [lexemes?]
  generalize skip cs.length cs = text
  dsimp only
  refine ⟨fun h => ?_, fun h => by rw [h]; rfl⟩
  have hcons : ∀ {l : Lexeme} (more : List Lexeme) {found : Option (List Lexeme)},
      found.map (l :: more ++ ·) ≠ some [] := by
    intro l more found heq
    obtain ⟨_, _, heq⟩ := Option.map_eq_some_iff.mp heq
    cases heq
  cases hdoc : docComment? text with
  | some found =>
    rw [hdoc] at h
    dsimp only at h
    split_ifs at h
    exact absurd h (hcons _)
  | none =>
    rw [hdoc] at h
    dsimp only at h
    cases text with
    | nil => rfl
    | cons c rest =>
      dsimp only at h
      split at h
      · exact absurd h (hcons [])
      · exact absurd h (hcons [])
      · obtain ⟨⟨t, behind⟩, -, h⟩ := Option.bind_eq_some_iff.mp h
        exact absurd h (hcons [])

/-! ## Groups -/

/-- The trees before all open groups, newest first. -/
def outermost (inner : List Tree) : List (Delimiter × List Tree) → List Tree
  | [] => inner
  | (_, around) :: outer => outermost around outer

/-- Trees before all open groups come first, and the outermost open group comes behind them. -/
theorem nest?_eq_some {inner : List Tree} {outer : List (Delimiter × List Tree)}
    {ls : List Lexeme} {ts : List Tree} (h : nest? inner outer ls = some ts) :
    ∃ more, ts = (outermost inner outer).reverse ++ more ∧
      (outer ≠ [] → ∃ d content rest, more = .group d content :: rest) := by
  fun_induction nest? inner outer ls with
  | case1 inner =>
    cases h
    exact ⟨[], (List.append_nil _).symm, fun hne => absurd rfl hne⟩
  | case2 => cases h
  | case3 inner outer t rest ih =>
    obtain ⟨more, rfl, hgroup⟩ := ih h
    cases outer with
    | nil => exact ⟨t :: more, by simp [outermost], fun hne => absurd rfl hne⟩
    | cons first outer => exact ⟨more, rfl, hgroup⟩
  | case4 inner outer d rest ih =>
    obtain ⟨more, rfl, hgroup⟩ := ih h
    exact ⟨more, rfl, fun _ => hgroup (List.cons_ne_nil _ _)⟩
  | case5 inner around outer d rest ih =>
    obtain ⟨more, rfl, hgroup⟩ := ih h
    cases outer with
    | nil =>
      exact ⟨.group d inner.reverse :: more, by simp [outermost], fun _ => ⟨_, _, _, rfl⟩⟩
    | cons first outer => exact ⟨more, rfl, fun _ => hgroup (List.cons_ne_nil _ _)⟩
  | case6 => cases h
  | case7 => cases h

/-- A single word comes from a single lexeme. -/
theorem nest?_eq_word {ls : List Lexeme} {word : String}
    (h : nest? [] [] ls = some [.word word]) : ls = [.leaf (.word word)] := by
  have hopen : ∀ {inner : List Tree} {d : Delimiter} {rest : List Lexeme},
      nest? [] [(d, inner)] rest = some [.word word] → False := by
    intro inner d rest h
    obtain ⟨more, heq, hgroup⟩ := nest?_eq_some h
    obtain ⟨d, content, rest, rfl⟩ := hgroup (List.cons_ne_nil _ _)
    have hmem : Tree.group d content ∈ [Tree.word word] := by
      rw [heq]
      exact List.mem_append_right _ List.mem_cons_self
    cases List.mem_singleton.mp hmem
  cases ls with
  | nil => cases h
  | cons l ls =>
    cases l with
    | opening d => exact (hopen h).elim
    | closing d => cases h
    | leaf t =>
      rw [nest?] at h
      cases ls with
      | nil =>
        cases h
        rfl
      | cons l ls =>
        cases l with
        | opening d => exact (hopen h).elim
        | closing d => cases h
        | leaf t' =>
          rw [nest?] at h
          obtain ⟨more, heq, -⟩ := nest?_eq_some h
          simp [outermost] at heq

end Words
end Lexer

/-! ## Identifiers -/

/-- The characters of a text without a byte order mark in front. -/
def unmarked (text : String) : List Char :=
  match text.toList with
  | '\uFEFF' :: rest => rest
  | cs => cs

theorem trees?_eq (text : String) : trees? text =
    (Lexer.lexemes? ((unmarked text).length + 1) (unmarked text)).bind (Lexer.nest? [] []) := rfl

/-- **A text holds an identifier** iff it starts with it and nothing but blanks and comments is
behind. -/
theorem identifier?_eq_some {text word : String} : identifier? text = some word ↔
    isIdentifier word = true ∧ ∃ behind,
      Lexer.firstWord? (unmarked text) = some (word.toList, behind) ∧
        Lexer.skip behind.length behind = [] := by
  rw [identifier?, trees?_eq]
  generalize unmarked text = cs
  constructor
  · intro h
    split at h
    · rename_i w htrees
      split_ifs at h with hidentifier
      cases h
      obtain ⟨ls, hls, hnest⟩ := Option.bind_eq_some_iff.mp htrees
      obtain rfl := Lexer.nest?_eq_word hnest
      obtain ⟨behind, hfirst, hbehind⟩ := Lexer.firstWord?_of_lexemes hls
      refine ⟨hidentifier, behind, hfirst, ?_⟩
      cases cs with
      | nil => cases hbehind
      | cons c rest => exact Lexer.lexemes?_eq_nil.mp hbehind
    · cases h
  · rintro ⟨hidentifier, behind, hfirst, hbehind⟩
    have hlexemes : Lexer.lexemes? (cs.length + 1) cs = some [.leaf (.word word)] := by
      rw [Lexer.lexemes?_of_firstWord hfirst, String.ofList_toList]
      cases cs with
      | nil => cases hfirst
      | cons c rest =>
        rw [List.length_cons, Lexer.lexemes?_eq_nil.mpr hbehind]
        rfl
    rw [hlexemes]
    exact if_pos hidentifier

end Syntax
end Theming
