/-
# Snake case of identifiers

Snake case looks at each character together with its neighbours, the one before and the one behind.
For ASCII this comes to one equation (`Naming.snakeAfter_cons`): the character in lower case,
perhaps behind a mark. Since a mark goes only between two characters that are no underscores, the
underscores of a name stay where they are, and no two are brought together.

| snake case | the name |
| --- | --- |
| without its underscores | in lower case, without its underscores |
| begins, or ends, with an underscore | does so itself |
| has two underscores in a row | has them at as many places |

The stem of a file is the snake case of a name with a suffix behind it. The capital that the suffix
begins with does not change what becomes of the last character of the name, so the name can be done
first (`Naming.snakeAfter_append`), and its own snake case tells with which names it shares a stem.
-/

import Mathlib.Data.List.Basic
import Theming.Naming

namespace Theming

/-! ## Letters of ASCII -/

namespace Text

/-- What holds of all characters of ASCII can be looked up. -/
theorem of_ascii {p : Char → Prop} (hall : ∀ n < 128, p (Char.ofNat n)) {c : Char}
    (h : c.toNat < 128) : p c := by
  rw [← Char.ofNat_toNat c]
  exact hall c.toNat h

section Ascii

variable {c : Char} (h : c.toNat < 128)
include h

theorem isUpper_of_ascii : isUpper c = c.isUpper :=
  of_ascii (p := fun c => isUpper c = c.isUpper) (by decide) h

theorem isLower_of_ascii : isLower c = c.isLower :=
  of_ascii (p := fun c => isLower c = c.isLower) (by decide) h

theorem toLower_of_ascii : toLower c = [c.toLower] :=
  of_ascii (p := fun c => toLower c = [c.toLower]) (by decide) h

theorem toLower_toNat_lt : c.toLower.toNat < 128 :=
  of_ascii (p := fun c => c.toLower.toNat < 128) (by decide) h

theorem isUpper_toLower : c.toLower.isUpper = false :=
  of_ascii (p := fun c => c.toLower.isUpper = false) (by decide) h

theorem toLower_of_not_isUpper (hupper : c.isUpper = false) : c.toLower = c :=
  of_ascii (p := fun c => c.isUpper = false → c.toLower = c) (by decide) h hupper

theorem toLower_eq_underscore : c.toLower = '_' ↔ c = '_' :=
  of_ascii (p := fun c => c.toLower = '_' ↔ c = '_') (by decide) h

/-- Characters of words are small, capital, digits or underscores. -/
theorem isLower_or_isUpper (hword : c.isAlphanum) :
    isLower c || c.isDigit || isUpper c := by
  have hsort : (c.isUpper || c.isLower || c.isDigit) = true := hword
  rw [isLower_of_ascii h, isUpper_of_ascii h]
  revert hsort
  cases c.isUpper <;> cases c.isLower <;> cases c.isDigit <;> decide

end Ascii
end Text

namespace Naming

/-! ## Identifiers -/

/-- An identifier of ASCII characters: letters, digits and underscores, of which the first is no
digit, perhaps with the mark of a raw identifier before them. -/
def IsAsciiIdentifier (name : String) : Prop :=
  ∃ mark first rest, name.toList = mark ++ first :: rest ∧ (mark = [] ∨ mark = ['r', '#']) ∧
    (first.isAlpha ∨ first = '_') ∧ ∀ c ∈ rest, c.isAlphanum ∨ c = '_'

theorem ascii_of_word {c : Char} (h : c.isAlphanum ∨ c = '_') : c.toNat < 128 := by
  rcases h with h | rfl
  · have hsort : (c.isUpper || c.isLower || c.isDigit) = true := h
    have hlast : c.val ≤ 'Z'.val ∨ c.val ≤ 'z'.val ∨ c.val ≤ '9'.val := by
      rcases Bool.or_eq_true_iff.mp hsort with hletter | hdigit
      · rcases Bool.or_eq_true_iff.mp hletter with hupper | hlower
        · exact .inl (of_decide_eq_true hupper).2
        · exact .inr (.inl (of_decide_eq_true (Bool.and_eq_true_iff.mp hlower).2))
      · exact .inr (.inr (of_decide_eq_true (Bool.and_eq_true_iff.mp hdigit).2))
    simp only [UInt32.le_iff_toNat_le] at hlast
    have hcode : c.toNat = c.val.toNat := rfl
    have hcapital : 'Z'.val.toNat = 90 := rfl
    have hsmall : 'z'.val.toNat = 122 := rfl
    have hdigit : '9'.val.toNat = 57 := rfl
    omega
  · decide

namespace IsAsciiIdentifier

variable {name : String} (h : IsAsciiIdentifier name)
include h

theorem ascii : ∀ c ∈ name.toList, c.toNat < 128 := by
  obtain ⟨mark, first, rest, hname, hmark, hfirst, hrest⟩ := h
  intro c hc
  rw [hname, List.mem_append, List.mem_cons] at hc
  rcases hc with hc | rfl | hc
  · rcases hmark with rfl | rfl
    · cases hc
    · rcases List.mem_pair.mp hc with rfl | rfl <;> decide
  · exact ascii_of_word (hfirst.imp_left fun halpha => by rw [Char.isAlphanum, halpha]; rfl)
  · exact ascii_of_word (hrest c hc)

theorem exists_last : ∃ before last, name.toList = before ++ [last] ∧
    (last.isAlphanum ∨ last = '_') := by
  obtain ⟨mark, first, rest, hname, -, hfirst, hrest⟩ := h
  rcases List.eq_nil_or_concat rest with rfl | ⟨middle, last, rfl⟩
  · exact ⟨mark, first, hname, hfirst.imp_left fun halpha => by rw [Char.isAlphanum, halpha]; rfl⟩
  · refine ⟨mark ++ first :: middle, last, ?_, hrest last (by simp)⟩
    rw [hname, List.concat_eq_append, List.append_assoc, List.cons_append]

end IsAsciiIdentifier

/-! ## Character by character -/

/-- No word starts after an underscore. -/
theorem startsWord_underscore (next : Option Char) : startsWord (some '_') next = false := by
  rw [startsWord]
  rfl

/-- A character that is not small says as much of what comes before it as the end of the text. -/
theorem startsWord_congr (prev : Option Char) {next : Char} (h : Text.isLower next = false) :
    startsWord prev (some next) = startsWord prev none := by
  cases prev with
  | none => rfl
  | some p =>
    rw [startsWord, startsWord, Option.any_some, h]
    rfl

/-- The mark that goes before a character. -/
def markBefore (prev : Option Char) (c : Char) (next : Option Char) : List Char :=
  if c.isUpper && startsWord prev next then ['_'] else []

section Ascii

variable {prev : Option Char} {c : Char} {cs rest : List Char}

/-- **Snake case, character by character:** the character in lower case, perhaps behind a mark. -/
theorem snakeAfter_cons (hc : c.toNat < 128) :
    snakeAfter prev (c :: rest) =
      markBefore prev c rest.head? ++ c.toLower :: snakeAfter (some c) rest := by
  rw [snakeAfter, markBefore, Text.isUpper_of_ascii hc, Text.toLower_of_ascii hc]
  cases hupper : c.isUpper with
  | true => simp
  | false => simp [Text.toLower_of_not_isUpper hc hupper]

/-- A mark goes between two characters that are no underscores. -/
theorem markBefore_eq (prev : Option Char) (c : Char) (next : Option Char) :
    markBefore prev c next = [] ∨
      markBefore prev c next = ['_'] ∧ c ≠ '_' ∧ prev.isSome ∧ prev ≠ some '_' := by
  rw [markBefore]
  split_ifs with hmark
  · right
    rw [Bool.and_eq_true] at hmark
    refine ⟨rfl, ?_, ?_, ?_⟩
    · rintro rfl
      exact absurd hmark.1 (by decide)
    · cases prev with
      | none => cases hmark.2
      | some p => rfl
    · rintro rfl
      rw [startsWord_underscore] at hmark
      cases hmark.2
  · exact .inl rfl

/-- **What follows can be done on its own,** if it does not begin with a small letter. -/
theorem snakeAfter_append (hrest : ∀ d ∈ rest.head?, Text.isLower d = false) :
    snakeAfter prev (cs ++ rest) =
      snakeAfter prev cs ++ snakeAfter (cs.getLast?.or prev) rest := by
  induction cs generalizing prev with
  | nil => rfl
  | cons c cs ih =>
    have hlast : ((c :: cs).getLast?.or prev) = cs.getLast?.or (some c) := by
      rw [List.getLast?_cons, Option.some_or]
      cases cs.getLast? <;> rfl
    have hnext : startsWord prev (cs ++ rest).head? = startsWord prev cs.head? := by
      cases cs with
      | cons d cs => rfl
      | nil =>
        cases rest with
        | nil => rfl
        | cons d rest => exact startsWord_congr prev (hrest d rfl)
    rw [List.cons_append, snakeAfter, snakeAfter, ih, hlast, hnext]
    split_ifs <;> simp

end Ascii

/-! ## Snake case of ASCII text -/

section Text

variable {prev : Option Char} {cs : List Char} (hcs : ∀ c ∈ cs, c.toNat < 128)
include hcs

theorem ascii_snakeAfter : ∀ c ∈ snakeAfter prev cs, c.toNat < 128 ∧ c.isUpper = false := by
  induction cs generalizing prev with
  | nil => exact List.forall_mem_nil _
  | cons c cs ih =>
    rw [List.forall_mem_cons] at hcs
    rw [snakeAfter_cons hcs.1, List.forall_mem_append, List.forall_mem_cons]
    refine ⟨?_, ⟨Text.toLower_toNat_lt hcs.1, Text.isUpper_toLower hcs.1⟩, ih hcs.2⟩
    rcases markBefore_eq prev c cs.head? with hmark | ⟨hmark, -⟩ <;> rw [hmark]
    · exact List.forall_mem_nil _
    · exact List.forall_mem_singleton.mpr (by decide)

/-- Text without capitals is in snake case. -/
theorem snakeAfter_of_not_isUpper (hsmall : ∀ c ∈ cs, c.isUpper = false) :
    snakeAfter prev cs = cs := by
  induction cs generalizing prev with
  | nil => rfl
  | cons c cs ih =>
    rw [List.forall_mem_cons] at hcs hsmall
    rw [snakeAfter_cons hcs.1, ih hcs.2 hsmall.2, markBefore, hsmall.1,
      Text.toLower_of_not_isUpper hcs.1 hsmall.1]
    rfl

/-- **Underscores apart, snake case is lower case.** -/
theorem filter_snakeAfter :
    (snakeAfter prev cs).filter (· != '_') = (cs.map Char.toLower).filter (· != '_') := by
  induction cs generalizing prev with
  | nil => rfl
  | cons c cs ih =>
    rw [List.forall_mem_cons] at hcs
    have hmark : (markBefore prev c cs.head?).filter (· != '_') = [] := by
      rcases markBefore_eq prev c cs.head? with hmark | ⟨hmark, -⟩ <;> rw [hmark] <;> rfl
    rw [snakeAfter_cons hcs.1, List.filter_append, hmark, List.nil_append, List.map_cons,
      List.filter_cons, List.filter_cons, ih hcs.2]

/-- The first character has no mark before it. -/
theorem head?_snakeAfter : (snakeAfter none cs).head? = cs.head?.map Char.toLower := by
  cases cs with
  | nil => rfl
  | cons c cs =>
    rw [List.forall_mem_cons] at hcs
    rw [snakeAfter_cons hcs.1, markBefore, startsWord, Bool.and_false]
    rfl

/-- The last character stays the last one. -/
theorem getLast?_snakeAfter :
    (snakeAfter prev cs).getLast? = cs.getLast?.map Char.toLower := by
  induction cs generalizing prev with
  | nil => rfl
  | cons c cs ih =>
    rw [List.forall_mem_cons] at hcs
    rw [snakeAfter_cons hcs.1, List.getLast?_append, List.getLast?_cons, Option.some_or,
      List.getLast?_cons, ih hcs.2]
    cases cs.getLast? <;> rfl

end Text

/-! ## Underscores in a row -/

/-- At how many places two underscores stand in a row. -/
def doubled (cs : List Char) : Nat := (cs.zip cs.tail).count ('_', '_')

theorem doubled_cons_cons (a b : Char) (cs : List Char) :
    doubled (a :: b :: cs) = doubled (b :: cs) + if a = '_' ∧ b = '_' then 1 else 0 := by
  rw [doubled, doubled, List.tail_cons, List.tail_cons, List.zip_cons_cons, List.count_cons]
  simp

/-- **No two underscores are brought together:** behind a character that is one if and only if the
character before the text is. -/
theorem doubled_cons_snakeAfter {p p' : Char} (hp : p' = '_' ↔ p = '_') {cs : List Char}
    (hcs : ∀ c ∈ cs, c.toNat < 128) :
    doubled (p' :: snakeAfter (some p) cs) = doubled (p :: cs) := by
  induction cs generalizing p p' with
  | nil => rfl
  | cons c cs ih =>
    rw [List.forall_mem_cons] at hcs
    have hlower := Text.toLower_eq_underscore hcs.1
    rw [snakeAfter_cons hcs.1, doubled_cons_cons, ← ih hlower hcs.2]
    rcases markBefore_eq (some p) c cs.head? with hmark | ⟨hmark, hc, -, hprev⟩ <;> rw [hmark]
    · rw [List.nil_append, doubled_cons_cons]
      simp only [hp, hlower]
    · have hne : p ≠ '_' := fun heq => hprev (congrArg some heq)
      rw [List.singleton_append, doubled_cons_cons, doubled_cons_cons]
      simp only [hp, hlower, hc, hne, and_false, false_and, if_false, Nat.add_zero]

theorem doubled_snakeAfter {cs : List Char} (hcs : ∀ c ∈ cs, c.toNat < 128) :
    doubled (snakeAfter none cs) = doubled cs := by
  cases cs with
  | nil => rfl
  | cons c cs =>
    rw [List.forall_mem_cons] at hcs
    rw [snakeAfter_cons hcs.1, markBefore, startsWord, Bool.and_false]
    exact doubled_cons_snakeAfter (Text.toLower_eq_underscore hcs.1) hcs.2

/-! ## Stems -/

/-- A word starts behind every character that is no underscore, if a small letter follows. -/
theorem startsWord_of_word {last next : Char} (hlast : last.isAlphanum ∨ last = '_')
    (hnext : Text.isLower next) : startsWord (some last) (some next) = !decide (last = '_') := by
  by_cases heq : last = '_'
  · rw [heq, startsWord_underscore]
    rfl
  · have hword := Text.isLower_or_isUpper (ascii_of_word hlast) (hlast.resolve_right heq)
    rw [startsWord, Option.any_some, hnext, Bool.and_true, decide_eq_false heq]
    cases hsmall : Text.isLower last || last.isDigit with
    | true => rfl
    | false =>
      rw [hsmall, Bool.false_or] at hword
      exact hword

/-- The suffix of a companion's name behind a character of the name. -/
theorem snakeAfter_companionSuffix {last : Char} (hlast : last.isAlphanum ∨ last = '_') :
    snakeAfter (some last) companionSuffix.toList =
      (if last = '_' then [] else ['_']) ++ "theme_binding".toList := by
  have hfirst : companionSuffix.toList = 'T' :: "hemeBinding".toList := rfl
  have hmark : markBefore (some last) 'T' "hemeBinding".toList.head? =
      if last = '_' then [] else ['_'] := by
    have hcapital : 'T'.isUpper = true := by decide
    have hnext : "hemeBinding".toList.head? = some 'h' := rfl
    rw [markBefore, hcapital, hnext, startsWord_of_word hlast (by decide)]
    by_cases heq : last = '_' <;> simp [heq]
  have hbehind : snakeAfter (some 'T') "hemeBinding".toList = "heme_binding".toList := by decide
  rw [hfirst, snakeAfter_cons (by decide), hmark, hbehind]
  rfl

/-- A text that ends in an underscore: as it is, or with one put behind it. -/
def completed (text : String) : String :=
  text ++ if text.toList.getLast? = some '_' then "" else "_"

section Stems

variable {name : String} (h : IsAsciiIdentifier name)
include h

theorem getLast?_snakeCase :
    (snakeCase name).toList.getLast? = some '_' ↔ name.toList.getLast? = some '_' := by
  obtain ⟨before, last, hname, hlast⟩ := h.exists_last
  rw [snakeCase, String.toList_ofList, getLast?_snakeAfter h.ascii, hname, List.getLast?_concat,
    Option.map_some, Option.some_inj, Option.some_inj,
    Text.toLower_eq_underscore (ascii_of_word hlast)]

/-- **The stem of a name** is its snake case, an underscore unless it ends in one, and the suffix in
snake case. -/
theorem companionFileStem_eq :
    companionFileStem name =
      snakeCase name ++ (if name.toList.getLast? = some '_' then "" else "_") ++
        "theme_binding" := by
  obtain ⟨before, last, hname, hlast⟩ := h.exists_last
  have hend : name.toList.getLast? = some last := by rw [hname, List.getLast?_concat]
  have hrest : ∀ d ∈ companionSuffix.toList.head?, Text.isLower d = false := by
    rintro d hd
    obtain rfl : 'T' = d := Option.some.inj hd
    decide
  refine String.toList_injective ?_
  rw [companionFileStem, snakeCase, companionName, String.toList_ofList, String.toList_append,
    snakeAfter_append hrest, hend, Option.some_or, snakeAfter_companionSuffix hlast,
    String.toList_append, String.toList_append, snakeCase, String.toList_ofList, List.append_assoc]
  by_cases heq : last = '_' <;> simp [heq]

theorem companionFileStem_eq_completed :
    companionFileStem name = completed (snakeCase name) ++ "theme_binding" := by
  rw [companionFileStem_eq h, completed]
  simp only [getLast?_snakeCase h]

end Stems

/-- **Snake case of ASCII identifiers.** It is ASCII without capitals, and underscores apart it is
the name in lower case. It begins and ends with an underscore where the name does, and has two in a
row at as many places. It is its own snake case. The stem of a file is made from it alone: with an
underscore, unless it ends in one, and the suffix behind it. So names share a stem if and only if
their snake cases are the same once they end in an underscore. -/
theorem snakeCase_of_identifier (name : String) (h : IsAsciiIdentifier name) :
    (∀ c ∈ (snakeCase name).toList, c.toNat < 128 ∧ c.isUpper = false) ∧
    (snakeCase name).toList.filter (· != '_') =
      (name.toList.map Char.toLower).filter (· != '_') ∧
    ((snakeCase name).toList.head? = some '_' ↔ name.toList.head? = some '_') ∧
    ((snakeCase name).toList.getLast? = some '_' ↔ name.toList.getLast? = some '_') ∧
    doubled (snakeCase name).toList = doubled name.toList ∧
    snakeCase (snakeCase name) = snakeCase name ∧
    companionFileStem name =
      snakeCase name ++ (if name.toList.getLast? = some '_' then "" else "_") ++
        "theme_binding" ∧
    ∀ name', IsAsciiIdentifier name' → (companionFileStem name = companionFileStem name' ↔
      completed (snakeCase name) = completed (snakeCase name')) := by
  have hsnake : (snakeCase name).toList = snakeAfter none name.toList := String.toList_ofList
  have hascii : ∀ c ∈ snakeAfter none name.toList, c.toNat < 128 ∧ c.isUpper = false :=
    ascii_snakeAfter h.ascii
  have hhead : (snakeCase name).toList.head? = some '_' ↔ name.toList.head? = some '_' := by
    obtain ⟨c, cs, hcs⟩ : ∃ c cs, name.toList = c :: cs := by
      obtain ⟨before, last, hname, -⟩ := h.exists_last
      exact List.exists_cons_of_ne_nil (hname ▸ List.concat_ne_nil _ _)
    have hc : c.toNat < 128 := h.ascii c (hcs ▸ List.mem_cons_self)
    rw [hsnake, head?_snakeAfter h.ascii, hcs, List.head?_cons, Option.map_some, Option.some_inj,
      Option.some_inj, Text.toLower_eq_underscore hc]
  have hagain : snakeCase (snakeCase name) = snakeCase name := by
    rw [snakeCase, hsnake, snakeAfter_of_not_isUpper (fun c hc => (hascii c hc).1)
      fun c hc => (hascii c hc).2]
    rfl
  refine ⟨fun c hc => hascii c (hsnake ▸ hc), ?_, hhead, getLast?_snakeCase h, ?_, hagain,
    companionFileStem_eq h, fun name' h' => ?_⟩
  · rw [hsnake, filter_snakeAfter h.ascii]
  · rw [hsnake, doubled_snakeAfter h.ascii]
  · rw [companionFileStem_eq_completed h, companionFileStem_eq_completed h',
      String.append_left_inj]

theorem isAsciiIdentifier_of_all {first : Char} {rest : List Char}
    (hname : name.toList = first :: rest) (hfirst : first.isAlpha)
    (hrest : rest.all (fun c => c.isAlphanum || c == '_')) : IsAsciiIdentifier name :=
  ⟨[], first, rest, hname, .inl rfl, .inl hfirst, fun c hc => by
    simpa using List.all_eq_true.mp hrest c hc⟩

/-- Two buttons share a stem, though their snake cases differ. -/
theorem buttons_share_stem :
    IsAsciiIdentifier "HTTPButton" ∧ IsAsciiIdentifier "Http_Button_" ∧
    snakeCase "HTTPButton" = "http_button" ∧ snakeCase "Http_Button_" = "http_button_" ∧
    companionFileStem "HTTPButton" = "http_button" ++ "_" ++ "theme_binding" ∧
    companionFileStem "HTTPButton" = companionFileStem "Http_Button_" := by
  have h : IsAsciiIdentifier "HTTPButton" := isAsciiIdentifier_of_all rfl rfl rfl
  have h' : IsAsciiIdentifier "Http_Button_" := isAsciiIdentifier_of_all rfl rfl rfl
  have hsnake : snakeCase "HTTPButton" = "http_button" := by decide +kernel
  have hsnake' : snakeCase "Http_Button_" = "http_button_" := by decide +kernel
  obtain ⟨-, -, -, -, -, -, hstem, hshared⟩ := snakeCase_of_identifier "HTTPButton" h
  refine ⟨h, h', hsnake, hsnake', ?_, (hshared "Http_Button_" h').mpr ?_⟩
  · rw [hstem, hsnake]
    decide +kernel
  · rw [hsnake, hsnake']
    decide +kernel

end Naming
end Theming
