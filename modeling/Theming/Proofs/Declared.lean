/-
# Names of declared types

A word that a text is cut into is spelled as it stands in the text, with nothing around it. So the
names of an item that has been read from a text are bare: each is an identifier as it is spelled,
and so it is with the suffix of companions behind it. Only a field may have no name, and is called
`_` then (`Item.named_of_parse?`).

Names are read far behind other things, attributes and types among them. That these leave only
tokens of the text is what `Reader.Trims` says.
-/

import Theming.Proofs.Plain
import Theming.Proofs.Spelling
import Theming.Proofs.Trimming

namespace Theming
namespace Syntax

/-! ## Words of a text -/

namespace Lexer

variable {cs w behind : List Char}

theorem plainWord?_self (h : plainWord? cs = some (w, behind)) :
    cs = w ++ behind ∧ plainWord? w = some (w, []) := by
  cases cs with
  | nil => cases h
  | cons c rest =>
    rw [plainWord?] at h
    split_ifs at h with hstart
    rw [List.span_eq_takeWhile_dropWhile] at h
    cases h
    refine ⟨by rw [List.cons_append, List.takeWhile_append_dropWhile], ?_⟩
    have hpart : ∀ c ∈ rest.takeWhile Text.isWordPart, Text.isWordPart c = true :=
      fun c hc => List.mem_takeWhile_imp hc
    rw [plainWord?, if_pos hstart, List.span_eq_takeWhile_dropWhile,
      List.takeWhile_eq_self_iff.mpr hpart, List.dropWhile_eq_nil_iff.mpr hpart]

/-- A word stands in front of the text behind it, and is a word by itself. -/
theorem word?_self (h : word? cs = some (w, behind)) :
    cs = w ++ behind ∧ word? w = some (w, []) := by
  rw [word?.eq_def] at h
  split at h
  case h_1 rest =>
    obtain ⟨⟨w', behind'⟩, hbare, h⟩ := Option.bind_eq_some_iff.mp h
    dsimp only at h
    split_ifs at h with hbanned
    cases h
    obtain ⟨rfl, hself⟩ := plainWord?_self hbare
    refine ⟨rfl, ?_⟩
    rw [word?, hself, Option.bind_some]
    exact if_neg hbanned
  case h_2 hraw =>
    obtain ⟨rfl, hself⟩ := plainWord?_self h
    refine ⟨rfl, ?_⟩
    rw [word?.eq_def]
    split
    · exact absurd rfl (hraw _)
    · exact hself

end Lexer

/-- A text that is a word as it stands: nothing is around it, and it begins no literal. -/
def IsWord (w : String) : Prop := Lexer.firstWord? w.toList = some (w.toList, [])

instance (w : String) : Decidable (IsWord w) := inferInstanceAs (Decidable (_ = _))

theorem isWord_of_leaf {cs behind : List Char} {w : String}
    (h : Lexer.leaf? cs = some (.word w, behind)) : IsWord w := by
  obtain ⟨hliteral, hword⟩ := Lexer.word?_of_leaf h
  obtain ⟨rfl, hself⟩ := Lexer.word?_self hword
  obtain ⟨c, rest, hcs, hstart⟩ := Lexer.word?_start hself
  refine Lexer.firstWord?_eq_some.mpr ⟨c, rest, ?_, hstart, fun start hmem hbegins => ?_, ?_⟩
  · have hskip : Lexer.skip (0 + w.toList.length) (c :: rest ++ []) = c :: (rest ++ []) :=
      Lexer.skip_append rfl hstart [] w.toList.length
    rw [Nat.zero_add, List.append_nil, List.append_nil] at hskip
    rw [hcs] at hskip ⊢
    exact hskip
  · refine hliteral (List.any_eq_true.mpr ⟨start, hmem, List.isPrefixOf_iff_prefix.mpr ?_⟩)
    rw [hcs]
    exact hbegins.trans (List.prefix_append _ _)
  · rw [← hcs]
    exact hself

namespace IsWord

variable {w : String} (h : IsWord w)
include h

theorem unmarked_eq : unmarked w = w.toList := by
  obtain ⟨c, rest, -, hstart, -, hword⟩ := Lexer.firstWord?_eq_some.mp h
  have hcs : c :: rest = w.toList := (Lexer.word?_self hword).1.trans (List.append_nil _)
  rw [unmarked, ← hcs]
  split
  · rename_i heq
    obtain ⟨rfl, -⟩ := List.cons.inj heq
    exact absurd hstart (by decide +kernel)
  · rfl

theorem textBehind_eq : Companion.textBehind w = [] := by
  rw [Companion.textBehind, h.unmarked_eq, show Lexer.firstWord? w.toList = _ from h]
  rfl

/-- A word that is no keyword is a plain name. -/
theorem isPlain (hidentifier : isIdentifier w = true) : IsPlain w := by
  refine identifier?_eq_some.mpr ⟨hidentifier, [], ?_, rfl⟩
  rw [h.unmarked_eq]
  exact h

end IsWord

/-- A word that is no keyword, with nothing around it. -/
structure IsBare (w : String) : Prop where
  word : IsWord w
  identifier : isIdentifier w = true

namespace IsBare

variable {w : String} (h : IsBare w)
include h

theorem isPlain : IsPlain w := h.word.isPlain h.identifier

/-- **A bare name with the suffix of companions is a plain name.** -/
theorem checkIdentifier_companionName :
    checkIdentifier (Naming.companionName w) = .ok (Naming.companionName w) := by
  rw [Companion.checkIdentifier_companionName (Companion.checkIdentifier_eq_ok.mpr h.isPlain),
    if_pos h.word.textBehind_eq]

end IsBare

mutual

/-- The words of a tree are spelled as words of a text are. -/
def Tree.Spelled : Tree → Prop
  | .word w => IsWord w
  | .group _ content => AllSpelled content
  | _ => True

/-- The words of the trees of a list are spelled as words of a text are. -/
def AllSpelled : List Tree → Prop
  | [] => True
  | t :: ts => t.Spelled ∧ AllSpelled ts

end

theorem allSpelled_iff {ts : List Tree} : AllSpelled ts ↔ ∀ t ∈ ts, t.Spelled := by
  induction ts with
  | nil => exact ⟨fun _ _ h => (nomatch h), fun _ => trivial⟩
  | cons t ts ih => rw [AllSpelled, ih, List.forall_mem_cons]

theorem AllSpelled.of_suffix {ts rest : List Tree} (h : AllSpelled ts) (hrest : rest <:+ ts) :
    AllSpelled rest :=
  allSpelled_iff.mpr fun t ht => allSpelled_iff.mp h t (hrest.subset ht)

/-- A lexeme that is a word is spelled as a word of a text. -/
def Lexer.Lexeme.Spelled : Lexer.Lexeme → Prop
  | .leaf t => t.Spelled
  | _ => True

namespace Lexer

theorem leaf?_spelled {cs behind : List Char} {t : Tree} (h : leaf? cs = some (t, behind)) :
    t.Spelled := by
  cases t with
  | word w => exact isWord_of_leaf h
  | group d content =>
    rw [leaf?.eq_def] at h
    split at h
    · cases h
    · split_ifs at h
      · split at h
        · obtain ⟨_, -, h⟩ := Option.bind_eq_some_iff.mp h
          dsimp only at h
          split_ifs at h
          cases h
        · cases h
        · cases h
      · obtain ⟨_, -, h⟩ := Option.map_eq_some_iff.mp h
        cases h
  | _ => exact trivial

theorem docLexemes_spelled (doc : List Char) (inner : Bool) :
    ∀ l ∈ docLexemes doc inner, l.Spelled := by
  have hdoc : IsWord "doc" := by decide
  cases inner <;> simp [docLexemes, Lexeme.Spelled, Tree.Spelled, hdoc]

theorem lexemes?_spelled {fuel : Nat} {cs : List Char} {ls : List Lexeme}
    (h : lexemes? fuel cs = some ls) : ∀ l ∈ ls, l.Spelled := by
  induction fuel generalizing cs ls with
  | zero => cases h
  | succ fuel ih =>
    rw [lexemes?] at h
    split at h
    · split_ifs at h
      obtain ⟨rest, hrest, rfl⟩ := Option.map_eq_some_iff.mp h
      exact List.forall_mem_append.mpr ⟨docLexemes_spelled _ _, ih hrest⟩
    · split at h
      · cases h
        exact List.forall_mem_nil _
      · split at h
        · obtain ⟨rest, hrest, rfl⟩ := Option.map_eq_some_iff.mp h
          exact List.forall_mem_cons.mpr ⟨trivial, ih hrest⟩
        · obtain ⟨rest, hrest, rfl⟩ := Option.map_eq_some_iff.mp h
          exact List.forall_mem_cons.mpr ⟨trivial, ih hrest⟩
        · obtain ⟨⟨t, behind⟩, hleaf, h⟩ := Option.bind_eq_some_iff.mp h
          obtain ⟨rest, hrest, rfl⟩ := Option.map_eq_some_iff.mp h
          exact List.forall_mem_cons.mpr ⟨leaf?_spelled hleaf, ih hrest⟩

/-- Groups hold the trees that have been put into them. -/
theorem nest?_spelled {inner : List Tree} {outer : List (Delimiter × List Tree)}
    {ls : List Lexeme} {ts : List Tree} (h : nest? inner outer ls = some ts)
    (hls : ∀ l ∈ ls, l.Spelled) (hinner : AllSpelled inner)
    (houter : ∀ around ∈ outer, AllSpelled around.2) : AllSpelled ts := by
  fun_induction nest? inner outer ls with
  | case1 inner =>
    cases h
    exact allSpelled_iff.mpr fun t ht => allSpelled_iff.mp hinner t (List.mem_reverse.mp ht)
  | case2 => cases h
  | case3 inner outer t rest ih =>
    obtain ⟨ht, hrest⟩ := List.forall_mem_cons.mp hls
    exact ih h hrest ⟨ht, hinner⟩ houter
  | case4 inner outer d rest ih =>
    exact ih h (List.forall_mem_cons.mp hls).2 trivial (List.forall_mem_cons.mpr ⟨hinner, houter⟩)
  | case5 inner around outer d rest ih =>
    obtain ⟨haround, houter⟩ := List.forall_mem_cons.mp houter
    refine ih h (List.forall_mem_cons.mp hls).2 ⟨?_, haround⟩ houter
    exact allSpelled_iff.mpr fun t ht => allSpelled_iff.mp hinner t (List.mem_reverse.mp ht)
  | case6 => cases h
  | case7 => cases h

end Lexer

/-- **The words of a text are spelled as they stand in it.** -/
theorem trees?_spelled {s : String} {ts : List Tree} (h : trees? s = some ts) : AllSpelled ts := by
  rw [trees?_eq] at h
  obtain ⟨ls, hls, hnest⟩ := Option.bind_eq_some_iff.mp h
  exact Lexer.nest?_spelled hnest (Lexer.lexemes?_spelled hls) trivial (List.forall_mem_nil _)

/-! ## Names of an item -/

namespace Reader

variable {α β : Type} {ts rest : List Tree}

/-- What has been read in two steps has been read in the first and then, from what that left, in the
second. -/
theorem bind_inv {r : Reader α} {f : α → Reader β} [Trims r] {b : β}
    (h : (r >>= f) ts = some (b, rest)) (hts : AllSpelled ts) :
    ∃ a behind, r ts = some (a, behind) ∧ AllSpelled behind ∧ f a behind = some (b, rest) := by
  obtain ⟨⟨a, behind⟩, hr, hf⟩ := Option.bind_eq_some_iff.mp h
  exact ⟨a, behind, hr, hts.of_suffix (Trims.suffix hr), hf⟩

theorem isBare_of_identifier {w : String} (h : identifier ts = some (w, rest))
    (hts : AllSpelled ts) : IsBare w := by
  rw [identifier.eq_def] at h
  split at h
  · split_ifs at h with hidentifier
    cases h
    exact ⟨hts.1, hidentifier⟩
  · cases h

/-- What has been read in a group has been read to the end of its content. -/
theorem group_inv {d : Delimiter} {inside : Reader α} {a : α}
    (h : group d inside ts = some (a, rest)) (hts : AllSpelled ts) :
    ∃ content, AllSpelled content ∧ inside content = some (a, []) := by
  rw [group.eq_def] at h
  split at h
  · split_ifs at h
    obtain ⟨a', hrun, heq⟩ := Option.map_eq_some_iff.mp h
    cases heq
    rw [run?] at hrun
    split at hrun
    · cases hrun
      exact ⟨_, hts.1, ‹_›⟩
    · cases hrun
  · cases h

end Reader

/-- The name of a field is a bare name, or is missing. -/
def NamedField.Named (field : NamedField) : Prop := field.name = "_" ∨ IsBare field.name

namespace ItemGrammar

open Reader

variable {g : Grammar} [∀ phrase, Trims (g phrase)] {ts rest : List Tree}

theorem named_of_namedField {depth : Nat} {field : NamedField}
    (h : namedField g depth ts = some (field, rest)) (hts : AllSpelled ts) : field.Named := by
  cases depth with
  | zero => cases h
  | succ depth =>
    rw [namedField] at h
    obtain ⟨attrs, ts₁, -, hts₁, h⟩ := bind_inv h hts
    obtain ⟨_, ts₂, -, hts₂, h⟩ := bind_inv h hts₁
    obtain ⟨_, ts₃, hahead, -, h⟩ := bind_inv h hts₂
    cases hahead
    extract_lets unnamed afterName at h
    -- whatever follows the name leaves it as it is
    have hname : ∀ {name ts'}, AllSpelled ts' → afterName name ts' = some (field, rest) →
        field.name = name := by
      intro name ts' hts' h
      obtain ⟨_, ts₄, -, hts₄, h⟩ := bind_inv h hts'
      obtain ⟨_, ts₅, -, hts₅, h⟩ := bind_inv h hts₄
      split_ifs at h
      · obtain ⟨_, ts₆, -, hts₆, h⟩ := bind_inv h hts₅
        obtain ⟨_, ts₇, -, -, h⟩ := bind_inv h hts₆
        cases h
        rfl
      · obtain ⟨_, ts₆, -, -, h⟩ := bind_inv h hts₅
        cases h
        rfl
    split_ifs at h with hunnamed
    · obtain ⟨name, ts₄, hword, hts₄, h⟩ := bind_inv h hts₂
      refine .inl ((hname hts₄ h).trans ?_)
      rw [anyWord.eq_def] at hword
      split at hword <;> cases hword
      exact beq_iff_eq.mp hunnamed
    · obtain ⟨name, ts₄, hword, hts₄, h⟩ := bind_inv h hts₂
      exact .inr (hname hts₄ h ▸ isBare_of_identifier hword hts₂)

theorem forall_of_listToEnd {α : Type} {item : Reader α} [Trims item] {P : α → Prop}
    (hitem : ∀ {ts a rest}, item ts = some (a, rest) → AllSpelled ts → P a) {fuel : Nat}
    {found : List α} (h : listToEnd item fuel ts = some (found, rest)) (hts : AllSpelled ts) :
    ∀ a ∈ found, P a := by
  induction fuel generalizing ts found with
  | zero => cases h
  | succ fuel ih =>
    rw [listToEnd] at h
    obtain ⟨_, ts₁, -, hts₁, h⟩ := bind_inv h hts
    split_ifs at h
    · cases h
      exact List.forall_mem_nil _
    · obtain ⟨first, ts₂, hfirst, hts₂, h⟩ := bind_inv h hts₁
      obtain ⟨_, ts₃, -, hts₃, h⟩ := bind_inv h hts₂
      split_ifs at h
      · cases h
        exact List.forall_mem_singleton.mpr (hitem hfirst hts₁)
      · obtain ⟨_, ts₄, -, hts₄, h⟩ := bind_inv h hts₃
        obtain ⟨others, ts₅, hothers, -, h⟩ := bind_inv h hts₄
        cases h
        exact List.forall_mem_cons.mpr ⟨hitem hfirst hts₁, ih hothers hts₄⟩

theorem named_of_namedFields {fields : List NamedField}
    (h : namedFields g ts = some (fields, rest)) (hts : AllSpelled ts) :
    ∀ field ∈ fields, field.Named := by
  obtain ⟨content, hcontent, h⟩ := group_inv h hts
  obtain ⟨_, ts₁, -, hts₁, h⟩ := bind_inv h hcontent
  exact forall_of_listToEnd named_of_namedField h hts₁

end ItemGrammar

/-- The names of an item: that of the type is bare, and so are those of its fields that have one. -/
structure Item.Named (item : Item) : Prop where
  name : IsBare item.name
  fields : ∀ fields, item.body = .named fields → ∀ field ∈ fields, field.Named

namespace ItemGrammar

open Reader

variable {g : Grammar} [∀ phrase, Trims (g phrase)] {ts rest : List Tree}

theorem named_of_structBody {body : Body} (h : structBody g ts = some (body, rest))
    (hts : AllSpelled ts) (fields : List NamedField) (hbody : body = .named fields) :
    ∀ field ∈ fields, field.Named := by
  rw [structBody] at h
  obtain ⟨_, ts₁, -, hts₁, h⟩ := bind_inv h hts
  obtain ⟨_, ts₂, -, hts₂, h⟩ := bind_inv h hts₁
  subst hbody
  split_ifs at h
  · obtain ⟨⟨_, _⟩, -, h⟩ := Option.bind_eq_some_iff.mp h
    obtain ⟨⟨_, _⟩, -, h⟩ := Option.bind_eq_some_iff.mp h
    obtain ⟨⟨_, _⟩, -, h⟩ := Option.bind_eq_some_iff.mp h
    cases h
  · obtain ⟨⟨_, _⟩, hfields, h⟩ := Option.bind_eq_some_iff.mp h
    cases h
    exact named_of_namedFields hfields hts₂
  · obtain ⟨⟨_, _⟩, -, h⟩ := Option.bind_eq_some_iff.mp h
    cases h

theorem named_of_reader {item : Item} (h : reader g ts = some (item, rest)) (hts : AllSpelled ts) :
    item.Named := by
  rw [reader] at h
  obtain ⟨_, ts₁, -, hts₁, h⟩ := bind_inv h hts
  obtain ⟨_, ts₂, -, hts₂, h⟩ := bind_inv h hts₁
  obtain ⟨_, ts₃, -, hts₃, h⟩ := bind_inv h hts₂
  obtain ⟨name, ts₄, hname, hts₄, h⟩ := bind_inv h hts₃
  obtain ⟨_, ts₅, -, hts₅, h⟩ := bind_inv h hts₄
  have hbare := isBare_of_identifier hname hts₃
  split at h
  · obtain ⟨⟨_, _⟩, hbody, h⟩ := Option.bind_eq_some_iff.mp h
    cases h
    exact ⟨hbare, named_of_structBody hbody hts₅⟩
  · obtain ⟨⟨_, _⟩, -, h⟩ := Option.bind_eq_some_iff.mp h
    obtain ⟨⟨_, _⟩, -, h⟩ := Option.bind_eq_some_iff.mp h
    cases h
    exact ⟨hbare, nofun⟩
  · obtain ⟨⟨_, _⟩, -, h⟩ := Option.bind_eq_some_iff.mp h
    obtain ⟨⟨_, _⟩, -, h⟩ := Option.bind_eq_some_iff.mp h
    cases h
    exact ⟨hbare, nofun⟩
  · cases h

end ItemGrammar

/-- **An item that has been read from a text has bare names.** -/
theorem Item.named_of_parse? {text : String} {item : Item} (h : Item.parse? text = some item) :
    item.Named := by
  obtain ⟨ts, hts, hrun⟩ := Option.bind_eq_some_iff.mp h
  rw [Reader.run?] at hrun
  split at hrun
  · cases hrun
    exact ItemGrammar.named_of_reader ‹_› (trees?_spelled hts)
  · cases hrun

end Syntax
end Theming
