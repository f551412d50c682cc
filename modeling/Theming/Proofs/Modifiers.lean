/-
# Visibilities in printed code

A visibility stands in front of the struct and of its public functions, so that their code can be
read, it must begin no function and no block, and be printed as it is. Every visibility that a text
can hold is of that kind (`isModifier_of_visibility?`).
-/

import Theming.Proofs.Declared
import Theming.Proofs.Outline
import Theming.Proofs.Quoting
import Theming.Syntax.Visibility

namespace Theming
namespace Syntax

open Code (words isSolid isSolidWord)

/-- Code that can stand in front of an item: it is printed as it is, and begins no function and no
block. -/
structure Code.IsModifier (visibility : List Code) : Prop where
  avoids : visibility.all (Code.avoids "fn") = true
  solid : isSolid visibility = true

theorem IsWord.isSolidWord {w : String} (h : IsWord w) : isSolidWord w = true := by
  obtain ⟨c, rest, -, -, -, hword⟩ := Lexer.firstWord?_eq_some.mp h
  obtain ⟨hne, hchars⟩ := Lexer.chars_of_word? hword
  refine isSolidWord_of_identifier ?_ hchars
  rintro rfl
  exact hne rfl

namespace Reader

variable {ts rest : List Tree} {code : List Code}

theorem keyword_inv {s : String} (h : keyword s ts = some (code, rest)) : code = [.word s] := by
  rw [keyword.eq_def] at h
  split at h
  · split_ifs at h
    cases h
    rfl
  · cases h

theorem punct_inv {s : String} (h : punct s ts = some (code, rest)) : code = [.word s] := by
  obtain ⟨_, -, heq⟩ := Option.map_eq_some_iff.mp h
  cases heq
  rfl

theorem anyWord_inv {w : String} (h : anyWord ts = some (w, rest)) (hts : AllSpelled ts) :
    IsWord w := by
  rw [anyWord.eq_def] at h
  split at h
  · cases h
    exact hts.1
  · cases h

end Reader

variable {ts rest : List Tree} {code : List Code}

theorem isSolid_moduleSegments {fuel : Nat} (h : moduleSegments fuel ts = some (code, rest))
    (hts : AllSpelled ts) : isSolid code = true := by
  induction fuel generalizing ts code with
  | zero => cases h
  | succ fuel ih =>
    rw [moduleSegments] at h
    obtain ⟨_, ts₁, hahead, -, h⟩ := Reader.bind_inv h hts
    cases hahead
    split_ifs at h
    · obtain ⟨w, ts₂, hw, hts₂, h⟩ := Reader.bind_inv h hts
      have hsolid := (Reader.anyWord_inv hw hts).isSolidWord
      obtain ⟨_, ts₃, hahead, -, h⟩ := Reader.bind_inv h hts₂
      cases hahead
      split_ifs at h
      · obtain ⟨colons, ts₄, hcolons, hts₄, h⟩ := Reader.bind_inv h hts₂
        obtain ⟨⟨others, _⟩, hothers, h⟩ := Option.bind_eq_some_iff.mp h
        obtain rfl := Reader.punct_inv hcolons
        cases h
        have hcolons : isSolidWord "::" = true := by decide
        simp [isSolid, Code.isSolidOne, hsolid, hcolons, ih hothers hts₄]
      · cases h
        simp [hsolid]
    · cases h

theorem isSolid_modulePath (h : modulePath ts = some (code, rest)) (hts : AllSpelled ts) :
    isSolid code = true := by
  rw [modulePath] at h
  obtain ⟨colons, ts₁, hcolons, hts₁, h⟩ := Reader.bind_inv h hts
  obtain ⟨_, ts₂, hahead, -, h⟩ := Reader.bind_inv h hts₁
  cases hahead
  obtain ⟨⟨segments, _⟩, hsegments, h⟩ := Option.bind_eq_some_iff.mp h
  cases h
  have hfront : isSolid colons = true := by
    rw [Reader.punct?] at hcolons
    split at hcolons <;> cases hcolons
    · decide
    · rfl
  rw [Code.isSolid_append, hfront, isSolid_moduleSegments hsegments hts₁]
  rfl

/-- `pub` in front of a group in parentheses. -/
theorem isModifier_pub {inside : List Code} (h : isSolid inside = true) :
    Code.IsModifier ([.word "pub"] ++ Code.paren inside) := by
  refine ⟨rfl, ?_⟩
  rw [Code.isSolid_append, Code.isSolid_paren, h]
  decide

theorem isModifier_of_visibility (h : visibility ts = some (code, rest)) (hts : AllSpelled ts) :
    Code.IsModifier code := by
  rw [visibility] at h
  -- A look ahead reads nothing, so it is done with by `cases`.
  obtain ⟨_, ts₁, hahead, -, h⟩ := Reader.bind_inv h hts
  cases hahead
  split_ifs at h
  · have hpub : Code.IsModifier [.word "pub"] := ⟨rfl, by decide⟩
    obtain ⟨word, ts₂, hword, hts₂, h⟩ := Reader.bind_inv h hts
    obtain rfl := Reader.keyword_inv hword
    obtain ⟨_, ts₃, hahead, -, h⟩ := Reader.bind_inv h hts₂
    cases hahead
    split at h
    · split_ifs at h with hw
      · obtain ⟨group, ts₄, hgroup, -, h⟩ := Reader.bind_inv h hts₂
        cases hgroup
        cases h
        refine isModifier_pub ?_
        have hsolid : isSolidWord _ = true := hts₂.1.1.isSolidWord
        rw [Code.ofTrees, Code.ofTrees, String.empty_append]
        simpa using hsolid
      · cases h
        exact hpub
    · obtain ⟨inside, ts₄, hinside, -, h⟩ := Reader.bind_inv h hts₂
      cases h
      obtain ⟨content, hcontent, hinside⟩ := Reader.group_inv hinside hts₂
      obtain ⟨within, ts₅, hwithin, hts₅, hinside⟩ := Reader.bind_inv hinside hcontent
      obtain rfl := Reader.keyword_inv hwithin
      obtain ⟨⟨path, _⟩, hpath, hinside⟩ := Option.bind_eq_some_iff.mp hinside
      cases hinside
      refine isModifier_pub ?_
      rw [Code.isSolid_append, isSolid_modulePath hpath hts₅]
      decide
    · cases h
      exact hpub
  · cases h
    exact ⟨rfl, rfl⟩

/-- **Every visibility that a text holds can stand in front of an item.** -/
theorem isModifier_of_visibility? {text : String} (h : visibility? text = some code) :
    Code.IsModifier code := by
  obtain ⟨ts, hts, h⟩ := Option.bind_eq_some_iff.mp h
  rw [Reader.run?] at h
  split at h
  · rename_i hread
    cases h
    exact isModifier_of_visibility hread (trees?_spelled hts)
  · cases h

end Syntax
end Theming
