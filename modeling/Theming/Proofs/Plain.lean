/-
# Plain names

A name is plain if it is an identifier as it is spelled. A model accepts names that are not, since
blanks and comments may stand around an identifier, and packages are not checked at all.

| plain names hold | so they can |
| --- | --- |
| no slash and no dot | stand in a path, each as one name |
| no colon and no dot | be told from a qualified name |

A type is plain if its package, its own name and the names around it are. Then its file is laid out
below the output directory, and its place can be told from its qualified name.
-/

import Theming.Proofs.Flattening
import Theming.Proofs.Layout
import Theming.Proofs.Scanning

namespace Theming

namespace Syntax

/-- An identifier as it is spelled: no blank and no comment stands around it. -/
def IsPlain (name : String) : Prop := identifier? name = some name

instance (name : String) : Decidable (IsPlain name) := inferInstanceAs (Decidable (_ = _))

namespace Lexer

variable {cs w behind : List Char}

theorem chars_of_plainWord? (h : plainWord? cs = some (w, behind)) :
    w ≠ [] ∧ ∀ c ∈ w, Text.isWordStart c = true ∨ Text.isWordPart c = true := by
  cases cs with
  | nil => cases h
  | cons first rest =>
    rw [plainWord?] at h
    split_ifs at h with hstart
    rw [List.span_eq_takeWhile_dropWhile] at h
    cases h
    refine ⟨List.cons_ne_nil _ _, fun c hc => ?_⟩
    rcases List.mem_cons.mp hc with rfl | hc
    · exact .inl hstart
    · exact .inr (List.mem_takeWhile_imp hc)

/-- A word has word characters only, and a `#` if it is raw. -/
theorem chars_of_word? (h : word? cs = some (w, behind)) :
    w ≠ [] ∧ ∀ c ∈ w, c = '#' ∨ Text.isWordStart c = true ∨ Text.isWordPart c = true := by
  rw [word?.eq_def] at h
  split at h
  · obtain ⟨⟨w', behind'⟩, hplain, h⟩ := Option.bind_eq_some_iff.mp h
    dsimp only at h
    split_ifs at h
    cases h
    refine ⟨List.cons_ne_nil _ _, fun c hc => ?_⟩
    rcases List.mem_cons.mp hc with rfl | hc
    · exact .inr (.inl (by decide))
    · exact (List.mem_cons.mp hc).imp_right ((chars_of_plainWord? hplain).2 c)
  · have hplain := chars_of_plainWord? h
    exact ⟨hplain.1, fun c hc => .inr (hplain.2 c hc)⟩

end Lexer

theorem chars_of_identifier? {name word : String} (h : identifier? name = some word) : word ≠ "" ∧
    ∀ c ∈ word.toList, c = '#' ∨ Text.isWordStart c = true ∨ Text.isWordPart c = true := by
  obtain ⟨-, behind, hfirst, -⟩ := identifier?_eq_some.mp h
  obtain ⟨c, rest, -, -, -, hword⟩ := Lexer.firstWord?_eq_some.mp hfirst
  obtain ⟨hne, hchars⟩ := Lexer.chars_of_word? hword
  exact ⟨fun hempty => hne (by rw [hempty]; rfl), hchars⟩

namespace IsPlain

variable {name : String} (h : IsPlain name)
include h

theorem chars : name ≠ "" ∧
    ∀ c ∈ name.toList, c = '#' ∨ Text.isWordStart c = true ∨ Text.isWordPart c = true :=
  chars_of_identifier? h

theorem notMem {c : Char} (hhash : c ≠ '#') (hstart : Text.isWordStart c = false)
    (hpart : Text.isWordPart c = false) : c ∉ name.toList := by
  intro hc
  rcases h.chars.2 c hc with heq | hword | hword
  · exact hhash heq
  · rw [hstart] at hword
    cases hword
  · rw [hpart] at hword
    cases hword

/-- A plain name can stand between the separators of qualified names. -/
theorem isSegment : Naming.IsSegment name :=
  ⟨h.chars.1, h.notMem (by decide) (by decide) (by decide),
    h.notMem (by decide) (by decide) (by decide)⟩

/-- A plain name can stand in a path. -/
theorem isName : Path.IsName name := by
  have hdot : '.' ∉ name.toList := h.isSegment.2.2
  refine ⟨h.notMem (by decide) (by decide) (by decide), ?_, ?_⟩
  · rw [Path.isTrivial, Bool.or_eq_false_iff, beq_eq_false_iff_ne, ← Bool.not_eq_true,
      String.isEmpty_iff]
    refine ⟨h.chars.1, ?_⟩
    rintro rfl
    exact hdot (by decide)
  · rintro rfl
    exact hdot (by decide)

end IsPlain
end Syntax

namespace DeclaringType

/-- The segments of its package, its name and the names of the types around it are plain. -/
structure IsPlain (ty : DeclaringType) : Prop where
  package : ∀ segment ∈ Emitter.packageSegments ty.package, Syntax.IsPlain segment
  names : ∀ name ∈ ty.enclosing ++ [ty.name], Syntax.IsPlain name

variable {ty ty' : DeclaringType}

theorem IsPlain.contained (h : ty.IsPlain) : ty.Contained :=
  ⟨fun segment hsegment => (h.package segment hsegment).isName,
    (h.names ty.name (List.mem_append_right _ List.mem_cons_self)).isName.slash⟩

/-- Plain types with one qualified name are in one place. -/
theorem IsPlain.place_eq (h : ty.IsPlain) (h' : ty'.IsPlain)
    (hname : ty.qualifiedName = ty'.qualifiedName) :
    ty.package = ty'.package ∧ ty.name = ty'.name := by
  have hparts := fun part hpart => (h.names part hpart).isSegment
  have hparts' := fun part hpart => (h'.names part hpart).isSegment
  rw [qualifiedName, qualifiedName, Naming.qualifiedName, Naming.qualifiedName,
    Naming.inPackage_inj (Naming.colon_notMem_nestedName hparts)
      (Naming.colon_notMem_nestedName hparts'), Naming.nestedName_inj hparts hparts'] at hname
  exact ⟨hname.1, hname.2.2⟩

end DeclaringType
end Theming
