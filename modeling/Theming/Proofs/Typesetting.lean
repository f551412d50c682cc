/-
# Companions as they are printed

Each word of the code of a companion is printed as one: the words of the template, the literals of
names, the numerals of keys, and the words of the type, the companion and the fields, as long as
these are words themselves. So the text of a companion is one line that can be read back.
-/

import Theming.Companion.Source
import Theming.Proofs.Quoting

namespace Theming
namespace Companion

open Syntax (Code)
open Syntax.Code

/-! ## Printing -/

section Solid

variable {cs : List Code}

theorem isSolid_attribute' : isSolid (Source.attribute' cs) = isSolid cs := by
  rw [Source.attribute', isSolid_append, isSolid_bracket, isSolid_words]
  rfl

theorem isSolid_doc (literal : String) : isSolid (Source.doc literal) = isSolidWord literal := by
  rw [Source.doc, isSolid_attribute', isSolid_append, isSolid_word, isSolid_words]
  rfl

theorem isSolid_some' : isSolid (some' cs) = isSolid cs := by
  rw [some', isSolid_append, isSolid_paren, isSolid_words]
  rfl

theorem isSolid_clone : isSolid (clone cs) = isSolid cs := by
  rw [clone, isSolid_append, isSolid_paren, isSolid_words]
  rfl

end Solid

theorem isSolid_none' : isSolid none' = true := by
  rw [none', isSolid_words]
  rfl

theorem isSolid_default' : isSolid default' = true := by
  rw [default', isSolid_append, isSolid_paren, isSolid_words]
  rfl

theorem isSolid_lookup (b : Binding) : isSolid (into (lookup b)) = true := by
  have hkey := Syntax.isSolidWord_toString b.key.toNat
  -- What is left when the key is known are words of the template.
  rw [into, lookup]
  cases b.kind <;>
  · simp only [isSolid_append, isSolid_paren, isSolid_word, hkey]
    repeat rw [isSolid_words]
    rfl

theorem isSolid_updateTarget {block : List Code} (hblock : isSolid block = true) :
    isSolid (Source.updateTarget block) = true := by
  simp only [Source.updateTarget, isSolid_append, isSolid_paren, isSolid_brace, hblock]
  repeat rw [isSolid_words]
  rfl

/-- The words of a member are printed as they are. -/
structure Member.IsSolid (m : Member) : Prop where
  word : isSolidWord m.word = true
  pending : isSolidWord m.pending = true

namespace Member.IsSolid

variable {m : Member} (h : m.IsSolid)
include h

theorem allocation : isSolid m.allocation = true := by
  simp only [Member.allocation, Member.place, isSolid_append, isSolid_word, h.word, isSolid_default']
  repeat rw [isSolid_words]
  rfl

theorem declaration : isSolid m.declaration = true := by
  simp only [Member.declaration, isSolid_append, isSolid_word, h.pending, isSolid_none']
  repeat rw [isSolid_words]
  rfl

theorem update : isSolid m.update = true := by
  have hpending : isSolid (.word m.pending :: words "=") = true := by
    rw [isSolid, isSolidOne, h.pending, isSolid_words]
    rfl
  rw [Member.update, Member.place]
  cases m.binding.shape <;>
  · simp only [isSolid_append, isSolid_paren, isSolid_word, isSolid_some', isSolid_clone, h.word,
      hpending, isSolid_lookup]
    repeat rw [isSolid_words]
    rfl

theorem publish : isSolid m.publish = true := by
  simp only [Member.publish, isSolid_append, isSolid_paren, isSolid_brace, isSolid_word,
    isSolid_some', h.pending]
  repeat rw [isSolid_words]
  rfl

theorem reset : isSolid m.reset = true := by
  rw [Member.reset, Member.place]
  cases m.binding.shape <;>
  · simp only [isSolid_append, isSolid_word, isSolid_none', isSolid_default', h.word]
    repeat rw [isSolid_words]
    rfl

end Member.IsSolid

/-- The words that a companion is made from are printed as they are. -/
structure Source.IsSolid (s : Source) : Prop where
  visibility : isSolid s.visibility = true
  target : isSolidWord s.target = true
  companion : isSolidWord s.companion = true
  members : ∀ m ∈ s.members, m.IsSolid

namespace Source.IsSolid

variable {s : Source} (h : s.IsSolid)
include h

theorem reactive : ∀ m ∈ s.reactive, m.IsSolid := fun m hm =>
  h.members m (List.mem_of_mem_filter hm)

theorem declaration : isSolid s.declaration = true := by
  simp only [Source.declaration, isSolid_doc, isSolid_append, isSolid_brace, isSolid_word,
    Text.isSolidWord_literal, h.visibility, h.target, h.companion]
  repeat rw [isSolid_words]
  rfl

theorem constructor : isSolid s.constructor = true := by
  have hinit : isSolid s.initCall = true := by
    rw [initCall]
    split
    · rfl
    · simp only [isSolid_append, isSolid_paren]
      repeat rw [isSolid_words]
      rfl
  have hdocs : isSolidWord "r\" Bind a new companion to `target`, apply the current theme and\"" &&
      isSolidWord "r\" start listening for theme changes.\"" = true := by
    rw [isSolidWord_ofList, isSolidWord_ofList]
    rfl
  rw [Bool.and_eq_true] at hdocs
  simp only [Source.constructor, isSolid_doc, isSolid_append, isSolid_paren, isSolid_brace,
    isSolid_word, isSolid_some', isSolid_clone, hdocs, hinit, h.visibility, h.target]
  repeat rw [isSolid_words]
  rfl

theorem entry : isSolid s.entry = true := by
  have hdoc : isSolidWord "r\" Registry entry for this companion.\"" = true := by
    rw [isSolidWord_ofList]
    rfl
  simp only [Source.entry, isSolid_doc, isSolid_append, isSolid_paren, isSolid_brace, isSolid_word,
    string, Text.isSolidWord_literal, hdoc, h.visibility, h.target]
  repeat rw [isSolid_words]
  rfl

theorem register : isSolid s.register = true := by
  have hdoc : isSolidWord "r\" Make this companion discoverable by the type resolver.\"" = true := by
    rw [isSolidWord_ofList]
    rfl
  simp only [Source.register, isSolid_doc, isSolid_append, isSolid_paren, isSolid_brace, hdoc,
    h.visibility]
  repeat rw [isSolid_words]
  rfl

theorem construct : isSolid s.construct = true := by
  simp only [Source.construct, isSolid_append, isSolid_paren, isSolid_brace, isSolid_word, h.target]
  repeat rw [isSolid_words]
  rfl

theorem initVariables : isSolid s.initVariables = true := by
  have hupdate := isSolid_updateTarget (isSolid_flatMap fun m hm => (h.reactive m hm).allocation)
  rw [Source.initVariables]
  split
  · rfl
  · simp only [isSolid_append, isSolid_paren, isSolid_brace, isSolid_some', hupdate]
    repeat rw [isSolid_words]
    rfl

theorem updateTheme : isSolid s.updateTheme = true := by
  have hdoc :
      isSolidWord "r\" Recompute every bound field from the current resources.\"" = true := by
    rw [isSolidWord_ofList]
    rfl
  have hdeclared := isSolid_flatMap fun m hm => (h.reactive m hm).declaration
  have hupdate := isSolid_updateTarget (isSolid_flatMap fun m hm => (h.members m hm).update)
  have hpublished := isSolid_flatMap fun m hm => (h.reactive m hm).publish
  simp only [Source.updateTheme, isSolid_doc, isSolid_append, isSolid_paren, isSolid_brace,
    isSolid_some', hdoc, hdeclared, hupdate, hpublished, h.visibility]
  repeat rw [isSolid_words]
  rfl

theorem inherent : isSolid s.inherent = true := by
  simp only [Source.inherent, isSolid_attribute', isSolid_append, isSolid_paren, isSolid_brace,
    isSolid_word, h.companion, h.constructor, h.entry, h.register, h.construct, h.initVariables,
    h.updateTheme]
  repeat rw [isSolid_words]
  rfl

theorem listener : isSolid s.listener = true := by
  simp only [Source.listener, isSolid_attribute', isSolid_append, isSolid_paren, isSolid_brace,
    isSolid_word, h.companion]
  repeat rw [isSolid_words]
  rfl

theorem unbinder : isSolid s.unbinder = true := by
  have hrelease : isSolid s.release = true := by
    rw [release]
    split
    · rw [isSolid_words]
      rfl
    · exact isSolid_updateTarget (isSolid_flatMap fun m hm => (h.members m hm).reset)
  simp only [Source.unbinder, isSolid_attribute', isSolid_append, isSolid_paren, isSolid_brace,
    isSolid_word, string, Text.isSolidWord_literal, h.companion, hrelease]
  repeat rw [isSolid_words]
  rfl

/-- The whole code of a companion can be read back from its text. -/
theorem code : isSolid s.code = true := by
  rw [Source.code, isSolid_append, isSolid_append, isSolid_append, h.declaration, h.inherent,
    h.listener, h.unbinder]
  rfl

end Source.IsSolid

end Companion
end Theming
