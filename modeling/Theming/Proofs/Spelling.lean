/-
# Names as they are spelled

A model checks that the names of a type and of its fields hold identifiers, and keeps the names as
they are written. Code is made from the identifiers: that of a field is found again, but that of the
companion is looked for in the name of the type with the suffix behind it.

| behind the identifier in the name | the companion |
| --- | --- |
| nothing | is called by the identifier with the suffix |
| text, and the suffix comes to stand in a comment | is called like the type |
| text, and the suffix stands for itself | is refused for its name |

What stands in front of the identifier is of no matter (`Companion.emission_by_spelling`).
-/

import Theming.Companion.Source
import Theming.Proofs.Collisions
import Theming.Proofs.Coverage
import Theming.Proofs.Scanning

namespace Theming
namespace Companion

open Syntax (Code unmarked)
open Syntax.Lexer (firstWord? extendWord skip)

/-- The text behind the word that a text starts with. -/
def textBehind (text : String) : List Char :=
  ((firstWord? (unmarked text)).map Prod.snd).getD []

/-- Whether a comment that a text ends in goes on over the suffix of companions. -/
def swallows (behind : List Char) : Bool :=
  let cs := behind ++ Naming.companionSuffix.toList
  (skip cs.length cs).isEmpty

/-! ## The suffix -/

theorem isWordPart_suffix :
    ∀ c ∈ Naming.companionSuffix.toList, Text.isWordPart c = true :=
  List.all_eq_true.mp (by decide +kernel)

/-- No word of a list without suffixed words has the suffix. -/
theorem notMem_of_suffixed {words : List String}
    (h : ∀ word ∈ words, ¬ Naming.companionSuffix.toList <:+ word.toList) (w : List Char) :
    words.contains (String.ofList (w ++ Naming.companionSuffix.toList)) = false := by
  rw [← Bool.not_eq_true, List.contains_iff_mem]
  intro hmem
  refine h _ hmem ?_
  rw [String.toList_ofList]
  exact List.suffix_append _ _

theorem unmarked_append {text : String} (h : unmarked text ≠ []) (more : String) :
    unmarked (text ++ more) = unmarked text ++ more.toList := by
  have hne : text.toList ≠ [] := by
    intro hnil
    rw [unmarked, hnil] at h
    exact h rfl
  rw [unmarked, unmarked, String.toList_append]
  obtain ⟨c, cs, hcs⟩ := List.exists_cons_of_ne_nil hne
  rw [hcs, List.cons_append]
  split
  · rename_i heq
    obtain ⟨rfl, rfl⟩ := List.cons.inj heq
    rfl
  · rename_i hmark
    split
    · rename_i heq
      obtain ⟨rfl, rfl⟩ := List.cons.inj heq
      exact absurd rfl (hmark _)
    · rfl

theorem checkIdentifier_eq_ok {name word : String} :
    checkIdentifier name = .ok word ↔ Syntax.identifier? name = some word := by
  rw [checkIdentifier]
  cases Syntax.identifier? name <;> simp

theorem checkIdentifier_eq_error {name : String} (h : Syntax.identifier? name = none) :
    checkIdentifier name = .error (.invalidIdentifier name) := by
  rw [checkIdentifier, h]

/-- **What an identifier with the suffix of companions comes to** depends on the text behind the
identifier: where there is none, the word goes on. Otherwise the suffix is one more word, which is
refused, or is lost in a comment. -/
theorem checkIdentifier_companionName {name word : String} (h : checkIdentifier name = .ok word) :
    checkIdentifier (Naming.companionName name) =
      if textBehind name = [] then .ok (Naming.companionName word)
      else if swallows (textBehind name) then .ok word
      else .error (.invalidIdentifier (Naming.companionName name)) := by
  obtain ⟨-, behind, hfirst, -⟩ :=
    Syntax.identifier?_eq_some.mp (checkIdentifier_eq_ok.mp h)
  have hbehind : textBehind name = behind := by
    rw [textBehind, hfirst]
    rfl
  have hsuffixed : firstWord? (unmarked (Naming.companionName name)) =
      some (extendWord word.toList behind Naming.companionSuffix.toList) := by
    rw [Naming.companionName, unmarked_append]
    · exact Syntax.Lexer.firstWord?_append hfirst isWordPart_suffix
        (notMem_of_suffixed (by decide))
    · intro hnil
      rw [hnil] at hfirst
      cases hfirst
  rw [extendWord] at hsuffixed
  rw [hbehind]
  split_ifs with hnil hswallows
  · rw [hnil, if_pos List.isEmpty_nil, ← String.toList_append] at hsuffixed
    refine checkIdentifier_eq_ok.mpr (Syntax.identifier?_eq_some.mpr ⟨?_, [], hsuffixed, rfl⟩)
    have hkeyword : Syntax.keywords.contains
        (String.ofList (word.toList ++ Naming.companionSuffix.toList)) = false :=
      notMem_of_suffixed (by decide) word.toList
    rw [← String.toList_append, String.ofList_toList] at hkeyword
    rw [Syntax.isIdentifier, Naming.companionName, hkeyword]
    rfl
  · rw [if_neg (by simpa using hnil)] at hsuffixed
    have hidentifier := (Syntax.identifier?_eq_some.mp (checkIdentifier_eq_ok.mp h)).1
    exact checkIdentifier_eq_ok.mpr (Syntax.identifier?_eq_some.mpr
      ⟨hidentifier, _, hsuffixed, List.isEmpty_iff.mp hswallows⟩)
  · rw [if_neg (by simpa using hnil)] at hsuffixed
    refine checkIdentifier_eq_error (Option.eq_none_iff_forall_not_mem.mpr fun w hw => ?_)
    obtain ⟨-, rest, hrest, hblank⟩ := Syntax.identifier?_eq_some.mp hw
    obtain rfl := (Prod.mk.inj (Option.some.inj (hsuffixed.symm.trans hrest))).2
    exact hswallows (List.isEmpty_iff.mpr hblank)

/-! ## Names that a model has accepted -/

/-- The names of a declaring type and of its bound fields hold identifiers. -/
def Accepted (ty : DeclaringType) : Prop :=
  (∃ word, checkIdentifier ty.name = .ok word) ∧ ∃ members, membersOf ty.fields = .ok members

theorem membersOf_append {fields others : List FieldBinding} {ms ms' : List Member}
    (h : membersOf fields = .ok ms) (h' : membersOf others = .ok ms') :
    membersOf (fields ++ others) = .ok (ms ++ ms') := by
  induction fields generalizing ms with
  | nil =>
    cases h
    exact h'
  | cons field rest ih =>
    rw [membersOf] at h
    obtain ⟨word, hword, h⟩ := Except.bind_eq_ok h
    obtain ⟨members, hmembers, h⟩ := Except.bind_eq_ok h
    cases h
    rw [List.cons_append, membersOf, hword, ih hmembers]
    rfl

/-- The bindings that a model has come by have names that code can be made with. -/
theorem membersOf_of_described {typeName : String} {fields : List FieldDescription}
    {bindings : List FieldBinding}
    (h : FieldBinding.allOfDescription typeName fields = .ok bindings) :
    ∃ members, membersOf bindings = .ok members := by
  induction fields generalizing bindings with
  | nil =>
    cases h
    exact ⟨[], rfl⟩
  | cons field rest ih =>
    rw [FieldBinding.allOfDescription] at h
    obtain ⟨found, hfound, h⟩ := Except.bind_eq_ok h
    obtain ⟨others, hothers, h⟩ := Except.bind_eq_ok h
    cases h
    obtain ⟨members, hmembers⟩ := ih hothers
    have hfirst : ∃ members, membersOf found.toList = .ok members := by
      rw [FieldBinding.ofDescription] at hfound
      split at hfound
      · cases hfound
        exact ⟨[], rfl⟩
      · obtain ⟨word, hword, hfound⟩ := Except.bind_eq_ok hfound
        split at hfound
        · cases hfound
          rw [Option.toList_some, membersOf, hword]
          exact ⟨_, rfl⟩
        · cases hfound
      · cases hfound
    obtain ⟨first, hfirst⟩ := hfirst
    exact ⟨_, membersOf_append hfirst hmembers⟩

mutual

/-- **Whatever gets a companion has been checked.** -/
theorem accepted_of_buildIn (package : String) (enclosing : List String) (desc : TypeDescription)
    {ty : DeclaringType} (h : DeclaringType.buildIn package enclosing desc = .ok ty) :
    ∀ q ∈ ty.qualifying, Accepted q ∧ q.qualifies = true := by
  obtain ⟨_, name, fields, nested⟩ := desc
  rw [DeclaringType.buildIn] at h
  obtain ⟨word, hword, h⟩ := Except.bind_eq_ok h
  obtain ⟨bindings, hbindings, h⟩ := Except.bind_eq_ok h
  obtain ⟨tys, htys, h⟩ := Except.bind_eq_ok h
  cases h
  intro q hq
  rw [DeclaringType.qualifying] at hq
  rcases List.mem_append.mp hq with hq | hq
  · split_ifs at hq with hempty
    · cases hq
    · obtain rfl := List.mem_singleton.mp hq
      exact ⟨⟨⟨word, hword⟩, membersOf_of_described hbindings⟩,
        by rw [DeclaringType.qualifies]; simpa using hempty⟩
  · exact accepted_of_buildAllIn package _ nested htys q hq

theorem accepted_of_buildAllIn (package : String) (enclosing : List String)
    (descs : List TypeDescription) {tys : List DeclaringType}
    (h : DeclaringType.buildAllIn package enclosing descs = .ok tys) :
    ∀ q ∈ DeclaringType.allQualifying tys, Accepted q ∧ q.qualifies = true := by
  cases descs with
  | nil =>
    cases h
    exact fun q hq => nomatch hq
  | cons desc rest =>
    rw [DeclaringType.buildAllIn] at h
    obtain ⟨ty, hty, h⟩ := Except.bind_eq_ok h
    obtain ⟨others, hothers, h⟩ := Except.bind_eq_ok h
    cases h
    have hfirst := accepted_of_buildIn package enclosing desc hty
    have hrest := accepted_of_buildAllIn package enclosing rest hothers
    split_ifs
    · rw [DeclaringType.allQualifying]
      intro q hq
      rcases List.mem_append.mp hq with hq | hq
      · exact hfirst q hq
      · exact hrest q hq
    · exact hrest

end

/-! ## Emission -/

/-- The code declares a struct of a name, behind its documentation and its visibility. -/
def Declares (visibility : List Code) (name : String) (code : List Code) : Prop :=
  ∃ line rest, code =
    Source.doc line ++ visibility ++ Syntax.Code.words "struct" ++ [.word name] ++ rest

/-- The companion of a type can be synthesized and rendered, and declares a struct of a name. -/
def Emits (visibility : List Code) (ty : DeclaringType) (name : String) : Prop :=
  ∃ code text, synthesize visibility ty = .ok (some code) ∧ Declares visibility name code ∧
    render visibility ty = .ok (some text)

/-- The companion of a type can neither be synthesized nor rendered. -/
def Refuses (visibility : List Code) (ty : DeclaringType) (e : ModelError) : Prop :=
  synthesize visibility ty = .error e ∧ render visibility ty = .error e

theorem declares_code (s : Source) : Declares s.visibility s.companion s.code := by
  obtain ⟨line, rest, hrest⟩ : ∃ line rest, s.declaration = Source.doc line ++ s.visibility ++
      Syntax.Code.words "struct" ++ [.word s.companion] ++ rest := ⟨_, _, rfl⟩
  refine ⟨line, rest ++ s.inherent ++ s.listener ++ s.unbinder, ?_⟩
  rw [Source.code, hrest]
  simp only [List.append_assoc]

theorem emits_of_words {visibility : List Code} {ty : DeclaringType} {companion : String}
    (h : Accepted ty) (hq : ty.qualifies = true)
    (hcompanion : checkIdentifier ty.companionName = .ok companion) :
    Emits visibility ty companion := by
  obtain ⟨⟨word, hword⟩, members, hmembers⟩ := h
  obtain ⟨s, hsource, hvisibility, hname⟩ : ∃ s : Source,
      Source.ofType visibility ty = .ok (some s) ∧ s.visibility = visibility ∧
        s.companion = companion := by
    rw [Source.ofType, if_pos hq, hword, hcompanion, hmembers]
    exact ⟨_, rfl, rfl, rfl⟩
  have hcode : synthesize visibility ty = .ok (some s.code) :=
    congrArg (Except.map (Option.map Source.code)) hsource
  refine ⟨s.code, _, hcode, ?_, congrArg (Except.map (Option.map _)) hcode⟩
  rw [← hvisibility, ← hname]
  exact declares_code s

theorem refuses_of_error {visibility : List Code} {ty : DeclaringType} {e : ModelError}
    (h : Accepted ty) (hq : ty.qualifies = true)
    (hcompanion : checkIdentifier ty.companionName = .error e) : Refuses visibility ty e := by
  obtain ⟨⟨word, hword⟩, -⟩ := h
  have hsource : Source.ofType visibility ty = .error e := by
    rw [Source.ofType, if_pos hq, hword, hcompanion]
    rfl
  have hcode := congrArg (Except.map (Option.map Source.code)) hsource
  exact ⟨hcode, congrArg (Except.map (Option.map _)) hcode⟩

/-- **What a model has accepted is emitted as its names are spelled.** If nothing stands behind the
identifier in the name of a type, its companion is emitted under the identifier with the suffix.
Otherwise the suffix does not reach the identifier: either the companion is refused for its name, or
it is emitted under the name of the type itself. Nothing else is in the way of any companion. -/
theorem emission_by_spelling {desc : TypeDescription} {ty : DeclaringType}
    (h : DeclaringType.build desc = .ok ty) (visibility : List Code) :
    ∀ q ∈ ty.qualifying, ∃ word, checkIdentifier q.name = .ok word ∧
      if textBehind q.name = [] then Emits visibility q (Naming.companionName word)
      else if swallows (textBehind q.name) then Emits visibility q word
      else Refuses visibility q (.invalidIdentifier q.companionName) := by
  intro q hq
  obtain ⟨haccepted, hqualifies⟩ := accepted_of_buildIn _ _ desc h q hq
  obtain ⟨word, hword⟩ := haccepted.1
  have hcompanion := checkIdentifier_companionName hword
  refine ⟨word, hword, ?_⟩
  split_ifs at hcompanion ⊢
  · exact emits_of_words haccepted hqualifies hcompanion
  · exact emits_of_words haccepted hqualifies hcompanion
  · exact refuses_of_error haccepted hqualifies hcompanion

/-- A panel with a row, whose name a blank follows, and a cell, whose name a comment follows. -/
def panel : TypeDescription where
  package := "app"
  name := "/* the */ Panel"
  fields := [{ name := " tint", type := "Option<Color>", annotations := [.bindColor 1] }]
  nested := [
    { name := "Row ", fields := [
      { name := "tint", type := "Color", annotations := [.bindColor 1] }] },
    { name := "Cell//s", fields := [
      { name := "r#type", type := "Reactive<Drawable>", annotations := [.bindDrawable 2] }] }]

/-- The panel has its companion, the row has none, and that of the cell is called like the cell. -/
theorem panel_emission : ∃ ty, DeclaringType.build panel = .ok ty ∧
    (∃ q ∈ ty.qualifying, Emits defaultVisibility q "PanelThemeBinding") ∧
    (∃ q ∈ ty.qualifying,
      Refuses defaultVisibility q (.invalidIdentifier "Row ThemeBinding")) ∧
    ∃ q ∈ ty.qualifying, Emits defaultVisibility q "Cell" := by
  have hnames : (DeclaringType.build panel).toOption.map (fun ty =>
      ty.qualifying.map fun q => q.name) = some ["/* the */ Panel", "Row ", "Cell//s"] := by
    decide +kernel
  cases hbuild : DeclaringType.build panel with
  | error e =>
    rw [hbuild] at hnames
    cases hnames
  | ok ty =>
    rw [hbuild] at hnames
    have hnamed : ty.qualifying.map (fun q => q.name) = _ := Option.some.inj hnames
    have hemission : ∀ name ∈ ["/* the */ Panel", "Row ", "Cell//s"], ∃ q ∈ ty.qualifying,
        q.name = name ∧ ∃ word, checkIdentifier name = .ok word ∧
          if textBehind name = [] then Emits defaultVisibility q (Naming.companionName word)
          else if swallows (textBehind name) then Emits defaultVisibility q word
          else Refuses defaultVisibility q (.invalidIdentifier (Naming.companionName name)) := by
      intro name hname
      rw [← hnamed] at hname
      obtain ⟨q, hq, rfl⟩ := List.mem_map.mp hname
      exact ⟨q, hq, rfl, emission_by_spelling hbuild defaultVisibility q hq⟩
    refine ⟨ty, rfl, ?_, ?_, ?_⟩
    · obtain ⟨q, hq, hname, word, hword, hemits⟩ := hemission "/* the */ Panel" (by decide)
      have hpanel : checkIdentifier "/* the */ Panel" = .ok "Panel" := by decide +kernel
      obtain rfl : word = "Panel" := Except.ok.inj (hword.symm.trans hpanel)
      rw [if_pos (by decide +kernel)] at hemits
      exact ⟨q, hq, hemits⟩
    · obtain ⟨q, hq, hname, word, -, hrefuses⟩ := hemission "Row " (by decide)
      rw [if_neg (by decide +kernel), if_neg (by decide +kernel)] at hrefuses
      exact ⟨q, hq, hrefuses⟩
    · obtain ⟨q, hq, hname, word, hword, hemits⟩ := hemission "Cell//s" (by decide)
      have hcell : checkIdentifier "Cell//s" = .ok "Cell" := by decide +kernel
      obtain rfl : word = "Cell" := Except.ok.inj (hword.symm.trans hcell)
      rw [if_neg (by decide +kernel), if_pos (by decide +kernel)] at hemits
      exact ⟨q, hq, hemits⟩

/-- A model accepts a widget whose name a blank follows, and then its companion is refused. -/
theorem padded_widget_refused : ¬ ∀ (desc : TypeDescription) (ty : DeclaringType),
    DeclaringType.build desc = .ok ty → ∀ q ∈ ty.qualifying, ∃ word,
      checkIdentifier q.name = .ok word ∧
        Emits defaultVisibility q (Naming.companionName word) := by
  intro h
  have hsources : (DeclaringType.build (DeclaringType.button "Widget ")).toOption.map (fun ty =>
      ty.qualifying.map fun q => (synthesize defaultVisibility q).isOk) = some [false] := by
    decide +kernel
  cases hbuild : DeclaringType.build (DeclaringType.button "Widget ") with
  | error e =>
    rw [hbuild] at hsources
    cases hsources
  | ok ty =>
    rw [hbuild] at hsources
    have hlist : ty.qualifying.map (fun q => (synthesize defaultVisibility q).isOk) = [false] :=
      Option.some.inj hsources
    obtain ⟨q, hq, hfalse⟩ := List.mem_map.mp (hlist ▸ List.mem_cons_self)
    obtain ⟨word, -, code, text, hcode, -⟩ := h _ ty hbuild q hq
    rw [hcode] at hfalse
    cases hfalse

end Companion
end Theming
