/-
# Companions cover their fields

The code of a companion does the same to each of its fields, once and in the order of declaration.

| function | what it does |
| --- | --- |
| `new` | allocates if a field is reactive, updates, and only then adds the listener |
| `init_variables` | allocates the reactive fields; there only if a field is reactive |
| `update_theme` | updates all fields under the lock, each in the form of its shape and with its own kind and key; publishes the reactive ones after it |
| `unbind` | removes the listener, fails if the target is gone, resets all but the reactive fields |

The text of a companion can be read back, so it determines the name of the type and the names,
shapes, kinds and keys of its fields (`synthesis_covers`).
-/

import Theming.Proofs.Agreement
import Theming.Proofs.Checks
import Theming.Proofs.Composing
import Theming.Proofs.Modifiers
import Theming.Proofs.Spelling
import Theming.Proofs.Typesetting

namespace Theming
namespace Companion

open Binding (slots resets)
open Syntax (Code)
open Syntax.Code

/-- What the function of a name does, in some code. -/
def said (name : String) (code : List Code) : Option (List Statement) :=
  ((functions code).lookup name).map fun body => (statements body).map Statement.read

open Fixed in
/-- The code of a companion deals with the bound fields of a type in turn. -/
structure Covers (companionName : String) (bindings : List Binding) (code : List Code) : Prop where
  names : (functions code).map Prod.fst =
    ["new", "entry", "register", "construct"] ++
      (if (slots bindings).isEmpty then [] else ["init_variables"]) ++
      ["update_theme", "apply_theme", "unbind", "clear", "companion_name"]
  /-- The reactive fields are allocated first, and the listener is added after the update. -/
  constructs : said "new" code = some (.other create ::
    ((if (slots bindings).isEmpty then [] else [.other allocate]) ++
      [.other refresh, .other share, .other addListener, .other (words "binding")]))
  allocates : said "init_variables" code =
    if (slots bindings).isEmpty then none
    else some [.other findOnce, .update ((slots bindings).map fun b => .set b.name .default)]
  /-- The values of reactive fields are published once the lock is dropped. -/
  updates : said "update_theme" code = some (
    [.other lock, .other find, .other fetch] ++ (slots bindings).map (.declare ·.pending) ++
      [.update (bindings.map Binding.write), .other unlock] ++
      (slots bindings).map (.publish ·.pending))
  releases : said "unbind" code = some
    [.other removeListener, .other lock, .other (findOrFail companionName),
      if (resets bindings).isEmpty then .other ignore else .update (resets bindings),
      .other succeed]
  called : (functions code).lookup "companion_name" = some (string companionName)
  /-- Fields with distinct names wait in variables of their own. -/
  apart : (bindings.map fun b => Syntax.withoutRaw b.name).Nodup →
    ((slots bindings).map Binding.pending).Nodup

theorem nodup_pending {bindings : List Binding}
    (h : (bindings.map fun b => Syntax.withoutRaw b.name).Nodup) :
    ((slots bindings).map Binding.pending).Nodup := by
  have hslots : ((slots bindings).map fun b => Syntax.withoutRaw b.name).Nodup :=
    h.sublist (List.filter_sublist.map _)
  have hpending : (slots bindings).map Binding.pending =
      ((slots bindings).map fun b => Syntax.withoutRaw b.name).map ("pending_" ++ ·) := by
    rw [List.map_map]
    rfl
  rw [hpending]
  exact hslots.map fun _ _ heq => by simpa using heq

theorem covers_code {s : Source} (hvisibility : s.visibility.all (avoids "fn") = true)
    (htarget : s.target ≠ "fn") (h : ∀ m ∈ s.members, m.IsPlain) :
    Covers s.companionName s.bindings s.code := by
  obtain ⟨entry, register, construct, clear, hfunctions⟩ := s.functions_code hvisibility htarget
  have hsaid : ∀ {name body}, (functions s.code).lookup name = some body →
      said name s.code = some ((statements body).map Statement.read) :=
    fun hbody => congrArg (Option.map _) hbody
  constructor
  · rw [hfunctions]
    cases (slots s.bindings).isEmpty <;> rfl
  · rw [← Source.reads_constructorBody]
    exact hsaid (by rw [hfunctions]; rfl)
  · cases hslots : (slots s.bindings).isEmpty with
    | true =>
      rw [said, hfunctions, hslots]
      rfl
    | false =>
      rw [if_neg Bool.false_ne_true, ← Source.reads_initBody h]
      exact hsaid (by rw [hfunctions, hslots]; rfl)
  · rw [← Source.reads_updateBody h]
    refine hsaid ?_
    rw [hfunctions]
    cases (slots s.bindings).isEmpty <;> rfl
  · rw [← Source.reads_unbindBody h]
    refine hsaid ?_
    rw [hfunctions]
    cases (slots s.bindings).isEmpty <;> rfl
  · rw [hfunctions]
    cases (slots s.bindings).isEmpty <;> rfl
  · exact nodup_pending

/-! ## Types that are covered -/

/-- A type that gets a companion, with field names that are identifiers as they are spelled. -/
structure Ready (ty : DeclaringType) : Prop where
  qualifies : ty.qualifies = true
  target : ∃ word, checkIdentifier ty.name = .ok word
  companion : ∃ word, checkIdentifier ty.companionName = .ok word
  fields : ∀ field ∈ ty.fields, Syntax.IsPlain field.name

theorem membersOf_plain {fields : List FieldBinding}
    (h : ∀ field ∈ fields, Syntax.IsPlain field.name) :
    membersOf fields = .ok (fields.map fun field => ⟨field.name, field.toBinding⟩) := by
  induction fields with
  | nil => rfl
  | cons field rest ih =>
    obtain ⟨hfield, hrest⟩ := List.forall_mem_cons.mp h
    rw [membersOf, checkIdentifier_eq_ok.mpr hfield, ih hrest]
    rfl

theorem isSolidWord_of_checkIdentifier {name word : String} (h : checkIdentifier name = .ok word) :
    isSolidWord word = true := by
  obtain ⟨hne, hchars⟩ := Syntax.chars_of_identifier? (checkIdentifier_eq_ok.mp h)
  exact Syntax.isSolidWord_of_identifier hne hchars

theorem mem_of_mem_withoutRaw {w : String} {c : Char}
    (h : c ∈ (Syntax.withoutRaw w).toList) : c ∈ w.toList := by
  rw [Syntax.withoutRaw] at h
  split at h
  · rename_i hraw
    rw [String.toList_ofList] at h
    rw [hraw]
    exact List.mem_cons_of_mem _ (List.mem_cons_of_mem _ h)
  · exact h

theorem isSolid_plain {b : Binding} (h : Syntax.IsPlain b.name) : Member.IsSolid ⟨b.name, b⟩ := by
  obtain ⟨hne, hchars⟩ := h.chars
  have hpending : ∀ c ∈ "pending_".toList, Text.isWordPart c = true :=
    List.all_eq_true.mp (by decide +kernel)
  refine ⟨Syntax.isSolidWord_of_identifier hne hchars, ?_⟩
  rw [Member.pending]
  refine Syntax.isSolidWord_of_identifier (by simp) fun c hc => ?_
  rw [String.toList_append] at hc
  rcases List.mem_append.mp hc with hc | hc
  · exact .inr (.inr (hpending c hc))
  · exact hchars c (mem_of_mem_withoutRaw hc)

/-- What the companion of a type in order is made from. -/
theorem Ready.exists_source {ty : DeclaringType} (h : Ready ty) (visibility : List Code) :
    ∃ s : Source, Source.ofType visibility ty = .ok (some s) ∧ s.visibility = visibility ∧
      checkIdentifier ty.name = .ok s.target ∧ checkIdentifier ty.companionName = .ok s.companion ∧
      s.companionName = ty.companionName ∧
      s.members = ty.fields.map fun field => ⟨field.name, field.toBinding⟩ := by
  obtain ⟨target, htarget⟩ := h.target
  obtain ⟨companion, hcompanion⟩ := h.companion
  rw [Source.ofType, if_pos h.qualifies, htarget, hcompanion, membersOf_plain h.fields]
  exact ⟨_, rfl, rfl, rfl, rfl, rfl, rfl⟩

/-- **A type in order has a companion.** Its code covers the fields and can be read back. -/
theorem Ready.exists_code {ty : DeclaringType} (h : Ready ty) {visibility : List Code}
    (hvisibility : IsModifier visibility) : ∃ code, synthesize visibility ty = .ok (some code) ∧
      Covers ty.companionName (ty.fields.map FieldBinding.toBinding) code ∧
      isSolid code = true := by
  obtain ⟨s, hsource, rfl, htarget, hcompanion, hname, hmembers⟩ := h.exists_source visibility
  have hbindings : s.bindings = ty.fields.map FieldBinding.toBinding := by
    rw [Source.bindings, hmembers, List.map_map]
    rfl
  -- A type cannot be called by the keyword that the functions are found by.
  have hfn : s.target ≠ "fn" := by
    intro heq
    have hidentifier := (Syntax.identifier?_eq_some.mp (checkIdentifier_eq_ok.mp htarget)).1
    rw [heq] at hidentifier
    exact absurd hidentifier (by decide)
  refine ⟨s.code, congrArg (Except.map (Option.map Source.code)) hsource, ?_, Source.IsSolid.code ?_⟩
  · rw [← hname, ← hbindings]
    refine covers_code hvisibility.avoids hfn fun m hm => ?_
    rw [hmembers] at hm
    obtain ⟨field, hfield, rfl⟩ := List.mem_map.mp hm
    exact ⟨rfl, h.fields field hfield⟩
  · refine ⟨hvisibility.solid, isSolidWord_of_checkIdentifier htarget,
      isSolidWord_of_checkIdentifier hcompanion, fun m hm => ?_⟩
    rw [hmembers] at hm
    obtain ⟨field, hfield, rfl⟩ := List.mem_map.mp hm
    exact isSolid_plain (h.fields field hfield)

/-! ## What the text determines -/

/-- The code of a companion is read back from the text of its file. -/
theorem read_lastLine {visibility : List Code} {ty : DeclaringType} {code : List Code}
    {text : String} (hcode : synthesize visibility ty = .ok (some code)) (h : isSolid code = true)
    (htext : render visibility ty = .ok (some text)) : read (lastLine text) = code := by
  rw [render, hcode] at htext
  cases htext
  have hlines : header ty ++ "\n\n" = header ty ++ "\n" ++ "\n" := by
    rw [String.append_assoc]
    rfl
  rw [hlines, lastLine_append (newline_notMem_render code h), read_render h]

/-- The writes among what a function does. -/
def writesOf (statements : List Statement) : List Write :=
  statements.flatMap fun statement =>
    match statement with
    | .update writes => writes
    | _ => []

theorem Covers.writes {companionName : String} {bindings : List Binding} {code : List Code}
    (h : Covers companionName bindings code) :
    (said "update_theme" code).map writesOf = some (bindings.map Binding.write) := by
  have hnone : (slots bindings).flatMap (fun _ => ([] : List Write)) = [] :=
    List.flatMap_eq_nil_iff.mpr fun _ _ => rfl
  -- Of what is said, only the update writes.
  rw [h.updates]
  simp [writesOf, List.flatMap_map, hnone]

theorem write_inj {b b' : Binding} (h : b.write = b'.write) : b = b' := by
  obtain ⟨name, shape, kind, key⟩ := b
  obtain ⟨name', shape', kind', key'⟩ := b'
  cases shape <;> cases shape' <;> simp_all [Binding.write, UInt32.toNat_inj]

/-- Two types with one code have one name and the same bindings. -/
theorem Covers.unique {name name' : String} {bindings bindings' : List Binding} {code : List Code}
    (h : Covers (Naming.companionName name) bindings code)
    (h' : Covers (Naming.companionName name') bindings' code) :
    name = name' ∧ bindings = bindings' := by
  constructor
  · have hcalled : string (Naming.companionName name) = string (Naming.companionName name') :=
      Option.some.inj (h.called.symm.trans h'.called)
    have hname := Text.literal_inj.mp (Code.word.inj (List.cons.inj hcalled).1)
    rw [Naming.companionName, Naming.companionName] at hname
    simpa using hname
  · have hwrites : bindings.map Binding.write = bindings'.map Binding.write :=
      Option.some.inj (h.writes.symm.trans h'.writes)
    exact List.map_injective_iff.mpr (fun _ _ => write_inj) hwrites

/-- **Companions cover their fields, and their text tells which.** -/
theorem synthesis_covers {ty : DeclaringType} (h : Ready ty) {visibility : List Code}
    (hvisibility : IsModifier visibility) :
    ∃ code, synthesize visibility ty = .ok (some code) ∧
      Covers ty.companionName (ty.fields.map FieldBinding.toBinding) code ∧
      ∀ {ty' : DeclaringType} {visibility' : List Code}, Ready ty' → IsModifier visibility' →
        render visibility' ty' = render visibility ty → ty'.name = ty.name ∧
          ty'.fields.map FieldBinding.toBinding = ty.fields.map FieldBinding.toBinding := by
  obtain ⟨code, hcode, hcovers, hsolid⟩ := h.exists_code hvisibility
  refine ⟨code, hcode, hcovers, fun h' hvisibility' htext => ?_⟩
  obtain ⟨code', hcode', hcovers', hsolid'⟩ := h'.exists_code hvisibility'
  have hrendered : ∃ text, render visibility ty = .ok (some text) :=
    ⟨_, congrArg (Except.map (Option.map _)) hcode⟩
  obtain ⟨text, hrendered⟩ := hrendered
  -- Both codes are read from the one text, and a code covers one list of bindings only.
  obtain rfl : code' = code := by
    rw [← read_lastLine hcode' hsolid' (htext.trans hrendered), read_lastLine hcode hsolid hrendered]
  exact hcovers'.unique hcovers

/-- What a model has accepted is in order, if nothing stands behind the name of the type. -/
theorem Ready.of_build {desc : TypeDescription} {ty : DeclaringType}
    (h : DeclaringType.build desc = .ok ty) {q : DeclaringType} (hq : q ∈ ty.qualifying)
    (hname : textBehind q.name = []) (hfields : ∀ field ∈ q.fields, Syntax.IsPlain field.name) :
    Ready q := by
  obtain ⟨⟨⟨word, hword⟩, -⟩, hqualifies⟩ := accepted_of_buildIn _ _ desc h q hq
  have hcompanion := checkIdentifier_companionName hword
  rw [if_pos hname] at hcompanion
  exact ⟨hqualifies, ⟨word, hword⟩, ⟨_, hcompanion⟩, hfields⟩

theorem isModifier_default : IsModifier defaultVisibility := by
  constructor <;> rw [defaultVisibility, words_ofList] <;> rfl

/-- A gauge with a field of each shape, and the key of the last. -/
def gauge (key : ResourceId) : TypeDescription where
  package := "app"
  name := "Gauge"
  fields := [
    { name := "level", type := "Reactive<Color>", annotations := [.bindColor 1] },
    { name := "label", type := "String" },
    { name := "r#type", type := "Option<Drawable>", annotations := [.bindDrawable 1] },
    { name := "scale", type := "u32", annotations := [.bindColor key] }]

/-- The bindings of the gauge. -/
def gaugeBindings (key : ResourceId) : List Binding :=
  [⟨"level", .reactive, .color, 1⟩, ⟨"r#type", .reference, .drawable, 1⟩,
    ⟨"scale", .value, .color, key⟩]

theorem gauge_ready (key : ResourceId)
    (h : (DeclaringType.build (gauge key)).toOption.map (fun ty =>
      (ty.name, ty.fields.map FieldBinding.toBinding)) = some ("Gauge", gaugeBindings key)) :
    ∃ ty, DeclaringType.build (gauge key) = .ok ty ∧ Ready ty ∧
      ty.fields.map FieldBinding.toBinding = gaugeBindings key := by
  obtain ⟨ty, hty, hsame⟩ := Option.map_eq_some_iff.mp h
  obtain ⟨hname, hfields⟩ := Prod.mk.inj hsame
  have hbuild := Except.toOption_eq_some.mp hty
  have hqualifies : ty.qualifies = true := by
    rw [DeclaringType.qualifies, ← List.isEmpty_map (f := FieldBinding.toBinding), hfields]
    rfl
  have hplain : ∀ b ∈ ty.fields.map FieldBinding.toBinding, Syntax.IsPlain b.name := by
    rw [hfields, gaugeBindings]
    simp only [List.forall_mem_cons]
    exact ⟨by decide +kernel, by decide +kernel, by decide +kernel, List.forall_mem_nil _⟩
  have hbehind : textBehind ty.name = [] := by
    rw [hname]
    decide +kernel
  exact ⟨ty, hbuild, Ready.of_build hbuild (ty.mem_qualifying hqualifies) hbehind fun field hfield =>
    hplain _ (List.mem_map_of_mem hfield), hfields⟩

/-- The gauge is covered, and with another key it has another text. -/
theorem gauge_covered : ∃ ty other code, DeclaringType.build (gauge 7) = .ok ty ∧
    DeclaringType.build (gauge 8) = .ok other ∧
    synthesize defaultVisibility ty = .ok (some code) ∧
    Covers ty.companionName (ty.fields.map FieldBinding.toBinding) code ∧
    render defaultVisibility other ≠ render defaultVisibility ty := by
  obtain ⟨ty, hty, hready, hfields⟩ := gauge_ready 7 (by decide +kernel)
  obtain ⟨other, hother, hready', hfields'⟩ := gauge_ready 8 (by decide +kernel)
  obtain ⟨code, hcode, hcovers, hunique⟩ := synthesis_covers hready isModifier_default
  refine ⟨ty, other, code, hty, hother, hcode, hcovers, fun heq => ?_⟩
  have hsame := (hunique hready' isModifier_default heq).2
  rw [hfields, hfields'] at hsame
  exact absurd hsame (by decide)

end Companion
end Theming
