/-
# What can be derived

An item is refused at the first stage that does not accept it.

| stage | accepts |
| --- | --- |
| generics | an item without generic parameters |
| theme attributes | attributes that can be read and say both where the parent is and which field holds it, or neither (`themeAttributes_isOk`) |
| description | a struct with named fields or none at all, at most one resource for each, by an integer of 32 bits (`describe_isOk`) |
| model | an item without a bound field that has no name (`build_of_describe`) |
| code | everything that comes so far (`exists_synthesize`) |

The last two read the names and the types of the item again, as texts. Names are bare, so they are
read as they are, with and without the suffix of companions. That types can be read again is assumed
(`Reprints`).
-/

import Theming.Proofs.Agreement
import Theming.Proofs.Declared

namespace Theming

open Syntax (Attribute NamedField Body Item Code)

namespace Derive

/-! ## Theme attributes -/

/-- One of the theme attributes says something. -/
def Says (attributes : List Attribute) (what : ThemeAttributes → Bool) : Prop :=
  ∃ attr ∈ attributes, attr.isNamed "theme" = true ∧
    ∃ part, ofAttribute attr = .ok part ∧ what part = true

/-- The attributes read together say what the ones before or one of them says. -/
theorem foldl_merge (what : ThemeAttributes → Bool)
    (hmerge : ∀ sofar later, what (sofar.merge later) = (what sofar || what later))
    (parts : List ThemeAttributes) (sofar : ThemeAttributes) :
    what (parts.foldl ThemeAttributes.merge sofar) = (what sofar || parts.any what) := by
  induction parts generalizing sofar with
  | nil => rw [List.foldl_nil, List.any_nil, Bool.or_false]
  | cons part rest ih => rw [List.foldl_cons, ih, hmerge, List.any_cons, Bool.or_assoc]

/-- What the attributes say together, one of them says. -/
theorem any_iff_says {attributes : List Attribute} {parts : List ThemeAttributes}
    (h : List.Forall₂ (fun attr part => ofAttribute attr = .ok part)
      (attributes.filter fun attr => attr.isNamed "theme") parts)
    (what : ThemeAttributes → Bool) : parts.any what = true ↔ Says attributes what := by
  rw [List.any_eq_true]
  constructor
  · rintro ⟨part, hpart, hwhat⟩
    obtain ⟨attr, hattr, hof⟩ := exists_of_forall₂ h.flip hpart
    obtain ⟨hmem, htheme⟩ := List.mem_filter.mp hattr
    exact ⟨attr, hmem, htheme, part, hof, hwhat⟩
  · rintro ⟨attr, hmem, htheme, part, hof, hwhat⟩
    obtain ⟨part', hpart', hof'⟩ := exists_of_forall₂ h (List.mem_filter.mpr ⟨hmem, htheme⟩)
    obtain rfl : part = part' := Except.ok.inj (hof.symm.trans hof')
    exact ⟨part, hpart', hwhat⟩

theorem ThemeAttributes.check_isOk {attrs : ThemeAttributes} :
    (∃ checked, attrs.check = .ok checked) ↔
      (attrs.extends'.isSome = true ↔ attrs.via.isSome = true) := by
  rw [check]
  cases attrs.extends' <;> cases attrs.via <;> simp

/-- **Theme attributes are accepted iff each can be read and they say together where the parent is
and which field holds it, or neither.** -/
theorem themeAttributes_isOk {attributes : List Attribute} :
    (∃ attrs, themeAttributes attributes = .ok attrs) ↔
      (∀ attr ∈ attributes, attr.isNamed "theme" = true → ∃ part, ofAttribute attr = .ok part) ∧
        (Says attributes (fun part => part.extends'.isSome) ↔
          Says attributes fun part => part.via.isSome) := by
  have hparent {parts} (h : List.Forall₂ (fun attr part => ofAttribute attr = .ok part)
      (attributes.filter fun attr => attr.isNamed "theme") parts) :
      (∃ checked, (parts.foldl ThemeAttributes.merge {}).check = .ok checked) ↔
        (Says attributes (fun part => part.extends'.isSome) ↔
          Says attributes fun part => part.via.isSome) := by
    rw [ThemeAttributes.check_isOk, ← any_iff_says h, ← any_iff_says h,
      foldl_merge fun part => part.extends'.isSome, foldl_merge fun part => part.via.isSome]
    · rfl
    · intro sofar later
      cases hlater : later.via <;> simp [ThemeAttributes.merge, hlater]
    · intro sofar later
      cases hlater : later.extends' <;> simp [ThemeAttributes.merge, hlater]
  rw [themeAttributes]
  constructor
  · rintro ⟨attrs, h⟩
    obtain ⟨parts, hparts, h⟩ := Except.bind_eq_ok h
    rw [Except.mapM_eq_ok] at hparts
    refine ⟨fun attr hattr htheme => ?_, (hparent hparts).mp ⟨attrs, h⟩⟩
    obtain ⟨part, -, hpart⟩ := exists_of_forall₂ hparts (List.mem_filter.mpr ⟨hattr, htheme⟩)
    exact ⟨part, hpart⟩
  · rintro ⟨hread, hsays⟩
    obtain ⟨parts, hparts⟩ := Except.exists_mapM_eq_ok fun attr hattr =>
      hread attr (List.mem_filter.mp hattr).1 (List.mem_filter.mp hattr).2
    obtain ⟨checked, hchecked⟩ := (hparent (Except.mapM_eq_ok.mp hparts)).mpr hsays
    exact ⟨checked, by rw [hparts]; exact hchecked⟩

end Derive

/-! ## Fields -/

/-- Whether an attribute asks for a resource. -/
def Syntax.Attribute.isResource (attr : Attribute) : Bool :=
  attr.isNamed "bind_color" || attr.isNamed "bind_drawable"

/-- Whether a resource is asked for a field. -/
def Syntax.NamedField.isBound (field : NamedField) : Bool :=
  field.attributes.any Attribute.isResource

namespace Derive

/-- An attribute holds one integer literal of 32 bits, and nothing else. -/
def HoldsKey (attr : Attribute) : Prop :=
  ∃ literal n, attr.arguments = .list [.literal literal] ∧
    Syntax.integerValue? literal = some n ∧ n < UInt32.size

theorem annotationKey_isOk {attr : Attribute} :
    (∃ key, annotationKey attr = .ok key) ↔ HoldsKey attr := by
  rw [annotationKey]
  constructor
  · rintro ⟨key, h⟩
    split at h
    · rename_i literal harguments
      split at h
      · rename_i n hn
        obtain ⟨hvalue, hfits⟩ := Option.filter_eq_some_iff.mp hn
        exact ⟨literal, n, harguments, hvalue, by simpa using hfits⟩
      · cases h
    · cases h
  · rintro ⟨literal, n, harguments, hvalue, hfits⟩
    rw [harguments]
    dsimp only
    rw [hvalue, Option.filter_some, if_pos (by simpa using hfits)]
    exact ⟨_, rfl⟩

/-- The mark of a resource annotation. -/
def mark (attr : Attribute) (key : UInt32) : Annotation :=
  if attr.isNamed "bind_color" then .bindColor key else .bindDrawable key

/-- The two resource annotations are read alike, and no other attribute is. -/
theorem resourceAnnotations_cons (attr : Attribute) (rest : List Attribute) :
    resourceAnnotations (attr :: rest) =
      if attr.isResource then do
        let key ← annotationKey attr
        return mark attr key :: (← resourceAnnotations rest)
      else resourceAnnotations rest := by
  rw [resourceAnnotations, Attribute.isResource]
  cases hcolor : attr.isNamed "bind_color" <;> cases attr.isNamed "bind_drawable" <;>
    simp [mark, hcolor]

/-- Resource annotations are accepted iff each holds its key. -/
theorem resourceAnnotations_isOk {attributes : List Attribute} :
    (∃ marks, resourceAnnotations attributes = .ok marks) ↔
      ∀ attr ∈ attributes, attr.isResource = true → HoldsKey attr := by
  induction attributes with
  | nil => exact ⟨fun _ => List.forall_mem_nil _, fun _ => ⟨[], rfl⟩⟩
  | cons attr rest ih =>
    rw [resourceAnnotations_cons, List.forall_mem_cons, ← ih]
    split_ifs with hresource
    · rw [← annotationKey_isOk]
      constructor
      · rintro ⟨marks, h⟩
        obtain ⟨key, hkey, h⟩ := Except.bind_eq_ok h
        obtain ⟨others, hothers, -⟩ := Except.bind_eq_ok h
        exact ⟨fun _ => ⟨key, hkey⟩, others, hothers⟩
      · rintro ⟨hkey, others, hothers⟩
        obtain ⟨key, hkey⟩ := hkey hresource
        exact ⟨_, by rw [hkey, hothers]; rfl⟩
    · exact ⟨fun h => ⟨fun hfalse => absurd hfalse hresource, h⟩, fun h => h.2⟩

/-- The description has one mark for each resource annotation. -/
theorem length_resources {attributes : List Attribute} {marks : List Annotation}
    (h : resourceAnnotations attributes = .ok marks) :
    (marks.filterMap Annotation.resource?).length = marks.length ∧
      marks.length = (attributes.filter Attribute.isResource).length := by
  induction attributes generalizing marks with
  | nil =>
    cases h
    exact ⟨rfl, rfl⟩
  | cons attr rest ih =>
    rw [resourceAnnotations_cons] at h
    split_ifs at h with hresource
    · obtain ⟨key, -, h⟩ := Except.bind_eq_ok h
      obtain ⟨others, hothers, h⟩ := Except.bind_eq_ok h
      cases h
      obtain ⟨hall, hlength⟩ := ih hothers
      obtain ⟨resource, hmark⟩ : ∃ resource, (mark attr key).resource? = some resource := by
        rw [mark]
        split_ifs <;> exact ⟨_, rfl⟩
      rw [List.filterMap_cons_some hmark, List.filter_cons_of_pos hresource, List.length_cons,
        List.length_cons, List.length_cons, hall, hlength]
      exact ⟨rfl, rfl⟩
    · rw [List.filter_cons_of_neg hresource]
      exact ih h

end Derive

/-- A field that can be described: at most one resource is asked for it, by its key. -/
structure Syntax.NamedField.Describable (field : NamedField) : Prop where
  keys : ∀ attr ∈ field.attributes, attr.isResource = true → Derive.HoldsKey attr
  single : (field.attributes.filter Attribute.isResource).length ≤ 1

/-- The fields of a struct with named fields, or with none at all. -/
def Syntax.Body.fields? : Body → Option (List NamedField)
  | .named fields => some fields
  | .unit => some []
  | .tuple => none
  | .enumeration => none
  | .union => none

/-- The fields that a resource is asked for. -/
def Syntax.Item.boundFields (item : Item) : List NamedField :=
  (item.body.fields?.getD []).filter NamedField.isBound

namespace Derive

theorem describeField_isOk {field : NamedField} :
    (∃ desc, describeField field = .ok desc) ↔ field.Describable := by
  rw [describeField]
  constructor
  · rintro ⟨desc, h⟩
    obtain ⟨marks, hmarks, h⟩ := Except.bind_eq_ok h
    refine ⟨resourceAnnotations_isOk.mp ⟨marks, hmarks⟩, ?_⟩
    rw [← (length_resources hmarks).2]
    by_contra hseveral
    rw [if_pos (Nat.lt_of_not_le hseveral)] at h
    cases h
  · rintro ⟨hkeys, hsingle⟩
    obtain ⟨marks, hmarks⟩ := resourceAnnotations_isOk.mpr hkeys
    rw [← (length_resources hmarks).2] at hsingle
    refine ⟨{ name := field.name, type := field.type.render, annotations := marks }, ?_⟩
    rw [hmarks]
    change (if marks.length > 1 then _ else _) = _
    rw [if_neg (Nat.not_lt_of_le hsingle)]
    rfl

/-- The description of a field has its name and the text of its type, and asks for what the field
asks for. -/
theorem describeField_inv {field : NamedField} {desc : FieldDescription}
    (h : describeField field = .ok desc) :
    desc.name = field.name ∧ desc.type = field.type.render ∧
      desc.resources.length = (field.attributes.filter Attribute.isResource).length := by
  rw [describeField] at h
  obtain ⟨marks, hmarks, h⟩ := Except.bind_eq_ok h
  obtain ⟨hall, hlength⟩ := length_resources hmarks
  split_ifs at h
  · cases h
  · cases h
    exact ⟨rfl, rfl, hall.trans hlength⟩

/-- An item that can be described: a struct with named fields, or with none at all, each of which
can be described. -/
def Describable (item : Item) : Prop :=
  ∃ fields, item.body.fields? = some fields ∧ ∀ field ∈ fields, field.Describable

theorem describe_eq_ok {item : Item} {desc : TypeDescription} : describe item = .ok desc ↔
    ∃ fields descs, item.body.fields? = some fields ∧
      List.Forall₂ (fun field desc => describeField field = .ok desc) fields descs ∧
      desc = { name := item.name, fields := descs } := by
  rw [describe.eq_def]
  cases item.body with
  | named fields =>
    constructor
    · intro h
      obtain ⟨descs, hdescs, h⟩ := Except.bind_eq_ok h
      exact ⟨fields, descs, rfl, Except.mapM_eq_ok.mp hdescs, (Except.ok.inj h).symm⟩
    · rintro ⟨_, descs, heq, hdescs, rfl⟩
      cases heq
      dsimp only
      rw [Except.mapM_eq_ok.mpr hdescs]
      rfl
  | unit =>
    constructor
    · intro h
      cases h
      exact ⟨[], [], rfl, .nil, rfl⟩
    · rintro ⟨_, descs, heq, hdescs, rfl⟩
      cases heq
      cases hdescs
      rfl
  | _ =>
    constructor
    · intro h
      cases h
    · rintro ⟨_, _, hnone, -⟩
      cases hnone

theorem describe_isOk {item : Item} : (∃ desc, describe item = .ok desc) ↔ Describable item := by
  constructor
  · rintro ⟨desc, h⟩
    obtain ⟨fields, descs, hfields, hdescs, -⟩ := describe_eq_ok.mp h
    refine ⟨fields, hfields, fun field hfield => describeField_isOk.mp ?_⟩
    obtain ⟨desc, -, hdesc⟩ := exists_of_forall₂ hdescs hfield
    exact ⟨desc, hdesc⟩
  · rintro ⟨fields, hfields, hdescribable⟩
    obtain ⟨descs, hdescs⟩ := Except.exists_mapM_eq_ok fun field hfield =>
      describeField_isOk.mpr (hdescribable field hfield)
    exact ⟨_, describe_eq_ok.mpr ⟨fields, descs, hfields, Except.mapM_eq_ok.mp hdescs, rfl⟩⟩

/-! ## Models of described items -/

/-- A resource is asked for a field without a name. -/
def IsNameless (field : NamedField) : Prop := field.isBound = true ∧ field.name = "_"

section Faults

variable {typeName : String} {field : NamedField} {desc : FieldDescription}

theorem resources_eq_nil (h : describeField field = .ok desc) :
    desc.resources = [] ↔ field.isBound = false := by
  rw [← List.length_eq_zero_iff, (describeField_inv h).2.2, List.length_eq_zero_iff,
    List.filter_eq_nil_iff, NamedField.isBound, List.any_eq_false]

theorem faults_of_isNameless (h : describeField field = .ok desc) (hnameless : IsNameless field) :
    (desc.faults typeName).head? = some (.invalidIdentifier "_") := by
  obtain ⟨hbound, hname⟩ := hnameless
  have hsingle : desc.resources.length ≤ 1 := by
    rw [(describeField_inv h).2.2]
    exact (describeField_isOk.mp ⟨desc, h⟩).single
  -- With one resource at most, the name is the first thing at fault.
  rw [FieldDescription.faults, (describeField_inv h).1, hname]
  cases hresources : desc.resources with
  | nil =>
    rw [(resources_eq_nil h).mp hresources] at hbound
    cases hbound
  | cons first others =>
    rw [hresources, List.length_cons] at hsingle
    obtain rfl : others = [] := List.length_eq_zero_iff.mp (by omega)
    rfl

theorem faults_of_not_isNameless (h : describeField field = .ok desc)
    (hnameless : ¬ IsNameless field) (hnamed : field.Named)
    (htype : field.isBound = true → field.name ≠ "_" →
      (Syntax.TypeExpr.parse? field.type.render).isSome) : desc.faults typeName = [] := by
  obtain ⟨hname, htext, hlength⟩ := describeField_inv h
  refine FieldDescription.faults_eq_nil.mpr fun hannotated => ?_
  have hne : desc.resources ≠ [] := by
    intro hnil
    rw [(FieldBinding.not_isAnnotated_iff desc).mpr hnil] at hannotated
    cases hannotated
  have hbound : field.isBound = true := by
    rw [← Bool.not_eq_false]
    exact mt (resources_eq_nil h).mpr hne
  have hsome : field.name ≠ "_" := fun heq => hnameless ⟨hbound, heq⟩
  refine ⟨?_, ?_, ?_⟩
  · refine List.length_eq_one_iff.mp (Nat.le_antisymm ?_ (List.length_pos_of_ne_nil hne))
    rw [hlength]
    exact (describeField_isOk.mp ⟨desc, h⟩).single
  · rw [hname, (hnamed.resolve_left hsome).isPlain]
    rfl
  · rw [htext]
    exact htype hbound hsome

end Faults

/-- The first bound field without a name is at fault; before it and without it there is no fault. -/
theorem faults_of_fields (typeName : String) {fields : List NamedField}
    {descs : List FieldDescription}
    (h : List.Forall₂ (fun field desc => describeField field = .ok desc) fields descs)
    (hnamed : ∀ field ∈ fields, field.Named)
    (htypes : ∀ field ∈ fields, field.isBound = true → field.name ≠ "_" →
      (Syntax.TypeExpr.parse? field.type.render).isSome) :
    ((∀ field ∈ fields, ¬ IsNameless field) →
        descs.flatMap (FieldDescription.faults typeName) = []) ∧
      ((∃ field ∈ fields, IsNameless field) →
        (descs.flatMap (FieldDescription.faults typeName)).head? =
          some (.invalidIdentifier "_")) := by
  induction h with
  | nil => exact ⟨fun _ => rfl, nofun⟩
  | @cons field desc rest others hfirst _ ih =>
    obtain ⟨hfirstNamed, hrestNamed⟩ := List.forall_mem_cons.mp hnamed
    obtain ⟨hfirstType, hrestTypes⟩ := List.forall_mem_cons.mp htypes
    obtain ⟨hnone, hsome⟩ := ih hrestNamed hrestTypes
    rw [List.flatMap_cons, List.forall_mem_cons, List.exists_mem_cons_iff]
    by_cases hnameless : IsNameless field
    · refine ⟨fun h => absurd hnameless h.1, fun _ => ?_⟩
      rw [List.head?_append, faults_of_isNameless hfirst hnameless]
      rfl
    · rw [faults_of_not_isNameless hfirst hnameless hfirstNamed hfirstType, List.nil_append]
      exact ⟨fun h => hnone h.2, fun h => hsome (h.resolve_left hnameless)⟩

end Derive

theorem Syntax.Item.Named.of_fields? {item : Item} (h : item.Named) {fields : List NamedField}
    (hfields : item.body.fields? = some fields) : ∀ field ∈ fields, field.Named := by
  cases hbody : item.body with
  | named fields' =>
    rw [hbody] at hfields
    cases hfields
    exact h.fields _ hbody
  | unit =>
    rw [hbody] at hfields
    cases hfields
    exact List.forall_mem_nil _
  | _ =>
    rw [hbody] at hfields
    cases hfields

namespace Derive

/-- The types of the bound fields print to text that can be read again. -/
def Reprints (item : Item) : Prop :=
  ∀ field ∈ item.boundFields, field.name ≠ "_" →
    (Syntax.TypeExpr.parse? field.type.render).isSome

/-- A resource is asked for a field without a name. -/
def HasNameless (item : Item) : Prop := ∃ field ∈ item.boundFields, field.name = "_"

/-- **A described item has a model, unless a bound field has no name.** -/
theorem build_of_describe {item : Item} {desc : TypeDescription} (h : describe item = .ok desc)
    (hnamed : item.Named) (htypes : Reprints item) :
    ((∃ ty, DeclaringType.build desc = .ok ty) ↔ ¬ HasNameless item) ∧
      ∀ e, DeclaringType.build desc = .error e ↔
        HasNameless item ∧ e = .invalidIdentifier "_" := by
  obtain ⟨fields, descs, hfields, hdescs, rfl⟩ := describe_eq_ok.mp h
  have hbound {field : NamedField} :
      field ∈ item.boundFields ↔ field ∈ fields ∧ field.isBound = true := by
    rw [Item.boundFields, hfields, Option.getD_some, List.mem_filter]
  have hnameless : HasNameless item ↔ ∃ field ∈ fields, IsNameless field := by
    rw [HasNameless]
    simp only [hbound, and_assoc, IsNameless]
  obtain ⟨hnone, hsome⟩ := faults_of_fields item.name hdescs
    (hnamed.of_fields? hfields) fun field hfield hisBound =>
      htypes field (hbound.mpr ⟨hfield, hisBound⟩)
  -- A described item has no nested types, so the faults of its fields are all there are.
  have hchecks := DeclaringType.buildIn_checks "" [] { name := item.name, fields := descs }
  have hfaults : (TypeDescription.census [] { name := item.name, fields := descs }).flatMap
      (fun described => described.2.ownFaults) =
        descs.flatMap (FieldDescription.faults item.name) := by
    rw [TypeDescription.census, TypeDescription.censusAll, List.flatMap_singleton,
      TypeDescription.ownFaults, nameFaults_eq_nil.mpr, List.nil_append]
    rw [hnamed.name.isPlain]
    rfl
  rw [hfaults] at hchecks
  rw [hnameless, DeclaringType.build, hchecks.ok_iff]
  by_cases hany : ∃ field ∈ fields, IsNameless field
  · have hhead := hsome hany
    refine ⟨⟨fun hnil => ?_, fun hnot => absurd hany hnot⟩, fun e => ?_⟩
    · rw [hnil] at hhead
      cases hhead
    · rw [hchecks.error_iff, hhead, Option.some.injEq]
      exact ⟨fun h => ⟨hany, h.symm⟩, fun h => h.2.symm⟩
  · have hnil := hnone fun field hfield hfalse => hany ⟨field, hfield, hfalse⟩
    refine ⟨⟨fun _ => hany, fun _ => hnil⟩, fun e => ?_⟩
    rw [hchecks.error_iff, hnil]
    refine iff_of_false (fun h => ?_) fun h => hany h.1
    cases h

/-- **Code is made from every model of a described item.** -/
theorem exists_synthesize {item : Item} {desc : TypeDescription} {ty : DeclaringType}
    (h : describe item = .ok desc) (hnamed : item.Named) (hty : DeclaringType.build desc = .ok ty)
    (visibility : List Code) (enclosing : List String) :
    ∃ companion, Companion.synthesize visibility { ty with enclosing } = .ok companion := by
  have hsame : Companion.synthesize visibility { ty with enclosing } =
      Companion.synthesize visibility ty := Companion.synthesize_eq rfl rfl visibility
  have hname : ty.name = item.name :=
    (DeclaringType.buildIn_bindings hty).1.trans (describe_name h)
  rw [hsame]
  cases hqualifies : ty.qualifies with
  | false =>
    refine ⟨none, ?_⟩
    rw [Companion.synthesize, Companion.Source.ofType, hqualifies]
    rfl
  | true =>
    obtain ⟨haccepted, -⟩ :=
      Companion.accepted_of_buildIn _ _ _ hty ty (ty.mem_qualifying hqualifies)
    have hcompanion : checkIdentifier ty.companionName = .ok ty.companionName := by
      rw [DeclaringType.companionName, hname]
      exact hnamed.name.checkIdentifier_companionName
    obtain ⟨code, _, hcode, -⟩ : Companion.Emits visibility ty ty.companionName :=
      Companion.emits_of_words haccepted hqualifies hcompanion
    exact ⟨some code, hcode⟩

/-! ## What is accepted -/

/-- An item that `Themed` can be derived for. -/
structure Themable (item : Item) : Prop where
  plain : item.isGeneric = false
  attributes : ∀ attr ∈ item.attributes, attr.isNamed "theme" = true →
    ∃ part, ofAttribute attr = .ok part
  parent : Says item.attributes (fun part => part.extends'.isSome) ↔
    Says item.attributes fun part => part.via.isSome

theorem rejectGenerics_eq_ok {item : Item} :
    rejectGenerics item = .ok () ↔ item.isGeneric = false := by
  rw [rejectGenerics]
  cases item.isGeneric <;> simp

theorem rejectGenerics_eq_error {item : Item} {e : DeriveError} :
    rejectGenerics item = .error e ↔ item.isGeneric = true ∧ e = .generic := by
  rw [rejectGenerics]
  cases item.isGeneric <;> simp [eq_comm]

theorem expandThemed_isOk {item : Item} :
    (∃ code, expandThemed item = .ok code) ↔ Themable item := by
  rw [expandThemed]
  constructor
  · rintro ⟨code, h⟩
    obtain ⟨_, hplain, h⟩ := Except.bind_eq_ok h
    obtain ⟨attrs, hattrs, -⟩ := Except.bind_eq_ok h
    obtain ⟨hread, hparent⟩ := themeAttributes_isOk.mp ⟨attrs, hattrs⟩
    exact ⟨rejectGenerics_eq_ok.mp hplain, hread, hparent⟩
  · rintro ⟨hplain, hread, hparent⟩
    obtain ⟨attrs, hattrs⟩ := themeAttributes_isOk.mpr ⟨hread, hparent⟩
    exact ⟨themedCode item.name attrs, by rw [rejectGenerics_eq_ok.mpr hplain, hattrs]; rfl⟩

theorem expandThemed_eq_error {item : Item} {e : DeriveError} : expandThemed item = .error e ↔
    item.isGeneric = true ∧ e = .generic ∨
      item.isGeneric = false ∧ themeAttributes item.attributes = .error e := by
  rw [expandThemed, Except.bind_eq_error, rejectGenerics_eq_error]
  refine or_congr_right ⟨?_, ?_⟩
  · rintro ⟨_, hplain, h⟩
    refine ⟨rejectGenerics_eq_ok.mp hplain, ?_⟩
    rcases Except.bind_eq_error.mp h with h | ⟨_, -, h⟩
    · exact h
    · cases h
  · rintro ⟨hplain, h⟩
    exact ⟨(), rejectGenerics_eq_ok.mpr hplain, Except.bind_eq_error.mpr (.inl h)⟩

/-- Generics and theme attributes are looked at first. -/
theorem expandBinding_of_error {item : Item} {e : DeriveError} (h : expandThemed item = .error e) :
    expandBinding item = .error e := by
  rw [expandBinding]
  rcases expandThemed_eq_error.mp h with hgeneric | ⟨hplain, hattrs⟩
  · rw [rejectGenerics_eq_error.mpr hgeneric]
    rfl
  · rw [rejectGenerics_eq_ok.mpr hplain, hattrs]
    rfl

/-- Behind them comes the model. -/
theorem expandBinding_of_ok {item : Item} {themed : List Code} (h : expandThemed item = .ok themed) :
    ∃ enclosing, expandBinding item = do
      let desc ← describe item
      let ty ← (DeclaringType.build desc).mapError .model
      let companion ← (Companion.synthesize item.visibility { ty with enclosing }).mapError .model
      return themed ++ companion.getD [] := by
  rw [expandThemed] at h
  obtain ⟨_, hplain, h⟩ := Except.bind_eq_ok h
  obtain ⟨attrs, hattrs, h⟩ := Except.bind_eq_ok h
  cases h
  refine ⟨attrs.enclosing, ?_⟩
  rw [expandBinding, hplain, hattrs]
  change (model item attrs >>= _) = _
  rw [model, bind_assoc]
  refine bind_congr fun desc => ?_
  rw [bind_assoc]
  rfl

/-- **How far an item comes.** -/
theorem expandBinding_cases {item : Item} (hnamed : item.Named) (htypes : Reprints item) :
    (∃ e, expandThemed item = .error e ∧ expandBinding item = .error e) ∨
      (∃ themed, expandThemed item = .ok themed) ∧
        ((∃ e, describe item = .error e ∧ expandBinding item = .error e) ∨
          (∃ desc, describe item = .ok desc) ∧
            (HasNameless item ∧ expandBinding item = .error (.model (.invalidIdentifier "_")) ∨
              ¬ HasNameless item ∧ ∃ code, expandBinding item = .ok code)) := by
  cases hthemed : expandThemed item with
  | error e => exact .inl ⟨e, rfl, expandBinding_of_error hthemed⟩
  | ok themed =>
    refine .inr ⟨⟨themed, rfl⟩, ?_⟩
    obtain ⟨enclosing, hbinding⟩ := expandBinding_of_ok hthemed
    rw [hbinding]
    cases hdesc : describe item with
    | error e => exact .inl ⟨e, rfl, rfl⟩
    | ok desc =>
      refine .inr ⟨⟨desc, rfl⟩, ?_⟩
      obtain ⟨hok, herror⟩ := build_of_describe hdesc hnamed htypes
      cases hty : DeclaringType.build desc with
      | error e =>
        obtain ⟨hnameless, rfl⟩ := (herror e).mp hty
        refine .inl ⟨hnameless, ?_⟩
        change ((DeclaringType.build desc).mapError DeriveError.model >>= _) = _
        rw [hty]
        rfl
      | ok ty =>
        obtain ⟨companion, hcompanion⟩ :=
          exists_synthesize hdesc hnamed hty item.visibility enclosing
        refine .inr ⟨hok.mp ⟨ty, hty⟩, themed ++ companion.getD [], ?_⟩
        change ((DeclaringType.build desc).mapError DeriveError.model >>= _) = _
        rw [hty]
        change ((Companion.synthesize item.visibility { ty with enclosing }).mapError
          DeriveError.model >>= _) = _
        rw [hcompanion]
        rfl

/-- **Derivation accepts exactly its inputs.** For an item that has been read from a text, `Themed`
can be derived iff it has no generic parameters, each theme attribute can be read, and the attributes
say together where the parent is and which field holds it, or neither. For `ThemeBinding` it must also
be a struct with named fields or with none at all, each with at most one resource annotation, which
holds one integer literal of 32 bits, and no bound field may be without a name. Errors are those of
the generics, of the theme attributes and of the description, in this order; none comes from the
model or its code but for a missing name. The types of the bound fields are taken to print to text
that can be read again. -/
theorem accepts {text : String} {item : Item} (h : Item.parse? text = some item) :
    ((∃ code, expandThemed item = .ok code) ↔ Themable item) ∧
      (∀ e, expandThemed item = .error e ↔ item.isGeneric = true ∧ e = .generic ∨
        item.isGeneric = false ∧ themeAttributes item.attributes = .error e) ∧
      (Reprints item →
        ((∃ code, expandBinding item = .ok code) ↔
          Themable item ∧ Describable item ∧ ¬ HasNameless item) ∧
        (∀ e, expandBinding item = .error e ↔ expandThemed item = .error e ∨
          Themable item ∧ (describe item = .error e ∨
            Describable item ∧ HasNameless item ∧ e = .model (.invalidIdentifier "_"))) ∧
        ∀ desc, describe item = .ok desc → ¬ HasNameless item →
          ∃ ty, DeclaringType.build desc = .ok ty ∧ ∀ visibility enclosing, ∃ companion,
            Companion.synthesize visibility { ty with enclosing } = .ok companion) := by
  have hnamed := Item.named_of_parse? h
  refine ⟨expandThemed_isOk, fun e => expandThemed_eq_error, fun htypes => ?_⟩
  rw [← and_assoc]
  constructor
  · rw [← expandThemed_isOk, ← describe_isOk]
    rcases expandBinding_cases hnamed htypes with
      ⟨e, hthemed, hbinding⟩ | ⟨⟨themed, hthemed⟩, ⟨e, hdesc, hbinding⟩ | ⟨⟨desc, hdesc⟩,
        ⟨hnameless, hbinding⟩ | ⟨hnames, code, hbinding⟩⟩⟩
    · simp [hbinding, hthemed]
    · simp [hbinding, hthemed, hdesc]
    · simp [hbinding, hthemed, hdesc, hnameless, eq_comm]
    · simp [hbinding, hthemed, hdesc, hnames]
  · intro desc hdesc hnames
    obtain ⟨ty, hty⟩ := (build_of_describe hdesc hnamed htypes).1.mpr hnames
    exact ⟨ty, hty, exists_synthesize hdesc hnamed hty⟩

/-- A ring that extends a base, in two attributes, with a field that is called by a keyword. -/
def ringText : String :=
  "#[theme(extends = kit::Base)] #[theme(via = base)] pub struct r#Ring \x7b" ++
    "#[bind_color(0xFFFF_FFFF)] r#type: Option<(Color, u8)>, base: Base," ++
    "#[bind_drawable(7u8)] art: Reactive<Drawable> \x7d"

/-- The ring is accepted, so its attributes and fields are as they must be. -/
theorem ring_accepted : ∃ item, Item.parse? ringText = some item ∧ Reprints item ∧
    Themable item ∧ Describable item ∧ ¬ HasNameless item := by
  have hread : ((Item.parse? ringText).bind fun item =>
      (expandBinding item).toOption.map fun _ =>
        item.boundFields.all fun field => (Syntax.TypeExpr.parse? field.type.render).isSome) =
          some true := by decide +kernel
  obtain ⟨item, hitem, hread⟩ := Option.bind_eq_some_iff.mp hread
  obtain ⟨code, hcode, htypes⟩ := Option.map_eq_some_iff.mp hread
  rw [Except.toOption_eq_some] at hcode
  have hreprints : Reprints item := fun field hfield _ => List.all_eq_true.mp htypes field hfield
  exact ⟨item, hitem, hreprints, ((accepts hitem).2.2 hreprints).1.mp ⟨code, hcode⟩⟩

end Derive
end Theming
