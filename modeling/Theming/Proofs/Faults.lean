/-
# A description is checked in the order in which it is written

All faults of a description can be listed, type by type in the order of its census and, for each type,
in this order:

| of | fault | what it names |
| --- | --- | --- |
| the type | its name is no identifier | the name |
| each annotated field | it asks for more than one resource | the type and the field |
| | its name is no identifier | the name |
| | its type cannot be read | the type, the field and what it has for a type |

A description has a model if it has no fault, and otherwise the first one is reported
(`DeclaringType.build_reports`). Types without bindings are left out of the model, but not of the
list; fields without a resource annotation are, and to take them out of a description changes nothing.
-/

import Theming.Proofs.Coverage

namespace Theming

/-! ## The faults of a description -/

/-- The resources that a field asks for. -/
def FieldDescription.resources (field : FieldDescription) : List (ResourceKind × ResourceId) :=
  field.annotations.filterMap Annotation.resource?

theorem FieldDescription.isAnnotated_of_resources {field : FieldDescription}
    (h : field.resources ≠ []) : field.isAnnotated = true := by
  rw [← Bool.not_eq_false, FieldBinding.not_isAnnotated_iff]
  exact h

/-- The fault of a name that is no identifier. -/
def nameFaults (name : String) : List ModelError :=
  if (Syntax.identifier? name).isSome then [] else [.invalidIdentifier name]

/-- The faults of a field of a type. There are none if it asks for no resource. -/
def FieldDescription.faults (typeName : String) (field : FieldDescription) : List ModelError :=
  match field.resources with
  | [] => []
  | _ :: others =>
    (if others = [] then [] else [.conflictingAnnotations typeName field.name]) ++
      nameFaults field.name ++
      if (Syntax.TypeExpr.parse? field.type).isSome then []
      else [.invalidFieldType typeName field.name field.type]

namespace TypeDescription

/-- The faults of a type, those of its nested types left out. -/
def ownFaults (type : TypeDescription) : List ModelError :=
  nameFaults type.name ++ type.fields.flatMap (FieldDescription.faults type.name)

/-- All faults of a type and of those nested in it. -/
def faults (type : TypeDescription) : List ModelError :=
  (type.census []).flatMap fun described => described.2.ownFaults

mutual

/-- A description without the fields that ask for no resource. -/
def bare : TypeDescription → TypeDescription
  | ⟨package, name, fields, nested⟩ =>
    ⟨package, name, fields.filter FieldDescription.isAnnotated, bareAll nested⟩

/-- The descriptions of a list without the fields that ask for no resource. -/
def bareAll : List TypeDescription → List TypeDescription
  | [] => []
  | type :: rest => type.bare :: bareAll rest

end

/-- A described type that has no fault itself. -/
structure Valid (type : TypeDescription) : Prop where
  name : (Syntax.identifier? type.name).isSome
  fields : ∀ field ∈ type.fields, field.isAnnotated = true →
    (∃ resource, field.resources = [resource]) ∧ (Syntax.identifier? field.name).isSome ∧
      (Syntax.TypeExpr.parse? field.type).isSome

end TypeDescription

/-- An error tells of a fault of a type: it names the type and the field that the fault is in, or
the name that is at fault. -/
def ModelError.Blames (type : TypeDescription) : ModelError → Prop
  | .conflictingAnnotations typeName fieldName =>
    typeName = type.name ∧ ∃ field ∈ type.fields, fieldName = field.name ∧
      1 < field.resources.length
  | .invalidFieldType typeName fieldName text =>
    typeName = type.name ∧ ∃ field ∈ type.fields, fieldName = field.name ∧ text = field.type ∧
      field.isAnnotated = true ∧ Syntax.TypeExpr.parse? text = none
  | .invalidIdentifier text =>
    Syntax.identifier? text = none ∧ (text = type.name ∨
      ∃ field ∈ type.fields, field.isAnnotated = true ∧ text = field.name)

/-! ## Checks that report the first fault -/

/-- A check accepts where there are no faults, and reports the first one otherwise. -/
def Checks {α : Type} (x : Except ModelError α) (faults : List ModelError) : Prop :=
  match x with
  | .ok _ => faults = []
  | .error e => faults.head? = some e

namespace Checks

variable {α β : Type} {x : Except ModelError α} {f : α → Except ModelError β}
  {faults others : List ModelError}

/-- **Two checks in a row report the first fault of all.** -/
theorem bind (hx : Checks x faults) (hf : ∀ a, x = .ok a → Checks (f a) others) :
    Checks (x >>= f) (faults ++ others) := by
  cases x with
  | error e =>
    change (faults ++ others).head? = some e
    rw [List.head?_append, show faults.head? = some e from hx]
    rfl
  | ok a =>
    rw [show faults = [] from hx]
    exact hf a rfl

theorem error_iff (h : Checks x faults) (e : ModelError) :
    x = .error e ↔ faults.head? = some e := by
  cases x with
  | error e' =>
    rw [show faults.head? = some e' from h, Except.error.injEq, Option.some.injEq]
  | ok a =>
    rw [show faults = [] from h]
    exact ⟨nofun, nofun⟩

theorem ok_iff (h : Checks x faults) : (∃ a, x = .ok a) ↔ faults = [] := by
  cases x with
  | error e =>
    have hhead : faults.head? = some e := h
    refine ⟨nofun, fun hnil => ?_⟩
    rw [hnil] at hhead
    cases hhead
  | ok a => exact ⟨fun _ => h, fun _ => ⟨a, rfl⟩⟩

end Checks

theorem checkIdentifier_checks (name : String) :
    Checks (checkIdentifier name) (nameFaults name) := by
  rw [checkIdentifier, nameFaults]
  cases Syntax.identifier? name <;> rfl

namespace FieldBinding

theorem ofDescription_checks (typeName : String) (field : FieldDescription) :
    Checks (ofDescription typeName field) (field.faults typeName) := by
  rw [ofDescription, FieldDescription.faults, FieldDescription.resources]
  rcases field.annotations.filterMap Annotation.resource? with _ | ⟨⟨kind, key⟩, _ | ⟨_, _⟩⟩
  · rfl
  · refine (checkIdentifier_checks field.name).bind fun _ _ => ?_
    cases Syntax.TypeExpr.parse? field.type <;> rfl
  · rfl

theorem allOfDescription_checks (typeName : String) (fields : List FieldDescription) :
    Checks (allOfDescription typeName fields)
      (fields.flatMap (FieldDescription.faults typeName)) := by
  induction fields with
  | nil => rfl
  | cons field rest ih =>
    rw [List.flatMap_cons]
    refine (ofDescription_checks typeName field).bind fun _ _ => ?_
    rw [← List.append_nil (rest.flatMap _)]
    exact ih.bind fun _ _ => rfl

/-- Fields that ask for no resource can be taken out. -/
theorem allOfDescription_filter (typeName : String) (fields : List FieldDescription) :
    allOfDescription typeName (fields.filter FieldDescription.isAnnotated) =
      allOfDescription typeName fields := by
  induction fields with
  | nil => rfl
  | cons field rest ih =>
    cases hannotated : field.isAnnotated with
    | true =>
      rw [List.filter_cons_of_pos hannotated, allOfDescription, ih]
      rfl
    | false =>
      have hnone : ofDescription typeName field = .ok none := by
        rw [ofDescription, (not_isAnnotated_iff field).mp hannotated]
      rw [List.filter_cons_of_neg (Bool.eq_false_iff.mp hannotated), ih, allOfDescription, hnone]
      change _ = (do
        let bindings ← allOfDescription typeName rest
        return [] ++ bindings)
      cases allOfDescription typeName rest <;> rfl

end FieldBinding

namespace DeclaringType

mutual

theorem buildIn_checks (package : String) (enclosing : List String) (desc : TypeDescription) :
    Checks (buildIn package enclosing desc)
      ((desc.census enclosing).flatMap fun described => described.2.ownFaults) := by
  obtain ⟨outer, name, fields, nested⟩ := desc
  rw [buildIn, TypeDescription.census, List.flatMap_cons, TypeDescription.ownFaults,
    List.append_assoc]
  refine (checkIdentifier_checks name).bind fun _ _ => ?_
  refine (FieldBinding.allOfDescription_checks name fields).bind fun _ _ => ?_
  rw [← List.append_nil (List.flatMap _ _)]
  exact (buildAllIn_checks package (enclosing ++ [name]) nested).bind fun _ _ => rfl

theorem buildAllIn_checks (package : String) (enclosing : List String)
    (descs : List TypeDescription) :
    Checks (buildAllIn package enclosing descs)
      ((TypeDescription.censusAll enclosing descs).flatMap fun described =>
        described.2.ownFaults) := by
  cases descs with
  | nil => rfl
  | cons desc rest =>
    rw [buildAllIn, TypeDescription.censusAll, List.flatMap_append]
    refine (buildIn_checks package enclosing desc).bind fun _ _ => ?_
    rw [← List.append_nil (List.flatMap _ _)]
    exact (buildAllIn_checks package enclosing rest).bind fun _ _ => rfl

end

mutual

theorem buildIn_bare (package : String) (enclosing : List String) (desc : TypeDescription) :
    buildIn package enclosing desc.bare = buildIn package enclosing desc := by
  obtain ⟨outer, name, fields, nested⟩ := desc
  rw [TypeDescription.bare, buildIn, buildIn, FieldBinding.allOfDescription_filter,
    buildAllIn_bare package (enclosing ++ [name]) nested]

theorem buildAllIn_bare (package : String) (enclosing : List String)
    (descs : List TypeDescription) :
    buildAllIn package enclosing (TypeDescription.bareAll descs) =
      buildAllIn package enclosing descs := by
  cases descs with
  | nil => rfl
  | cons desc rest =>
    rw [TypeDescription.bareAll, buildAllIn, buildAllIn, buildIn_bare package enclosing desc,
      buildAllIn_bare package enclosing rest]

end

end DeclaringType

/-! ## Which types have faults -/

theorem nameFaults_eq_nil {name : String} :
    nameFaults name = [] ↔ (Syntax.identifier? name).isSome := by
  rw [nameFaults]
  split_ifs with h <;> simp [h]

/-- A field has no fault if it asks for no resource, or for one that it can receive. -/
theorem FieldDescription.faults_eq_nil {typeName : String} {field : FieldDescription} :
    field.faults typeName = [] ↔ (field.isAnnotated = true →
      (∃ resource, field.resources = [resource]) ∧ (Syntax.identifier? field.name).isSome ∧
        (Syntax.TypeExpr.parse? field.type).isSome) := by
  rw [faults]
  cases hresources : field.resources with
  | nil =>
    rw [(FieldBinding.not_isAnnotated_iff field).mpr hresources]
    exact ⟨nofun, fun _ => rfl⟩
  | cons resource others =>
    have hasks : field.isAnnotated = true := by
      refine isAnnotated_of_resources ?_
      rw [hresources]
      exact List.cons_ne_nil _ _
    have hone : (if others = [] then [] else [ModelError.conflictingAnnotations typeName
        field.name]) = [] ↔ ∃ r, resource :: others = [r] := by
      split_ifs with h <;> simp [h]
    have htype : (if (Syntax.TypeExpr.parse? field.type).isSome then []
        else [ModelError.invalidFieldType typeName field.name field.type]) = [] ↔
          (Syntax.TypeExpr.parse? field.type).isSome := by
      split_ifs with h <;> simp [h]
    rw [List.append_eq_nil_iff, List.append_eq_nil_iff, hone, nameFaults_eq_nil, htype, and_assoc]
    exact ⟨fun h _ => h, fun h => h hasks⟩

theorem TypeDescription.ownFaults_eq_nil {type : TypeDescription} :
    type.ownFaults = [] ↔ type.Valid := by
  rw [ownFaults, List.append_eq_nil_iff, nameFaults_eq_nil, List.flatMap_eq_nil_iff]
  constructor
  · rintro ⟨hname, hfields⟩
    exact ⟨hname, fun field hfield => FieldDescription.faults_eq_nil.mp (hfields field hfield)⟩
  · rintro ⟨hname, hfields⟩
    exact ⟨hname, fun field hfield => FieldDescription.faults_eq_nil.mpr (hfields field hfield)⟩

/-! ## What a fault names -/

theorem mem_nameFaults {name : String} {e : ModelError} :
    e ∈ nameFaults name ↔ Syntax.identifier? name = none ∧ e = .invalidIdentifier name := by
  rw [nameFaults]
  cases Syntax.identifier? name <;> simp

/-- Every fault of a type names what is at fault. -/
theorem TypeDescription.blames_of_mem_ownFaults {type : TypeDescription} {e : ModelError}
    (h : e ∈ type.ownFaults) : e.Blames type := by
  rw [ownFaults, List.mem_append, List.mem_flatMap] at h
  rcases h with hname | ⟨field, hfield, he⟩
  · obtain ⟨hnone, rfl⟩ := mem_nameFaults.mp hname
    exact ⟨hnone, .inl rfl⟩
  · rw [FieldDescription.faults] at he
    cases hresources : field.resources with
    | nil =>
      rw [hresources] at he
      cases he
    | cons resource others =>
      have hasks : field.isAnnotated = true := by
        refine FieldDescription.isAnnotated_of_resources ?_
        rw [hresources]
        exact List.cons_ne_nil _ _
      rw [hresources] at he
      dsimp only at he
      rw [List.mem_append, List.mem_append] at he
      rcases he with (hconflict | hname) | htype
      · split_ifs at hconflict with hothers
        · cases hconflict
        · obtain rfl := List.mem_singleton.mp hconflict
          refine ⟨rfl, field, hfield, rfl, ?_⟩
          rw [hresources, List.length_cons]
          exact Nat.succ_lt_succ (List.length_pos_of_ne_nil hothers)
      · obtain ⟨hnone, rfl⟩ := mem_nameFaults.mp hname
        exact ⟨hnone, .inr ⟨field, hfield, hasks, rfl⟩⟩
      · split_ifs at htype with hparsed
        · cases htype
        · obtain rfl := List.mem_singleton.mp htype
          exact ⟨rfl, field, hfield, rfl, rfl, hasks, Option.not_isSome_iff_eq_none.mp hparsed⟩

namespace DeclaringType

/-- **A description is accepted iff it is valid all over, and otherwise its first fault is
reported.** Valid means that every described type has an identifier for a name and that every field
with a resource annotation has exactly one, an identifier for a name and a type that can be read.
All faults come in the order in which the description is written, a type before those nested in it;
each of them names what is at fault in the very type that has it. Fields without a resource
annotation make no difference, whatever else they are. -/
theorem build_reports (desc : TypeDescription) :
    ((∃ ty, build desc = .ok ty) ↔ ∀ described ∈ desc.census [], described.2.Valid) ∧
      (∀ e, build desc = .error e ↔ desc.faults.head? = some e) ∧
      (∀ e ∈ desc.faults, ∃ described ∈ desc.census [], e.Blames described.2) ∧
      build desc.bare = build desc := by
  have hchecks : Checks (build desc) desc.faults := buildIn_checks desc.package [] desc
  refine ⟨?_, hchecks.error_iff, fun e he => ?_, ?_⟩
  · rw [hchecks.ok_iff, TypeDescription.faults, List.flatMap_eq_nil_iff]
    exact forall₂_congr fun _ _ => TypeDescription.ownFaults_eq_nil
  · obtain ⟨described, hdescribed, hmem⟩ := List.mem_flatMap.mp he
    exact ⟨described, hdescribed, TypeDescription.blames_of_mem_ownFaults hmem⟩
  · have hpackage : desc.bare.package = desc.package := by
      cases desc
      rfl
    rw [build, build, hpackage, buildIn_bare]

/-- A conflict is reported before what is wrong with the name and the type of the field, and before
the nested type, whose name is no identifier. What the first field has for a type does not matter. -/
example : (build { name := "Dialog", nested := [{ name := "two words" }], fields := [
    { name := "label", type := "Option<" },
    { name := "1", type := "(", annotations := [.bindColor 1, .bindDrawable 2] }] }).map
      (fun ty => ty.name) = .error (.conflictingAnnotations "Dialog" "1") := by
  rfl

end DeclaringType
end Theming
