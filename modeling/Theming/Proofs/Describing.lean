/-
# Descriptions come back from documents

A description is written as a tree of records. Members that say no more than their defaults may be
left out of it anywhere, and the members of a record may stand in any order.

| record | members that may be left out |
| --- | --- |
| type | an empty `package`, empty `fields`, empty `nested` |
| field | empty `annotations` |
| manifest | no `output`, empty `types` |

Whatever is left of the tree is read as the description (`TypeDescription.ofData?_of_omits`), and a
description that is built from its parts is the same again (`TypeDescription.rebuild_eq`).
-/

import Mathlib.Data.List.Perm.Subperm
import Mathlib.Tactic.SplitIfs
import Theming.Manifest

namespace Theming

/-! ## Records that leave members out -/

namespace Data

/-- The members that say no more than their defaults. -/
def spares : List (String × Data) :=
  [("package", .text ""), ("fields", .list []), ("nested", .list []), ("annotations", .list []),
    ("output", .null), ("types", .list [])]

/-- The members of a record in any order, some of those that are spare left out. -/
structure Abridges (full members : List (String × Data)) : Prop where
  within : members.Subperm full
  rest : ∀ m ∈ full, m ∈ members ∨ m ∈ spares

mutual

/-- A value from which members may be left out, in any record inside of it. -/
inductive Omits : Data → Data → Prop where
  | refl (d : Data) : Omits d d
  | list {items items' : List Data} (h : OmitsAll items items') : Omits (.list items) (.list items')
  | record {full inner members : List (String × Data)} (hinner : OmitsIn full inner)
      (h : Abridges inner members) : Omits (.record full) (.record members)

/-- Items from which members may be left out. -/
inductive OmitsAll : List Data → List Data → Prop where
  | nil : OmitsAll [] []
  | cons {d d' : Data} {items items' : List Data} (h : Omits d d') (hrest : OmitsAll items items') :
      OmitsAll (d :: items) (d' :: items')

/-- Members inside of which others may be left out. -/
inductive OmitsIn : List (String × Data) → List (String × Data) → Prop where
  | nil : OmitsIn [] []
  | cons {name : String} {d d' : Data} {members members' : List (String × Data)} (h : Omits d d')
      (hrest : OmitsIn members members') : OmitsIn ((name, d) :: members) ((name, d') :: members')

end

variable {full members : List (String × Data)}

theorem Abridges.refl (members : List (String × Data)) : Abridges members members :=
  ⟨.refl _, fun _ hm => .inl hm⟩

theorem Abridges.nodup (h : Abridges full members) (hfull : (full.map Prod.fst).Nodup) :
    (members.map Prod.fst).Nodup := by
  obtain ⟨kept, hperm, hsub⟩ := h.within
  exact (hperm.map Prod.fst).nodup_iff.mp (hfull.sublist (hsub.map Prod.fst))

/-- The name of a member is there, unless the member may be left out. -/
theorem Abridges.mem_names (h : Abridges full members) :
    ∀ m ∈ full, m.1 ∈ members.map Prod.fst ∨ m ∈ spares :=
  fun m hm => (h.rest m hm).imp_left List.mem_map_of_mem

/-- A record of one member that is not spare is kept as it is. -/
theorem Abridges.eq_singleton {m : String × Data} (h : Abridges [m] members) (hm : m ∉ spares) :
    members = [m] := by
  have hmem := (h.rest m List.mem_cons_self).resolve_right hm
  obtain ⟨kept, hperm, hsub⟩ := h.within
  rcases List.sublist_singleton.mp hsub with rfl | rfl
  · rw [List.nil_perm.mp hperm] at hmem
    cases hmem
  · exact List.perm_singleton.mp hperm.symm

theorem OmitsAll.refl (items : List Data) : OmitsAll items items := by
  induction items with
  | nil => exact .nil
  | cons d rest ih => exact .cons (.refl d) ih

theorem OmitsIn.refl (members : List (String × Data)) : OmitsIn members members := by
  induction members with
  | nil => exact .nil
  | cons m rest ih => exact .cons (.refl m.2) ih

theorem Omits.exists_list {items : List Data} {d : Data} (h : Omits (.list items) d) :
    ∃ items', d = .list items' ∧ OmitsAll items items' := by
  cases h with
  | refl => exact ⟨items, rfl, .refl items⟩
  | list h => exact ⟨_, rfl, h⟩

theorem Omits.exists_record {d : Data} (h : Omits (.record full) d) :
    ∃ inner members, d = .record members ∧ OmitsIn full inner ∧ Abridges inner members := by
  cases h with
  | refl => exact ⟨full, full, rfl, .refl full, .refl full⟩
  | record hinner h => exact ⟨_, _, rfl, hinner, h⟩

theorem Omits.text_eq {s : String} {d : Data} (h : Omits (.text s) d) : d = .text s := by
  cases h
  rfl

/-- A record of one text or number keeps it. -/
theorem Omits.eq_of_singleton {name : String} {d d' : Data} (hname : (name, d) ∉ spares)
    (hd : ∀ {e}, Omits d e → e = d) (h : Omits (.record [(name, d)]) d') :
    d' = .record [(name, d)] := by
  obtain ⟨inner, members, rfl, hinner, hkept⟩ := h.exists_record
  obtain _ | ⟨hfirst, _ | _⟩ := hinner
  obtain rfl := hd hfirst
  rw [hkept.eq_singleton hname]

/-! ## Reading members -/

/-- Members with different names are read one after the other, if each can be read where its name
has not been read before. -/
theorem foldlM_seen {σ : Type} {step : σ → String × Data → Option σ} (seen : List String → σ)
    (hstep : ∀ m ∈ members, ∀ names, m.1 ∉ names →
      step (seen names) m = some (seen (names ++ [m.1])))
    (hnodup : (members.map Prod.fst).Nodup) (names : List String)
    (hnew : ∀ m ∈ members, m.1 ∉ names) :
    members.foldlM step (seen names) = some (seen (names ++ members.map Prod.fst)) := by
  induction members generalizing names with
  | nil => simp
  | cons m rest ih =>
    obtain ⟨hfirst, hrest⟩ := List.nodup_cons.mp hnodup
    obtain ⟨hm, hothers⟩ := List.forall_mem_cons.mp hnew
    have hlater : ∀ other ∈ rest, other.1 ∉ names ++ [m.1] := by
      intro other hother hmem
      rcases List.mem_append.mp hmem with hmem | hmem
      · exact hothers other hother hmem
      · exact hfirst (List.mem_singleton.mp hmem ▸ List.mem_map_of_mem hother)
    rw [List.foldlM_cons, hstep m List.mem_cons_self names hm]
    refine (ih (fun other hother => hstep other (List.mem_cons_of_mem _ hother)) hrest _
      hlater).trans ?_
    rw [List.append_assoc, List.map_cons]
    rfl

/-- A member that has not been read has its default. -/
theorem getD_seen {α : Type} {names : List String} {name : String} {value fallback : α}
    (h : name ∈ names ∨ value = fallback) :
    (if name ∈ names then some value else none).getD fallback = value := by
  split_ifs with hseen
  · rfl
  · exact (h.resolve_left hseen).symm

end Data

/-- A record to which items are added one by one, behind those it has, ends with all of them. -/
theorem foldl_snoc {σ α : Type} (step : σ → α → σ) (record : List α → σ)
    (hstep : ∀ items a, step (record items) a = record (items ++ [a])) (items added : List α) :
    added.foldl step (record items) = record (items ++ added) := by
  induction added generalizing items with
  | nil => rw [List.foldl_nil, List.append_nil]
  | cons a rest ih => rw [List.foldl_cons, hstep, ih, List.append_assoc, List.singleton_append]

/-! ## Annotations -/

namespace Annotation

theorem ofData?_toData (mark : Annotation) : ofData? mark.toData = some mark := by
  cases mark <;> simp [toData, ofData?]

/-- Nothing may be left out of an annotation. -/
theorem eq_of_omits {mark : Annotation} {d : Data} (h : Data.Omits mark.toData d) :
    d = mark.toData := by
  cases mark with
  | bindColor key => exact h.eq_of_singleton (by simp [Data.spares]) fun h => by cases h; rfl
  | bindDrawable key => exact h.eq_of_singleton (by simp [Data.spares]) fun h => by cases h; rfl
  | other text => exact h.eq_of_singleton (by simp [Data.spares]) Data.Omits.text_eq

theorem mapM_of_omits {marks : List Annotation} {ds : List Data}
    (h : Data.OmitsAll (marks.map toData) ds) : ds.mapM ofData? = some marks := by
  induction marks generalizing ds with
  | nil =>
    cases h
    rfl
  | cons mark rest ih =>
    obtain _ | ⟨hfirst, hrest⟩ := h
    rw [List.mapM_cons, eq_of_omits hfirst, ofData?_toData, ih hrest]
    rfl

end Annotation

/-! ## Fields -/

namespace FieldDescription

variable {field : FieldDescription} {d : Data}

/-- All members of a field whose annotations are written as some values. -/
def members (field : FieldDescription) (marks : List Data) : List (String × Data) :=
  [("name", .text field.name), ("type", .text field.type), ("annotations", .list marks)]

/-- What has been read of a field when members of some names have been read. -/
def seen (field : FieldDescription) (names : List String) : Draft where
  name := if "name" ∈ names then some field.name else none
  type := if "type" ∈ names then some field.type else none
  annotations := if "annotations" ∈ names then some field.annotations else none

theorem add?_seen {marks : List Data}
    (hmarks : marks.mapM Annotation.ofData? = some field.annotations) {m : String × Data}
    (hm : m ∈ field.members marks) (names : List String) (hnew : m.1 ∉ names) :
    (field.seen names).add? m.1 m.2 = some (field.seen (names ++ [m.1])) := by
  simp only [members, List.mem_cons, List.not_mem_nil, or_false] at hm
  rcases hm with rfl | rfl | rfl
  · have hnew : "name" ∉ names := hnew
    simp [Draft.add?, seen, hnew, Data.once, Data.asText?]
  · have hnew : "type" ∉ names := hnew
    simp [Draft.add?, seen, hnew, Data.once, Data.asText?]
  · have hnew : "annotations" ∉ names := hnew
    simp [Draft.add?, seen, hnew, Data.once, Data.asList?, hmarks]

theorem finish?_seen {names : List String} (hname : "name" ∈ names) (htype : "type" ∈ names)
    (hannotations : "annotations" ∈ names ∨ field.annotations = []) :
    (field.seen names).finish? = some field := by
  rw [Draft.finish?, seen, if_pos hname, if_pos htype, Data.getD_seen hannotations]
  rfl

/-- **A field is read from what it is written as**, whatever may be left out. -/
theorem ofData?_of_omits (h : Data.Omits field.toData d) (positional : Bool) :
    ofData? positional d = some field := by
  obtain ⟨inner, members, rfl, hinner, h⟩ := h.exists_record
  obtain _ | ⟨hname, _ | ⟨htype, _ | ⟨hannotations, _ | _⟩⟩⟩ := hinner
  obtain rfl := hname.text_eq
  obtain rfl := htype.text_eq
  obtain ⟨marks, rfl, hmarks⟩ := hannotations.exists_list
  have hall := Annotation.mapM_of_omits hmarks
  have hread : Draft.addAll? {} members = some (field.seen (members.map Prod.fst)) :=
    Data.foldlM_seen field.seen (fun m hm names => add?_seen hall (h.within.subset hm) names)
      (h.nodup (by decide : ["name", "type", "annotations"].Nodup)) [] fun _ _ => List.not_mem_nil
  obtain ⟨hname, htype, hspare⟩ : "name" ∈ members.map Prod.fst ∧ "type" ∈ members.map Prod.fst ∧
      ("annotations" ∈ members.map Prod.fst ∨ marks = []) := by
    have hnames := h.mem_names
    generalize members.map Prod.fst = names at hnames ⊢
    simpa [Data.spares] using hnames
  rw [ofData?, hread, Option.bind_some]
  refine finish?_seen hname htype (hspare.imp_right ?_)
  rintro rfl
  exact (Option.some.inj hall).symm

theorem mapM_of_omits {fields : List FieldDescription} {ds : List Data}
    (h : Data.OmitsAll (fields.map toData) ds) (positional : Bool) :
    ds.mapM (ofData? positional) = some fields := by
  induction fields generalizing ds with
  | nil =>
    cases h
    rfl
  | cons field rest ih =>
    obtain _ | ⟨hfirst, hrest⟩ := h
    rw [List.mapM_cons, ofData?_of_omits hfirst, ih hrest]
    rfl

/-- **A field that is built from its parts is the field.** -/
theorem rebuild_eq (field : FieldDescription) : field.rebuild = field :=
  foldl_snoc annotated (fun marks => { field with annotations := marks }) (fun _ _ => rfl) []
    field.annotations

end FieldDescription

/-! ## Types -/

namespace TypeDescription

/-- All members of a type whose fields and nested types are written as some values. -/
def members (type : TypeDescription) (fields nested : List Data) : List (String × Data) :=
  [("package", .text type.package), ("name", .text type.name), ("fields", .list fields),
    ("nested", .list nested)]

/-- What has been read of a type when members of some names have been read. -/
def seen (type : TypeDescription) (names : List String) : Draft where
  package := if "package" ∈ names then some type.package else none
  name := if "name" ∈ names then some type.name else none
  fields := if "fields" ∈ names then some type.fields else none
  nested := if "nested" ∈ names then some type.nested else none

theorem addMembers?_eq (positional : Bool) (draft : Draft) (members : List (String × Data)) :
    addMembers? positional draft members =
      members.foldlM (fun draft m => addMember? positional draft m.1 m.2) draft := by
  induction members generalizing draft with
  | nil => rfl
  | cons m rest ih =>
    rw [addMembers?, List.foldlM_cons]
    exact congrArg _ (funext ih)

section Members

variable {positional : Bool} (type : TypeDescription) {fields nested : List Data}
  (hfields : fields.mapM (FieldDescription.ofData? positional) = some type.fields)
  (hnested : allOfData? positional nested = some type.nested)

include hfields hnested

theorem addMember?_seen {m : String × Data} (hm : m ∈ type.members fields nested)
    (names : List String) (hnew : m.1 ∉ names) :
    addMember? positional (type.seen names) m.1 m.2 = some (type.seen (names ++ [m.1])) := by
  simp only [members, List.mem_cons, List.not_mem_nil, or_false] at hm
  rcases hm with rfl | rfl | rfl | rfl
  · have hnew : "package" ∉ names := hnew
    simp [addMember?, seen, hnew, Data.once]
  · have hnew : "name" ∉ names := hnew
    simp [addMember?, seen, hnew, Data.once]
  · have hnew : "fields" ∉ names := hnew
    simp [addMember?, seen, hnew, Data.once, hfields]
  · have hnew : "nested" ∉ names := hnew
    simp [addMember?, seen, hnew, Data.once, hnested]

/-- A type is read from its members in any order, if no more than spare ones are missing. -/
theorem ofData?_of_abridges {members : List (String × Data)}
    (h : Data.Abridges (type.members fields nested) members) :
    ofData? positional (.record members) = some type := by
  have hread : addMembers? positional {} members = some (type.seen (members.map Prod.fst)) := by
    rw [addMembers?_eq]
    exact Data.foldlM_seen type.seen
      (fun m hm names => addMember?_seen type hfields hnested (h.within.subset hm) names)
      (h.nodup (by decide : ["package", "name", "fields", "nested"].Nodup)) []
      fun _ _ => List.not_mem_nil
  obtain ⟨hpackage, hname, hnofields, hnonested⟩ :
      ("package" ∈ members.map Prod.fst ∨ type.package = "") ∧ "name" ∈ members.map Prod.fst ∧
      ("fields" ∈ members.map Prod.fst ∨ fields = []) ∧
      ("nested" ∈ members.map Prod.fst ∨ nested = []) := by
    have hnames := h.mem_names
    generalize members.map Prod.fst = names at hnames ⊢
    simpa [TypeDescription.members, Data.spares] using hnames
  have hfields : "fields" ∈ members.map Prod.fst ∨ type.fields = [] := by
    refine hnofields.imp_right ?_
    rintro rfl
    exact (Option.some.inj hfields).symm
  have hnested : "nested" ∈ members.map Prod.fst ∨ type.nested = [] := by
    refine hnonested.imp_right ?_
    rintro rfl
    exact (Option.some.inj hnested).symm
  rw [ofData?, hread, Option.bind_some, Draft.finish?, seen, if_pos hname, Option.map_some,
    Data.getD_seen hpackage, Data.getD_seen hfields, Data.getD_seen hnested]
  cases type
  rfl

end Members

mutual

/-- **A type is read from what it is written as**, whatever may be left out, at any depth. -/
theorem ofData?_of_omits (positional : Bool) : (type : TypeDescription) → {d : Data} →
    Data.Omits type.toData d → ofData? positional d = some type
  | ⟨package, name, fields, nested⟩, d, h => by
    rw [toData] at h
    obtain ⟨inner, members, rfl, hinner, h⟩ := h.exists_record
    obtain _ | ⟨hpackage, _ | ⟨hname, _ | ⟨hfield, _ | ⟨hinner, _ | _⟩⟩⟩⟩ := hinner
    obtain rfl := hpackage.text_eq
    obtain rfl := hname.text_eq
    obtain ⟨fieldData, rfl, hfields⟩ := hfield.exists_list
    obtain ⟨nestedData, rfl, hnested⟩ := hinner.exists_list
    exact ofData?_of_abridges ⟨package, name, fields, nested⟩
      (FieldDescription.mapM_of_omits hfields positional)
      (allOfData?_of_omits positional nested hnested) h

theorem allOfData?_of_omits (positional : Bool) : (types : List TypeDescription) →
    {ds : List Data} → Data.OmitsAll (allToData types) ds → allOfData? positional ds = some types
  | [], ds, h => by
    cases h
    rfl
  | type :: rest, ds, h => by
    obtain _ | ⟨hfirst, hrest⟩ := h
    rw [allOfData?, ofData?_of_omits positional type hfirst,
      allOfData?_of_omits positional rest hrest]
    rfl

end

mutual

/-- **A type that is built from its parts is the type.** -/
theorem rebuild_eq : (type : TypeDescription) → type.rebuild = type
  | ⟨package, name, fields, nested⟩ => by
    have hfields : fields.map FieldDescription.rebuild = fields :=
      (List.map_congr_left fun field _ => field.rebuild_eq).trans (List.map_id' fields)
    have hfirst : fields.foldl withField { package := package, name := name } =
        { package := package, name := name, fields := fields } :=
      foldl_snoc withField (fun fields => { package := package, name := name, fields := fields })
        (fun _ _ => rfl) [] fields
    rw [rebuild, rebuildAll_eq nested, hfields, hfirst]
    exact foldl_snoc withNested (fun nested => ⟨package, name, fields, nested⟩) (fun _ _ => rfl) []
      nested

theorem rebuildAll_eq : (types : List TypeDescription) → rebuildAll types = types
  | [] => rfl
  | type :: rest => by rw [rebuildAll, type.rebuild_eq, rebuildAll_eq rest]

end

/-- What a type comes back from. -/
structure Survives (type : TypeDescription) : Prop where
  /-- It is read from what it is written as. -/
  read : ∀ positional, ofData? positional type.toData = some type
  /-- The same holds if members with their defaults are left out, at any places. -/
  abridged : ∀ positional d, Data.Omits type.toData d → ofData? positional d = some type
  /-- It can be built from its parts. -/
  rebuilt : type.rebuild = type

end TypeDescription

/-! ## Manifests -/

namespace Manifest

/-- The output of a manifest as a value. -/
def outputData (output : Option String) : Data := output.elim .null .text

/-- All members of a manifest whose types are written as some values. -/
def members (manifest : Manifest) (types : List Data) : List (String × Data) :=
  [("output", outputData manifest.output), ("types", .list types)]

theorem toData_eq (manifest : Manifest) : manifest.toData =
    .record (manifest.members (TypeDescription.allToData manifest.types)) := by
  rw [toData, members, outputData]
  cases manifest.output <;> rfl

theorem output?_outputData (output : Option String) :
    output? (outputData output) = some output := by
  cases output <;> rfl

theorem eq_of_omits_output {output : Option String} {d : Data}
    (h : Data.Omits (outputData output) d) : d = outputData output := by
  cases output with
  | none =>
    cases h
    rfl
  | some path => exact h.text_eq

/-- What has been read of a manifest when members of some names have been read. -/
def seen (manifest : Manifest) (names : List String) : Draft where
  output := if "output" ∈ names then some manifest.output else none
  types := if "types" ∈ names then some manifest.types else none

theorem add?_seen {positional : Bool} {manifest : Manifest} {types : List Data}
    (htypes : TypeDescription.allOfData? positional types = some manifest.types)
    {m : String × Data} (hm : m ∈ manifest.members types) (names : List String)
    (hnew : m.1 ∉ names) :
    (manifest.seen names).add? positional m.1 m.2 = some (manifest.seen (names ++ [m.1])) := by
  simp only [members, List.mem_cons, List.not_mem_nil, or_false] at hm
  rcases hm with rfl | rfl
  · have hnew : "output" ∉ names := hnew
    simp [Draft.add?, seen, hnew, Data.once, output?_outputData]
  · have hnew : "types" ∉ names := hnew
    simp [Draft.add?, seen, hnew, Data.once, Data.asList?, htypes]

/-- **A manifest is read from what it is written as**, whatever may be left out. -/
theorem ofData?_of_omits {manifest : Manifest} {d : Data} (h : Data.Omits manifest.toData d)
    (positional : Bool) : ofData? positional d = some manifest := by
  rw [toData_eq] at h
  obtain ⟨inner, members, rfl, hinner, h⟩ := h.exists_record
  obtain _ | ⟨houtput, _ | ⟨hlist, _ | _⟩⟩ := hinner
  obtain rfl := eq_of_omits_output houtput
  obtain ⟨types, rfl, htypes⟩ := hlist.exists_list
  have hall := TypeDescription.allOfData?_of_omits positional manifest.types htypes
  have hread : Draft.addAll? positional {} members = some (manifest.seen (members.map Prod.fst)) :=
    Data.foldlM_seen manifest.seen
      (fun m hm names => add?_seen hall (h.within.subset hm) names)
      (h.nodup (by decide : ["output", "types"].Nodup)) [] fun _ _ => List.not_mem_nil
  obtain ⟨hnooutput, hnotypes⟩ :
      ("output" ∈ members.map Prod.fst ∨ outputData manifest.output = .null) ∧
      ("types" ∈ members.map Prod.fst ∨ types = []) := by
    have hnames := h.mem_names
    generalize members.map Prod.fst = names at hnames ⊢
    simpa [Data.spares] using hnames
  have hnone : "output" ∈ members.map Prod.fst ∨ manifest.output = none := by
    refine hnooutput.imp_right fun hnull => ?_
    cases houtput : manifest.output with
    | none => rfl
    | some path =>
      rw [houtput] at hnull
      cases hnull
  have hempty : "types" ∈ members.map Prod.fst ∨ manifest.types = [] := by
    refine hnotypes.imp_right ?_
    rintro rfl
    exact (Option.some.inj hall).symm
  rw [ofData?, hread, Option.map_some, Draft.finish, seen, Data.getD_seen hnone,
    Data.getD_seen hempty]

/-- What a manifest comes back from. -/
structure Survives (manifest : Manifest) : Prop where
  read : ∀ positional, ofData? positional manifest.toData = some manifest
  abridged : ∀ positional d, Data.Omits manifest.toData d → ofData? positional d = some manifest
  /-- Its types can be built from their parts. -/
  rebuilt : { manifest with types := TypeDescription.rebuildAll manifest.types } = manifest

/-- **Descriptions and manifests survive.** A description is read from what it is written as, also
if members with their defaults are left out of any of its records, and building it from its parts
gives it again. The same holds for a manifest. -/
theorem descriptions_survive :
    (∀ type : TypeDescription, type.Survives) ∧ ∀ manifest : Manifest, manifest.Survives := by
  refine ⟨fun type => ⟨fun positional => ?_, fun positional d h => ?_, type.rebuild_eq⟩,
    fun manifest => ⟨fun positional => ?_, fun positional d h => ?_, ?_⟩⟩
  · exact TypeDescription.ofData?_of_omits positional type (.refl _)
  · exact TypeDescription.ofData?_of_omits positional type h
  · exact ofData?_of_omits (.refl _) positional
  · exact ofData?_of_omits h positional
  · rw [TypeDescription.rebuildAll_eq]

end Manifest
end Theming
