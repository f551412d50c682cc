/-
# A model covers its description

A description is a tree of types. Its model keeps the types with bindings and what leads to them:
every other nested type is pruned. The types that get a companion are nevertheless exactly the
described ones with an annotated field, the outer ones first, wherever they sit in the tree
(`DeclaringType.build_covers`).

| of the model | from the description |
| --- | --- |
| package | that of the outermost type |
| enclosing types | the names on the way from the outermost type |
| bound fields | the annotated fields, in order, each with its one resource |

Both sides walk the same tree: the census of a description lists its types in the order in which the
model is searched for qualifying ones. So the induction is on the description, with its list of nested
types beside it, and pruning comes in at one place only: a type without bindings holds no
qualifying one (`DeclaringType.qualifying_of_not_hasBindings`).
-/

import Mathlib.Data.List.Forall2
import Theming.Declaration

namespace Theming

/-! ## What is described -/

/-- Whether a field asks for a resource. -/
def FieldDescription.isAnnotated (field : FieldDescription) : Bool :=
  field.annotations.any fun mark => mark.resource?.isSome

namespace TypeDescription

/-- Whether a field of the type itself asks for a resource. -/
def isAnnotated (type : TypeDescription) : Bool := type.fields.any FieldDescription.isAnnotated

mutual

/-- Every described type with the names of the types around it, outermost first. A type comes before
those nested in it. -/
def census (enclosing : List String) : TypeDescription → List (List String × TypeDescription)
  | ⟨package, name, fields, nested⟩ =>
    (enclosing, ⟨package, name, fields, nested⟩) :: censusAll (enclosing ++ [name]) nested

/-- The described types of a list and those nested in them. -/
def censusAll (enclosing : List String) :
    List TypeDescription → List (List String × TypeDescription)
  | [] => []
  | type :: rest => type.census enclosing ++ censusAll enclosing rest

end

end TypeDescription

/-! ## What a model says of it -/

/-- A binding of a described field: it has its name and type, and the one resource it asks for. -/
structure FieldBinding.Of (b : FieldBinding) (field : FieldDescription) : Prop where
  name : b.name = field.name
  resource : field.annotations.filterMap Annotation.resource? = [(b.kind, b.key)]
  type : Syntax.TypeExpr.parse? field.type = some b.type
  shape : b.shape = Shape.ofType b.type

namespace DeclaringType

/-- The model of one described type in a package: its bound fields are the annotated ones. -/
structure Models (package : String) (ty : DeclaringType)
    (described : List String × TypeDescription) : Prop where
  package : ty.package = package
  enclosing : ty.enclosing = described.1
  name : ty.name = described.2.name
  fields : List.Forall₂ FieldBinding.Of ty.fields
    (described.2.fields.filter FieldDescription.isAnnotated)

mutual

/-- The types nested in a type, at any depth. -/
def inner : DeclaringType → List DeclaringType
  | ⟨_, _, _, _, nested⟩ => allInner nested

/-- The types of a list and those nested in them. -/
def allInner : List DeclaringType → List DeclaringType
  | [] => []
  | ty :: rest => ty :: (ty.inner ++ allInner rest)

end

end DeclaringType

/-! ## Fields -/

/-- What two checks in a row accept, each of them accepts. -/
theorem Except.bind_eq_ok {ε α β : Type} {x : Except ε α} {f : α → Except ε β} {b : β}
    (h : (x >>= f) = .ok b) : ∃ a, x = .ok a ∧ f a = .ok b := by
  cases x with
  | error e => cases h
  | ok a => exact ⟨a, rfl, h⟩

namespace FieldBinding

theorem not_isAnnotated_iff (field : FieldDescription) :
    field.isAnnotated = false ↔ field.annotations.filterMap Annotation.resource? = [] := by
  rw [FieldDescription.isAnnotated, List.any_eq_false, List.filterMap_eq_nil_iff]
  simp

/-- A described field has a binding if it asks for a resource. -/
theorem ofDescription_covers {typeName : String} {field : FieldDescription}
    {found : Option FieldBinding} (h : ofDescription typeName field = .ok found) :
    List.Forall₂ FieldBinding.Of found.toList ([field].filter FieldDescription.isAnnotated) := by
  have hannotated := not_isAnnotated_iff field
  rw [ofDescription] at h
  split at h
  case h_1 hnone =>
    cases h
    rw [List.filter_cons_of_neg (Bool.eq_false_iff.mp (hannotated.mpr hnone))]
    exact .nil
  case h_2 kind key hone =>
    obtain ⟨-, -, h⟩ := Except.bind_eq_ok h
    split at h
    case h_1 type htype =>
      cases h
      have hsome : field.isAnnotated = true := by
        rw [← Bool.not_eq_false, hannotated, hone]
        exact List.cons_ne_nil _ _
      rw [List.filter_cons_of_pos hsome]
      exact .cons ⟨rfl, hone, htype, rfl⟩ .nil
    case h_2 => cases h
  case h_3 => cases h

/-- **The bindings of a type are those of its annotated fields**, in order. -/
theorem allOfDescription_covers {typeName : String} {fields : List FieldDescription}
    {bindings : List FieldBinding} (h : allOfDescription typeName fields = .ok bindings) :
    List.Forall₂ FieldBinding.Of bindings (fields.filter FieldDescription.isAnnotated) := by
  induction fields generalizing bindings with
  | nil =>
    cases h
    exact .nil
  | cons field rest ih =>
    rw [allOfDescription] at h
    obtain ⟨found, hfound, h⟩ := Except.bind_eq_ok h
    obtain ⟨others, hothers, h⟩ := Except.bind_eq_ok h
    cases h
    rw [← List.singleton_append, List.filter_append]
    exact List.rel_append (ofDescription_covers hfound) (ih hothers)

end FieldBinding

/-! ## Types -/

namespace DeclaringType

mutual

/-- **Pruning loses nothing**: what has no bindings holds no type that gets a companion. -/
theorem qualifying_of_not_hasBindings (ty : DeclaringType) (h : ty.hasBindings = false) :
    ty.qualifying = [] := by
  obtain ⟨package, enclosing, name, fields, nested⟩ := ty
  rw [hasBindings, Bool.or_eq_false_iff] at h
  rw [qualifying, if_pos (by simpa using h.1), allQualifying_of_not_hasBindings nested h.2,
    List.append_nil]

theorem allQualifying_of_not_hasBindings (tys : List DeclaringType)
    (h : anyHasBindings tys = false) : allQualifying tys = [] := by
  cases tys with
  | nil => rfl
  | cons ty rest =>
    rw [anyHasBindings, Bool.or_eq_false_iff] at h
    rw [allQualifying, qualifying_of_not_hasBindings ty h.1,
      allQualifying_of_not_hasBindings rest h.2, List.append_nil]

end

/-- A type is listed iff its description has an annotated field, and then before the others. -/
theorem Models.cons {package : String} {ty : DeclaringType} {tys : List DeclaringType}
    {described : List String × TypeDescription} {rest : List (List String × TypeDescription)}
    (h : Models package ty described)
    (hrest : List.Forall₂ (Models package) tys (rest.filter fun d => d.2.isAnnotated)) :
    List.Forall₂ (Models package) ((if ty.fields.isEmpty then [] else [ty]) ++ tys)
      ((described :: rest).filter fun d => d.2.isAnnotated) := by
  have hempty : ty.fields = [] ↔ described.2.isAnnotated = false := by
    rw [← List.length_eq_zero_iff, h.fields.length_eq, List.length_eq_zero_iff,
      List.filter_eq_nil_iff, TypeDescription.isAnnotated, List.any_eq_false]
  by_cases hfields : ty.fields = []
  · have hplain : ¬ described.2.isAnnotated = true := by simp [hempty.mp hfields]
    rw [if_pos (by simpa using hfields), List.filter_cons, if_neg hplain]
    exact hrest
  · have hannotated : described.2.isAnnotated = true := by
      rw [← Bool.not_eq_false]
      exact mt hempty.mpr hfields
    rw [if_neg (by simpa using hfields), List.filter_cons, if_pos hannotated]
    exact .cons h hrest

mutual

/-- The model of a described type in a package and inside of other types. -/
theorem buildIn_covers (package : String) (enclosing : List String) (desc : TypeDescription)
    {ty : DeclaringType} (h : buildIn package enclosing desc = .ok ty) :
    List.Forall₂ (Models package) ty.qualifying
        ((desc.census enclosing).filter fun d => d.2.isAnnotated) ∧
      ∀ nested ∈ ty.inner, nested.hasBindings = true := by
  obtain ⟨outer, name, fields, nested⟩ := desc
  rw [buildIn] at h
  obtain ⟨-, -, h⟩ := Except.bind_eq_ok h
  obtain ⟨bindings, hbindings, h⟩ := Except.bind_eq_ok h
  obtain ⟨tys, htys, h⟩ := Except.bind_eq_ok h
  cases h
  obtain ⟨hcovers, hkept⟩ := buildAllIn_covers package (enclosing ++ [name]) nested htys
  have hself : Models package ⟨package, enclosing, name, bindings, tys⟩
      (enclosing, ⟨outer, name, fields, nested⟩) :=
    ⟨rfl, rfl, rfl, FieldBinding.allOfDescription_covers hbindings⟩
  rw [qualifying, inner, TypeDescription.census]
  exact ⟨hself.cons hcovers, hkept⟩

theorem buildAllIn_covers (package : String) (enclosing : List String)
    (descs : List TypeDescription) {tys : List DeclaringType}
    (h : buildAllIn package enclosing descs = .ok tys) :
    List.Forall₂ (Models package) (allQualifying tys)
        ((TypeDescription.censusAll enclosing descs).filter fun d => d.2.isAnnotated) ∧
      ∀ nested ∈ allInner tys, nested.hasBindings = true := by
  cases descs with
  | nil =>
    cases h
    exact ⟨.nil, nofun⟩
  | cons desc rest =>
    rw [buildAllIn] at h
    obtain ⟨ty, hty, h⟩ := Except.bind_eq_ok h
    obtain ⟨others, hothers, h⟩ := Except.bind_eq_ok h
    obtain ⟨hfirst, hinner⟩ := buildIn_covers package enclosing desc hty
    obtain ⟨hrest, hkept⟩ := buildAllIn_covers package enclosing rest hothers
    cases h
    rw [TypeDescription.censusAll, List.filter_append]
    cases hbindings : ty.hasBindings with
    | true =>
      rw [if_pos rfl, allQualifying, allInner]
      refine ⟨List.rel_append hfirst hrest, fun nested hnested => ?_⟩
      rcases List.mem_cons.mp hnested with rfl | hnested
      · exact hbindings
      · rcases List.mem_append.mp hnested with hnested | hnested
        · exact hinner nested hnested
        · exact hkept nested hnested
    | false =>
      rw [qualifying_of_not_hasBindings ty hbindings] at hfirst
      exact ⟨List.rel_append hfirst hrest, hkept⟩

end

/-- **A model covers its description.** Where a description is accepted, the types of the model that
get a companion are the described types with an annotated field: each once, a type before those
nested in it, in the package of the outermost type, inside the types that are described around it,
and with its annotated fields in order, each with the one resource that it asks for. No type is lost
by pruning, and whatever nested type is kept leads to bindings. -/
theorem build_covers {desc : TypeDescription} {ty : DeclaringType} (h : build desc = .ok ty) :
    List.Forall₂ (Models desc.package) ty.qualifying
        ((desc.census []).filter fun d => d.2.isAnnotated) ∧
      ∀ nested ∈ ty.inner, nested.hasBindings = true :=
  buildIn_covers desc.package [] desc h

/-- A dialog with a bound field. Its frame has none, but a corner of the frame has one. -/
def dialog : TypeDescription where
  package := "app"
  name := "Dialog"
  fields := [{ name := "tint", type := "Option<Color>", annotations := [.bindColor 1] }]
  nested := [
    { package := "elsewhere", name := "Frame", nested := [
      { name := "Corner", fields := [
        { name := "label", type := "String" },
        { name := "art", type := "Reactive<Drawable>",
          annotations := [.other "serde", .bindDrawable 2] }] }] },
    { name := "Title", fields := [{ name := "text", type := "String" }] }]

/-- The dialog and the corner get a companion, and the frame is kept for the corner. -/
theorem dialog_covered : ∃ ty, build dialog = .ok ty ∧
    List.Forall₂ (Models "app") ty.qualifying
      ((dialog.census []).filter fun d => d.2.isAnnotated) ∧
    ty.qualifying.map qualifiedName = ["app::Dialog", "app::Dialog.Frame.Corner"] ∧
    ty.inner.map qualifiedName = ["app::Dialog.Frame", "app::Dialog.Frame.Corner"] ∧
    ∀ nested ∈ ty.inner, nested.hasBindings = true := by
  have hnames : (build dialog).toOption.map (fun ty =>
      (ty.qualifying.map qualifiedName, ty.inner.map qualifiedName)) =
        some (["app::Dialog", "app::Dialog.Frame.Corner"],
          ["app::Dialog.Frame", "app::Dialog.Frame.Corner"]) := by decide +kernel
  cases hbuild : build dialog with
  | error e =>
    rw [hbuild] at hnames
    cases hnames
  | ok ty =>
    rw [hbuild] at hnames
    obtain ⟨hqualifying, hinner⟩ := Prod.mk.inj (Option.some.inj hnames)
    obtain ⟨hcovers, hkept⟩ := build_covers hbuild
    exact ⟨ty, rfl, hcovers, hqualifying, hinner, hkept⟩

end DeclaringType
end Theming
