/-
# Catalogs of types

A program declares its types once: the declared path of a type names it, its fields have names of
their own, and where it extends another type it holds it in a field. A `Catalog` is such a set of
types. What follows from it is where the bound fields of a type lie inside a target: a handle that
is taken to an ancestor leads through the fields that hold parents (`Catalog.Embeds`), and there
lies what the ancestor declares (`Catalog.Embeds.layout`).
-/

import Mathlib.Data.List.Nodup
import Theming.Proofs.Contents
import Theming.Resolver

namespace Theming

/-- The layout of a bound field. -/
def BoundField.layout (field : BoundField) : Layout :=
  match field.shape with
  | .value => .plain field.form
  | .reference => .optional field.form
  | .reactive => .reactive field.form

/-- A bound field has the name and the layout with which it is declared. -/
theorem FieldDefinition.bound?_eq_some {field : FieldDefinition} {b : BoundField}
    (h : field.bound? = some b) : b.name = field.name ∧ b.layout = field.layout := by
  obtain ⟨name, layout, source⟩ := field
  rcases source with _ | ⟨kind, key⟩
  · simp [FieldDefinition.bound?] at h
  · cases layout with
    | plain form => cases h; exact ⟨rfl, rfl⟩
    | optional form => cases h; exact ⟨rfl, rfl⟩
    | reactive form => cases h; exact ⟨rfl, rfl⟩
    | journal => simp [FieldDefinition.bound?] at h
    | part fields => simp [FieldDefinition.bound?] at h

/-- The types that a program declares. -/
structure Catalog where
  has : TypeDefinition → Prop
  unique : ∀ {A B}, has A → has B → A.info.declared = B.info.declared → A = B
  names : ∀ {A}, has A → (A.fields.map (·.name)).Nodup
  parent : ∀ {A declared name via up}, has A → A.info = .derived declared name via up →
    ∃ B, has B ∧ B.info = up ∧ ∃ field ∈ A.fields, field.name = via ∧ field.layout = B.layout

namespace Catalog

variable {catalog : Catalog}

/-- At the end of a path of parents in `A` lies `C`. -/
inductive Embeds (catalog : Catalog) : TypeDefinition → List String → TypeDefinition → Prop where
  | self {A : TypeDefinition} (h : catalog.has A) : Embeds catalog A [] A
  | up {A B C : TypeDefinition} {declared name via : String} {path : List String}
      (hA : catalog.has A) (hB : catalog.has B) (hinfo : A.info = .derived declared name via B.info)
      (h : Embeds catalog B path C) : Embeds catalog A (via :: path) C

theorem Embeds.has {A C : TypeDefinition} {path : List String} (h : catalog.Embeds A path C) :
    catalog.has C := by
  induction h with
  | self h => exact h
  | up _ _ _ _ ih => exact ih

/-- What a type declares lies under the name of the field. -/
theorem layout_field {A : TypeDefinition} (hA : catalog.has A) {field : FieldDefinition}
    (h : field ∈ A.fields) (q : List String) :
    A.layout.at? (field.name :: q) = field.layout.at? q := by
  have hkeys : ((A.fields.map fun f => (f.name, f.layout)).map Prod.fst).Nodup := by
    rw [List.map_map]
    exact catalog.names hA
  have hmem : (field.name, field.layout) ∈ A.fields.map fun f => (f.name, f.layout) :=
    List.mem_map_of_mem h
  rw [TypeDefinition.layout, Layout.at?, lookup_of_mem hmem hkeys, Option.bind_some]

/-- **Where an ancestor is embedded lies all that it declares.** -/
theorem Embeds.layout {A C : TypeDefinition} {path : List String} (h : catalog.Embeds A path C) :
    A.layout.at? path = some C.layout := by
  induction h with
  | self _ => rfl
  | @up A B C declared name via path hA hB hinfo _ ih =>
    obtain ⟨B', hB', hup, field, hfield, rfl, hlayout⟩ := catalog.parent hA hinfo
    have hBB : B' = B := catalog.unique hB' hB (by rw [hup])
    rw [layout_field hA hfield, hlayout, hBB, ih]

/-- The bound fields of an embedded type lie below it. -/
theorem Embeds.layout_bound {A C : TypeDefinition} {path : List String}
    (h : catalog.Embeds A path C) {b : BoundField} (hb : b ∈ C.bound) :
    A.layout.at? (path ++ [b.name]) = some b.layout := by
  obtain ⟨field, hfield, hbound⟩ := List.mem_filterMap.mp hb
  obtain ⟨hname, hlayout⟩ := FieldDefinition.bound?_eq_some hbound
  rw [Layout.at?_append, h.layout, Option.bind_some, hname, layout_field h.has hfield, Layout.at?,
    hlayout]

/-- The bound fields of a type have names of their own. -/
theorem bound_names {A : TypeDefinition} (hA : catalog.has A) :
    (A.bound.map fun b => b.name).Nodup := by
  refine (catalog.names hA).sublist ?_
  rw [TypeDefinition.bound]
  generalize A.fields = fields
  induction fields with
  | nil => exact .slnil
  | cons field rest ih =>
    rw [List.filterMap_cons]
    cases hb : field.bound? with
    | none => exact ih.cons _
    | some b =>
      rw [List.map_cons, List.map_cons, (FieldDefinition.bound?_eq_some hb).1]
      exact ih.cons_cons _

/-- **A handle that is taken to another type leads to where that type is embedded.** -/
theorem embeds_of_climb {A : TypeDefinition} (hA : catalog.has A) {origin goal : String}
    {handle up : Handle} (htype : handle.type = A.info.declared)
    (h : A.info.climb origin goal handle = .ok up) :
    ∃ C path, catalog.Embeds A path C ∧ C.info.declared = goal ∧
      up = ⟨handle.target, handle.path ++ path, goal⟩ := by
  generalize hinfo : A.info = info at h
  induction info generalizing A handle with
  | root declared name =>
    rw [TypeInfo.climb] at h
    split_ifs at h with hgoal
    obtain rfl := Except.ok.inj h
    have hdeclared : A.info.declared = goal := by rw [hinfo]; exact hgoal
    refine ⟨A, [], .self hA, hdeclared, ?_⟩
    rw [List.append_nil, ← hdeclared, ← htype]
  | derived declared name via parent ih =>
    have hdeclared : A.info.declared = declared := by rw [hinfo]; rfl
    rw [TypeInfo.climb] at h
    split_ifs at h with hgoal
    · obtain rfl := Except.ok.inj h
      refine ⟨A, [], .self hA, hdeclared.trans hgoal, ?_⟩
      rw [List.append_nil, ← hgoal, ← hdeclared, ← htype]
    · obtain ⟨B, hB, rfl, -⟩ := catalog.parent hA hinfo
      rw [Handle.project, Handle.expect, if_pos (htype.trans hdeclared)] at h
      have hclimb : B.info.climb origin goal
          ⟨handle.target, handle.path ++ [via], B.info.declared⟩ = .ok up := h
      obtain ⟨C, path, hC, hCgoal, rfl⟩ := ih hB rfl rfl hclimb
      refine ⟨C, via :: path, .up hA hB hinfo hC, hCgoal, ?_⟩
      rw [List.append_assoc, List.singleton_append]

/-- An entry that keeps the bound fields of a declared type. -/
def Keeps (catalog : Catalog) (entry : CompanionEntry) : Prop :=
  ∃ A name, catalog.has A ∧ entry = .keeper A name

/-- What an entry is for is where the handle of a target is taken to. -/
theorem Keeps.embeds {T : TypeDefinition} (hT : catalog.has T) {entry : CompanionEntry}
    (h : catalog.Keeps entry) {t : TargetId} {up : Handle}
    (hup : T.info.upcast ⟨t, [], T.info.declared⟩ entry.target = .ok up) :
    ∃ A name, catalog.Embeds T up.path A ∧ entry = .keeper A name ∧ up.target = t ∧
      up.type = A.info.declared := by
  obtain ⟨A, name, hA, rfl⟩ := h
  obtain ⟨C, path, hC, hdeclared, rfl⟩ := embeds_of_climb hT rfl hup
  obtain rfl := catalog.unique hC.has hA hdeclared
  exact ⟨C, name, hC, rfl, rfl, rfl⟩

end Catalog

/-! ## What a resolver can find -/

/-- All that a resolver can find has a property. -/
structure Resolver.Finds (P : CompanionEntry → Prop) (r : Resolver) : Prop where
  registry : ∀ path entry, r.registry.get? path = some entry → P entry
  table : ∀ declared entry, r.table.lookup declared = some (some entry) → P entry

/-- A resolution that can only find what has a property, now and later. -/
structure Resolution.Finds (P : CompanionEntry → Prop) (x : Resolution) : Prop where
  result : ∀ entry, x.result = .ok (some entry) → P entry
  resolver : x.resolver.Finds P

namespace Resolver

variable {P : CompanionEntry → Prop} {r : Resolver}

theorem Finds.traverse (h : r.Finds P) : r.traverse.Finds P := ⟨h.registry, h.table⟩

theorem Finds.keep (h : r.Finds P) (info : TypeInfo) {found : Option CompanionEntry}
    (hfound : ∀ entry, found = some entry → P entry) : (r.keep info found).Finds P := by
  refine ⟨h.registry, fun declared entry hlookup => ?_⟩
  rw [Resolver.keep, lookup_put] at hlookup
  split_ifs at hlookup
  · exact hfound entry (Option.some.inj hlookup)
  · exact h.table declared entry hlookup

/-- A companion that is made known can be found from now on. -/
theorem Finds.insert (h : r.Finds P) {entry : CompanionEntry} (hentry : P entry) :
    ({ r with registry := r.registry.insert entry } : Resolver).Finds P := by
  refine ⟨fun path other hother => ?_, h.table⟩
  rw [Registry.insert, Registry.get?, lookup_put] at hother
  split_ifs at hother
  · obtain rfl := Option.some.inj hother
    exact hentry
  · exact h.registry path other hother

/-- What one look at a type finds. -/
def Look.Finds (P : CompanionEntry → Prop) : Look → Prop
  | .settled x => x.Finds P
  | .ascend r => r.Finds P

theorem Finds.look (h : r.Finds P) (info : TypeInfo) : (r.look info).Finds P := by
  unfold Resolver.look
  cases hcached : r.table.lookup info.declared with
  | some found =>
    refine ⟨fun entry hentry => ?_, h⟩
    obtain rfl := Except.ok.inj hentry
    exact h.table _ entry hcached
  | none =>
    dsimp only
    cases hentry : r.traverse.registry.get? (Naming.companionPath info.name) with
    | some entry =>
      have hP : P entry := h.traverse.registry _ entry hentry
      dsimp only
      split_ifs
      · refine ⟨fun other hother => ?_, h.traverse.keep info fun other hother => ?_⟩
        · obtain rfl := Option.some.inj (Except.ok.inj hother)
          exact hP
        · obtain rfl := Option.some.inj hother
          exact hP
      · refine ⟨fun _ hother => ?_, h.traverse⟩
        cases hother
    | none =>
      dsimp only
      split_ifs
      · refine ⟨fun _ hother => ?_, h.traverse.keep info fun _ hother => ?_⟩
        · cases Except.ok.inj hother
        · cases hother
      · exact h.traverse

/-- **A search finds only what can be found**, and so do all later ones. -/
theorem Finds.resolve (info : TypeInfo) (r : Resolver) (h : r.Finds P) :
    (r.resolve info).Finds P := by
  induction info generalizing r with
  | root declared name =>
    have hlook := h.look (.root declared name)
    cases hr : r.look (.root declared name) with
    | settled x =>
      rw [hr] at hlook
      simpa only [Resolver.resolve, hr, Look.Finds] using hlook
    | ascend r' =>
      rw [hr] at hlook
      simp only [Resolver.resolve, hr]
      refine ⟨fun _ hother => ?_, Finds.keep hlook _ fun _ hother => ?_⟩
      · cases Except.ok.inj hother
      · cases hother
  | derived declared name via parent ih =>
    have hlook := h.look (.derived declared name via parent)
    cases hr : r.look (.derived declared name via parent) with
    | settled x =>
      rw [hr] at hlook
      simpa only [Resolver.resolve, hr, Look.Finds] using hlook
    | ascend r' =>
      rw [hr] at hlook
      obtain ⟨hresult, hresolver⟩ := ih r' hlook
      simp only [Resolver.resolve, hr]
      cases hparent : (r'.resolve parent).result with
      | error e =>
        refine ⟨fun _ hother => ?_, hresolver⟩
        cases hother
      | ok found =>
        have hfound : ∀ entry, found = some entry → P entry :=
          fun entry hentry => hresult entry (hentry ▸ hparent)
        exact ⟨fun entry hentry => hfound entry (Except.ok.inj hentry),
          hresolver.keep _ hfound⟩

end Resolver
end Theming
