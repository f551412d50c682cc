/-
# Resolving with a table is resolving without one

`Registry.walk` goes from a type to its ancestors and remembers nothing. A resolver remembers what
it found for every type it visited, absence included, and forgets it when the search ends in an
error. As long as the registry stays as it is, nobody can tell the two apart: on a fresh resolver
every call answers what the walk answers, in whatever order the calls come
(`results_eq_walk`).

The invariant is that the table holds nothing but answers of the walk (`Resolver.Faithful`). One
look at a type either settles it in agreement with the walk or sends both of them to the parent
(`Resolver.Faithful.look`), and a search enters what it found for the types on its way back
(`Resolver.Faithful.resolve`).
-/

import Theming.Proofs.Association
import Theming.Resolver

namespace Theming

/-- The companion of a type or of its nearest ancestor that has one, found without a table: the
companion at the path of the type, which must be for that type; otherwise none for a framework
type and for a type without a parent, and what is found for the parent for every other type. -/
def Registry.walk (registry : Registry) (boundary : Boundary) (info : TypeInfo) :
    Except BindingError (Option CompanionEntry) :=
  match registry.get? (Naming.companionPath info.name) with
  | some entry =>
    if entry.target = info.declared then .ok (some entry)
    else .error (.signatureMismatch info.name (Naming.companionPath info.name) entry.target)
  | none =>
    if boundary.isFramework info.name then .ok none
    else match info with
      | .root _ _ => .ok none
      | .derived _ _ _ parent => registry.walk boundary parent

/-- A set of types, with their parents, in which a declared path stands for one type. -/
structure TypeFamily where
  has : TypeInfo → Prop
  parent : ∀ {info up}, has info → info.parent? = some up → has up
  unique : ∀ {a b}, has a → has b → a.declared = b.declared → a = b

namespace Resolver

/-- The results of calls that are made one after the other. -/
def results (r : Resolver) : List TypeInfo → List (Except BindingError (Option CompanionEntry))
  | [] => []
  | info :: rest => (r.resolve info).result :: results (r.resolve info).resolver rest

/-- What the resolver remembers of the types of a family is what the walk finds for them. -/
structure Faithful (family : TypeFamily) (registry : Registry) (boundary : Boundary)
    (r : Resolver) : Prop where
  registry_eq : r.registry = registry
  boundary_eq : r.boundary = boundary
  found : ∀ info found, family.has info → r.table.lookup info.declared = some found →
    registry.walk boundary info = .ok found

variable {family : TypeFamily} {registry : Registry} {boundary : Boundary} {r : Resolver}

theorem Faithful.fresh (family : TypeFamily) (registry : Registry) (boundary : Boundary) :
    Faithful family registry boundary { registry, boundary } :=
  ⟨rfl, rfl, fun _ _ _ h => by simp at h⟩

theorem Faithful.traverse (h : Faithful family registry boundary r) :
    Faithful family registry boundary r.traverse :=
  ⟨h.registry_eq, h.boundary_eq, h.found⟩

/-- Remembering what the walk finds for a type keeps the table faithful: no other type of the
family has the key of this one. -/
theorem Faithful.keep (h : Faithful family registry boundary r) {info : TypeInfo}
    {found : Option CompanionEntry} (hinfo : family.has info)
    (hwalk : registry.walk boundary info = .ok found) :
    Faithful family registry boundary (r.keep info found) := by
  refine ⟨h.registry_eq, h.boundary_eq, fun a other ha hlookup => ?_⟩
  rw [Resolver.keep, lookup_put] at hlookup
  split_ifs at hlookup with hdeclared
  · obtain rfl := family.unique ha hinfo hdeclared
    rw [← Option.some.inj hlookup]
    exact hwalk
  · exact h.found a other ha hlookup

/-- What one look at a type of the family gives. -/
def Look.Agrees (family : TypeFamily) (registry : Registry) (boundary : Boundary)
    (info : TypeInfo) : Look → Prop
  | .settled resolution => resolution.result = registry.walk boundary info ∧
    Faithful family registry boundary resolution.resolver
  | .ascend r => Faithful family registry boundary r ∧
    registry.walk boundary info = match info.parent? with
      | none => .ok none
      | some parent => registry.walk boundary parent

/-- **One look settles a type as the walk does, or both go on to the parent.** -/
theorem Faithful.look (h : Faithful family registry boundary r) {info : TypeInfo}
    (hinfo : family.has info) : (r.look info).Agrees family registry boundary info := by
  unfold Resolver.look
  cases hcached : r.table.lookup info.declared with
  | some found => exact ⟨(h.found info found hinfo hcached).symm, h⟩
  | none =>
    have hregistry : r.traverse.registry = registry := h.registry_eq
    have hboundary : r.traverse.boundary = boundary := h.boundary_eq
    dsimp only
    rw [hregistry, hboundary]
    cases hentry : registry.get? (Naming.companionPath info.name) with
    | some entry =>
      dsimp only
      split_ifs with htarget
      · have hwalk : registry.walk boundary info = .ok (some entry) := by
          cases info <;> simp_all [Registry.walk, TypeInfo.name, TypeInfo.declared]
        exact ⟨hwalk.symm, h.traverse.keep hinfo hwalk⟩
      · have hwalk : registry.walk boundary info = .error (.signatureMismatch info.name
            (Naming.companionPath info.name) entry.target) := by
          cases info <;> simp_all [Registry.walk, TypeInfo.name, TypeInfo.declared]
        exact ⟨hwalk.symm, h.traverse⟩
    | none =>
      dsimp only
      split_ifs with hframework
      · have hwalk : registry.walk boundary info = .ok none := by
          cases info <;> simp_all [Registry.walk, TypeInfo.name]
        exact ⟨hwalk.symm, h.traverse.keep hinfo hwalk⟩
      · refine ⟨h.traverse, ?_⟩
        cases info <;> simp_all [Registry.walk, TypeInfo.name, TypeInfo.parent?]

/-- **A search with a faithful table answers what the walk answers**, and leaves the table
faithful, also when it ends in an error. -/
theorem Faithful.resolve (info : TypeInfo) (r : Resolver)
    (h : Faithful family registry boundary r) (hinfo : family.has info) :
    (r.resolve info).result = registry.walk boundary info ∧
      Faithful family registry boundary (r.resolve info).resolver := by
  induction info generalizing r with
  | root declared name =>
    have hlook := h.look hinfo
    cases hr : r.look (.root declared name) with
    | settled resolution =>
      rw [hr] at hlook
      simpa only [Resolver.resolve, hr, Look.Agrees] using hlook
    | ascend r' =>
      rw [hr] at hlook
      obtain ⟨hr', hwalk⟩ := hlook
      simp only [Resolver.resolve, hr]
      exact ⟨hwalk.symm, hr'.keep hinfo hwalk⟩
  | derived declared name via parent ih =>
    have hlook := h.look hinfo
    cases hr : r.look (.derived declared name via parent) with
    | settled resolution =>
      rw [hr] at hlook
      simpa only [Resolver.resolve, hr, Look.Agrees] using hlook
    | ascend r' =>
      rw [hr] at hlook
      obtain ⟨hr', hwalk⟩ := hlook
      obtain ⟨hup, hfaithful⟩ := ih r' hr' (family.parent hinfo rfl)
      have hresult : (r'.resolve parent).result =
          registry.walk boundary (.derived declared name via parent) := hup.trans hwalk.symm
      simp only [Resolver.resolve, hr]
      cases hparent : (r'.resolve parent).result with
      | error e => exact ⟨hparent.symm.trans hresult, hfaithful⟩
      | ok found =>
        have hfound := hparent.symm.trans hresult
        exact ⟨hfound, hfaithful.keep hinfo hfound.symm⟩

/-- **Memoization is transparent.** On a fresh resolver whose registry stays as it is, every call
answers what the walk without a table answers, whatever calls came before it: on the type itself,
on its ancestors, descendants or siblings, and also on types whose resolution fails. -/
theorem results_eq_walk (family : TypeFamily) (registry : Registry) (boundary : Boundary)
    (calls : List { info : TypeInfo // family.has info }) :
    results { registry, boundary } (calls.map Subtype.val) =
      calls.map fun call => registry.walk boundary call.val := by
  suffices h : ∀ r, Faithful family registry boundary r →
      results r (calls.map Subtype.val) = calls.map fun call => registry.walk boundary call.val from
    h _ (.fresh family registry boundary)
  induction calls with
  | nil => exact fun _ _ => rfl
  | cons call rest ih =>
    intro r hr
    obtain ⟨hresult, hfaithful⟩ := hr.resolve call.val r call.property
    rw [List.map_cons, List.map_cons, results, hresult, ih _ hfaithful]

end Resolver
end Theming
