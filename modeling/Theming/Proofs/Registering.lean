/-
# Types that share a companion path

Types of one package with one simple name share a companion path, whatever encloses them. Of the
companions registered under it, the last one counts, and it is for one of the types.

| after the last registration of a type | its resolution |
| --- | --- |
| no such type has been registered | its own companion |
| one has | a mismatch that names the last one, and nothing is kept |

The resolution never looks further: neither the companion of an ancestor nor a framework name hides
the clash (`Resolver.resolve_registered`).
-/

import Theming.Proofs.Flattening
import Theming.Proofs.Probing

namespace Theming

/-! ## Registries -/

namespace Registry

theorem get?_insert (registry : Registry) (entry : CompanionEntry) (path : String) :
    (registry.insert entry).get? path =
      if path = entry.path then some entry else registry.get? path :=
  lookup_put _ _ _ _

/-- The registry with entries that are registered one after the other. -/
def insertAll (registry : Registry) (entries : List CompanionEntry) : Registry :=
  entries.foldl insert registry

/-- Entries under other paths leave what is found at a path. -/
theorem get?_insertAll_of_ne (registry : Registry) {entries : List CompanionEntry} {path : String}
    (h : ∀ entry ∈ entries, entry.path ≠ path) :
    (registry.insertAll entries).get? path = registry.get? path := by
  induction entries generalizing registry with
  | nil => rfl
  | cons entry rest ih =>
    have hrest := ih (registry.insert entry) fun other hother =>
      h other (List.mem_cons_of_mem _ hother)
    have hne : path ≠ entry.path := (h entry List.mem_cons_self).symm
    rw [insertAll, List.foldl_cons]
    rw [insertAll] at hrest
    rw [hrest, get?_insert, if_neg hne]

/-- **The last entry registered under a path is found there.** -/
theorem get?_insertAll (registry : Registry) (before : List CompanionEntry)
    {entry : CompanionEntry} {rest : List CompanionEntry}
    (h : ∀ other ∈ rest, other.path ≠ entry.path) :
    (registry.insertAll (before ++ entry :: rest)).get? entry.path = some entry := by
  rw [insertAll, List.foldl_append, List.foldl_cons]
  exact (get?_insertAll_of_ne _ h).trans ((get?_insert _ _ _).trans (if_pos rfl))

end Registry

/-! ## Declared types -/

/-- A declared type with its generated companion: the qualified name is put together from a package,
the types around it and a simple name. -/
structure DeclaredType where
  package : String
  enclosing : List String
  simple : String
  type : TypeDefinition
  /-- The name of the companion. -/
  companion : String
  segments : ∀ part ∈ enclosing ++ [simple], Naming.IsSegment part
  named : type.info.name = Naming.qualifiedName package enclosing simple

namespace DeclaredType

/-- The entry of the generated companion. -/
def entry (t : DeclaredType) : CompanionEntry := .keeper t.type t.companion

/-- Two types of one package with one simple name and other types around them. -/
def Collides (t u : DeclaredType) : Prop :=
  t.package = u.package ∧ t.simple = u.simple ∧ t.enclosing ≠ u.enclosing

instance (t u : DeclaredType) : Decidable (t.Collides u) :=
  inferInstanceAs (Decidable (_ ∧ _ ∧ _))

theorem entry_path (t : DeclaredType) :
    t.entry.path = Naming.inPackage t.package (Naming.companionName t.simple) := by
  rw [← Naming.companionPath_qualifiedName t.segments, ← t.named]
  rfl

/-- **Types share a companion path just if they have the same name or collide.** -/
theorem path_eq_iff (t u : DeclaredType) :
    u.entry.path = t.entry.path ↔ t.type.info.name = u.type.info.name ∨ t.Collides u := by
  have hsimple : ∀ t : DeclaredType, ':' ∉ (Naming.companionName t.simple).toList := fun t =>
    (t.segments t.simple (List.mem_append_right _ List.mem_cons_self)).companionName
  have hpath : u.entry.path = t.entry.path ↔ t.package = u.package ∧ t.simple = u.simple := by
    rw [entry_path, entry_path, Naming.inPackage_inj (hsimple u) (hsimple t), Naming.companionName,
      Naming.companionName, String.append_left_inj, @eq_comm _ u.package, @eq_comm _ u.simple]
  have hname : t.type.info.name = u.type.info.name ↔
      t.package = u.package ∧ t.enclosing = u.enclosing ∧ t.simple = u.simple := by
    rw [t.named, u.named, Naming.qualifiedName, Naming.qualifiedName,
      Naming.inPackage_inj (Naming.colon_notMem_nestedName t.segments)
        (Naming.colon_notMem_nestedName u.segments), Naming.nestedName_inj t.segments u.segments]
  rw [hpath, hname, Collides]
  by_cases henclosing : t.enclosing = u.enclosing <;> simp [henclosing]

end DeclaredType

namespace Resolver

variable {family : TypeFamily}

/-- What is registered by calls, in order. -/
def registrations (calls : List (Call family)) : List CompanionEntry :=
  calls.filterMap fun
    | .register entry => some entry
    | .resolve _ _ => none

theorem registry_after (r : Resolver) (calls : List (Call family)) :
    (r.after calls).registry = r.registry.insertAll (registrations calls) := by
  induction calls generalizing r with
  | nil => rfl
  | cons call rest ih =>
    rw [after, List.foldl_cons]
    refine (ih (r.answer call)).trans ?_
    cases call with
    | register entry => rfl
    | resolve info hinfo =>
      rw [answer, (r.search_resolve info).places.1]
      rfl

/-- What is found at the path of a type is the last entry that a type of this name, or one that
collides with it, has registered there. -/
theorem entry_after {r : Resolver} {calls : List (Call family)}
    {earlier rest : List DeclaredType} {t u : DeclaredType}
    (hcalls : registrations calls = (earlier ++ u :: rest).map DeclaredType.entry)
    (hpath : u.entry.path = t.entry.path)
    (hrest : ∀ v ∈ rest, t.type.info.name ≠ v.type.info.name ∧ ¬ t.Collides v) :
    (r.after calls).registry.get? t.entry.path = some u.entry := by
  have hothers : ∀ other ∈ rest.map DeclaredType.entry, other.path ≠ u.entry.path := by
    intro other hother
    obtain ⟨v, hv, rfl⟩ := List.mem_map.mp hother
    rw [hpath]
    intro hsame
    rcases (t.path_eq_iff v).mp hsame with hname | hcollides
    · exact (hrest v hv).1 hname
    · exact (hrest v hv).2 hcollides
  rw [registry_after, hcalls, List.map_append, List.map_cons, ← hpath]
  exact Registry.get?_insertAll _ _ hothers

/-- **A clash is not hidden.** Every search that visits a type at whose path the companion of
another one is registered is refused, and nothing is kept. -/
theorem refused_of_clash {r : Resolver} {t u : DeclaredType} (ht : family.has t.type.info)
    (hu : family.has u.type.info) (hname : t.type.info.name ≠ u.type.info.name)
    (hentry : r.registry.get? t.entry.path = some u.entry) {info : TypeInfo}
    (hinfo : family.has info) (hvisits : t.type.info ∈ r.visited info) :
    (r.resolve info).result = .error (.signatureMismatch t.type.info.name t.entry.path
        u.type.info.declared) ∧
      (r.resolve info).resolver.table = r.table := by
  -- A type with the declared path of `t` is `t` and has its name, which `u` does not have.
  have htarget : u.entry.target ≠ t.type.info.declared := fun hdeclared =>
    hname (congrArg TypeInfo.name (family.unique ht hu hdeclared.symm))
  have hsearch := r.search_resolve info
  have hresult := hsearch.refused_of_visited hvisits hentry htarget
  exact ⟨hresult, ((hsearch.accounted family hinfo).refused _ hresult).1⟩

/-- **A type resolves to its own companion unless a clash came after it.** On a fresh resolver,
registrations of declared types and calls alternate in any order. A type that has been registered,
and that nothing is kept for, resolves to its own companion just if no type that collides with it
has been registered after it for the last time. Otherwise every search that visits the type, its own
or that of a descendant, is refused for the last one that has, and nothing is kept. -/
theorem resolve_registered {registry : Registry} {boundary : Boundary} {r : Resolver}
    {calls : List (Call family)} (hr : after { registry, boundary } calls = r)
    {registered : List DeclaredType}
    (hcalls : registrations calls = registered.map DeclaredType.entry)
    (hfamily : ∀ t ∈ registered, family.has t.type.info)
    (hnames : ∀ t ∈ registered, ∀ u ∈ registered, t.type.info.name = u.type.info.name → t = u)
    {earlier later : List DeclaredType} {t : DeclaredType}
    (hsplit : registered = earlier ++ t :: later) (hlast : t ∉ later)
    (hnew : r.table.lookup t.type.info.declared = none) :
    ((r.resolve t.type.info).result = .ok (some t.entry) ↔ ∀ u ∈ later, ¬ t.Collides u) ∧
      ((∃ u ∈ later, t.Collides u) → ∃ middle u rest, later = middle ++ u :: rest ∧
        t.Collides u ∧ (∀ v ∈ rest, ¬ t.Collides v) ∧ u.entry.path = t.entry.path ∧
        t.type.info ∈ r.visited t.type.info ∧
        ∀ info, family.has info → t.type.info ∈ r.visited info →
          (r.resolve info).result = .error (.signatureMismatch t.type.info.name t.entry.path
            u.type.info.declared) ∧
          (r.resolve info).resolver.table = r.table) := by
  have hregistered : ∀ {u}, u = t ∨ u ∈ later → u ∈ registered := by
    rintro u (rfl | hu) <;> rw [hsplit]
    · exact List.mem_append_right _ List.mem_cons_self
    · exact List.mem_append_right _ (List.mem_cons_of_mem _ hu)
  have hname : ∀ {u}, u ∈ later → t.type.info.name ≠ u.type.info.name := fun hu hname =>
    hlast (hnames t (hregistered (.inl rfl)) _ (hregistered (.inr hu)) hname ▸ hu)
  have ht : family.has t.type.info := hfamily t (hregistered (.inl rfl))
  have hself : t.type.info ∈ r.visited t.type.info := mem_visited_self hnew
  have hclash : ∀ {middle u rest}, later = middle ++ u :: rest → t.Collides u →
      (∀ v ∈ rest, ¬ t.Collides v) → u.entry.path = t.entry.path ∧
        ∀ info, family.has info → t.type.info ∈ r.visited info →
          (r.resolve info).result = .error (.signatureMismatch t.type.info.name t.entry.path
            u.type.info.declared) ∧
          (r.resolve info).resolver.table = r.table := by
    rintro middle u rest rfl hcollides hrest
    have hu : u ∈ middle ++ u :: rest := List.mem_append_right _ List.mem_cons_self
    have hpath : u.entry.path = t.entry.path := (t.path_eq_iff u).mpr (.inr hcollides)
    have hcalls' : registrations calls =
        ((earlier ++ t :: middle) ++ u :: rest).map DeclaredType.entry := by
      rw [hcalls, hsplit, List.append_assoc, List.cons_append]
    have hentry : r.registry.get? t.entry.path = some u.entry := by
      rw [← hr]
      exact entry_after hcalls' hpath fun v hv =>
        ⟨hname (List.mem_append_right _ (List.mem_cons_of_mem _ hv)), hrest v hv⟩
    exact ⟨hpath, fun info hinfo hvisits => refused_of_clash ht
      (hfamily u (hregistered (.inr hu))) (hname hu) hentry hinfo hvisits⟩
  refine ⟨⟨fun hok u hu hcollides => ?_, fun hnone => ?_⟩, fun hexists => ?_⟩
  · obtain ⟨_, _, _, hlater, hu, hrest⟩ := exists_last_of_mem ⟨u, hu, hcollides⟩
    cases hok.symm.trans ((hclash hlater hu hrest).2 _ ht hself).1
  · have hentry : r.registry.get? t.entry.path = some t.entry := by
      rw [← hr]
      exact entry_after (hcalls.trans (congrArg _ hsplit)) rfl fun v hv => ⟨hname hv, hnone v hv⟩
    exact (probes_companionPath t.type.info r t.entry hnew hentry).trans (if_pos rfl)
  · obtain ⟨middle, u, rest, hlater, hu, hrest⟩ := exists_last_of_mem hexists
    obtain ⟨hpath, hrefused⟩ := hclash hlater hu hrest
    exact ⟨middle, u, rest, hlater, hu, hrest, hpath, hself, hrefused⟩

end Resolver

/-! ## Rows of a panel and of a dialog -/

namespace DeclaredType

/-- What the rows have in common. -/
def base : DeclaredType where
  package := "app"
  enclosing := []
  simple := "Base"
  type := ⟨.root "crate::Base" "app::Base", []⟩
  companion := "BaseThemeBinding"
  segments := by decide
  named := by decide

def panelRow : DeclaredType where
  package := "app"
  enclosing := ["Panel"]
  simple := "Row"
  type := ⟨.derived "crate::panel::Row" "app::Panel.Row" "base" base.type.info, []⟩
  companion := "PanelRowThemeBinding"
  segments := by decide
  named := by decide

def dialogRow : DeclaredType where
  package := "app"
  enclosing := ["Dialog"]
  simple := "Row"
  type := ⟨.root "crate::dialog::Row" "app::Dialog.Row", []⟩
  companion := "DialogRowThemeBinding"
  segments := by decide
  named := by decide

/-- The three types. -/
def rows : TypeFamily where
  has info := info ∈ [base, panelRow, dialogRow].map fun t => t.type.info
  parent := by
    intro info up hinfo hup
    simp only [List.map_cons, List.map_nil, List.mem_cons, List.not_mem_nil, or_false] at hinfo ⊢
    rcases hinfo with rfl | rfl | rfl
    · cases hup
    · exact .inl (Option.some.inj hup).symm
    · cases hup
  unique := by
    intro a b ha hb hdeclared
    simp only [List.map_cons, List.map_nil, List.mem_cons, List.not_mem_nil, or_false] at ha hb
    rcases ha with rfl | rfl | rfl <;> rcases hb with rfl | rfl | rfl <;>
      first | rfl | exact absurd hdeclared (by decide)

/-- The row of a panel has a companion, and so has its parent, but the row of a dialog came last. -/
theorem panelRow_refused :
    ¬ panelRow ∈ [dialogRow] ∧
    ((Resolver.after {} ([base, panelRow, dialogRow].map fun t =>
        (.register t.entry : Resolver.Call rows))).resolve panelRow.type.info).result =
      .error (.signatureMismatch "app::Panel.Row" "app::RowThemeBinding" "crate::dialog::Row") := by
  have hlast : ¬ panelRow ∈ [dialogRow] := fun h =>
    absurd (congrArg DeclaredType.companion (List.mem_singleton.mp h)) (by decide)
  have hnames : ∀ t ∈ [base, panelRow, dialogRow], ∀ u ∈ [base, panelRow, dialogRow],
      t.type.info.name = u.type.info.name → t = u := by
    intro t ht u hu hname
    simp only [List.mem_cons, List.not_mem_nil, or_false] at ht hu
    rcases ht with rfl | rfl | rfl <;> rcases hu with rfl | rfl | rfl <;>
      first | rfl | exact absurd hname (by decide)
  obtain ⟨middle, u, rest, hlater, -, -, -, hself, hrefused⟩ :=
    (@Resolver.resolve_registered rows {} .standard _
      ([base, panelRow, dialogRow].map fun t => .register t.entry) rfl [base, panelRow, dialogRow]
      rfl (fun t ht => List.mem_map_of_mem ht) hnames [base] [dialogRow] panelRow rfl hlast rfl).2
      ⟨dialogRow, List.mem_singleton_self _, by decide⟩
  have hu : u = dialogRow := List.mem_singleton.mp
    (hlater ▸ List.mem_append_right _ List.mem_cons_self)
  subst hu
  exact ⟨hlast, (hrefused panelRow.type.info (List.mem_map_of_mem (by simp)) hself).1⟩

end DeclaredType
end Theming
