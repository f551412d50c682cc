/-
# What a search can come to

A search for the companion of a type takes one of seven turns at each type that it visits (`Search`),
as the table in `Theming.Resolver` has them. From that follows, whatever is registered under a path
meanwhile:

* what a search finds for a type, and what is kept for it, is for the type or one of its ancestors
  (`Search.upward`), so the handle of an object of the type can be taken there
  (`TypeInfo.climb_of_reaches`);
* what is kept is kept for good (`Search.keeps`), and every answer is kept (`Search.kept`);
* a search is refused only because the companion at the path of a type is for another one
  (`Search.refused`).
-/

import Theming.Proofs.Memoization

namespace Theming

/-! ## Ancestors -/

namespace TypeInfo

/-- A declared path is that of the type or of one of its ancestors. -/
def Reaches (info : TypeInfo) (declared : String) : Prop := ∃ up ∈ info.chain, up.declared = declared

theorem mem_chain_self (info : TypeInfo) : info ∈ info.chain := by
  cases info <;> exact List.mem_cons_self

/-- The ancestors of a parent are ancestors. -/
theorem mem_chain_of_parent {info parent up : TypeInfo} (hparent : info.parent? = some parent)
    (h : up ∈ parent.chain) : up ∈ info.chain := by
  cases info with
  | root declared name => cases hparent
  | derived declared name via parent' =>
    obtain rfl := Option.some.inj hparent
    exact List.mem_cons_of_mem _ h

theorem Reaches.of_parent {info parent : TypeInfo} {declared : String}
    (hparent : info.parent? = some parent) (h : parent.Reaches declared) :
    info.Reaches declared := by
  obtain ⟨up, hup, hdeclared⟩ := h
  exact ⟨up, mem_chain_of_parent hparent hup, hdeclared⟩

/-- **The handle of an object can be taken to each ancestor of its type.** -/
theorem climb_of_reaches {info : TypeInfo} {goal : String} {handle : Handle}
    (h : info.Reaches goal) (htype : handle.type = info.declared) (origin : String) :
    ∃ up, info.climb origin goal handle = .ok up ∧ up.type = goal ∧
      up.target = handle.target := by
  induction info generalizing handle with
  | root declared name =>
    obtain ⟨up, hup, rfl⟩ := h
    obtain rfl := List.mem_singleton.mp hup
    exact ⟨handle, if_pos rfl, htype, rfl⟩
  | derived declared name via parent ih =>
    rw [climb]
    by_cases hself : declared = goal
    · exact ⟨handle, if_pos hself, htype.trans hself, rfl⟩
    · have hparent : parent.Reaches goal := by
        obtain ⟨up, hup, hgoal⟩ := h
        rcases List.mem_cons.mp hup with rfl | hup
        · exact absurd hgoal hself
        · exact ⟨up, hup, hgoal⟩
      obtain ⟨up, hclimb, hrest⟩ :=
        @ih ⟨handle.target, handle.path ++ [via], parent.declared⟩ hparent rfl
      refine ⟨up, ?_, hrest⟩
      have hexpect : handle.expect declared = .ok handle := if_pos htype
      rw [if_neg hself, Handle.project, hexpect]
      exact hclimb

end TypeInfo

namespace Resolver

/-! ## Searches -/

/-- A search for the companion of a type gives a result and leaves a resolver behind. -/
inductive Search : Resolver → TypeInfo → Except BindingError (Option CompanionEntry) →
    Resolver → Prop where
  /-- The type has been searched for before. -/
  | known {r : Resolver} {info : TypeInfo} {found : Option CompanionEntry}
      (h : r.table.lookup info.declared = some found) : Search r info (.ok found) r
  | own {r : Resolver} {info : TypeInfo} {entry : CompanionEntry}
      (hnew : r.table.lookup info.declared = none)
      (hentry : r.registry.get? (Naming.companionPath info.name) = some entry)
      (htarget : entry.target = info.declared) :
      Search r info (.ok (some entry)) (r.traverse.keep info (some entry))
  /-- The companion at the path of the type is for another one. -/
  | foreign {r : Resolver} {info : TypeInfo} {entry : CompanionEntry}
      (hnew : r.table.lookup info.declared = none)
      (hentry : r.registry.get? (Naming.companionPath info.name) = some entry)
      (htarget : entry.target ≠ info.declared) :
      Search r info (.error (.signatureMismatch info.name (Naming.companionPath info.name)
        entry.target)) r.traverse
  | framework {r : Resolver} {info : TypeInfo} (hnew : r.table.lookup info.declared = none)
      (hentry : r.registry.get? (Naming.companionPath info.name) = none)
      (hframework : r.boundary.isFramework info.name = true) :
      Search r info (.ok none) (r.traverse.keep info none)
  | top {r : Resolver} {info : TypeInfo} (hnew : r.table.lookup info.declared = none)
      (hentry : r.registry.get? (Naming.companionPath info.name) = none)
      (hframework : r.boundary.isFramework info.name = false) (hparent : info.parent? = none) :
      Search r info (.ok none) (r.traverse.keep info none)
  | inherited {r r' : Resolver} {info parent : TypeInfo} {found : Option CompanionEntry}
      (hnew : r.table.lookup info.declared = none)
      (hentry : r.registry.get? (Naming.companionPath info.name) = none)
      (hframework : r.boundary.isFramework info.name = false)
      (hparent : info.parent? = some parent) (h : Search r.traverse parent (.ok found) r') :
      Search r info (.ok found) (r'.keep info found)
  | stopped {r r' : Resolver} {info parent : TypeInfo} {e : BindingError}
      (hnew : r.table.lookup info.declared = none)
      (hentry : r.registry.get? (Naming.companionPath info.name) = none)
      (hframework : r.boundary.isFramework info.name = false)
      (hparent : info.parent? = some parent) (h : Search r.traverse parent (.error e) r') :
      Search r info (.error e) r'

/-- One look at a type settles the search, or finds nothing about the type. -/
def Look.Searches (r : Resolver) (info : TypeInfo) : Look → Prop
  | .settled x => Search r info x.result x.resolver
  | .ascend r' => r' = r.traverse ∧ r.table.lookup info.declared = none ∧
    r.registry.get? (Naming.companionPath info.name) = none ∧
    r.boundary.isFramework info.name = false

theorem look_searches (r : Resolver) (info : TypeInfo) : (r.look info).Searches r info := by
  rw [Resolver.look]
  cases hcached : r.table.lookup info.declared with
  | some found => exact .known hcached
  | none =>
    dsimp only
    cases hentry : r.traverse.registry.get? (Naming.companionPath info.name) with
    | some entry =>
      dsimp only
      split_ifs with htarget
      · exact .own hcached hentry htarget
      · exact .foreign hcached hentry htarget
    | none =>
      dsimp only
      split_ifs with hframework
      · exact .framework hcached hentry hframework
      · exact ⟨rfl, hcached, hentry, Bool.eq_false_iff.mpr hframework⟩

/-- **To resolve a type is to search for its companion.** -/
theorem search_resolve (r : Resolver) (info : TypeInfo) :
    Search r info (r.resolve info).result (r.resolve info).resolver := by
  induction info generalizing r with
  | root declared name =>
    have hlook := r.look_searches (.root declared name)
    rw [Resolver.resolve]
    cases hr : r.look (.root declared name) with
    | settled x =>
      rw [hr] at hlook
      exact hlook
    | ascend r' =>
      rw [hr] at hlook
      obtain ⟨rfl, hnew, hentry, hframework⟩ := hlook
      exact .top hnew hentry hframework rfl
  | derived declared name via parent ih =>
    have hlook := r.look_searches (.derived declared name via parent)
    rw [Resolver.resolve]
    cases hr : r.look (.derived declared name via parent) with
    | settled x =>
      rw [hr] at hlook
      exact hlook
    | ascend r' =>
      rw [hr] at hlook
      obtain ⟨rfl, hnew, hentry, hframework⟩ := hlook
      have hup := ih r.traverse
      dsimp only
      cases hparent : (r.traverse.resolve parent).result with
      | ok found =>
        rw [hparent] at hup
        exact .inherited hnew hentry hframework rfl hup
      | error e =>
        rw [hparent] at hup
        exact .stopped hnew hentry hframework rfl hup

/-! ## What a search keeps -/

variable {r r' : Resolver} {info : TypeInfo}
  {result : Except BindingError (Option CompanionEntry)}

theorem lookup_keep (r : Resolver) (info : TypeInfo) (found : Option CompanionEntry)
    (declared : String) : (r.keep info found).table.lookup declared =
      if declared = info.declared then some found else r.table.lookup declared :=
  lookup_put _ _ _ _

/-- **What is kept is kept for good.** -/
theorem Search.keeps (h : Search r info result r') {declared : String}
    {found : Option CompanionEntry} (hkept : r.table.lookup declared = some found) :
    r'.table.lookup declared = some found := by
  have hother : ∀ {r : Resolver} {info : TypeInfo}, r.table.lookup info.declared = none →
      r.table.lookup declared = some found → declared ≠ info.declared := by
    rintro r info hnew hkept rfl
    cases hnew.symm.trans hkept
  induction h with
  | known _ => exact hkept
  | own hnew _ _ =>
    rw [lookup_keep, if_neg (hother hnew hkept)]
    exact hkept
  | foreign _ _ _ => exact hkept
  | framework hnew _ _ =>
    rw [lookup_keep, if_neg (hother hnew hkept)]
    exact hkept
  | top hnew _ _ _ =>
    rw [lookup_keep, if_neg (hother hnew hkept)]
    exact hkept
  | inherited hnew _ _ _ _ ih =>
    rw [lookup_keep, if_neg (hother hnew hkept)]
    exact ih hkept
  | stopped _ _ _ _ _ ih => exact ih hkept

/-- **Every answer is kept.** -/
theorem Search.kept {found : Option CompanionEntry} (h : Search r info (.ok found) r') :
    r'.table.lookup info.declared = some found := by
  cases h with
  | known h => exact h
  | own _ _ _ => rw [lookup_keep, if_pos rfl]
  | framework _ _ _ => rw [lookup_keep, if_pos rfl]
  | top _ _ _ _ => rw [lookup_keep, if_pos rfl]
  | inherited _ _ _ _ _ => rw [lookup_keep, if_pos rfl]

/-- What has been found before is the answer. -/
theorem Search.of_known {found : Option CompanionEntry} (h : Search r info result r')
    (hknown : r.table.lookup info.declared = some found) : result = .ok found := by
  cases h with
  | known h => rw [Option.some.inj (h.symm.trans hknown)]
  | own hnew _ _ => cases hnew.symm.trans hknown
  | foreign hnew _ _ => cases hnew.symm.trans hknown
  | framework hnew _ _ => cases hnew.symm.trans hknown
  | top hnew _ _ _ => cases hnew.symm.trans hknown
  | inherited hnew _ _ _ _ => cases hnew.symm.trans hknown
  | stopped hnew _ _ _ _ => cases hnew.symm.trans hknown

/-- **A search is refused only for a companion of another type** at the path of the type or of an
ancestor. -/
theorem Search.refused {e : BindingError} (h : Search r info (.error e) r') :
    ∃ up ∈ info.chain, ∃ companion found, e = .signatureMismatch up.name companion found := by
  generalize hresult : (.error e : Except BindingError (Option CompanionEntry)) = result at h
  induction h with
  | known _ => cases hresult
  | own _ _ _ => cases hresult
  | foreign _ _ _ => exact ⟨_, TypeInfo.mem_chain_self _, _, _, Except.error.inj hresult⟩
  | framework _ _ _ => cases hresult
  | top _ _ _ _ => cases hresult
  | inherited _ _ _ _ _ _ => cases hresult
  | stopped _ _ _ hparent _ ih =>
    obtain ⟨up, hup, herror⟩ := ih hresult
    exact ⟨up, TypeInfo.mem_chain_of_parent hparent hup, herror⟩

/-- What is kept for the types of a family is for the type itself or an ancestor. -/
def Upward (family : TypeFamily) (r : Resolver) : Prop :=
  ∀ info entry, family.has info → r.table.lookup info.declared = some (some entry) →
    info.Reaches entry.target

theorem Upward.keep {family : TypeFamily} (h : r.Upward family) (hinfo : family.has info)
    {found : Option CompanionEntry} (hfound : ∀ entry, found = some entry →
      info.Reaches entry.target) : (r.keep info found).Upward family := by
  intro other entry hother hlookup
  rw [lookup_keep] at hlookup
  split_ifs at hlookup with hdeclared
  · obtain rfl := family.unique hother hinfo hdeclared
    exact hfound entry (Option.some.inj hlookup)
  · exact h other entry hother hlookup

/-- **A search leads upward**: what it finds is for the type or an ancestor, and so is what it
keeps. -/
theorem Search.upward {family : TypeFamily} (h : Search r info result r')
    (hr : r.Upward family) (hinfo : family.has info) :
    (∀ entry, result = .ok (some entry) → info.Reaches entry.target) ∧ r'.Upward family := by
  induction h with
  | @known r info found hknown =>
    exact ⟨fun entry hentry => hr info entry hinfo (Except.ok.inj hentry ▸ hknown), hr⟩
  | @own r info entry _ _ htarget =>
    have hself : info.Reaches entry.target := ⟨info, info.mem_chain_self, htarget.symm⟩
    refine ⟨fun entry' hentry' => ?_, Upward.keep hr hinfo fun entry' hentry' => ?_⟩
    · rw [← Option.some.inj (Except.ok.inj hentry')]
      exact hself
    · rw [← Option.some.inj hentry']
      exact hself
  | foreign _ _ _ => exact ⟨nofun, hr⟩
  | framework _ _ _ => exact ⟨nofun, Upward.keep hr hinfo nofun⟩
  | top _ _ _ _ => exact ⟨nofun, Upward.keep hr hinfo nofun⟩
  | @inherited r r' info parent found _ _ _ hparent _ ih =>
    obtain ⟨hfound, hr'⟩ := ih hr (family.parent hinfo hparent)
    have hinherited : ∀ entry, found = some entry → info.Reaches entry.target :=
      fun entry hentry => (hfound entry (hentry ▸ rfl)).of_parent hparent
    exact ⟨fun entry hentry => hinherited entry (Except.ok.inj hentry),
      hr'.keep hinfo hinherited⟩
  | stopped _ _ _ hparent _ ih => exact ⟨nofun, (ih hr (family.parent hinfo hparent)).2⟩

end Resolver
end Theming
