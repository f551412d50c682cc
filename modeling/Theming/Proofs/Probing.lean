/-
# Every traversal of a resolver is accounted for

A search visits the types of a chain in order, nearest first. It does not get beyond a type that
something is kept for, nor beyond one that has a companion at its path or belongs to a framework
(`Resolver.visited`). Each visit is one traversal.

| the search | traversals | the table |
| --- | --- | --- |
| finds a companion, or none | one for each type visited | one more entry for each of them, with what was found |
| is refused | one for each type visited, the refused one last | as before |

So at any time the traversals are the entries of the table and the visits of the searches that were
refused, however registrations and calls have alternated (`Resolver.after_accounts`).
-/

import Theming.Binder
import Theming.Proofs.Search

namespace Theming

/-! ## Chains -/

namespace TypeInfo

theorem chain_length_of_mem {info up : TypeInfo} (h : up ∈ info.chain) :
    up.chain.length ≤ info.chain.length := by
  induction info with
  | root declared name =>
    obtain rfl := List.mem_singleton.mp h
    exact Nat.le_refl _
  | derived declared name via parent ih =>
    rcases List.mem_cons.mp h with rfl | h
    · exact Nat.le_refl _
    · rw [chain, List.length_cons]
      exact Nat.le_succ_of_le (ih h)

/-- No type is an ancestor of its parent. -/
theorem notMem_chain_parent {info parent : TypeInfo} (hparent : info.parent? = some parent) :
    info ∉ parent.chain := by
  intro h
  have hlength := chain_length_of_mem h
  cases info with
  | root declared name => cases hparent
  | derived declared name via parent' =>
    obtain rfl := Option.some.inj hparent
    rw [chain, List.length_cons] at hlength
    exact Nat.not_succ_le_self _ hlength

theorem chain_of_parent {info parent : TypeInfo} (hparent : info.parent? = some parent) :
    info.chain = info :: parent.chain := by
  cases info with
  | root declared name => cases hparent
  | derived declared name via parent' => rw [← Option.some.inj hparent]; rfl

theorem chain_of_top {info : TypeInfo} (hparent : info.parent? = none) : info.chain = [info] := by
  cases info with
  | root declared name => rfl
  | derived declared name via parent => cases hparent

end TypeInfo

/-- The ancestors of the types of a family are in the family. -/
theorem TypeFamily.of_mem_chain (family : TypeFamily) {info up : TypeInfo} (hinfo : family.has info)
    (hup : up ∈ info.chain) : family.has up := by
  induction info with
  | root declared name => exact List.mem_singleton.mp hup ▸ hinfo
  | derived declared name via parent ih =>
    rcases List.mem_cons.mp hup with rfl | hup
    · exact hinfo
    · exact ih (family.parent hinfo rfl) hup

/-- No ancestor of the parent has the declared path of the type. -/
theorem TypeFamily.declared_ne (family : TypeFamily) {info parent up : TypeInfo}
    (hinfo : family.has info) (hparent : info.parent? = some parent) (hup : up ∈ parent.chain) :
    info.declared ≠ up.declared := by
  intro hdeclared
  have heq := family.unique hinfo
    (family.of_mem_chain hinfo (TypeInfo.mem_chain_of_parent hparent hup)) hdeclared
  exact TypeInfo.notMem_chain_parent hparent (heq ▸ hup)

namespace Resolver

/-! ## The types that a search visits -/

/-- Whether a search does not get beyond a type: there is a companion at its path, or it belongs to
a framework. -/
def endsAt (r : Resolver) (info : TypeInfo) : Bool :=
  (r.registry.get? (Naming.companionPath info.name)).isSome || r.boundary.isFramework info.name

/-- The types that a search for a type visits: of the types before the first one that something is
kept for, those up to the first one at which a search ends, which is visited as well. -/
def visited (r : Resolver) (info : TypeInfo) : List TypeInfo :=
  let unknown := info.chain.takeWhile fun up => (r.table.lookup up.declared).isNone
  unknown.take (unknown.findIdx r.endsAt + 1)

section Visited

variable {r : Resolver} {info : TypeInfo}

theorem visited_of_known {found : Option CompanionEntry}
    (h : r.table.lookup info.declared = some found) : r.visited info = [] := by
  rw [visited]
  cases info <;> simp [TypeInfo.chain, h]

variable (hnew : r.table.lookup info.declared = none)
include hnew

theorem visited_of_ends (h : r.endsAt info = true) : r.visited info = [info] := by
  rw [visited]
  cases info <;> simp [TypeInfo.chain, hnew, h, List.findIdx_cons]

theorem visited_of_top (hparent : info.parent? = none) : r.visited info = [info] := by
  rw [visited, TypeInfo.chain_of_top hparent]
  simp [hnew, List.take_of_length_le]

/-- A search that goes on visits what a search for the parent visits. -/
theorem visited_of_parent {parent : TypeInfo} (h : r.endsAt info = false)
    (hparent : info.parent? = some parent) : r.visited info = info :: r.visited parent := by
  rw [visited, TypeInfo.chain_of_parent hparent]
  simp [visited, hnew, h, List.findIdx_cons]

theorem mem_visited_self : info ∈ r.visited info := by
  cases hends : r.endsAt info with
  | true =>
    rw [visited_of_ends hnew hends]
    exact List.mem_singleton_self info
  | false =>
    cases hparent : info.parent? with
    | none =>
      rw [visited_of_top hnew hparent]
      exact List.mem_singleton_self info
    | some parent =>
      rw [visited_of_parent hnew hends hparent]
      exact List.mem_cons_self

end Visited

theorem visited_initial (r : Resolver) (info : TypeInfo) : r.visited info <+: info.chain :=
  (List.take_prefix _ _).trans (List.takeWhile_prefix _)

/-- **A search does not get beyond a type at which it ends.** -/
theorem visited_initial_of_ends {r : Resolver} {info up : TypeInfo} {below above : List TypeInfo}
    (hchain : info.chain = below ++ up :: above) (h : r.endsAt up = true) :
    r.visited info <+: below ++ [up] := by
  have hsplit : info.chain = (below ++ [up]) ++ above := by
    rw [hchain, List.append_assoc, List.singleton_append]
  have hlength : (r.visited info).length ≤ (below ++ [up]).length := by
    rw [visited, List.length_take, List.length_append, List.length_singleton]
    refine Nat.le_trans (Nat.min_le_left _ _) (Nat.succ_le_succ ?_)
    by_contra hbeyond
    have hlt := Nat.lt_of_not_le hbeyond
    have hin := Nat.lt_of_lt_of_le hlt List.findIdx_le_length
    have hnot := List.not_of_lt_findIdx hlt
    rw [(List.takeWhile_prefix _).getElem hin] at hnot
    simp [hchain, h] at hnot
  exact List.prefix_of_prefix_length_le (hsplit ▸ r.visited_initial info)
    (List.prefix_append _ _) hlength

/-! ## One search -/

/-- What is kept for a type that nothing was kept for comes on top. -/
theorem table_keep {r : Resolver} {info : TypeInfo} (hnew : r.table.lookup info.declared = none)
    (found : Option CompanionEntry) :
    (r.keep info found).table = (info.declared, found) :: r.table := by
  rw [keep, filter_ne_of_lookup hnew]

/-- What a search for a type adds to a resolver. -/
structure Accounted (r : Resolver) (info : TypeInfo)
    (result : Except BindingError (Option CompanionEntry)) (r' : Resolver) : Prop where
  /-- Each visit is a traversal. -/
  traversals : r'.traversals = r.traversals + (r.visited info).length
  /-- What is found is kept for each type visited, and nothing else is. -/
  kept : ∀ found, result = .ok found →
    r'.table = (r.visited info).map (fun up => (up.declared, found)) ++ r.table
  /-- A search is refused at the last type visited, and nothing is kept. -/
  refused : ∀ e, result = .error e → r'.table = r.table ∧ ∃ below up entry,
    r.visited info = below ++ [up] ∧
      r.registry.get? (Naming.companionPath up.name) = some entry ∧ entry.target ≠ up.declared ∧
      e = .signatureMismatch up.name (Naming.companionPath up.name) entry.target

variable {r r' : Resolver} {info : TypeInfo}
  {result : Except BindingError (Option CompanionEntry)}

theorem Search.places (h : Search r info result r') :
    r'.registry = r.registry ∧ r'.boundary = r.boundary := by
  induction h with
  | known _ => exact ⟨rfl, rfl⟩
  | own _ _ _ => exact ⟨rfl, rfl⟩
  | foreign _ _ _ => exact ⟨rfl, rfl⟩
  | framework _ _ _ => exact ⟨rfl, rfl⟩
  | top _ _ _ _ => exact ⟨rfl, rfl⟩
  | inherited _ _ _ _ _ ih => exact ih
  | stopped _ _ _ _ _ ih => exact ih

theorem endsAt_of_entry {entry : CompanionEntry}
    (h : r.registry.get? (Naming.companionPath info.name) = some entry) :
    r.endsAt info = true := by
  simp [endsAt, h]

theorem endsAt_of_framework (h : r.boundary.isFramework info.name = true) :
    r.endsAt info = true := by
  simp [endsAt, h]

theorem endsAt_of_neither (hentry : r.registry.get? (Naming.companionPath info.name) = none)
    (hframework : r.boundary.isFramework info.name = false) : r.endsAt info = false := by
  simp [endsAt, hentry, hframework]

/-- A search that ends where it begins, with an answer. -/
theorem Accounted.of_one {found : Option CompanionEntry}
    (hnew : r.table.lookup info.declared = none) (hvisited : r.visited info = [info]) :
    Accounted r info (.ok found) (r.traverse.keep info found) where
  traversals := by rw [hvisited]; rfl
  kept found' hfound := by
    rw [table_keep (r := r.traverse) hnew, hvisited, Except.ok.inj hfound]
    rfl
  refused := nofun

/-- **A search is accounted for**, one more visit being one more traversal, and one more entry
unless the search is refused. -/
theorem Search.accounted (family : TypeFamily) (h : Search r info result r')
    (hinfo : family.has info) : Accounted r info result r' := by
  induction h with
  | known h =>
    have hvisited := visited_of_known h
    refine ⟨by rw [hvisited]; rfl, fun found _ => by rw [hvisited]; rfl, nofun⟩
  | own hnew hentry _ => exact .of_one hnew (visited_of_ends hnew (endsAt_of_entry hentry))
  | @foreign r info entry hnew hentry htarget =>
    have hvisited := visited_of_ends hnew (endsAt_of_entry hentry)
    refine ⟨by rw [hvisited]; rfl, nofun, fun e he => ⟨rfl, [], info, entry, hvisited, hentry,
      htarget, (Except.error.inj he).symm⟩⟩
  | framework hnew _ hframework =>
    exact .of_one hnew (visited_of_ends hnew (endsAt_of_framework hframework))
  | top hnew _ _ hparent => exact .of_one hnew (visited_of_top hnew hparent)
  | @inherited r r' info parent found hnew hentry hframework hparent _ ih =>
    obtain ⟨htraversals, hkept, -⟩ := ih (family.parent hinfo hparent)
    have hvisited := visited_of_parent hnew (endsAt_of_neither hentry hframework) hparent
    have htable := hkept found rfl
    -- The types visited above have other declared paths, so nothing is kept for this one yet.
    have hstill : r'.table.lookup info.declared = none := by
      rw [← Option.not_isSome_iff_eq_none, lookup_isSome_iff, htable, List.map_append,
        List.map_map, List.mem_append]
      rintro (habove | hbefore)
      · obtain ⟨up, hup, hdeclared⟩ := List.mem_map.mp habove
        exact family.declared_ne hinfo hparent ((visited_initial _ _).subset hup) hdeclared.symm
      · rw [← lookup_isSome_iff] at hbefore
        rw [show r.traverse.table.lookup info.declared = none from hnew] at hbefore
        cases hbefore
    refine ⟨?_, fun found' hfound => ?_, nofun⟩
    · rw [hvisited, List.length_cons]
      have : r'.traversals = r.traversals + 1 + (r.visited parent).length := htraversals
      show r'.traversals = _
      omega
    · rw [table_keep hstill, htable, hvisited, ← Except.ok.inj hfound]
      rfl
  | @stopped r r' info parent e hnew hentry hframework hparent _ ih =>
    obtain ⟨htraversals, -, hrefused⟩ := ih (family.parent hinfo hparent)
    have hvisited := visited_of_parent hnew (endsAt_of_neither hentry hframework) hparent
    refine ⟨?_, nofun, fun e' he => ?_⟩
    · rw [hvisited, List.length_cons]
      have : r'.traversals = r.traversals + 1 + (r.visited parent).length := htraversals
      omega
    · obtain ⟨htable, below, up, entry, hup, hrest⟩ := hrefused e' he
      exact ⟨htable, info :: below, up, entry, hvisited.trans (congrArg _ hup), hrest⟩

/-- **A search is refused once it visits a type at whose path there is a companion for another
one.** -/
theorem Search.refused_of_visited (h : Search r info result r') {up : TypeInfo}
    {entry : CompanionEntry} (hup : up ∈ r.visited info)
    (hentry : r.registry.get? (Naming.companionPath up.name) = some entry)
    (htarget : entry.target ≠ up.declared) :
    result = .error (.signatureMismatch up.name (Naming.companionPath up.name) entry.target) := by
  induction h with
  | known h =>
    rw [visited_of_known h] at hup
    cases hup
  | own hnew hown howns =>
    rw [visited_of_ends hnew (endsAt_of_entry hown), List.mem_singleton] at hup
    subst hup
    obtain rfl := Option.some.inj (hown.symm.trans hentry)
    exact absurd howns htarget
  | foreign hnew hforeign _ =>
    rw [visited_of_ends hnew (endsAt_of_entry hforeign), List.mem_singleton] at hup
    subst hup
    obtain rfl := Option.some.inj (hforeign.symm.trans hentry)
    rfl
  | framework hnew hnone hframework =>
    rw [visited_of_ends hnew (endsAt_of_framework hframework), List.mem_singleton] at hup
    subst hup
    cases hnone.symm.trans hentry
  | top hnew hnone _ hparent =>
    rw [visited_of_top hnew hparent, List.mem_singleton] at hup
    subst hup
    cases hnone.symm.trans hentry
  | inherited hnew hnone hframework hparent _ ih =>
    rw [visited_of_parent hnew (endsAt_of_neither hnone hframework) hparent] at hup
    rcases List.mem_cons.mp hup with rfl | hup
    · cases hnone.symm.trans hentry
    · cases ih hup hentry
  | stopped hnew hnone hframework hparent _ ih =>
    rw [visited_of_parent hnew (endsAt_of_neither hnone hframework) hparent] at hup
    rcases List.mem_cons.mp hup with rfl | hup
    · cases hnone.symm.trans hentry
    · exact ih hup hentry

/-! ## Companions that a search cannot see -/

/-- The resolver with other companions to be found. -/
def among (r : Resolver) (registry : Registry) : Resolver := { r with registry := registry }

/-- **A search sees no companion but those at the paths of the types that it visits.** -/
theorem Search.among {registry : Registry} (h : Search r info result r')
    (hsame : ∀ up ∈ r.visited info, registry.get? (Naming.companionPath up.name) =
      r.registry.get? (Naming.companionPath up.name)) :
    Search (r.among registry) info result (r'.among registry) := by
  induction h with
  | known h => exact .known h
  | @own r info entry hnew hentry htarget =>
    have hself := hsame info (by simp [visited_of_ends hnew (endsAt_of_entry hentry)])
    exact Search.own (r := r.among registry) hnew (hself.trans hentry) htarget
  | @foreign r info entry hnew hentry htarget =>
    have hself := hsame info (by simp [visited_of_ends hnew (endsAt_of_entry hentry)])
    exact Search.foreign (r := r.among registry) hnew (hself.trans hentry) htarget
  | @framework r info hnew hentry hframework =>
    have hself := hsame info (by simp [visited_of_ends hnew (endsAt_of_framework hframework)])
    exact Search.framework (r := r.among registry) hnew (hself.trans hentry) hframework
  | @top r info hnew hentry hframework hparent =>
    have hself := hsame info (by simp [visited_of_top hnew hparent])
    exact Search.top (r := r.among registry) hnew (hself.trans hentry) hframework hparent
  | @inherited r r' info parent found hnew hentry hframework hparent _ ih =>
    rw [visited_of_parent hnew (endsAt_of_neither hentry hframework) hparent] at hsame
    have habove := ih fun up hup => hsame up (List.mem_cons_of_mem _ hup)
    have hhere := Search.inherited (r := r.among registry) hnew
      ((hsame info List.mem_cons_self).trans hentry) hframework hparent habove
    exact hhere
  | @stopped r r' info parent e hnew hentry hframework hparent _ ih =>
    rw [visited_of_parent hnew (endsAt_of_neither hentry hframework) hparent] at hsame
    have habove := ih fun up hup => hsame up (List.mem_cons_of_mem _ hup)
    exact Search.stopped (r := r.among registry) hnew
      ((hsame info List.mem_cons_self).trans hentry) hframework hparent habove

/-- A search has one result and leaves one resolver behind. -/
theorem Search.unique (h : Search r info result r') {result₂ : Except BindingError _}
    {r₂ : Resolver} (h₂ : Search r info result₂ r₂) : result = result₂ ∧ r' = r₂ := by
  induction h generalizing result₂ r₂ with
  | known h => cases h₂ <;> simp_all
  | own _ _ _ => cases h₂ <;> simp_all
  | foreign _ _ _ => cases h₂ <;> simp_all
  | framework _ _ _ => cases h₂ <;> simp_all
  | top _ _ _ _ => cases h₂ <;> simp_all
  | inherited _ _ _ hparent _ ih =>
    cases h₂ with
    | inherited _ _ _ hparent₂ habove =>
      obtain rfl := Option.some.inj (hparent₂.symm.trans hparent)
      obtain ⟨hfound, rfl⟩ := ih habove
      rw [Except.ok.inj hfound]
      exact ⟨rfl, rfl⟩
    | stopped _ _ _ hparent₂ habove =>
      obtain rfl := Option.some.inj (hparent₂.symm.trans hparent)
      cases (ih habove).1
    | _ => simp_all
  | stopped _ _ _ hparent _ ih =>
    cases h₂ with
    | inherited _ _ _ hparent₂ habove =>
      obtain rfl := Option.some.inj (hparent₂.symm.trans hparent)
      cases (ih habove).1
    | stopped _ _ _ hparent₂ habove =>
      obtain rfl := Option.some.inj (hparent₂.symm.trans hparent)
      exact ih habove
    | _ => simp_all

/-! ## Runs -/

/-- The resolver with one more companion to be found, in place of the one at its path. -/
def register (r : Resolver) (entry : CompanionEntry) : Resolver :=
  r.among (r.registry.insert entry)

/-- Binders register companions with their resolvers. -/
theorem resolver_register {κ : Type} (b : Binder κ) (entry : CompanionEntry) :
    (b.register entry).resolver = b.resolver.register entry := rfl

/-- What a resolver with types of a family is asked to do. -/
inductive Call (family : TypeFamily) where
  | register (entry : CompanionEntry)
  | resolve (info : TypeInfo) (h : family.has info)

variable {family : TypeFamily}

/-- The resolver after a call. -/
def answer (r : Resolver) : Call family → Resolver
  | .register entry => r.register entry
  | .resolve info _ => (r.resolve info).resolver

/-- The resolver after calls that are made one after the other. -/
def after (r : Resolver) (calls : List (Call family)) : Resolver := calls.foldl answer r

/-- The visits of a call that is refused. -/
def waste (r : Resolver) : Call family → Nat
  | .register _ => 0
  | .resolve info _ =>
    match (r.resolve info).result with
    | .ok _ => 0
    | .error _ => (r.visited info).length

/-- The visits of all calls that are refused. -/
def wasted (r : Resolver) : List (Call family) → Nat
  | [] => 0
  | call :: rest => r.waste call + wasted (r.answer call) rest

/-- What is kept stays, whatever is called for. -/
theorem lookup_after (r : Resolver) (calls : List (Call family)) {declared : String}
    {found : Option CompanionEntry} (h : r.table.lookup declared = some found) :
    (r.after calls).table.lookup declared = some found := by
  induction calls generalizing r with
  | nil => exact h
  | cons call rest ih =>
    refine ih (r.answer call) ?_
    cases call with
    | register entry => exact h
    | resolve info hinfo => exact (r.search_resolve info).keeps h

/-- A resolver does not search for what it keeps. -/
theorem resolve_of_known (h : r.table.lookup info.declared = some found) :
    (r.resolve info).result = .ok found ∧ (r.resolve info).resolver = r :=
  (r.search_resolve info).unique (.known h)

theorem traversals_answer (r : Resolver) (call : Call family) :
    (r.answer call).traversals + r.table.length =
      r.traversals + ((r.answer call).table.length + r.waste call) := by
  cases call with
  | register entry => rfl
  | resolve info hinfo =>
    obtain ⟨htraversals, hkept, hrefused⟩ := (r.search_resolve info).accounted family hinfo
    rw [answer, waste, htraversals]
    cases hresult : (r.resolve info).result with
    | ok found =>
      rw [hkept found hresult, List.length_append, List.length_map]
      dsimp only
      omega
    | error e =>
      rw [(hrefused e hresult).1]
      dsimp only
      omega

/-- Traversals, entries and the visits of refused calls keep in step. -/
theorem traversals_after (r : Resolver) (calls : List (Call family)) :
    (r.after calls).traversals + r.table.length =
      r.traversals + ((r.after calls).table.length + r.wasted calls) := by
  induction calls generalizing r with
  | nil => rfl
  | cons call rest ih =>
    have hcall := r.traversals_answer call
    have hrest := ih (r.answer call)
    rw [after, List.foldl_cons, wasted]
    rw [after] at hrest
    omega

/-- How a resolver answers a call for a type. -/
structure Accounts (r : Resolver) (info : TypeInfo) : Prop
    extends Accounted r info (r.resolve info).result (r.resolve info).resolver where
  /-- The types of the chain are visited in order, nearest first. -/
  ordered : r.visited info <+: info.chain
  /-- Nothing above a type of a framework is visited. -/
  bounded : ∀ below up above, info.chain = below ++ up :: above →
    r.boundary.isFramework up.name = true → r.visited info <+: below ++ [up]
  /-- Companions at other paths than those of the types visited do not matter. -/
  elsewhere : ∀ registry : Registry, (∀ up ∈ r.visited info,
      registry.get? (Naming.companionPath up.name) =
        r.registry.get? (Naming.companionPath up.name)) →
    ((r.among registry).resolve info).result = (r.resolve info).result ∧
      ((r.among registry).resolve info).resolver = (r.resolve info).resolver.among registry

theorem accounts_of_has (r : Resolver) (hinfo : family.has info) : r.Accounts info where
  toAccounted := (r.search_resolve info).accounted family hinfo
  ordered := r.visited_initial info
  bounded _ _ _ hchain hframework :=
    visited_initial_of_ends hchain (endsAt_of_framework hframework)
  elsewhere registry hsame := ((r.among registry).search_resolve info).unique
    ((r.search_resolve info).among hsame)

/-- **Every traversal is accounted for.** However registrations and calls alternate on a resolver
that begins with an empty table:

* the traversals are the entries of the table and the visits of the calls that were refused;
* what is kept for a type stays, and is what every later call for the type gives, which changes
  nothing, whatever is registered meanwhile;
* the next call makes a traversal for each type that it visits, and keeps what it finds for each of
  them, or nothing if it is refused. -/
theorem after_accounts (family : TypeFamily) (registry : Registry) (boundary : Boundary)
    (calls : List (Call family)) :
    (after { registry, boundary } calls).traversals =
        (after { registry, boundary } calls).table.length + wasted { registry, boundary } calls ∧
      (∀ (info : TypeInfo) (found : Option CompanionEntry) (later : List (Call family)),
        (after { registry, boundary } calls).table.lookup info.declared = some found →
        (after { registry, boundary } (calls ++ later)).table.lookup info.declared = some found ∧
        ((after { registry, boundary } (calls ++ later)).resolve info).result = .ok found ∧
        ((after { registry, boundary } (calls ++ later)).resolve info).resolver =
          after { registry, boundary } (calls ++ later)) ∧
      ∀ info, family.has info → (after { registry, boundary } calls).Accounts info := by
  refine ⟨?_, fun info found later hkept => ?_, fun info hinfo => accounts_of_has _ hinfo⟩
  · have h := traversals_after { registry, boundary } calls
    simpa using h
  · have hlater : (after { registry, boundary } (calls ++ later)).table.lookup info.declared =
        some found := by
      rw [after, List.foldl_append]
      exact lookup_after _ later hkept
    exact ⟨hlater, resolve_of_known hlater⟩

end Resolver
end Theming
