/-
# Targets that can be bound again

A target of a type is poised if it holds what the layout of the type asks for, and if its active
companion, where it has one, is of the entry that the resolver has kept for the type and has the
handle to the part that the entry is for (`World.Poised`). So the companion that a bind is about to
make is for the same part, and keeps the same fields, as the one that it releases.

Binding a poised target releases that companion and lets the new one join, whatever user code may do
(`World.Poised.bind`).
-/

import Theming.Proofs.Fitting
import Theming.Proofs.Search

namespace Theming

/-! ## The way to an ancestor -/

namespace Catalog

variable {catalog : Catalog}

/-- Each field on the way to an ancestor leads one type up. -/
theorem Embeds.chain_length {A C : TypeDefinition} {path : List String}
    (h : catalog.Embeds A path C) : A.info.chain.length = C.info.chain.length + path.length := by
  induction h with
  | self _ => rfl
  | up _ _ hinfo _ ih =>
    rw [hinfo, TypeInfo.chain, List.length_cons, ih, List.length_cons, Nat.add_assoc]

/-- No type is embedded in itself. -/
theorem Embeds.declared_ne {A C : TypeDefinition} {name : String} {path : List String}
    (h : catalog.Embeds A (name :: path) C) (hA : catalog.has A) :
    A.info.declared ≠ C.info.declared := by
  intro heq
  obtain rfl := catalog.unique hA h.has heq
  have hlength := h.chain_length
  rw [List.length_cons] at hlength
  omega

/-- **A handle can be taken to where a type is embedded.** -/
theorem climb_of_embeds {A C : TypeDefinition} {path : List String} (h : catalog.Embeds A path C)
    (origin : String) {handle : Handle} (htype : handle.type = A.info.declared) :
    A.info.climb origin C.info.declared handle =
      .ok ⟨handle.target, handle.path ++ path, C.info.declared⟩ := by
  induction h generalizing handle with
  | @self A _ =>
    have hhere : A.info.climb origin A.info.declared handle = .ok handle := by
      cases A.info <;> exact if_pos rfl
    rw [hhere, List.append_nil, ← htype]
  | @up A B C declared name via path hA hB hinfo h ih =>
    have hdeclared : A.info.declared = declared := by rw [hinfo]; rfl
    have hne : declared ≠ C.info.declared := hdeclared ▸ (Embeds.up hA hB hinfo h).declared_ne hA
    have hexpect : handle.expect declared = .ok handle := if_pos (htype.trans hdeclared)
    have hup := @ih ⟨handle.target, handle.path ++ [via], B.info.declared⟩ rfl
    rw [List.append_assoc, List.singleton_append] at hup
    rw [hinfo, TypeInfo.climb, if_neg hne, Handle.project, hexpect]
    exact hup

end Catalog

/-- What is prepared for a target whose type embeds another one with a companion. -/
theorem Binder.prepared_of_embeds {catalog : Catalog} {κ : Type} {b : Binder κ}
    {T A : TypeDefinition} {path : List String} {name : String} (h : catalog.Embeds T path A)
    (hresolve : (b.resolver.resolve T.info).result = .ok (some (.keeper A name)))
    (t : TargetId) : b.prepared T.info t = .ok (.keeper A name, ⟨t, path, A.info.declared⟩) := by
  have hup : T.info.upcast ⟨t, [], T.info.declared⟩ A.info.declared =
      .ok ⟨t, path, A.info.declared⟩ :=
    Catalog.climb_of_embeds h T.info.name rfl
  rw [Binder.prepared_of_found hresolve]
  change (T.info.upcast ⟨t, [], T.info.declared⟩ A.info.declared).map _ = _
  rw [hup]
  rfl

namespace Live

variable {catalog : Catalog} {t : TargetId} {T : TypeDefinition} {w w' : World}

/-! ## Poised targets -/

/-- A companion is of the entry that is kept for a type, and has the handle to the part of a target
of that type that the entry is for. -/
def World.Serves (w : World) (t : TargetId) (T : TypeDefinition) (id : CompanionId) : Prop :=
  ∃ c h, w.companions[id]? = some c ∧ c.target = some h ∧
    w.binder.resolver.table.lookup T.info.declared = some (some c.entry) ∧
    T.info.upcast ⟨t, [], T.info.declared⟩ c.entry.target = .ok h

/-- A target of a declared type that holds what its layout asks for, and whose active companion, if
it has one, serves it. -/
structure World.Poised (catalog : Catalog) (w : World) (t : TargetId) (T : TypeDefinition) :
    Prop where
  type : w.typeOf? t = some T
  has : catalog.has T
  shapes : ∀ p l, T.layout.at? p = some l → ∃ k, w.kindAt? t p = some k ∧ k.Suits l
  keys : (w.binder.active.map Prod.fst).Nodup
  served : ∀ id, w.binder.active.lookup t = some id → w.Serves t T id

namespace World.Poised

/-- The fields of an ancestor are there. -/
theorem suited (h : w.Poised catalog t T) {path : List String} {A : TypeDefinition}
    (hA : catalog.Embeds T path A) (type : String) : w.Suited ⟨t, path, type⟩ A.bound :=
  fun _ hf => h.shapes _ _ (hA.layout_bound hf)

/-- **The active companion is like the one that the next bind makes**: it is of the same entry, and
for the same part of the target. -/
theorem companion (h : w.Poised catalog t T) {id : CompanionId}
    (hid : w.binder.active.lookup t = some id) {entry : CompanionEntry} {handle : Handle}
    (hprepared : w.binder.prepared T.info t = .ok (entry, handle)) :
    ∃ context, w.companions[id]? = some ⟨entry, context, some handle⟩ := by
  obtain ⟨⟨entry', context, target⟩, handle', hc, rfl, htable, hup⟩ := h.served id hid
  obtain ⟨hresult, hup'⟩ := Binder.of_prepared hprepared
  have hknown := (w.binder.resolver.search_resolve T.info).of_known htable
  obtain rfl := Option.some.inj (Except.ok.inj (hknown.symm.trans hresult))
  obtain rfl := Except.ok.inj (hup.symm.trans hup')
  exact ⟨context, hc⟩

end World.Poised

/-! ## Releasing a companion that keeps fields -/

/-- The fields that a companion kept are cleared where they are no slots, and nothing else that
targets hold has changed. -/
structure Emptied (w : World) (handle : Handle) (fields : List BoundField) (w' : World) :
    Prop where
  types : ∀ t, w'.typeOf? t = w.typeOf? t
  kinds : ∀ t p, w'.kindAt? t p = w.kindAt? t p
  cleared : ∀ f ∈ fields, ∀ c, f.cleared? = some c →
    w'.content? handle.target (handle.path ++ [f.name]) = some c
  rest : ∀ t p, (t = handle.target → ∀ f ∈ fields, f.shape ≠ .reactive →
    ¬ p <+: handle.path ++ [f.name]) → w'.content? t p = w.content? t p

/-- A release that leaves the other targets alone concerns the target only. -/
theorem Spares.of_vacated (htypes : ∀ t', (w.vacated t).typeOf? t' = w.typeOf? t')
    (hkinds : ∀ t' p, (w.vacated t).kindAt? t' p = w.kindAt? t' p)
    (hcontents : ∀ t', t' ≠ t → ∀ p, (w.vacated t).content? t' p = w.content? t' p) :
    Spares t w (w.vacated t) where
  types := htypes
  sorts t' p k hk := ⟨k, (hkinds t' p).trans hk, fun _ hl => hl⟩
  contents := hcontents
  bindings t' ht := by rw [w.binder_vacated, World.lookup_without_of_ne ht]
  slots := (congrArg List.length (w.slots_vacated t)).ge
  readings s _ := by rw [World.reading, World.reading, w.slots_vacated]

section Keeper

variable {id : CompanionId} {A : TypeDefinition} {name : String} {context : Context}
  {handle : Handle} (hid : w.binder.active.lookup t = some id)
  (hc : w.companions[id]? = some ⟨.keeper A name, context, some handle⟩)
  (hsuited : w.Suited handle A.bound) (hA : catalog.has A)
include hid hc hsuited hA

/-- A companion that keeps fields stops to listen, clears them and lets go of its target. -/
theorem vacated_of_keeper :
    w.vacated t = (((w.without t).removeListener context.broadcaster
      (.companion id)).resetFields handle A.bound).detach id := by
  set w₁ : World := (w.without t).removeListener context.broadcaster (.companion id)
  have hsuited₁ : w₁.Suited handle A.bound := hsuited
  have hcleared := resetFields_cleared hsuited₁ (Catalog.bound_names hA)
  have hunbind := unbindCompanion_of_keeper (w := w.without t) hc
  rw [World.vacated_of_bound hid, hunbind]
  exact clearCompanion_of_keeper ((congrArg (·[id]?) hcleared.steady.companions).trans hc)

theorem vacated_emptied : Emptied w handle A.bound (w.vacated t) := by
  set w₁ : World := (w.without t).removeListener context.broadcaster (.companion id) with hw₁
  have hsuited₁ : w₁.Suited handle A.bound := hsuited
  have hcleared := resetFields_cleared hsuited₁ (Catalog.bound_names hA)
  rw [vacated_of_keeper hid hc hsuited hA]
  exact ⟨hcleared.steady.types, hcleared.steady.kinds, hcleared.applied, hcleared.rest⟩

end Keeper

namespace World.Poised

variable (h : w.Poised catalog t T) {path : List String} {A : TypeDefinition} {name : String}
  (hA : catalog.Embeds T path A)
  (hresolve : (w.binder.resolver.resolve T.info).result = .ok (some (.keeper A name)))
include h hA hresolve

/-- **Before a bind makes a companion, it changes nothing but the fields that this one is going to
keep.** -/
theorem vacated : (∀ t', (w.vacated t).typeOf? t' = w.typeOf? t') ∧
    (∀ t' p, (w.vacated t).kindAt? t' p = w.kindAt? t' p) ∧
    ∀ t' p, (t' = t → ∀ f ∈ A.bound, ¬ p <+: path ++ [f.name]) →
      (w.vacated t).content? t' p = w.content? t' p := by
  cases hid : w.binder.active.lookup t with
  | none =>
    rw [vacated_of_unbound hid]
    exact ⟨fun _ => rfl, fun _ _ => rfl, fun _ _ _ => rfl⟩
  | some id =>
    obtain ⟨context, hc⟩ := h.companion hid (Binder.prepared_of_embeds hA hresolve t)
    have hemptied := vacated_emptied hid hc (h.suited hA _) hA.has
    exact ⟨hemptied.types, hemptied.kinds,
      fun t' p hp => hemptied.rest t' p fun ht f hf _ => hp ht f hf⟩

/-- A release before a bind concerns the target only. -/
theorem spares_vacated : Spares t w (w.vacated t) := by
  obtain ⟨htypes, hkinds, hrest⟩ := h.vacated hA hresolve
  exact .of_vacated htypes hkinds fun t' ht p => hrest t' p fun heq => absurd heq ht

end World.Poised

/-- Worlds that are akin differ in no target. -/
theorem Spares.of_akin (h : Akin w w') : Spares t w w' := by
  obtain ⟨_, _, rfl⟩ := h
  exact .of_eq rfl rfl rfl

/-! ## Binding -/

/-- The world after a companion has been made that keeps the bound fields of a type, listens, and
is the active one of a target that was not bound. -/
def World.joined (w : World) (A : TypeDefinition) (name : String) (handle : Handle)
    (context : Context) : World :=
  let id := w.companions.length
  let w := (w.fitted (.keeper A name) A.bound handle context).addListener context.broadcaster
    (.companion id)
  { w with binder := { w.binder with active := (handle.target, id) :: w.binder.active } }

theorem Akin.joined (h : Akin w w') (A : TypeDefinition) (name : String) (handle : Handle)
    (context : Context) : Akin (w.joined A name handle context) (w'.joined A name handle context) := by
  have hcompanions : w'.companions = w.companions := by
    obtain ⟨_, _, rfl⟩ := h
    rfl
  obtain ⟨resolver, trace, hfitted⟩ := (h.fitted (.keeper A name) A.bound handle
    context).addListener context.broadcaster (.companion w.companions.length)
  refine ⟨resolver, trace, ?_⟩
  rw [World.joined, hcompanions, hfitted]
  rfl

/-- What binding a target of a type comes to: it has been released, and a new companion has joined
that serves it. -/
structure Rebound (w : World) (t : TargetId) (T A : TypeDefinition) (name : String)
    (handle : Handle) (context : Context) (w' : World) : Prop where
  akin : Akin ((w.vacated t).joined A name handle context) w'
  resolver : w'.binder.resolver = (w.binder.resolver.resolve T.info).resolver
  active : w'.binder.active = (t, w.companions.length) :: (w.without t).binder.active
  companions : w'.companions =
    (w.vacated t).companions ++ [⟨.keeper A name, context, some handle⟩]
  spares : Spares t w w'
  serves : w'.Serves t T w.companions.length

namespace World.Poised

variable (h : w.Poised catalog t T) {path : List String} {A : TypeDefinition} {name : String}
  (hA : catalog.Embeds T path A)
  (hresolve : (w.binder.resolver.resolve T.info).result = .ok (some (.keeper A name)))
  (context : Context)
include h hA hresolve

/-- The fields are there when the target has been released. -/
theorem suited_vacated {w₁ : World} (hakin : Akin (w.vacated t) w₁) (type : String) :
    w₁.Suited ⟨t, path, type⟩ A.bound := by
  intro f hf
  rw [hakin.kindAt?, (h.vacated hA hresolve).2.1]
  exact h.suited hA type f hf

/-- **A bind comes to a world in which a new companion has joined**, whatever user code may do. -/
theorem bind : ∃ w', (∀ act, Live.bind act t context w = some (.ok (), w')) ∧
    Rebound w t T A name ⟨t, path, A.info.declared⟩ context w' := by
  set handle : Handle := ⟨t, path, A.info.declared⟩ with hhandle
  have hprepared := Binder.prepared_of_embeds hA hresolve t
  have hnames := Catalog.bound_names hA.has
  obtain ⟨trace, hrelease⟩ := releaseActive_run (w.resolving T.info) T.info t
  set w₁ : World := { ((w.resolving T.info).vacated t) with trace }
  have hakin : Akin (w.vacated t) w₁ :=
    ((Akin.resolving w T.info).vacated t).trans (.retrace _ trace)
  have hsuited : w₁.Suited handle A.bound := h.suited_vacated hA hresolve hakin _
  obtain ⟨hfitted, hcompanions⟩ := fitted_fitted (.keeper A name) context hsuited hnames
  set w₂ := (w₁.fitted (.keeper A name) A.bound handle context).addListener context.broadcaster
    (.companion w₁.companions.length)
  have hconstruct : ∀ act, construct act (.keeper A name) handle context w₁ =
      some (.ok w₁.companions.length, w₂) := fun act =>
    construct_run rfl (attach_fitted (.keeper A name) context hsuited hnames rfl act)
  have hbinder : w₂.binder = { (w.without t).binder with
      resolver := (w.binder.resolver.resolve T.info).resolver } := by
    obtain ⟨trace', hresolving⟩ := w.resolving_eq T.info
    refine (hfitted.binder.trans ((w.resolving T.info).binder_vacated t)).trans ?_
    rw [World.without, hresolving]
    rfl
  have hlength : w₁.companions.length = w.companions.length := by
    obtain ⟨resolver, trace', heq⟩ := hakin
    rw [heq]
    exact (w.companions_vacated t).1
  have hkept : w₁.companions = (w.vacated t).companions := by
    obtain ⟨resolver, trace', heq⟩ := hakin
    rw [heq]
  have hunbound : w₂.binder.active.lookup t = none := by
    rw [hbinder]
    exact w.lookup_without t
  have hinstall := install_run w₂ T.info w₁.companions.length hunbound
  refine ⟨_, fun act => bind_run h.type hprepared hrelease (hconstruct act) hinstall,
    (hakin.joined A name handle context).trans (.tell _ _ _), ?_, ?_, ?_, ?_, ?_⟩
  · change w₂.binder.resolver = _
    rw [hbinder]
  · change (t, w₁.companions.length) :: w₂.binder.active = _
    rw [hlength, hbinder]
  · change w₂.companions = _
    rw [← hkept]
    exact hcompanions
  · have hjoined : Spares t w₁ w₂ := hfitted.spares.trans (.of_eq rfl rfl rfl)
    have hreleased : Spares t w w₁ := (h.spares_vacated hA hresolve).trans (.of_akin hakin)
    exact (hreleased.trans hjoined).trans
      { Spares.refl t w₂ with
        bindings := fun _ ht => (lookup_cons_ite _ _ _ _).trans (if_neg ht) }
  · refine ⟨⟨.keeper A name, context, some handle⟩, handle, ?_, rfl, ?_,
      (Binder.of_prepared hprepared).2⟩
    · change w₂.companions[w.companions.length]? = _
      have hlast : w₂.companions = w₁.companions ++ [⟨.keeper A name, context, some handle⟩] :=
        hcompanions
      rw [hlast, ← hlength, List.getElem?_concat_length]
    · change w₂.binder.resolver.table.lookup T.info.declared = _
      rw [hbinder]
      have hsearch := w.binder.resolver.search_resolve T.info
      rw [hresolve] at hsearch
      exact hsearch.kept

end World.Poised

end Live
end Theming
