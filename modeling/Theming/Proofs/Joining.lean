/-
# Binding keeps the bonds

A bind releases the companion of its target, makes a new one with slots that were not there before,
and makes it the active one. It concerns that target only (`Bonds.bind`), since no value is stored
in an older slot, and it comes to the same whatever user code may do, since nobody observes a new
slot yet. If it fails, it has changed nothing but what its resolver has found.

Making known and asking for companions, and new targets, keep the bonds as well.
-/

import Theming.Proofs.Bonds

namespace Theming
namespace Live

variable {catalog : Catalog} {t : TargetId} {w w' w'' : World}

/-! ## Steps of the resolver -/

/-- Resolving changes the resolver, and is told. -/
theorem World.resolving_eq (w : World) (info : TypeInfo) :
    ∃ trace, w.resolving info = { w with
      binder := { w.binder with resolver := (w.binder.resolver.resolve info).resolver }
      trace } := by
  have htell : ∀ (steps : List String) (w : World),
      ∃ trace, steps.foldl (fun w step => w.tell .debug step) w = { w with trace } := by
    intro steps
    induction steps with
    | nil => exact fun w => ⟨w.trace, rfl⟩
    | cons step rest ih =>
      intro w
      obtain ⟨trace, h⟩ := ih (w.tell .debug step)
      exact ⟨trace, h⟩
  obtain ⟨trace, h⟩ := htell (w.binder.resolver.resolve info).told { w with
    binder := { w.binder with resolver := (w.binder.resolver.resolve info).resolver } }
  exact ⟨trace, h⟩

theorem Bonds.resolving (hb : Bonds catalog w) (info : TypeInfo) :
    Bonds catalog (w.resolving info) ∧ Spares t w (w.resolving info) := by
  obtain ⟨trace, h⟩ := w.resolving_eq info
  have hfinds := (hb.finds.resolve info).resolver
  rw [h]
  have hspares : Spares t w { w with
      binder := { w.binder with resolver := (w.binder.resolver.resolve info).resolver }
      trace } := .of_eq rfl rfl rfl
  exact ⟨hb.spared hspares hfinds rfl rfl, hspares⟩

/-- Making the companion of a declared type known keeps the bonds. -/
theorem Bonds.register (hb : Bonds catalog w) {T : TypeDefinition} (hT : catalog.has T)
    (name : String) : Bonds catalog (w.register (.keeper T name)) ∧
      Spares t w (w.register (.keeper T name)) := by
  have hfinds : (w.register (.keeper T name)).binder.resolver.Finds catalog.Keeps := by
    rw [World.binder_register]
    exact hb.finds.insert ⟨T, name, hT, rfl⟩
  have hactive : (w.register (.keeper T name)).binder.active = w.binder.active := by
    rw [World.binder_register]
    rfl
  have hparts : (w.register (.keeper T name)).targets = w.targets ∧
      (w.register (.keeper T name)).slots = w.slots := by
    rw [World.register]
    cases w.binder.resolver.registry.warning? (.keeper T name) <;> exact ⟨rfl, rfl⟩
  have hspares : Spares t w (w.register (.keeper T name)) := .of_eq hparts.1 hparts.2 hactive
  exact ⟨hb.spared hspares hfinds hactive (w.companions_register _), hspares⟩

/-- **A new target keeps the bonds**, if it holds what its layout asks for. -/
theorem Bonds.grown (hb : Bonds catalog w) {T : TypeDefinition} (hT : catalog.has T) {c : Content}
    (hfits : c.Fits T.layout) (n : Nat) : Bonds catalog (w.grown T c n) where
  types := World.types_grown hb.types hT
  shapes := World.shapes_grown hb.shapes hfits
  finds := hb.finds
  keys := hb.keys
  attached id companion handle hc htarget := by
    obtain ⟨hattached, hmem⟩ := hb.attached id companion handle hc htarget
    exact ⟨hattached.grown, hmem⟩
  active := hb.active

/-! ## New slots -/

namespace Spares

theorem suited (h : Spares t w w') {handle : Handle} {fields : List BoundField}
    (hsuited : w.Suited handle fields) : w'.Suited handle fields := by
  intro f hf
  obtain ⟨k, hk, hsuits⟩ := hsuited f hf
  obtain ⟨k', hk', hsort⟩ := h.sorts _ _ k hk
  exact ⟨k', hk', hsort _ hsuits⟩

/-- A value is stored in a slot that was not there before. -/
theorem store (h : Spares t w w') {s : SlotId} (hs : w.slots.length ≤ s) (v : Value) :
    Spares t w (w'.store s v) where
  types := h.types
  sorts := h.sorts
  contents := h.contents
  bindings := h.bindings
  slots := by
    rw [World.store, List.length_modify]
    exact h.slots
  readings s' hs' := by
    have hne : s' ≠ s := by omega
    rw [World.reading, World.slots_store, if_neg hne]
    exact h.readings s' hs'

theorem storeAll (h : Spares t w w') {pending : List Pending}
    (hpending : ∀ p ∈ pending, w.slots.length ≤ p.slot) : Spares t w (w'.storeAll pending) := by
  rw [World.storeAll]
  induction pending generalizing w' with
  | nil => exact h
  | cons p rest ih =>
    exact ih (h.store (hpending p List.mem_cons_self) p.value)
      fun q hq => hpending q (List.mem_cons_of_mem _ hq)

/-- **Giving fields new slots concerns their target**, and changes no binding and no companion. -/
theorem allocate {handle : Handle} {fields : List BoundField} (hsuited : w.Suited handle fields)
    (hnames : (fields.map fun f => f.name).Nodup) :
    Spares handle.target w (w.allocate handle fields) ∧
      (w.allocate handle fields).binder = w.binder ∧
      (w.allocate handle fields).companions = w.companions := by
  induction fields generalizing w with
  | nil => exact ⟨.refl _ w, rfl, rfl⟩
  | cons field rest ih =>
    rw [List.map_cons, List.nodup_cons] at hnames
    have hrest : w.Suited handle rest := fun f hf => hsuited f (List.mem_cons_of_mem _ hf)
    have hname : ∀ f ∈ rest, f.name ≠ field.name :=
      fun f hf heq => hnames.1 (heq ▸ List.mem_map_of_mem hf)
    rw [World.allocate]
    cases hshape : field.shape with
    | value => exact ih hrest hnames.2
    | reference => exact ih hrest hnames.2
    | reactive =>
      obtain ⟨s, hk⟩ := hsuited.slot List.mem_cons_self hshape
      obtain ⟨hspares, hbinder, hcompanions⟩ := ih (hrest.give hk hname) hnames.2
      exact ⟨(Spares.give hk).trans hspares, hbinder, hcompanions⟩

end Spares

/-! ## Making a companion -/

/-- **A companion is made for fields that are there**, and it is the same one whatever user code may
do: all that is left to do is to let it listen. -/
theorem attach_spares (entry : CompanionEntry) {fields : List BoundField} {handle : Handle}
    (context : Context) (hconduct : entry.conduct = .keep fields)
    (hsuited : w.Suited handle fields) (hnames : (fields.map fun f => f.name).Nodup) :
    ∃ w', Spares handle.target w w' ∧ w'.binder = w.binder ∧
      w'.companions = w.companions ++ [⟨entry, context, some handle⟩] ∧
      ∀ act, Live.attach act entry fields handle context w =
        some (w.companions.length, w'.addListener context.broadcaster
          (.companion w.companions.length)) := by
  set w₁ := (w.addCompanion ⟨entry, context, some handle⟩).2 with hw₁
  have hsuited₁ : w₁.Suited handle fields := hsuited
  obtain ⟨hallocated, hbinder, hcompanions⟩ := Spares.allocate hsuited₁ hnames
  have hsuited₂ := hallocated.suited hsuited₁
  have hc : (w₁.allocate handle fields).companions[w.companions.length]? =
      some ⟨entry, context, some handle⟩ := by
    rw [hcompanions]
    exact List.getElem?_concat_length
  have hrun := updateTheme_of_unheard hc rfl hconduct hsuited₂ hnames
    (World.unheard_allocate hsuited₁ hnames)
  obtain ⟨-, hrefreshed⟩ :=
    updateFields_refreshed (w₁.allocate handle fields) handle context.manager fields hsuited₂ hnames
  have hnew : ∀ p ∈ ((w₁.allocate handle fields).updateFields handle context.manager fields).1,
      w₁.slots.length ≤ p.slot := by
    intro p hp
    obtain ⟨f, hf, hshape, hslot⟩ := hsuited₂.pending context.manager hnames hp
    exact World.beyond_allocate hsuited₁ hnames f hf hshape p.slot hslot
  have hadded : Spares handle.target w w₁ := .of_eq rfl rfl rfl
  have hstored := Steady.storeAll
    ((w₁.allocate handle fields).updateFields handle context.manager fields).2
    ((w₁.allocate handle fields).updateFields handle context.manager fields).1
  refine ⟨_, hadded.trans ((hallocated.trans (.of_refreshed hrefreshed)).storeAll hnew), ?_, ?_,
    fun act => attach_run entry context (hrun act)⟩
  · rw [hstored.binder, hrefreshed.steady.binder, hbinder]
    rfl
  · rw [hstored.companions, hrefreshed.steady.companions, hcompanions]
    rfl

/-- **A new companion that becomes the active one of its target keeps the bonds**, if there was none
before. -/
theorem Bonds.join (hb : Bonds catalog w) {c : Companion} {handle : Handle}
    (htarget : c.target = some handle) (hattached : w.Attached catalog c handle)
    (hunbound : w.binder.active.lookup handle.target = none) (hspares : Spares t w w')
    (hbinder : w'.binder = { w.binder with
      active := (handle.target, w.companions.length) :: w.binder.active })
    (hcompanions : w'.companions = w.companions ++ [c]) : Bonds catalog w' where
  types t' T hT := hb.types t' T ((hspares.types t').symm.trans hT)
  shapes := hb.shapes_of_spares hspares
  finds := by
    rw [hbinder]
    exact hb.finds
  keys := by
    rw [hbinder, List.map_cons, List.nodup_cons]
    refine ⟨fun hmem => ?_, hb.keys⟩
    have hsome := (lookup_isSome_iff handle.target w.binder.active).mpr hmem
    rw [hunbound] at hsome
    cases hsome
  attached id c' handle' hc htarget' := by
    rw [hcompanions, List.getElem?_append] at hc
    rw [hbinder]
    split_ifs at hc with hlt
    · obtain ⟨hattached', hmem⟩ := hb.attached id c' handle' hc htarget'
      exact ⟨hattached'.of_types hspares.types, List.mem_cons_of_mem _ hmem⟩
    · rw [List.getElem?_singleton] at hc
      split_ifs at hc with hlast
      obtain rfl := Option.some.inj hc
      obtain rfl := Option.some.inj (htarget.symm.trans htarget')
      obtain rfl : id = w.companions.length :=
        Nat.le_antisymm (Nat.sub_eq_zero_iff_le.mp hlast) (Nat.le_of_not_lt hlt)
      exact ⟨hattached.of_types hspares.types, List.mem_cons_self⟩
  active t' id hmem := by
    rw [hbinder] at hmem
    rw [hcompanions]
    rcases List.mem_cons.mp hmem with heq | hmem
    · obtain ⟨rfl, rfl⟩ := Prod.mk.inj heq
      exact ⟨c, handle, List.getElem?_concat_length, htarget, rfl⟩
    · obtain ⟨c', handle', hc', hrest⟩ := hb.active t' id hmem
      refine ⟨c', handle', ?_, hrest⟩
      rw [List.getElem?_append_left (List.getElem?_eq_some_iff.mp hc').1, hc']

/-! ## Binding -/

/-- That a companion listens and becomes active concerns its target. -/
theorem Spares.install (h : Spares t w w') (b : BroadcasterId) (id : CompanionId)
    (notice : Binder.Notice) :
    Spares t w (({ (w'.addListener b (.companion id)) with
      binder := { w'.binder with active := (t, id) :: w'.binder.active } } : World).tell
        notice.level notice.message) :=
  h.trans { Spares.refl t w' with
    bindings := fun _ ht => (lookup_cons_ite _ _ _ _).trans (if_neg ht) }

/-- The active companion of a target is released before another one is made. -/
theorem Bonds.releaseActive (hb : Bonds catalog w) (info : TypeInfo) (t : TargetId) :
    ∃ w', (Binder.releaseActive World.craft info t : Step Unit) w = some ((), w') ∧
      Bonds catalog w' ∧ Spares t w w' ∧ w'.binder.active.lookup t = none := by
  cases h : w.binder.active.lookup t with
  | none => exact ⟨w, releaseActive_of_unbound info h, hb, .refl t w, h⟩
  | some id =>
    have htell : Spares t w (w.replacing info id) := .of_eq rfl rfl rfl
    have hb' : Bonds catalog (w.replacing info id) := hb.steady (.tell w _ _)
    obtain ⟨hok, hreleases⟩ :=
      hb'.release (mem_of_lookup (l := (w.replacing info id).binder.active) h)
    refine ⟨_, releaseActive_of_bound info h hok, hreleases.bonds,
      htell.trans hreleases.spares, ?_⟩
    rw [hreleases.binder]
    exact (lookup_filter_ne _ _ _).trans (if_pos rfl)

/-- What binding a target comes to. -/
structure Joins (catalog : Catalog) (t : TargetId) (w : World) (r : Except BindingError Unit)
    (w' : World) : Prop where
  bonds : Bonds catalog w'
  spares : Spares t w w'
  /-- A bind that fails has left the target alone. -/
  failed : ∀ e, r = .error e → w'.targets = w.targets ∧ w'.slots = w.slots ∧
    w'.binder.active = w.binder.active

/-- Nothing is done to a target that is not there. -/
theorem bind_of_absent (h : w.typeOf? t = none) (context : Context) (act : Act) :
    Live.bind act t context w = some (.ok (), w) := by
  have htarget : w.targets[t]? = none := by simpa [World.typeOf?] using h
  have hget : (get : Step World) w = some (w, w) := rfl
  refine (Step.bind_eq hget).trans ?_
  rw [htarget]
  rfl

/-- What is prepared is the companion of a type that is embedded where the handle leads. -/
theorem Bonds.prepared (hb : Bonds catalog w) {T : TypeDefinition} (hT : w.typeOf? t = some T)
    {entry : CompanionEntry} {handle : Handle}
    (h : w.binder.prepared T.info t = .ok (entry, handle)) :
    ∃ A name, catalog.Embeds T handle.path A ∧ entry = .keeper A name ∧ handle.target = t ∧
      handle.type = A.info.declared := by
  obtain ⟨hresult, hup⟩ := Binder.of_prepared h
  have hkeeps := (hb.finds.resolve T.info).result entry hresult
  exact hkeeps.embeds (hb.types t T hT) hup

/-- **Binding concerns the target only**, and comes to the same whatever user code may do. -/
theorem Bonds.bind (hb : Bonds catalog w) {T : TypeDefinition} (hT : w.typeOf? t = some T)
    (context : Context) :
    ∃ r w', (∀ act, Live.bind act t context w = some (r, w')) ∧ Joins catalog t w r w' := by
  obtain ⟨hresolved, hspares⟩ := hb.resolving (t := t) T.info
  cases hprepared : w.binder.prepared T.info t with
  | error e =>
    obtain ⟨trace, hresolving⟩ := w.resolving_eq T.info
    refine ⟨.error e, _, fun act => bind_refused hT hprepared, hresolved, hspares, fun _ _ => ?_⟩
    rw [hresolving]
    exact ⟨rfl, rfl, rfl⟩
  | ok found =>
    obtain ⟨entry, handle⟩ := found
    obtain ⟨A, name, hembeds, rfl, rfl, htype⟩ := hb.prepared hT hprepared
    obtain ⟨w₁, hrelease, hb₁, hspares₁, hunbound⟩ := hresolved.releaseActive T.info handle.target
    have hT₁ : w₁.typeOf? handle.target = some T :=
      (hspares₁.types _).trans ((hspares.types _).trans hT)
    have hattached : w₁.Attached catalog ⟨.keeper A name, context, some handle⟩ handle :=
      ⟨_, A, name, hT₁, hembeds, rfl, htype⟩
    have hsuited : w₁.Suited handle A.bound := fun f hf =>
      hb₁.shapes handle.target _ hT₁ _ _ (hembeds.layout_bound hf)
    obtain ⟨w₂, hspares₂, hbinder₂, hcompanions₂, hattach⟩ :=
      attach_spares (.keeper A name) context rfl hsuited (Catalog.bound_names hembeds.has)
    set w₃ := w₂.addListener context.broadcaster (.companion w₁.companions.length)
    have hunbound₃ : w₃.binder.active.lookup handle.target = none := by
      change w₂.binder.active.lookup handle.target = none
      rw [hbinder₂]
      exact hunbound
    have hinstall := install_run w₃ T.info w₁.companions.length hunbound₃
    have hinstalled := hspares₂.install context.broadcaster w₁.companions.length
      (.bound T.info.name name)
    refine ⟨.ok (), _, fun act => bind_run hT hprepared hrelease
      (construct_run htype (hattach act)) hinstall,
      hb₁.join rfl hattached hunbound hinstalled ?_ hcompanions₂,
      hspares.trans (hspares₁.trans hinstalled), fun _ h => by cases h⟩
    rw [← hbinder₂]
    rfl

end Live
end Theming
