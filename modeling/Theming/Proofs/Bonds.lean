/-
# Bonds between targets and companions

User code may put one slot into many fields, listen to broadcasters itself, and act in the middle of
a change of theme; then slots are shared and listeners are not only companions. What still holds at
every moment is that a companion with a target is the active one of that target, and the other way
round (`Bonds`).

A step concerns one target if it spares all that does not belong to it (`Spares`): what the other
targets hold, whether they are bound, and what the slots hold that were there before. Unbinding a
target resets its bound fields and concerns that target only (`Bonds.unbind`), whoever listens and
whoever shares its slots.
-/

import Theming.Proofs.Runs

namespace Theming

/-- What a bound field that is no slot holds once its companion has been released. -/
def BoundField.cleared? (field : BoundField) : Option Content :=
  match field.shape with
  | .value => some (.plain field.form.default)
  | .reference => some (.optional none)
  | .reactive => none

theorem BoundField.cleared?_eq_none {field : BoundField} :
    field.cleared? = none ↔ field.shape = .reactive := by
  cases h : field.shape <;> simp [BoundField.cleared?, h]

/-- A field is cleared with what is of the kind that its layout asks for, and no part. -/
theorem BoundField.kind_cleared {field : BoundField} {c : Content} {k : Content.Kind}
    (hk : k.Suits field.layout) (hc : field.cleared? = some c) : k = c.kind ∧ c.kind ≠ .part := by
  cases hshape : field.shape <;>
    simp only [BoundField.cleared?, BoundField.layout, hshape] at hc hk
  · cases hc
  · obtain rfl := Option.some.inj hc
    cases k <;> simp_all [Content.Kind.Suits, Content.kind]
  · obtain rfl := Option.some.inj hc
    cases k <;> simp_all [Content.Kind.Suits, Content.kind]

namespace Live

variable {catalog : Catalog} {t : TargetId} {w w' w'' : World}

/-! ## Steps that concern one target -/

/-- The value and the version of a slot. -/
def World.reading (w : World) (s : SlotId) : Option (Option Value × Nat) :=
  w.slots[s]?.map fun x => (x.value, x.version)

/-- A step that concerns one target: all targets keep their types and fields of the same sort, and
what does not belong to the one is as before. -/
structure Spares (t : TargetId) (w w' : World) : Prop where
  types : ∀ t', w'.typeOf? t' = w.typeOf? t'
  sorts : ∀ t' p k, w.kindAt? t' p = some k →
    ∃ k', w'.kindAt? t' p = some k' ∧ ∀ l, k.Suits l → k'.Suits l
  contents : ∀ t', t' ≠ t → ∀ p, w'.content? t' p = w.content? t' p
  bindings : ∀ t', t' ≠ t → w'.binder.active.lookup t' = w.binder.active.lookup t'
  slots : w.slots.length ≤ w'.slots.length
  readings : ∀ s < w.slots.length, w'.reading s = w.reading s

namespace Spares

theorem trans (h : Spares t w w') (h' : Spares t w' w'') : Spares t w w'' where
  types t' := (h'.types t').trans (h.types t')
  sorts t' p k hk := by
    obtain ⟨k', hk', hsuits⟩ := h.sorts t' p k hk
    obtain ⟨k'', hk'', hsuits'⟩ := h'.sorts t' p k' hk'
    exact ⟨k'', hk'', fun l hl => hsuits' l (hsuits l hl)⟩
  contents t' ht p := (h'.contents t' ht p).trans (h.contents t' ht p)
  bindings t' ht := (h'.bindings t' ht).trans (h.bindings t' ht)
  slots := h.slots.trans h'.slots
  readings s hs := (h'.readings s (hs.trans_le h.slots)).trans (h.readings s hs)

/-- What does not change a target, a slot or who is bound concerns no target. -/
theorem of_eq (htargets : w'.targets = w.targets) (hslots : w'.slots = w.slots)
    (hactive : w'.binder.active = w.binder.active) : Spares t w w' := by
  have hcontent : ∀ t' p, w'.content? t' p = w.content? t' p := fun t' p => by
    rw [World.content?, World.content?, htargets]
  refine ⟨fun t' => ?_, fun t' p k hk => ⟨k, ?_, fun _ hl => hl⟩, fun t' _ p => hcontent t' p,
    fun t' _ => by rw [hactive], hslots ▸ le_rfl, fun s _ => ?_⟩
  · rw [World.typeOf?, World.typeOf?, htargets]
  · rw [World.kindAt?, hcontent]
    exact hk
  · rw [World.reading, World.reading, hslots]

theorem refl (t : TargetId) (w : World) : Spares t w w := of_eq rfl rfl rfl

/-- A steady step that sets no slot concerns the target in which it writes. -/
theorem of_steady (h : Steady w w') (hslots : w'.slots = w.slots)
    (hcontents : ∀ t', t' ≠ t → ∀ p, w'.content? t' p = w.content? t' p) : Spares t w w' where
  types := h.types
  sorts t' p k hk := ⟨k, (h.kinds t' p).trans hk, fun _ hl => hl⟩
  contents := hcontents
  bindings t' _ := by rw [h.binder]
  slots := hslots ▸ le_rfl
  readings s _ := by rw [World.reading, World.reading, hslots]

/-- A new slot concerns no target. -/
theorem addSlot (t : TargetId) (w : World) : Spares t w w.addSlot.2 where
  types _ := rfl
  sorts _ _ k hk := ⟨k, hk, fun _ hl => hl⟩
  contents _ _ _ := rfl
  bindings _ _ := rfl
  slots := by
    rw [World.addSlot, List.length_append]
    exact Nat.le_add_right _ _
  readings s hs := by
    rw [World.reading, World.addSlot, List.getElem?_append_left hs]
    rfl

/-- A new observer concerns no target. -/
theorem observe (t : TargetId) (w : World) (s : SlotId) (o : Observer) :
    Spares t w (w.observe s o) where
  types _ := rfl
  sorts _ _ k hk := ⟨k, hk, fun _ hl => hl⟩
  contents _ _ _ := rfl
  bindings _ _ := rfl
  slots := by rw [World.observe, List.length_modify]
  readings s' _ := by
    rw [World.reading, World.observe, List.getElem?_modify, World.reading]
    cases w.slots[s']? with
    | none => rfl
    | some x => by_cases h : s = s' <;> simp [h]

/-- Another slot in a field that holds one concerns the target of the field. -/
theorem reassign {handle : Handle} {field : String} {s : SlotId}
    (h : w.kindAt? handle.target (handle.path ++ [field]) = some (.reactive s)) (s' : SlotId) :
    Spares handle.target w (w.assign handle field (.reactive s')) where
  types t' := Steady.typeOf?_modifyContent w _ t' _ _
  sorts t' p k hk := by
    obtain ⟨old, hold, hkind⟩ := World.kindAt?_eq_some.mp h
    have hleaf : old.kind ≠ .part := by rw [hkind]; nofun
    rw [World.kindAt?_assign_leaf (c := .reactive s') hold hleaf nofun]
    split_ifs with hplace
    · obtain ⟨rfl, rfl⟩ := hplace
      obtain rfl := Option.some.inj (h.symm.trans hk)
      exact ⟨_, rfl, fun l hl => by cases l <;> exact hl⟩
    · exact ⟨k, hk, fun _ hl => hl⟩
  contents t' ht p := by rw [World.assign, World.content?_modifyContent, if_neg ht]
  bindings _ _ := rfl
  slots := le_rfl
  readings _ _ := rfl

/-- A new slot in a field that holds one concerns the target of the field. -/
theorem give {handle : Handle} {field : String} {s : SlotId}
    (h : w.kindAt? handle.target (handle.path ++ [field]) = some (.reactive s)) :
    Spares handle.target w (w.addSlot.2.assign handle field (.reactive w.addSlot.1)) :=
  (addSlot handle.target w).trans (reassign (w := w.addSlot.2) h w.addSlot.1)

/-- The first round of an update concerns the target of the companion. -/
theorem of_refreshed {handle : Handle} {skin : Skin} {fields : List BoundField}
    (h : Refreshed w handle skin fields w') : Spares handle.target w w' :=
  of_steady h.steady h.slots fun t' ht p => h.rest t' p fun ht' => absurd ht' ht

end Spares

/-! ## Clearing fields -/

/-- The fields that are no slots are cleared, and nothing else has changed. -/
structure Cleared (w : World) (handle : Handle) (fields : List BoundField) (w' : World) :
    Prop where
  steady : Steady w w'
  slots : w'.slots = w.slots
  applied : ∀ f ∈ fields, ∀ c, f.cleared? = some c →
    w'.content? handle.target (handle.path ++ [f.name]) = some c
  rest : ∀ t p, (t = handle.target → ∀ f ∈ fields, f.shape ≠ .reactive →
    ¬ p <+: handle.path ++ [f.name]) → w'.content? t p = w.content? t p

namespace Cleared

variable {handle : Handle} {field : BoundField} {fields : List BoundField}

/-- One field after the other. -/
theorem cons (h : Cleared w handle [field] w') (h' : Cleared w' handle fields w'')
    (hname : ∀ f ∈ fields, f.name ≠ field.name) : Cleared w handle (field :: fields) w'' where
  steady := h.steady.trans h'.steady
  slots := h'.slots.trans h.slots
  applied f hf c hc := by
    rcases List.mem_cons.mp hf with rfl | hmem
    · rw [h'.rest _ _ fun _ g hg _ => not_prefix_of_name_ne (hname g hg).symm]
      exact h.applied f List.mem_cons_self c hc
    · exact h'.applied f hmem c hc
  rest t p hp := by
    rw [h'.rest t p fun ht f hf => hp ht f (List.mem_cons_of_mem _ hf)]
    refine h.rest t p fun ht f hf => hp ht f ?_
    rw [List.mem_singleton.mp hf]
    exact List.mem_cons_self

theorem of_assign (hsuited : w.Suited handle [field]) {c : Content}
    (hc : field.cleared? = some c) : Cleared w handle [field] (w.assign handle field.name c) := by
  obtain ⟨k, hk, hsuits⟩ := hsuited field List.mem_cons_self
  obtain ⟨rfl, hleaf⟩ := BoundField.kind_cleared hsuits hc
  obtain ⟨old, hold, hkind⟩ := World.kindAt?_eq_some.mp hk
  refine ⟨.assign hk hleaf, rfl, fun f hf d hd => ?_, fun t p hp => ?_⟩
  · rw [List.mem_singleton.mp hf] at hd ⊢
    rw [World.content?_assign_self hold, ← hc, hd]
  · have hne : field.shape ≠ .reactive := fun hshape => by
      rw [BoundField.cleared?_eq_none.mpr hshape] at hc
      cases hc
    exact World.content?_assign_of_leaf hold (hkind ▸ hleaf) hleaf
      fun ht => hp ht field List.mem_cons_self hne

/-- A slot is left alone. -/
theorem of_slot (w : World) (handle : Handle) (hshape : field.shape = .reactive) :
    Cleared w handle [field] w where
  steady := .refl w
  slots := rfl
  applied f hf c hc := by
    rw [List.mem_singleton.mp hf, BoundField.cleared?_eq_none.mpr hshape] at hc
    cases hc
  rest _ _ _ := rfl

theorem spares (h : Cleared w handle fields w') : Spares handle.target w w' :=
  .of_steady h.steady h.slots fun t' ht p => h.rest t' p fun ht' => absurd ht' ht

end Cleared

theorem resetField_cleared {handle : Handle} {field : BoundField}
    (hsuited : w.Suited handle [field]) :
    Cleared w handle [field] (World.resetField handle w field) := by
  rw [World.resetField]
  cases hshape : field.shape with
  | value => exact .of_assign hsuited (by rw [BoundField.cleared?, hshape])
  | reference => exact .of_assign hsuited (by rw [BoundField.cleared?, hshape])
  | reactive => exact .of_slot w handle hshape

/-- **Resetting fields clears them** and leaves everything else alone, the slots included. -/
theorem resetFields_cleared {handle : Handle} {fields : List BoundField}
    (hsuited : w.Suited handle fields) (hnames : (fields.map fun f => f.name).Nodup) :
    Cleared w handle fields (w.resetFields handle fields) := by
  rw [World.resetFields]
  induction fields generalizing w with
  | nil => exact ⟨.refl w, rfl, List.forall_mem_nil _, fun _ _ _ => rfl⟩
  | cons field rest ih =>
    rw [List.map_cons, List.nodup_cons] at hnames
    have hfirst : w.Suited handle [field] := fun f hf =>
      hsuited f (List.mem_singleton.mp hf ▸ List.mem_cons_self)
    have hone := resetField_cleared hfirst
    refine hone.cons (ih (fun f hf => ?_) hnames.2)
      fun f hf heq => hnames.1 (heq ▸ List.mem_map_of_mem hf)
    rw [hone.steady.kinds]
    exact hsuited f (List.mem_cons_of_mem _ hf)

/-! ## Worlds with bonds -/

/-- Targets are of the types of a catalog, and companions with a target are the active ones. -/
structure Bonds (catalog : Catalog) (w : World) : Prop where
  types : ∀ t T, w.typeOf? t = some T → catalog.has T
  shapes : ∀ t T, w.typeOf? t = some T → ∀ p l, T.layout.at? p = some l →
    ∃ k, w.kindAt? t p = some k ∧ k.Suits l
  finds : w.binder.resolver.Finds catalog.Keeps
  keys : (w.binder.active.map Prod.fst).Nodup
  attached : ∀ (id : CompanionId) c h, w.companions[id]? = some c → c.target = some h →
    w.Attached catalog c h ∧ (h.target, id) ∈ w.binder.active
  active : ∀ t id, (t, id) ∈ w.binder.active →
    ∃ c h, w.companions[id]? = some c ∧ c.target = some h ∧ h.target = t

theorem World.Attached.of_types {c : Companion} {handle : Handle}
    (h : w.Attached catalog c handle) (htypes : ∀ t, w'.typeOf? t = w.typeOf? t) :
    w'.Attached catalog c handle := by
  obtain ⟨T, A, name, hT, hrest⟩ := h
  exact ⟨T, A, name, (htypes _).trans hT, hrest⟩

namespace Bonds

theorem opened (catalog : Catalog) (boundary : Boundary) (broadcasters : Nat)
    (hosts : List BroadcasterId) : Bonds catalog (.opened boundary broadcasters hosts) where
  types t T hT := by cases hT
  shapes t T hT := by cases hT
  finds := ⟨nofun, nofun⟩
  keys := .nil
  attached id c h hc := by cases hc
  active t id hmem := by cases hmem

variable (hb : Bonds catalog w)
include hb

/-- Fields keep what their layouts ask for in a step that spares their sorts. -/
theorem shapes_of_spares (h : Spares t w w') (t' : TargetId) (T : TypeDefinition)
    (hT : w'.typeOf? t' = some T) (p : List String) (l : Layout) (hl : T.layout.at? p = some l) :
    ∃ k, w'.kindAt? t' p = some k ∧ k.Suits l := by
  obtain ⟨k, hk, hsuits⟩ := hb.shapes t' T ((h.types t').symm.trans hT) p l hl
  obtain ⟨k', hk', hsort⟩ := h.sorts t' p k hk
  exact ⟨k', hk', hsort l hsuits⟩

/-- **A step that changes no companion and no binding keeps the bonds.** -/
theorem spared (h : Spares t w w') (hfinds : w'.binder.resolver.Finds catalog.Keeps)
    (hactive : w'.binder.active = w.binder.active) (hcompanions : w'.companions = w.companions) :
    Bonds catalog w' where
  types t' T hT := hb.types t' T ((h.types t').symm.trans hT)
  shapes := hb.shapes_of_spares h
  finds := hfinds
  keys := hactive ▸ hb.keys
  attached id c handle hc htarget := by
    obtain ⟨hattached, hmem⟩ := hb.attached id c handle (hcompanions ▸ hc) htarget
    exact ⟨hattached.of_types h.types, hactive ▸ hmem⟩
  active t' id hmem := by
    rw [hcompanions]
    exact hb.active t' id (hactive ▸ hmem)

theorem steady (h : Steady w w') : Bonds catalog w' where
  types t T hT := hb.types t T ((h.types t).symm.trans hT)
  shapes t T hT p l hl := by
    rw [h.kinds]
    exact hb.shapes t T ((h.types t).symm.trans hT) p l hl
  finds := h.binder ▸ hb.finds
  keys := h.binder ▸ hb.keys
  attached id c handle hc htarget := by
    obtain ⟨hattached, hmem⟩ := hb.attached id c handle (h.companions ▸ hc) htarget
    exact ⟨h.attached hattached, h.binder ▸ hmem⟩
  active t id hmem := by
    rw [h.companions]
    exact hb.active t id (h.binder ▸ hmem)

/-- The active companion of a target keeps fields that are there. -/
theorem suited {c : Companion} {h : Handle} (hattached : w.Attached catalog c h) :
    ∃ A name, catalog.has A ∧ c.entry = .keeper A name ∧ w.Suited h A.bound := by
  obtain ⟨T, A, name, hT, hembeds, hentry, -⟩ := hattached
  refine ⟨A, name, hembeds.has, hentry, fun f hf => ?_⟩
  exact hb.shapes h.target T hT _ _ (hembeds.layout_bound hf)

theorem owner {t' : TargetId} {id : CompanionId} (h : (t, id) ∈ w.binder.active)
    (h' : (t', id) ∈ w.binder.active) : t = t' := by
  obtain ⟨c, handle, hc, htarget, rfl⟩ := hb.active t id h
  obtain ⟨c', handle', hc', htarget', rfl⟩ := hb.active t' id h'
  obtain rfl := Option.some.inj (hc.symm.trans hc')
  rw [Option.some.inj (htarget.symm.trans htarget')]

theorem companion {id id' : CompanionId} (h : (t, id) ∈ w.binder.active)
    (h' : (t, id') ∈ w.binder.active) : id = id' :=
  Option.some.inj ((lookup_of_mem h hb.keys).symm.trans (lookup_of_mem h' hb.keys))

/-- A target with an active companion is not one that is free. -/
theorem ne_of_free {t' : TargetId} {id : CompanionId} (h : (t', id) ∈ w.binder.active)
    (hfree : w.binder.active.lookup t = none) : t' ≠ t := by
  rintro rfl
  rw [lookup_of_mem h hb.keys] at hfree
  cases hfree

/-- The active companion of a target, and the fields that it keeps. -/
theorem keeper {id : CompanionId} (h : (t, id) ∈ w.binder.active) :
    ∃ A name context handle,
      w.companions[id]? = some ⟨.keeper A name, context, some handle⟩ ∧
      handle.target = t ∧ catalog.has A ∧ w.Suited handle A.bound := by
  obtain ⟨⟨entry, context, target⟩, handle, hc, rfl, rfl⟩ := hb.active t id h
  obtain ⟨A, name, hA, rfl, hsuited⟩ := hb.suited (hb.attached id _ handle hc rfl).1
  exact ⟨A, name, context, handle, hc, rfl, hA, hsuited⟩

end Bonds

/-! ## Releasing and unbinding -/

/-- The active companion of a target is gone, and the fields that it kept are cleared. -/
structure Releases (catalog : Catalog) (t : TargetId) (id : CompanionId) (w w' : World) :
    Prop where
  bonds : Bonds catalog w'
  spares : Spares t w w'
  binder : w'.binder = (w.without t).binder
  slots : w'.slots = w.slots
  fields : ∃ A name context handle,
    w.companions[id]? = some ⟨.keeper A name, context, some handle⟩ ∧ handle.target = t ∧
    (∀ f ∈ A.bound, ∀ c, f.cleared? = some c →
      w'.content? t (handle.path ++ [f.name]) = some c) ∧
    ∀ p, (∀ f ∈ A.bound, f.shape ≠ .reactive → ¬ p <+: handle.path ++ [f.name]) →
      w'.content? t p = w.content? t p

/-- A target whose companion has gone and let go of it is not bound, and the other bonds are as they
were. -/
theorem Bonds.without (hb : Bonds catalog w) {id : CompanionId} (h : (t, id) ∈ w.binder.active)
    (hspares : Spares t w w') (hbinder : w'.binder = (w.without t).binder)
    (hcompanions : w'.companions = (w.detach id).companions) : Bonds catalog w' where
  types t' T hT := hb.types t' T ((hspares.types t').symm.trans hT)
  shapes := hb.shapes_of_spares hspares
  finds := by
    rw [hbinder]
    exact hb.finds
  keys := by
    rw [hbinder]
    exact hb.keys.sublist (List.filter_sublist.map _)
  attached other c handle hc htarget := by
    rw [hcompanions, World.companions_detach] at hc
    split_ifs at hc with ho
    · obtain ⟨d, -, rfl⟩ := Option.map_eq_some_iff.mp hc
      cases htarget
    · obtain ⟨hattached, hmem⟩ := hb.attached other c handle hc htarget
      refine ⟨hattached.of_types hspares.types, ?_⟩
      have hne : handle.target ≠ t := by
        rintro rfl
        exact ho (hb.companion hmem h)
      rw [hbinder]
      exact List.mem_filter.mpr ⟨hmem, by simpa using hne⟩
  active t' other hmem := by
    rw [hbinder] at hmem
    obtain ⟨hmem, hne⟩ := List.mem_filter.mp hmem
    have ho : other ≠ id := by
      rintro rfl
      exact (by simpa using hne : t' ≠ t) (hb.owner hmem h)
    rw [hcompanions, World.companions_detach, if_neg ho]
    exact hb.active t' other hmem

/-- **Releasing the active companion of a target succeeds**, and concerns that target only. -/
theorem Bonds.release (hb : Bonds catalog w) {id : CompanionId} (h : (t, id) ∈ w.binder.active) :
    ((w.without t).unbindCompanion id).1 = .ok () ∧
      Releases catalog t id w (((w.without t).unbindCompanion id).2.clearCompanion id) := by
  obtain ⟨A, name, context, handle, hc, rfl, hA, hsuited⟩ := hb.keeper h
  set w₁ : World := (w.without handle.target).removeListener context.broadcaster
    (.companion id) with hw₁
  have hunbind := unbindCompanion_of_keeper (w := w.without handle.target) hc
  have hsuited' : w₁.Suited handle A.bound := hsuited
  have hcleared := resetFields_cleared hsuited' (Catalog.bound_names hA)
  have hclear : (w₁.resetFields handle A.bound).clearCompanion id =
      (w₁.resetFields handle A.bound).detach id :=
    clearCompanion_of_keeper ((congrArg (·[id]?) hcleared.steady.companions).trans hc)
  have hfirst : Spares handle.target w w₁ :=
    { Spares.refl handle.target w with
      bindings := fun t' ht => (lookup_filter_ne _ _ _).trans (if_neg ht) }
  have hlast : Spares handle.target (w₁.resetFields handle A.bound)
      ((w₁.resetFields handle A.bound).detach id) := .of_eq rfl rfl rfl
  have hspares := (hfirst.trans hcleared.spares).trans hlast
  have hbinder : ((w₁.resetFields handle A.bound).detach id).binder =
      (w.without handle.target).binder := hcleared.steady.binder
  have hcompanions : ((w₁.resetFields handle A.bound).detach id).companions =
      (w.detach id).companions := by
    rw [World.detach, hcleared.steady.companions]
    rfl
  rw [hunbind, hclear]
  refine ⟨rfl, hb.without h hspares hbinder hcompanions, hspares, hbinder, hcleared.slots,
    A, name, context, handle, hc, rfl, fun f hf c hfc => hcleared.applied f hf c hfc,
    fun p hp => hcleared.rest handle.target p fun _ => hp⟩

/-- What unbinding a target comes to. -/
structure Parts (catalog : Catalog) (t : TargetId) (w w' : World) : Prop where
  bonds : Bonds catalog w'
  spares : Spares t w w'
  unbound : w'.binder.active.lookup t = none
  slots : w'.slots = w.slots
  /-- If it was bound, the fields that its companion kept are cleared. -/
  bound : ∀ id, w.binder.active.lookup t = some id → Releases catalog t id w w'
  /-- Otherwise nothing has happened. -/
  idle : w.binder.active.lookup t = none →
    w'.targets = w.targets ∧ w'.binder.active = w.binder.active

/-- **Unbinding always succeeds**, and concerns the target only. -/
theorem Bonds.unbind (hb : Bonds catalog w) (t : TargetId) :
    (w.unbind t).1 = .ok () ∧ Parts catalog t w (w.unbind t).2 := by
  cases h : w.binder.active.lookup t with
  | some id =>
    obtain ⟨hok, hreleases⟩ := hb.release (mem_of_lookup h)
    rw [unbind_of_bound h]
    refine ⟨hok, hreleases.bonds, hreleases.spares, ?_, hreleases.slots, fun id' hid => ?_,
      fun hnone => ?_⟩
    · rw [hreleases.binder]
      exact (lookup_filter_ne _ _ _).trans (if_pos rfl)
    · obtain rfl := Option.some.inj (h.symm.trans hid)
      exact hreleases
    · rw [h] at hnone
      cases hnone
  | none =>
    obtain ⟨level, message, heq⟩ := unbind_of_unbound h
    rw [heq]
    refine ⟨rfl, hb.steady (.tell w level message), .of_eq rfl rfl rfl, h, rfl, fun id hid => ?_,
      fun _ => ⟨rfl, rfl⟩⟩
    rw [h] at hid
    cases hid

end Live
end Theming
