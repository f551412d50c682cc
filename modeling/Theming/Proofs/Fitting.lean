/-
# What making a companion does

A companion that keeps fields is made in one go, since nobody observes the slots that it brings
along (`World.fitted`). Afterwards (`Fitted`)

| | holds |
| --- | --- |
| a plain or an optional field | what the current skin has for it |
| the reactive fields, in order | the slots with the next numbers |
| these slots | what the skin has for their fields, set once and observed by nobody |
| all other slots, fields and targets | what they held before |
-/

import Theming.Proofs.Vacating

namespace Theming

/-! ## Slots for fields -/

/-- The fields that are slots. -/
def reactives (fields : List BoundField) : List BoundField :=
  fields.filter fun f => f.shape = .reactive

/-- The fields that are slots with the numbers of these, if they are numbered from one on. -/
def seats (first : Nat) (fields : List BoundField) : List (BoundField × SlotId) :=
  (reactives fields).zipIdx first

section Seats

variable {field : BoundField} {rest fields : List BoundField} {first : Nat}

theorem reactives_cons_of_reactive (h : field.shape = .reactive) :
    reactives (field :: rest) = field :: reactives rest :=
  List.filter_cons_of_pos (by simpa using h)

theorem reactives_cons_of_ne (h : field.shape ≠ .reactive) :
    reactives (field :: rest) = reactives rest :=
  List.filter_cons_of_neg (by simpa using h)

/-- Every field that is a slot has a number. -/
theorem exists_seat (h : field ∈ fields) (hshape : field.shape = .reactive) (first : Nat) :
    ∃ s, (field, s) ∈ seats first fields := by
  have hmem : field ∈ reactives fields := by simpa [reactives] using ⟨h, hshape⟩
  obtain ⟨i, hi, rfl⟩ := List.mem_iff_getElem.mp hmem
  exact ⟨first + i, List.mk_mem_zipIdx_iff_le_and_getElem?_sub.mpr ⟨Nat.le_add_right _ _, by
    rw [Nat.add_sub_cancel_left, List.getElem?_eq_getElem hi]⟩⟩

end Seats

namespace Live

variable {t : TargetId} {w w' : World} {handle : Handle} {fields : List BoundField}

namespace World

/-- A place of the kind of a slot holds that slot. -/
theorem content?_eq_of_slot {p : List String} {s : SlotId} :
    w.kindAt? t p = some (.reactive s) ↔ w.content? t p = some (.reactive s) := by
  rw [kindAt?]
  cases w.content? t p with
  | none => simp
  | some c => cases c <;> simp [Content.kind]

theorem targets_storeAll (w : World) (pending : List Pending) :
    (w.storeAll pending).targets = w.targets := by
  rw [storeAll]
  induction pending generalizing w with
  | nil => rfl
  | cons p rest ih => exact ih (w.store p.slot p.value)

/-- **New slots are set in order.** -/
theorem slots_storeAll {old : List Slot} (value : BoundField → Value) (fields : List BoundField)
    (h : w.slots = old ++ List.replicate fields.length ({} : Slot)) :
    (w.storeAll ((fields.zipIdx old.length).map fun x => ⟨x.2, value x.1⟩)).slots =
      old ++ fields.map fun f => { value := some (value f), version := 1 } := by
  induction fields generalizing w old with
  | nil => exact h
  | cons field rest ih =>
    have hstore : (w.store old.length (value field)).slots =
        (old ++ [{ value := some (value field), version := 1 }]) ++
          List.replicate rest.length ({} : Slot) := by
      rw [store, h, List.length_cons, List.replicate_succ, List.modify_eq_take_drop,
        List.take_left, List.drop_left, List.append_assoc]
      rfl
    have hrest := ih hstore
    rw [List.length_append, List.length_singleton] at hrest
    rw [List.zipIdx_cons, List.map_cons, List.map_cons]
    exact hrest.trans (List.append_assoc ..)

end World

/-! ## Giving slots to fields -/

/-- The fields that are slots have got the slots of the next numbers, and nothing else has
changed. -/
structure Allocated (w : World) (handle : Handle) (fields : List BoundField) (w' : World) :
    Prop where
  slots : w'.slots = w.slots ++ List.replicate (reactives fields).length ({} : Slot)
  seated : ∀ x ∈ seats w.slots.length fields,
    w'.kindAt? handle.target (handle.path ++ [x.1.name]) = some (.reactive x.2)
  managers : w'.managers = w.managers
  rest : ∀ t p, (t = handle.target → ∀ f ∈ fields, ¬ p <+: handle.path ++ [f.name]) →
    w'.content? t p = w.content? t p

theorem allocate_allocated (hsuited : w.Suited handle fields)
    (hnames : (fields.map fun f => f.name).Nodup) :
    Allocated w handle fields (w.allocate handle fields) := by
  induction fields generalizing w with
  | nil => exact ⟨(List.append_nil _).symm, List.forall_mem_nil _, rfl, fun _ _ _ => rfl⟩
  | cons field rest ih =>
    rw [List.map_cons, List.nodup_cons] at hnames
    have hrest : w.Suited handle rest := fun f hf => hsuited f (List.mem_cons_of_mem _ hf)
    have hname : ∀ f ∈ rest, f.name ≠ field.name :=
      fun f hf heq => hnames.1 (heq ▸ List.mem_map_of_mem hf)
    by_cases hshape : field.shape = .reactive
    · obtain ⟨s, hk⟩ := hsuited.slot List.mem_cons_self hshape
      set w₁ := w.addSlot.2.assign handle field.name (.reactive w.addSlot.1) with hw₁
      have hsuited₁ : w₁.Suited handle rest := hrest.give hk hname
      have hallocate : w.allocate handle (field :: rest) = w₁.allocate handle rest := by
        rw [World.allocate, hshape]
      have hslots₁ : w₁.slots = w.slots ++ [({} : Slot)] := rfl
      have h := ih hsuited₁ hnames.2
      rw [hallocate]
      refine ⟨?_, fun x hx => ?_, h.managers, fun t p hp => ?_⟩
      · rw [h.slots, hslots₁, reactives_cons_of_reactive hshape, List.length_cons,
          List.replicate_succ, List.append_assoc, List.singleton_append]
      · rw [seats, reactives_cons_of_reactive hshape, List.zipIdx_cons] at hx
        rcases List.mem_cons.mp hx with rfl | hx
        · have hapart : ∀ f ∈ rest, handle.path ++ [field.name] ≠ handle.path ++ [f.name] :=
            fun f hf heq => hname f hf (by simpa using heq.symm)
          rw [World.kindAt?_allocate hsuited₁ hnames.2 hapart, World.kindAt?_give hk,
            if_pos ⟨rfl, rfl⟩]
        · refine h.seated x ?_
          rw [hslots₁, List.length_append, List.length_singleton]
          exact hx
      · rw [h.rest t p fun ht f hf => hp ht f (List.mem_cons_of_mem _ hf)]
        obtain ⟨old, hold, hkind⟩ := World.kindAt?_eq_some.mp hk
        have hslot : ∀ s, Content.Kind.reactive s ≠ .part := fun s h => by cases h
        have hleaf : old.kind ≠ .part := hkind ▸ hslot s
        exact World.content?_assign_of_leaf (w := w.addSlot.2) hold hleaf (hslot _)
          fun ht => hp ht field List.mem_cons_self
    · have hallocate : w.allocate handle (field :: rest) = w.allocate handle rest := by
        rw [World.allocate]
        cases hshape' : field.shape with
        | reactive => exact absurd hshape' hshape
        | _ => rfl
      have h := ih hrest hnames.2
      rw [hallocate]
      refine ⟨?_, fun x hx => ?_, h.managers,
        fun t p hp => h.rest t p fun ht f hf => hp ht f (List.mem_cons_of_mem _ hf)⟩
      · rw [h.slots, reactives_cons_of_ne hshape]
      · rw [seats, reactives_cons_of_ne hshape] at hx
        exact h.seated x hx

/-- What is put aside for the fields that are slots is for the slots that they have got. -/
theorem pending_of_seats {skin : Skin} {first : Nat}
    (h : ∀ x ∈ seats first fields,
      w.kindAt? handle.target (handle.path ++ [x.1.name]) = some (.reactive x.2)) :
    fields.flatMap (w.pendingOf handle skin) =
      (seats first fields).map fun x => ⟨x.2, skin.value x.1⟩ := by
  induction fields generalizing first with
  | nil => rfl
  | cons field rest ih =>
    rw [List.flatMap_cons]
    by_cases hshape : field.shape = .reactive
    · rw [seats, reactives_cons_of_reactive hshape, List.zipIdx_cons] at h ⊢
      rw [List.map_cons, World.pendingOf_of_slot hshape (h _ List.mem_cons_self),
        @ih (first + 1) fun x hx => h x (List.mem_cons_of_mem _ hx)]
      rfl
    · rw [seats, reactives_cons_of_ne hshape] at h ⊢
      rw [World.pendingOf_of_ne hshape, @ih first h]
      rfl

/-! ## Making a companion -/

/-- The world after a companion has been made that keeps fields, before it listens. -/
def World.fitted (w : World) (entry : CompanionEntry) (fields : List BoundField) (handle : Handle)
    (context : Context) : World :=
  let w := (w.addCompanion ⟨entry, context, some handle⟩).2.allocate handle fields
  let (pending, w) := w.updateFields handle context.manager fields
  w.storeAll pending

theorem Akin.fitted (h : Akin w w') (entry : CompanionEntry) (fields : List BoundField)
    (handle : Handle) (context : Context) :
    Akin (w.fitted entry fields handle context) (w'.fitted entry fields handle context) := by
  obtain ⟨hpending, hakin⟩ := ((h.addCompanion ⟨entry, context, some handle⟩).allocate handle
    fields).updateFields handle context.manager fields
  have hfitted' : w'.fitted entry fields handle context =
      (((w'.addCompanion ⟨entry, context, some handle⟩).2.allocate handle fields).updateFields
        handle context.manager fields).2.storeAll
      (((w'.addCompanion ⟨entry, context, some handle⟩).2.allocate handle fields).updateFields
        handle context.manager fields).1 := rfl
  rw [hfitted', hpending]
  exact hakin.storeAll _

/-- A companion with a number has been made for fields: they are up to date with the skin, and
those that are slots have got new ones. -/
structure Fitted (w : World) (handle : Handle) (skin : Skin) (fields : List BoundField)
    (w' : World) : Prop where
  applied : ∀ f ∈ fields, ∀ c, f.content? skin = some c →
    w'.content? handle.target (handle.path ++ [f.name]) = some c
  seated : ∀ x ∈ seats w.slots.length fields,
    w'.content? handle.target (handle.path ++ [x.1.name]) = some (.reactive x.2)
  slots : w'.slots = w.slots ++
    (reactives fields).map fun f => { value := some (skin.value f), version := 1 }
  rest : ∀ t p, (t = handle.target → ∀ f ∈ fields, ¬ p <+: handle.path ++ [f.name]) →
    w'.content? t p = w.content? t p
  spares : Spares handle.target w w'
  binder : w'.binder = w.binder

section Making

variable (entry : CompanionEntry) (context : Context) (hsuited : w.Suited handle fields)
  (hnames : (fields.map fun f => f.name).Nodup)
include hsuited hnames

/-- **What making a companion does**: its fields are up to date, on slots of their own, and nothing
else has changed. -/
theorem fitted_fitted :
    Fitted w handle (w.manager context.manager).current fields
        (w.fitted entry fields handle context) ∧
      (w.fitted entry fields handle context).companions =
        w.companions ++ [⟨entry, context, some handle⟩] := by
  set w₁ := (w.addCompanion ⟨entry, context, some handle⟩).2 with hw₁
  have hsuited₁ : w₁.Suited handle fields := hsuited
  have hallocated := allocate_allocated hsuited₁ hnames
  obtain ⟨hspares, hbinder, hcompanions⟩ := Spares.allocate hsuited₁ hnames
  have hsuited₂ := hspares.suited hsuited₁
  set w₂ := w₁.allocate handle fields with hw₂
  obtain ⟨hpending, hrefreshed⟩ :=
    updateFields_refreshed w₂ handle context.manager fields hsuited₂ hnames
  have hskin : (w₂.manager context.manager).current = (w.manager context.manager).current := by
    rw [World.manager, hallocated.managers]
    rfl
  rw [hskin] at hpending hrefreshed
  rw [pending_of_seats hallocated.seated] at hpending
  set w₃ := (w₂.updateFields handle context.manager fields).2
  set pending := (w₂.updateFields handle context.manager fields).1
  have hfitted : w.fitted entry fields handle context = w₃.storeAll pending := rfl
  have hslots₃ : w₃.slots = w.slots ++ List.replicate (reactives fields).length ({} : Slot) :=
    hrefreshed.slots.trans hallocated.slots
  have hcontent : ∀ t p, (w₃.storeAll pending).content? t p = w₃.content? t p := fun t p => by
    rw [World.content?, World.content?, World.targets_storeAll]
  have hstored := Steady.storeAll w₃ pending
  have hadded : Spares handle.target w w₁ := .of_eq rfl rfl rfl
  have hnew : ∀ p ∈ pending, w₁.slots.length ≤ p.slot := by
    intro p hp
    rw [hpending] at hp
    obtain ⟨x, hx, rfl⟩ := List.mem_map.mp hp
    exact (List.mem_zipIdx hx).1
  rw [hfitted]
  refine ⟨⟨fun f hf c hc => ?_, fun x hx => ?_, ?_, fun t p hp => ?_,
    hadded.trans ((hspares.trans (.of_refreshed hrefreshed)).storeAll hnew), ?_⟩, ?_⟩
  · rw [hcontent]
    exact hrefreshed.applied f hf c hc
  · rw [hcontent]
    refine World.content?_eq_of_slot.mp ((hrefreshed.steady.kinds _ _).trans ?_)
    exact hallocated.seated x hx
  · rw [hpending]
    exact World.slots_storeAll _ (reactives fields) hslots₃
  · rw [hcontent, hrefreshed.rest t p fun ht f hf _ => hp ht f hf]
    exact hallocated.rest t p hp
  · rw [hstored.binder, hrefreshed.steady.binder, hbinder]
    rfl
  · rw [hstored.companions, hrefreshed.steady.companions, hcompanions]
    rfl

/-- The companion is made in one go, whatever user code may do, and all that is left to do is to let
it listen. -/
theorem attach_fitted (hconduct : entry.conduct = .keep fields) (act : Act) :
    Live.attach act entry fields handle context w =
      some (w.companions.length, (w.fitted entry fields handle context).addListener
        context.broadcaster (.companion w.companions.length)) := by
  set w₁ := (w.addCompanion ⟨entry, context, some handle⟩).2
  have hsuited₁ : w₁.Suited handle fields := hsuited
  obtain ⟨hspares, -, hcompanions⟩ := Spares.allocate hsuited₁ hnames
  have hc : (w₁.allocate handle fields).companions[w.companions.length]? =
      some ⟨entry, context, some handle⟩ := by
    rw [hcompanions]
    exact List.getElem?_concat_length
  exact attach_run entry context (updateTheme_of_unheard hc rfl hconduct
    (hspares.suited hsuited₁) hnames (World.unheard_allocate hsuited₁ hnames) act)

end Making

end Live
end Theming
