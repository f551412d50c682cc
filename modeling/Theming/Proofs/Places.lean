/-
# The bound fields of a world

A `Place` is a bound field in a target. The places of a world are those that the companions of its
bound targets keep (`World.places`); in a sound world a bound target has one companion, for its type
or for a type embedded in it (`Sound.follows`).

A place is up to date with a skin if it holds what the skin has for it (`World.Holds`): the first
round of a companion brings the places up to date that are no slots, and storing a value the slot of
one place, and both leave the other places as they are.
-/

import Theming.Proofs.Steadiness

namespace Theming
namespace Live

/-- A bound field in a target. -/
structure Place where
  target : TargetId
  path : List String
  field : BoundField

/-- The fields of what a handle leads to. -/
def placesAt (handle : Handle) (fields : List BoundField) : List Place :=
  fields.map fun f => ⟨handle.target, handle.path ++ [f.name], f⟩

/-- None of the slots in the given places is in a field of what a handle leads to. -/
def Apart (places : List Place) (handle : Handle) (fields : List BoundField) : Prop :=
  ∀ x ∈ places, x.field.shape = .reactive → x.target = handle.target →
    ∀ f ∈ fields, x.path ≠ handle.path ++ [f.name]

namespace Apart

variable {places : List Place} {handle : Handle} {field : BoundField} {fields : List BoundField}

/-- Places in other targets, and fields that are no slots, are apart from all slots of a target. -/
theorem of_target {others : List BoundField} (h : ∀ x ∈ places, x.target ≠ handle.target) :
    Apart (places ++ (placesAt handle others).filter (·.field.shape ≠ .reactive)) handle
      fields := by
  intro x hx hreactive ht
  rcases List.mem_append.mp hx with hx | hx
  · exact absurd ht (h x hx)
  · exact absurd hreactive (by simpa using (List.mem_filter.mp hx).2)

theorem tail (h : Apart places handle (field :: fields)) : Apart places handle fields :=
  fun x hx hshape ht f hf => h x hx hshape ht f (List.mem_cons_of_mem _ hf)

/-- A field of another name is another place. -/
theorem concat (h : Apart places handle (field :: fields))
    (hname : field.name ∉ fields.map fun f => f.name) :
    Apart (places ++ [⟨handle.target, handle.path ++ [field.name], field⟩]) handle fields := by
  intro x hx hshape ht f hf
  rcases List.mem_append.mp hx with hx | hx
  · exact h.tail x hx hshape ht f hf
  · rw [List.mem_singleton.mp hx]
    intro hpath
    have heq : field.name = f.name := by simpa using hpath
    exact hname (heq ▸ List.mem_map_of_mem hf)

/-- The slot of a field is that of no place apart from it. -/
theorem slot_ne {setting : Setting} {w : World} (hs : Sound setting w)
    (h : Apart places handle fields) (hf : field ∈ fields) {s : SlotId}
    (hkind : w.kindAt? handle.target (handle.path ++ [field.name]) = some (.reactive s)) :
    ∀ x ∈ places, x.field.shape = .reactive → w.kindAt? x.target x.path ≠ some (.reactive s) := by
  intro x hx hshape hslot
  obtain ⟨ht, hpath⟩ := hs.apart _ _ _ _ _ hslot hkind
  exact h x hx hshape ht field hf hpath

end Apart

variable {setting : Setting} {skin : Skin} {w w' : World}

namespace World

/-- The active companion of a target keeps the fields of `A`, which lies at `path`. -/
def Follows (w : World) (t : TargetId) (A : TypeDefinition) (path : List String) : Prop :=
  ∃ id name context, w.binder.active.lookup t = some id ∧
    w.companions[id]? = some ⟨.keeper A name, context, some ⟨t, path, A.info.declared⟩⟩

/-- The fields that a companion keeps. -/
def placesOf (w : World) (id : CompanionId) : List Place :=
  match w.companions[id]? with
  | some ⟨⟨_, _, _, _, _, .keep fields⟩, _, some handle⟩ => placesAt handle fields
  | _ => []

/-- The bound fields of all bound targets: the target that was bound first comes first, and its
fields in the order in which they are declared. -/
def places (w : World) : List Place :=
  w.binder.active.reverse.flatMap fun entry => w.placesOf entry.2

theorem placesOf_eq {id : CompanionId} {c : Companion} {handle : Handle}
    {fields : List BoundField} (hc : w.companions[id]? = some c) (htarget : c.target = some handle)
    (hconduct : c.entry.conduct = .keep fields) : w.placesOf id = placesAt handle fields := by
  obtain ⟨⟨path, name, target, label, subject, conduct⟩, context, h⟩ := c
  dsimp only at htarget hconduct
  subst htarget hconduct
  rw [placesOf, hc]

/-- A field that the companion of a target keeps is one of its places. -/
theorem Follows.mem_placesOf {t : TargetId} {A : TypeDefinition} {path : List String}
    (h : w.Follows t A path) {f : BoundField} (hf : f ∈ A.bound) :
    ∃ id, w.binder.active.lookup t = some id ∧
      (⟨t, path ++ [f.name], f⟩ : Place) ∈ w.placesOf id := by
  obtain ⟨id, name, context, hlookup, hc⟩ := h
  refine ⟨id, hlookup, ?_⟩
  rw [placesOf_eq hc rfl rfl]
  exact List.mem_map.mpr ⟨f, hf, rfl⟩

end World

theorem World.Follows.mem_places {t : TargetId} {A : TypeDefinition} {path : List String}
    (h : w.Follows t A path) {f : BoundField} (hf : f ∈ A.bound) :
    (⟨t, path ++ [f.name], f⟩ : Place) ∈ w.places := by
  obtain ⟨id, hlookup, hplace⟩ := h.mem_placesOf hf
  exact List.mem_flatMap.mpr ⟨(t, id), List.mem_reverse.mpr (mem_of_lookup hlookup), hplace⟩

theorem Steady.places_eq (h : Steady w w') : w'.places = w.places := by
  rw [World.places, World.places, h.binder]
  refine congrArg (fun g => w.binder.active.reverse.flatMap g) (funext fun entry => ?_)
  rw [World.placesOf, World.placesOf, h.companions]

/-- What an active companion keeps are fields of its target. -/
theorem Sound.target_of_mem_placesOf (hs : Sound setting w)
    {t : TargetId} {id : CompanionId} (hactive : (t, id) ∈ w.binder.active) {x : Place}
    (hx : x ∈ w.placesOf id) : x.target = t := by
  obtain ⟨c, handle, hc, htarget, rfl⟩ := hs.active t id hactive
  obtain ⟨A, name, -, hentry, -⟩ := hs.suited hc htarget
  have hconduct : c.entry.conduct = .keep A.bound := by rw [hentry]; rfl
  rw [World.placesOf_eq hc htarget hconduct] at hx
  obtain ⟨f, -, rfl⟩ := List.mem_map.mp hx
  rfl

/-- **There are as many active companions as bound targets.** -/
theorem Sound.active_length (hs : Sound setting w) :
    w.binder.active.length = (List.range w.targets.length).countP w.isBound := by
  have hperm : (w.binder.active.map Prod.fst).Perm
      ((List.range w.targets.length).filter w.isBound) := by
    refine (List.perm_ext_iff_of_nodup hs.keys (List.nodup_range.filter _)).mpr fun t => ?_
    rw [List.mem_filter, List.mem_range, World.isBound, Binder.isBound, lookup_isSome_iff]
    refine ⟨fun ht => ⟨?_, ht⟩, fun ht => ht.2⟩
    obtain ⟨⟨t, id⟩, hmem, rfl⟩ := List.mem_map.mp ht
    obtain ⟨c, handle, hc, htarget, rfl⟩ := hs.active t id hmem
    obtain ⟨T, A, name, hT, -⟩ := hs.attached id c handle hc htarget
    rw [World.typeOf?, Option.map_eq_some_iff] at hT
    obtain ⟨target, htarget', -⟩ := hT
    exact (List.getElem?_eq_some_iff.mp htarget').1
  have hlength := hperm.length_eq
  rw [List.length_map] at hlength
  rw [hlength, List.countP_eq_length_filter]

/-- The places of a world are the fields that the companions of its targets keep. -/
theorem Sound.mem_places (hs : Sound setting w) {x : Place} (hx : x ∈ w.places) :
    ∃ A path, w.Follows x.target A path ∧ x.field ∈ A.bound ∧ x.path = path ++ [x.field.name] := by
  obtain ⟨⟨t, id⟩, hmem, hplace⟩ := List.mem_flatMap.mp hx
  have hactive : (t, id) ∈ w.binder.active := List.mem_reverse.mp hmem
  obtain ⟨c, handle, hc, htarget, rfl⟩ := hs.active t id hactive
  obtain ⟨T, A, name, hT, hembeds, hentry, htype⟩ := hs.attached id c handle hc htarget
  have hconduct : c.entry.conduct = .keep A.bound := by rw [hentry]; rfl
  rw [World.placesOf_eq hc htarget hconduct] at hplace
  obtain ⟨f, hf, rfl⟩ := List.mem_map.mp hplace
  refine ⟨A, handle.path, ⟨id, name, c.context, lookup_of_mem hactive hs.keys, ?_⟩, hf, rfl⟩
  rw [hc, ← hentry, ← htype, ← htarget]

/-- A bound target has a companion for its type or for a type embedded in it. -/
theorem Sound.follows (hs : Sound setting w) {t : TargetId} (ht : w.isBound t) :
    ∃ T A path, w.typeOf? t = some T ∧ setting.catalog.Embeds T path A ∧ w.Follows t A path := by
  rw [World.isBound, Binder.isBound, Option.isSome_iff_exists] at ht
  obtain ⟨id, hlookup⟩ := ht
  obtain ⟨c, handle, hc, htarget, rfl⟩ := hs.active t id (mem_of_lookup hlookup)
  obtain ⟨T, A, name, hT, hembeds, hentry, htype⟩ := hs.attached id c handle hc htarget
  refine ⟨T, A, handle.path, hT, hembeds, id, name, c.context, hlookup, ?_⟩
  rw [hc, ← hentry, ← htype, ← htarget]

/-! ## Places that are up to date -/

/-- A field holds what a skin has for it; if it is a slot, the slot does. -/
def World.Holds (w : World) (skin : Skin) (x : Place) : Prop :=
  match x.field.shape with
  | .value => w.content? x.target x.path = some (.plain (skin.value x.field))
  | .reference => w.content? x.target x.path = some (.optional (some (skin.value x.field)))
  | .reactive => ∃ s slot, w.kindAt? x.target x.path = some (.reactive s) ∧
      w.slots[s]? = some slot ∧ slot.value = some (skin.value x.field)

/-- A field holds what it holds as long as its content and its slot stay. -/
theorem World.Holds.of_eq {x : Place} (h : w.Holds skin x)
    (hcontent : w'.content? x.target x.path = w.content? x.target x.path)
    (hslots : ∀ s, w.kindAt? x.target x.path = some (.reactive s) → x.field.shape = .reactive →
      w'.slots[s]? = w.slots[s]?) : w'.Holds skin x := by
  unfold World.Holds at h ⊢
  cases hshape : x.field.shape with
  | value =>
    rw [hshape] at h
    exact hcontent.trans h
  | reference =>
    rw [hshape] at h
    exact hcontent.trans h
  | reactive =>
    rw [hshape] at h
    obtain ⟨s, slot, hkind, hslot, hvalue⟩ := h
    refine ⟨s, slot, ?_, (hslots s hkind hshape).trans hslot, hvalue⟩
    rw [World.kindAt?, hcontent]
    exact hkind

/-- Setting a slot does not matter to other fields. -/
theorem World.Holds.store {x : Place} {s : SlotId} (h : w.Holds skin x)
    (hne : x.field.shape = .reactive → w.kindAt? x.target x.path ≠ some (.reactive s)) (v : Value) :
    (w.store s v).Holds skin x := by
  refine h.of_eq rfl fun s' hs' hshape => ?_
  have hs : s' ≠ s := by
    rintro rfl
    exact hne hshape hs'
  rw [World.slots_store, if_neg hs]

/-- Setting the slot of a field brings it up to date. -/
theorem World.holds_store {x : Place} {s : SlotId} (hshape : x.field.shape = .reactive)
    (hkind : w.kindAt? x.target x.path = some (.reactive s)) (hs : s < w.slots.length) :
    (w.store s (skin.value x.field)).Holds skin x := by
  rw [World.Holds, hshape]
  refine ⟨s, { w.slots[s] with
    value := some (skin.value x.field), version := w.slots[s].version + 1 }, hkind, ?_, rfl⟩
  rw [World.slots_store, if_pos rfl, List.getElem?_eq_getElem hs]
  rfl

/-- What keeps contents, slots and skins keeps fields up to date. -/
theorem Quiet.holds (h : Quiet w w') {x : Place} (hx : w.Holds skin x) : w'.Holds skin x :=
  hx.of_eq (h.content? _ _) fun _ _ _ => by rw [h.slots]

/-- The first round of a companion brings its fields up to date that are no slots. -/
theorem Refreshed.holds {handle : Handle} {fields : List BoundField}
    (h : Refreshed w handle skin fields w') :
    ∀ x ∈ (placesAt handle fields).filter (·.field.shape ≠ .reactive), w'.Holds skin x := by
  intro x hx
  obtain ⟨hplace, hshape⟩ := List.mem_filter.mp hx
  obtain ⟨f, hf, rfl⟩ := List.mem_map.mp hplace
  have happlied := h.applied f hf
  rw [BoundField.content?] at happlied
  unfold World.Holds
  dsimp only at hshape ⊢
  cases hf' : f.shape with
  | value => rw [hf'] at happlied; exact happlied _ rfl
  | reference => rw [hf'] at happlied; exact happlied _ rfl
  | reactive => simp [hf'] at hshape

end Live
end Theming
