/-
# What a change of theme does

After a change of theme the world is the one before with every bound field of every bound target
renewed (`Applied`):

| field | afterwards |
| --- | --- |
| plain | what the skin has for it |
| optional | some of that |
| reactive | the same slot, set to it, one version further |
| anything else | as before |

Every observer of such a slot has been called once, with the new value, at a moment when the plain
and the optional fields of the target were renewed already (`Due.Met`).
-/

import Theming.Proofs.Places

namespace Theming
namespace Live

/-! ## What can be seen -/

namespace View

/-- The field of a name. -/
def field? (name : String) : View → Option View
  | part fields => fields.lookup name
  | _ => none

/-- What is seen at a path of field names. -/
def at? : List String → View → Option View
  | [], v => some v
  | name :: path, v => (v.field? name).bind (at? path)

/-- What is seen of a bound field that is no slot and is up to date with a skin. -/
def renewed? (skin : Skin) (field : BoundField) : Option View :=
  match field.shape with
  | .value => some (.plain (skin.value field))
  | .reference => some (.optional (some (skin.value field)))
  | .reactive => none

end View

namespace World

theorem lookup_viewAll (w : World) (name : String) (fields : List (String × Content)) :
    (w.viewAll fields).lookup name = (fields.lookup name).map w.view := by
  induction fields with
  | nil => rfl
  | cons entry rest ih =>
    obtain ⟨n, c⟩ := entry
    rw [viewAll, lookup_cons_ite, lookup_cons_ite, ih]
    split_ifs <;> rfl

/-- What is seen at a path is what lies there. -/
theorem at?_view (w : World) (p : List String) (c : Content) :
    (w.view c).at? p = (c.at? p).map w.view := by
  induction p generalizing c with
  | nil => rfl
  | cons name p ih =>
    have hfield : (w.view c).field? name = (c.field? name).map w.view := by
      cases c with
      | part fields =>
        rw [view]
        exact w.lookup_viewAll name fields
      | plain v => rw [view]; rfl
      | optional v => rw [view]; rfl
      | reactive s => rw [view]; rfl
      | journal lines => rw [view]; rfl
    rw [View.at?, Content.at?, hfield]
    cases c.field? name with
    | none => rfl
    | some d => exact ih d

theorem at?_viewTarget {w : World} {t : TargetId} {p : List String} {c : Content}
    (h : w.content? t p = some c) : (w.viewTarget t).at? p = some (w.view c) := by
  rw [content?] at h
  cases ht : w.targets[t]? with
  | none => rw [ht] at h; cases h
  | some target =>
    rw [ht, Option.bind_some] at h
    rw [viewTarget, ht]
    dsimp only
    rw [at?_view, h, Option.map_some]

end World

/-! ## What is due -/

/-- The field of a target has been renewed from one world to another. -/
def Place.Renewed (skin : Skin) (w w' : World) (x : Place) : Prop :=
  match x.field.shape with
  | .value => w'.content? x.target x.path = some (.plain (skin.value x.field))
  | .reference => w'.content? x.target x.path = some (.optional (some (skin.value x.field)))
  | .reactive => ∃ s slot, w.content? x.target x.path = some (.reactive s) ∧
      w'.content? x.target x.path = some (.reactive s) ∧ w.slots[s]? = some slot ∧
      w'.slots[s]? =
        some { slot with value := some (skin.value x.field), version := slot.version + 1 }

/-- A call of an observer that a change of theme brings about. -/
structure Due where
  target : TargetId
  slot : SlotId
  value : Value
  observer : Observer

namespace World

/-- The calls of the observers of a field, in the order in which they came. -/
def dueAt (w : World) (skin : Skin) (x : Place) : List Due :=
  match x.field.shape, w.kindAt? x.target x.path with
  | .reactive, some (.reactive s) =>
    (w.observers s).map fun o => ⟨x.target, s, skin.value x.field, o⟩
  | _, _ => []

theorem dueAt_of_ne {w : World} {skin : Skin} {x : Place} (h : x.field.shape ≠ .reactive) :
    w.dueAt skin x = [] := by
  rw [dueAt]
  split
  · exact absurd ‹x.field.shape = .reactive› h
  · rfl

/-- The calls of all observers of slots in bound fields. -/
def due (w : World) (skin : Skin) : List Due := w.places.flatMap (w.dueAt skin)

end World

/-- A due call has been made: the observer got the value, and where it looked at the slot or at
the target, the slot had that value, and the fields of the target that are no slots were
renewed. -/
def Due.Met (skin : Skin) (w : World) (d : Due) (o : Occurrence) : Prop :=
  ∃ sight, o = .observed d.observer.tag d.value sight ∧
    match d.observer.glance with
    | .nothing => sight = .nothing
    | .slot => sight = .slot (some d.value) (w.version d.slot + 1)
    | .target id => ∃ view, sight = .target id view ∧
        (id = d.target → ∀ A path, w.Follows d.target A path → ∀ f ∈ A.bound,
          ∀ v, View.renewed? skin f = some v → view.at? (path ++ [f.name]) = some v)

/-- **What a change of theme does.** -/
structure Applied (catalog : Catalog) (skin : Skin) (w w' : World) : Prop where
  /-- The skin answers lookups from now on. -/
  active : (w'.manager 0).active = some skin
  /-- The same targets are bound to the same companions. -/
  binder : w'.binder = w.binder
  types : ∀ t, w'.typeOf? t = w.typeOf? t
  /-- A bound target has a companion for its type or for a type embedded in it. -/
  follows : ∀ t, w.isBound t → ∃ T A path, w.typeOf? t = some T ∧ catalog.Embeds T path A ∧
    w.Follows t A path
  /-- Every bound field of every bound target is renewed. -/
  renewed : ∀ t A path, w.Follows t A path → ∀ f ∈ A.bound,
    Place.Renewed skin w w' ⟨t, path ++ [f.name], f⟩
  /-- Every observer of a slot in a bound field is called once, and nobody else is. -/
  observers : ∃ os, w'.observations = w.observations ++ os ∧
    List.Forall₂ (Due.Met skin w) (w.due skin) os
  /-- Nothing changes where no bound field of a bound target lies. -/
  rest : ∀ t p, (∀ A path, w.Follows t A path → ∀ f ∈ A.bound, ¬ p <+: path ++ [f.name]) →
    w'.content? t p = w.content? t p ∧
      ∀ s, w.content? t p = some (.reactive s) → w'.slots[s]? = w.slots[s]?

variable {skin : Skin} {w₀ w w' : World}

/-- What is renewed stays renewed as long as its content and its slot stay. -/
theorem Place.Renewed.of_eq {x : Place} (h : x.Renewed skin w₀ w)
    (hcontent : w'.content? x.target x.path = w.content? x.target x.path)
    (hslots : ∀ s, w₀.content? x.target x.path = some (.reactive s) → x.field.shape = .reactive →
      w'.slots[s]? = w.slots[s]?) : x.Renewed skin w₀ w' := by
  unfold Place.Renewed at h ⊢
  cases hshape : x.field.shape with
  | value =>
    rw [hshape] at h
    exact hcontent.trans h
  | reference =>
    rw [hshape] at h
    exact hcontent.trans h
  | reactive =>
    rw [hshape] at h
    obtain ⟨s, slot, hold, hnew, hslot, hset⟩ := h
    exact ⟨s, slot, hold, hcontent.trans hnew, hslot, (hslots s hold hshape).trans hset⟩

/-- A field that is no slot is renewed if it is up to date. -/
theorem Place.renewed_of_holds {x : Place} (h : w.Holds skin x)
    (hshape : x.field.shape ≠ .reactive) : x.Renewed skin w₀ w := by
  unfold World.Holds at h
  unfold Place.Renewed
  cases hx : x.field.shape with
  | value => rw [hx] at h; exact h
  | reference => rw [hx] at h; exact h
  | reactive => exact absurd hx hshape

end Live
end Theming
