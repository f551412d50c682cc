/-
# Bringing fields up to date

A companion brings its fields up to date in two rounds. The first puts the values of the skin into
the plain and the optional fields and puts aside what the slots are to be set to; the second sets
them. `updateFields_refreshed` is the first round: every plain and optional field has its value of
the skin, everything outside of these fields is as before, and no observer has been called.
-/

import Theming.Proofs.Sound

namespace Theming

/-- What a skin has under an id, or what stands for it. -/
def Skin.resource (skin : Skin) (kind : ResourceKind) (id : ResourceId) : Resource :=
  match kind with
  | .color => .color ((skin.color? id).getD .transparent)
  | .drawable => .drawable ((skin.drawable? id).getD .empty)

/-- What a skin has for a bound field, in the form of the field. -/
def Skin.value (skin : Skin) (field : BoundField) : Value :=
  field.form.convert (skin.resource field.kind field.key)

/-- The skin that has nothing. -/
def Skin.blank : Skin := { name := "" }

/-- What a bound field that is no slot holds under a skin. -/
def BoundField.content? (field : BoundField) (skin : Skin) : Option Content :=
  match field.shape with
  | .value => some (.plain (skin.value field))
  | .reference => some (.optional (some (skin.value field)))
  | .reactive => none

theorem BoundField.content?_eq_none {field : BoundField} {skin : Skin} :
    field.content? skin = none ↔ field.shape = .reactive := by
  cases h : field.shape <;> simp [BoundField.content?, h]

/-- What a bound field holds is of the kind that its layout asks for, and no part. -/
theorem BoundField.kind_content {field : BoundField} {skin : Skin} {c : Content}
    {k : Content.Kind} (hk : k.Suits field.layout) (hc : field.content? skin = some c) :
    k = c.kind ∧ c.kind ≠ .part := by
  cases hshape : field.shape <;> simp only [BoundField.content?, BoundField.layout, hshape] at hc hk
  · cases hc
  · obtain rfl := Option.some.inj hc
    cases k <;> simp_all [Content.Kind.Suits, Content.kind]
  · obtain rfl := Option.some.inj hc
    cases k <;> simp_all [Content.Kind.Suits, Content.kind]

namespace Live

/-- Whether an occurrence is the call of an observer. -/
def Occurrence.isObserved : Occurrence → Bool
  | .observed _ _ _ => true
  | _ => false

/-- The skin that answers lookups; one that has nothing as long as there is none. -/
def SkinManager.current (m : SkinManager) : Skin := m.active.getD .blank

/-- The calls of observers so far. -/
def World.observations (w : World) : List Occurrence := w.trace.filter Occurrence.isObserved

/-- A step that touches no target, slot or skin and calls no observer. -/
structure Quiet (w w' : World) : Prop where
  steady : Steady w w'
  targets : w'.targets = w.targets
  slots : w'.slots = w.slots
  managers : w'.managers = w.managers
  observations : w'.observations = w.observations

namespace Quiet

variable {w w' w'' : World}

theorem trans (h : Quiet w w') (h' : Quiet w' w'') : Quiet w w'' where
  steady := h.steady.trans h'.steady
  targets := h'.targets.trans h.targets
  slots := h'.slots.trans h.slots
  managers := h'.managers.trans h.managers
  observations := h'.observations.trans h.observations

theorem pin (w : World) (pinned : List Listener) : Quiet w { w with pinned } :=
  ⟨.pin w pinned, rfl, rfl, rfl, rfl⟩

theorem content? (h : Quiet w w') (t : TargetId) (p : List String) :
    w'.content? t p = w.content? t p := by
  rw [World.content?, World.content?, h.targets]

theorem manager (h : Quiet w w') (m : ManagerId) : w'.manager m = w.manager m := by
  rw [World.manager, World.manager, h.managers]

end Quiet

namespace World

/-- Nothing has happened but that something was logged. -/
def Logged (w w' : World) : Prop :=
  ∃ os, w' = { w with trace := w.trace ++ os } ∧ os.filter Occurrence.isObserved = []

theorem Logged.steady {w w' : World} (h : Logged w w') : Steady w w' := by
  obtain ⟨os, rfl, -⟩ := h
  exact ⟨rfl, rfl, fun _ => rfl, fun _ _ => rfl, rfl, rfl, rfl⟩

theorem Logged.observations {w w' : World} (h : Logged w w') :
    w'.observations = w.observations := by
  obtain ⟨os, rfl, hos⟩ := h
  rw [World.observations, World.observations, List.filter_append, hos, List.append_nil]

theorem logged_refl (w : World) : Logged w w := ⟨[], by rw [List.append_nil], rfl⟩

theorem logged_tell (w : World) (level : Log.Level) (message : String) :
    Logged w (w.tell level message) := ⟨_, rfl, rfl⟩

theorem quiet_tell (w : World) (level : Log.Level) (message : String) :
    Quiet w (w.tell level message) :=
  ⟨.tell w level message, rfl, rfl, rfl, (w.logged_tell level message).observations⟩

/-- **A lookup is answered by the current skin** and changes nothing. -/
theorem lookup_spec (w : World) (m : ManagerId) (kind : ResourceKind) (id : ResourceId) :
    (w.lookup m kind id).1 = (w.manager m).current.resource kind id ∧
      Logged w (w.lookup m kind id).2 := by
  cases kind with
  | color =>
    rw [lookup, lookupColor, SkinManager.color, SkinManager.current]
    cases (w.manager m).active with
    | none => exact ⟨rfl, logged_tell w _ _⟩
    | some skin =>
      simp only [Option.getD_some, Skin.resource]
      cases skin.color? id with
      | none => exact ⟨rfl, logged_tell w _ _⟩
      | some c => exact ⟨rfl, logged_refl w⟩
  | drawable =>
    rw [lookup, lookupDrawable, SkinManager.drawable, SkinManager.current]
    cases (w.manager m).active with
    | none => exact ⟨rfl, logged_tell w _ _⟩
    | some skin =>
      simp only [Option.getD_some, Skin.resource]
      cases skin.drawable? id with
      | none => exact ⟨rfl, logged_tell w _ _⟩
      | some d => exact ⟨rfl, logged_refl w⟩

/-- The fields are there, and of the kinds of their layouts. -/
def Suited (w : World) (handle : Handle) (fields : List BoundField) : Prop :=
  ∀ f ∈ fields, ∃ k, w.kindAt? handle.target (handle.path ++ [f.name]) = some k ∧ k.Suits f.layout

/-- Where a slot is asked for, there is one. -/
theorem Suited.slot {w : World} {handle : Handle} {fields : List BoundField}
    (h : w.Suited handle fields) {f : BoundField} (hf : f ∈ fields)
    (hshape : f.shape = .reactive) :
    ∃ s, w.kindAt? handle.target (handle.path ++ [f.name]) = some (.reactive s) := by
  obtain ⟨k, hk, hsuits⟩ := h f hf
  rw [BoundField.layout, hshape] at hsuits
  cases k with
  | reactive s => exact ⟨s, hk⟩
  | plain => exact hsuits.elim
  | optional => exact hsuits.elim
  | journal => exact hsuits.elim
  | part => exact hsuits.elim

/-- What the slot of a field is to be set to. -/
def pendingOf (w : World) (handle : Handle) (skin : Skin) (field : BoundField) : List Pending :=
  match field.shape with
  | .reactive => (w.slotAt? handle field.name).toList.map fun slot => ⟨slot, skin.value field⟩
  | _ => []

theorem pendingOf_of_ne {w : World} {handle : Handle} {skin : Skin} {f : BoundField}
    (h : f.shape ≠ .reactive) : w.pendingOf handle skin f = [] := by
  rw [pendingOf]
  split
  · exact absurd ‹f.shape = .reactive› h
  · rfl

theorem pendingOf_of_slot {w : World} {handle : Handle} {skin : Skin} {f : BoundField} {s : SlotId}
    (h : f.shape = .reactive)
    (hslot : w.kindAt? handle.target (handle.path ++ [f.name]) = some (.reactive s)) :
    w.pendingOf handle skin f = [⟨s, skin.value f⟩] := by
  rw [pendingOf, h, slotAt?_eq_some.mpr hslot]
  rfl

end World

/-- Which slots are set does not depend on values. -/
theorem Steady.pendingOf_eq {w w' : World} (h : Steady w w') (handle : Handle)
    (skin : Skin) (f : BoundField) : w'.pendingOf handle skin f = w.pendingOf handle skin f := by
  have hslot : w'.slotAt? handle f.name = w.slotAt? handle f.name := by
    refine Option.ext fun s => ?_
    rw [World.slotAt?_eq_some, World.slotAt?_eq_some, h.kinds]
  rw [World.pendingOf, World.pendingOf, hslot]

/-- The fields that are no slots hold what the skin has for them, and nothing else has changed. -/
structure Refreshed (w : World) (handle : Handle) (skin : Skin) (fields : List BoundField)
    (w' : World) : Prop where
  steady : Steady w w'
  slots : w'.slots = w.slots
  managers : w'.managers = w.managers
  broadcasters : w'.broadcasters = w.broadcasters
  observations : w'.observations = w.observations
  applied : ∀ f ∈ fields, ∀ c, f.content? skin = some c →
    w'.content? handle.target (handle.path ++ [f.name]) = some c
  rest : ∀ t p, (t = handle.target → ∀ f ∈ fields, f.shape ≠ .reactive →
    ¬ p <+: handle.path ++ [f.name]) → w'.content? t p = w.content? t p

namespace Refreshed

variable {w w' w'' : World} {handle : Handle} {skin : Skin} {fields : List BoundField}
  {field : BoundField}

theorem refl (w : World) (handle : Handle) (skin : Skin) : Refreshed w handle skin [] w where
  steady := .refl w
  slots := rfl
  managers := rfl
  broadcasters := rfl
  observations := rfl
  applied _ hf := nomatch hf
  rest _ _ _ := rfl

/-- One field after the other. -/
theorem cons (h : Refreshed w handle skin [field] w') (h' : Refreshed w' handle skin fields w'')
    (hname : ∀ f ∈ fields, f.name ≠ field.name) :
    Refreshed w handle skin (field :: fields) w'' where
  steady := h.steady.trans h'.steady
  slots := h'.slots.trans h.slots
  managers := h'.managers.trans h.managers
  broadcasters := h'.broadcasters.trans h.broadcasters
  observations := h'.observations.trans h.observations
  applied f hf c hc := by
    rcases List.mem_cons.mp hf with rfl | hmem
    · rw [h'.rest _ _ fun _ g hg _ => not_prefix_of_name_ne (hname g hg).symm]
      exact h.applied f List.mem_cons_self c hc
    · exact h'.applied f hmem c hc
  rest t p hp := by
    rw [h'.rest t p fun ht f hf => hp ht f (List.mem_cons_of_mem _ hf)]
    refine h.rest t p fun ht f hf => hp ht f ?_
    rw [List.mem_singleton.mp hf]
    exact List.mem_cons_self

/-- A field that has been assigned what the skin has for it. -/
theorem of_assign (hlog : w.Logged w') (hsuited : w.Suited handle [field]) {c : Content}
    (hc : field.content? skin = some c) :
    Refreshed w handle skin [field] (w'.assign handle field.name c) := by
  obtain ⟨k, hk, hsuits⟩ := hsuited field List.mem_cons_self
  obtain ⟨rfl, hleaf⟩ := BoundField.kind_content hsuits hc
  have hsteady := hlog.steady
  have hk' : w'.kindAt? handle.target (handle.path ++ [field.name]) = some c.kind :=
    (hsteady.kinds _ _).trans hk
  obtain ⟨old, hold, hkind⟩ := World.kindAt?_eq_some.mp hk'
  have hcontent : ∀ t p, w'.content? t p = w.content? t p := by
    obtain ⟨os, rfl, -⟩ := hlog
    exact fun _ _ => rfl
  refine ⟨hsteady.trans (.assign hk' hleaf), ?_, ?_, ?_, ?_, ?_, ?_⟩
  · obtain ⟨os, rfl, -⟩ := hlog
    rfl
  · obtain ⟨os, rfl, -⟩ := hlog
    rfl
  · obtain ⟨os, rfl, -⟩ := hlog
    rfl
  · exact hlog.observations
  · intro f hf d hd
    rw [List.mem_singleton.mp hf] at hd ⊢
    rw [hc] at hd
    rw [World.content?_assign_self hold, hd]
  · intro t p hp
    have hne : field.shape ≠ .reactive := fun hshape => by
      rw [BoundField.content?_eq_none.mpr hshape] at hc
      cases hc
    rw [World.content?_assign_of_leaf hold (hkind ▸ hleaf) hleaf
      fun ht => hp ht field List.mem_cons_self hne, hcontent]

/-- A slot is not set in the first round. -/
theorem of_logged (hlog : w.Logged w') (hshape : field.shape = .reactive) :
    Refreshed w handle skin [field] w' := by
  refine ⟨hlog.steady, ?_, ?_, ?_, hlog.observations, ?_, ?_⟩
  · obtain ⟨os, rfl, -⟩ := hlog
    rfl
  · obtain ⟨os, rfl, -⟩ := hlog
    rfl
  · obtain ⟨os, rfl, -⟩ := hlog
    rfl
  · intro f hf c hc
    rw [List.mem_singleton.mp hf, BoundField.content?_eq_none.mpr hshape] at hc
    cases hc
  · obtain ⟨os, rfl, -⟩ := hlog
    exact fun _ _ _ => rfl

theorem suited (h : Refreshed w handle skin fields w') {others : List BoundField}
    (hsuited : w.Suited handle others) : w'.Suited handle others := by
  intro f hf
  obtain ⟨k, hk, hsuits⟩ := hsuited f hf
  exact ⟨k, (h.steady.kinds _ _).trans hk, hsuits⟩

end Refreshed

/-- One field is brought up to date. -/
theorem updateField_refreshed (w : World) (handle : Handle) (m : ManagerId) (field : BoundField)
    (hsuited : w.Suited handle [field]) :
    (w.updateField handle m field).1 = w.pendingOf handle (w.manager m).current field ∧
      Refreshed w handle (w.manager m).current [field] (w.updateField handle m field).2 := by
  obtain ⟨hvalue, hlog⟩ := w.lookup_spec m field.kind field.key
  rw [World.updateField, World.pendingOf]
  generalize w.lookup m field.kind field.key = r at hvalue hlog ⊢
  obtain ⟨resource, w'⟩ := r
  dsimp only at hvalue hlog ⊢
  subst hvalue
  cases hshape : field.shape with
  | value => exact ⟨rfl, .of_assign hlog hsuited (by rw [BoundField.content?, hshape]; rfl)⟩
  | reference => exact ⟨rfl, .of_assign hlog hsuited (by rw [BoundField.content?, hshape]; rfl)⟩
  | reactive =>
    refine ⟨?_, .of_logged hlog hshape⟩
    obtain ⟨os, rfl, -⟩ := hlog
    rfl

/-- **The first round**: the slots to be set and what they are to be set to, in the order of the
fields, and all other fields up to date. -/
theorem updateFields_refreshed (w : World) (handle : Handle) (m : ManagerId)
    (fields : List BoundField) (hsuited : w.Suited handle fields)
    (hnames : (fields.map fun f => f.name).Nodup) :
    (w.updateFields handle m fields).1 =
        fields.flatMap (w.pendingOf handle (w.manager m).current) ∧
      Refreshed w handle (w.manager m).current fields (w.updateFields handle m fields).2 := by
  induction fields generalizing w with
  | nil => exact ⟨rfl, .refl w handle _⟩
  | cons field rest ih =>
    rw [List.map_cons, List.nodup_cons] at hnames
    have hfirst : w.Suited handle [field] := fun f hf =>
      hsuited f (List.mem_singleton.mp hf ▸ List.mem_cons_self)
    have hrest : w.Suited handle rest := fun f hf => hsuited f (List.mem_cons_of_mem _ hf)
    obtain ⟨hpending, hone⟩ := updateField_refreshed w handle m field hfirst
    rw [World.updateFields]
    generalize w.updateField handle m field = r at hpending hone ⊢
    obtain ⟨first, w'⟩ := r
    dsimp only at hpending hone ⊢
    have hmanager : w'.manager m = w.manager m := by
      rw [World.manager, World.manager, hone.managers]
    obtain ⟨hothers, hmore⟩ := ih w' (hone.suited hrest) hnames.2
    rw [hmanager] at hothers hmore
    refine ⟨?_, hone.cons hmore fun f hf heq => hnames.1 (heq ▸ List.mem_map_of_mem hf)⟩
    rw [List.flatMap_cons, hothers, hpending]
    congr 1
    exact congrArg (fun g => rest.flatMap g)
      (funext fun f => hone.steady.pendingOf_eq handle (w.manager m).current f)

end Live
end Theming
