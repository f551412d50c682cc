/-
# Releasing a target

The active companion of a target is released by an unbind, and by a bind before it makes another
one. Whatever companions do when they are released, both come to the same world
(`World.vacated`): the target is not bound, and nothing has changed but targets, listeners and
companions. They differ in what is told, and a bind has resolved the type before; such worlds are
`Akin`, and whatever is done to a target afterwards comes to worlds that are akin as well.
-/

import Theming.Proofs.Joining

namespace Theming
namespace Live

variable {t : TargetId} {w w' w'' : World}

/-! ## Worlds that are akin -/

/-- The same world, but for what its resolver has found and what has been logged. -/
def Akin (w w' : World) : Prop :=
  ∃ resolver trace, w' = { w with binder := { w.binder with resolver }, trace }

namespace Akin

theorem refl (w : World) : Akin w w := ⟨w.binder.resolver, w.trace, rfl⟩

theorem symm (h : Akin w w') : Akin w' w := by
  obtain ⟨resolver, trace, rfl⟩ := h
  exact ⟨w.binder.resolver, w.trace, rfl⟩

theorem trans (h : Akin w w') (h' : Akin w' w'') : Akin w w'' := by
  obtain ⟨resolver, trace, rfl⟩ := h
  obtain ⟨resolver', trace', rfl⟩ := h'
  exact ⟨resolver', trace', rfl⟩

theorem tell (w : World) (level : Log.Level) (message : String) :
    Akin w (w.tell level message) :=
  ⟨w.binder.resolver, _, rfl⟩

/-- Resolving makes no other difference. -/
theorem resolving (w : World) (info : TypeInfo) : Akin w (w.resolving info) := by
  obtain ⟨trace, h⟩ := w.resolving_eq info
  exact ⟨_, trace, h⟩

theorem retrace (w : World) (trace : List Occurrence) : Akin w { w with trace } :=
  ⟨w.binder.resolver, trace, rfl⟩

/-- Worlds that are akin and whose resolvers have found the same differ in what was logged. -/
theorem eq_of_resolver (h : Akin w w') (hresolver : w'.binder.resolver = w.binder.resolver) :
    ∃ trace, w' = { w with trace } := by
  obtain ⟨resolver, trace, rfl⟩ := h
  obtain rfl : resolver = w.binder.resolver := hresolver
  exact ⟨trace, rfl⟩

/-! ### What goes on alike in worlds that are akin -/

section Steps

variable (h : Akin w w')
include h

theorem active : w'.binder.active = w.binder.active := by
  obtain ⟨_, _, rfl⟩ := h
  rfl

theorem content? (t : TargetId) (p : List String) : w'.content? t p = w.content? t p := by
  obtain ⟨_, _, rfl⟩ := h
  rfl

theorem kindAt? (t : TargetId) (p : List String) : w'.kindAt? t p = w.kindAt? t p := by
  obtain ⟨_, _, rfl⟩ := h
  rfl

theorem without (t : TargetId) : Akin (w.without t) (w'.without t) := by
  obtain ⟨_, _, rfl⟩ := h
  exact ⟨_, _, rfl⟩

theorem modifyContent (t : TargetId) (p : List String) (f : Content → Content) :
    Akin (w.modifyContent t p f) (w'.modifyContent t p f) := by
  obtain ⟨_, _, rfl⟩ := h
  exact ⟨_, _, rfl⟩

theorem removeListener (b : BroadcasterId) (l : Listener) :
    Akin (w.removeListener b l) (w'.removeListener b l) := by
  obtain ⟨_, _, rfl⟩ := h
  exact ⟨_, _, rfl⟩

theorem addListener (b : BroadcasterId) (l : Listener) :
    Akin (w.addListener b l) (w'.addListener b l) := by
  obtain ⟨_, _, rfl⟩ := h
  exact ⟨_, _, rfl⟩

theorem addCompanion (c : Companion) : Akin (w.addCompanion c).2 (w'.addCompanion c).2 := by
  obtain ⟨_, _, rfl⟩ := h
  exact ⟨_, _, rfl⟩

theorem detach (id : CompanionId) : Akin (w.detach id) (w'.detach id) := by
  obtain ⟨_, _, rfl⟩ := h
  exact ⟨_, _, rfl⟩

theorem resetField (handle : Handle) (field : BoundField) :
    Akin (World.resetField handle w field) (World.resetField handle w' field) := by
  rw [World.resetField, World.resetField]
  cases field.shape with
  | value => exact h.modifyContent _ _ _
  | reference => exact h.modifyContent _ _ _
  | reactive => exact h

theorem resetFields (handle : Handle) (fields : List BoundField) :
    Akin (w.resetFields handle fields) (w'.resetFields handle fields) := by
  rw [World.resetFields, World.resetFields]
  induction fields generalizing w w' with
  | nil => exact h
  | cons field rest ih => exact ih (h.resetField handle field)

/-- **A companion is released alike**, whatever companion it is. -/
theorem unbindCompanion (id : CompanionId) :
    (w'.unbindCompanion id).1 = (w.unbindCompanion id).1 ∧
      Akin (w.unbindCompanion id).2 (w'.unbindCompanion id).2 := by
  have hcompanions : w'.companions = w.companions := by
    obtain ⟨_, _, rfl⟩ := h
    rfl
  have hmodes : w'.modes = w.modes := by
    obtain ⟨_, _, rfl⟩ := h
    rfl
  rw [World.unbindCompanion, World.unbindCompanion, hcompanions]
  cases w.companions[id]? with
  | none => exact ⟨rfl, h⟩
  | some c =>
    obtain ⟨entry, context, target⟩ := c
    dsimp only
    cases entry.conduct with
    | keep fields =>
      have hremoved := h.removeListener context.broadcaster (.companion id)
      cases target with
      | none => exact ⟨rfl, hremoved⟩
      | some handle => exact ⟨rfl, hremoved.resetFields handle fields⟩
    | record journal =>
      cases target with
      | none => exact ⟨rfl, h⟩
      | some handle =>
        dsimp only
        rw [hmodes]
        split_ifs
        · exact ⟨rfl, h.modifyContent _ _ _⟩
        · exact ⟨rfl, h.modifyContent _ _ _⟩

theorem clearCompanion (id : CompanionId) :
    Akin (w.clearCompanion id) (w'.clearCompanion id) := by
  have hcompanions : w'.companions = w.companions := by
    obtain ⟨_, _, rfl⟩ := h
    rfl
  rw [World.clearCompanion, World.clearCompanion, hcompanions]
  split
  · exact (h.detach id).modifyContent _ _ _
  · exact h.detach id

theorem allocate (handle : Handle) (fields : List BoundField) :
    Akin (w.allocate handle fields) (w'.allocate handle fields) := by
  induction fields generalizing w w' with
  | nil => exact h
  | cons field rest ih =>
    rw [World.allocate, World.allocate]
    cases field.shape with
    | value => exact ih h
    | reference => exact ih h
    | reactive =>
      refine ih ?_
      obtain ⟨_, _, rfl⟩ := h
      exact ⟨_, _, rfl⟩

theorem lookup (m : ManagerId) (kind : ResourceKind) (id : ResourceId) :
    (w'.lookup m kind id).1 = (w.lookup m kind id).1 ∧
      Akin (w.lookup m kind id).2 (w'.lookup m kind id).2 := by
  have hmanager : w'.manager m = w.manager m := by
    obtain ⟨_, _, rfl⟩ := h
    rfl
  obtain ⟨hresource, hlog⟩ := w.lookup_spec m kind id
  obtain ⟨hresource', hlog'⟩ := w'.lookup_spec m kind id
  rw [hmanager] at hresource'
  have hlogged : ∀ {w w' : World}, w.Logged w' → Akin w w' := by
    rintro w _ ⟨os, rfl, -⟩
    exact ⟨w.binder.resolver, _, rfl⟩
  exact ⟨hresource'.trans hresource.symm,
    ((hlogged hlog).symm.trans h).trans (hlogged hlog')⟩

theorem updateField (handle : Handle) (m : ManagerId) (field : BoundField) :
    (w'.updateField handle m field).1 = (w.updateField handle m field).1 ∧
      Akin (w.updateField handle m field).2 (w'.updateField handle m field).2 := by
  obtain ⟨hresource, hakin⟩ := h.lookup m field.kind field.key
  rw [World.updateField, World.updateField]
  generalize w.lookup m field.kind field.key = r at hresource hakin ⊢
  generalize w'.lookup m field.kind field.key = r' at hresource hakin ⊢
  obtain ⟨resource, w₁⟩ := r
  obtain ⟨resource', w₁'⟩ := r'
  dsimp only at hresource hakin ⊢
  subst hresource
  cases field.shape with
  | value => exact ⟨rfl, hakin.modifyContent _ _ _⟩
  | reference => exact ⟨rfl, hakin.modifyContent _ _ _⟩
  | reactive =>
    refine ⟨?_, hakin⟩
    dsimp only
    rw [World.slotAt?, World.slotAt?, hakin.content?]

theorem updateFields (handle : Handle) (m : ManagerId) (fields : List BoundField) :
    (w'.updateFields handle m fields).1 = (w.updateFields handle m fields).1 ∧
      Akin (w.updateFields handle m fields).2 (w'.updateFields handle m fields).2 := by
  induction fields generalizing w w' with
  | nil => exact ⟨rfl, h⟩
  | cons field rest ih =>
    obtain ⟨hfirst, hakin⟩ := h.updateField handle m field
    obtain ⟨hothers, hakin'⟩ := ih hakin
    exact ⟨congrArg₂ (· ++ ·) hfirst hothers, hakin'⟩

theorem storeAll (pending : List Pending) : Akin (w.storeAll pending) (w'.storeAll pending) := by
  rw [World.storeAll, World.storeAll]
  induction pending generalizing w w' with
  | nil => exact h
  | cons p rest ih =>
    refine ih ?_
    obtain ⟨_, _, rfl⟩ := h
    exact ⟨_, _, rfl⟩

end Steps
end Akin

/-! ## The release of a target -/

namespace World

/-- The world after the active companion of a target, if there is one, has been released. -/
def vacated (w : World) (t : TargetId) : World :=
  match w.binder.active.lookup t with
  | none => w
  | some id => ((w.without t).unbindCompanion id).2.clearCompanion id

theorem vacated_of_unbound (h : w.binder.active.lookup t = none) : w.vacated t = w := by
  rw [vacated, h]

theorem vacated_of_bound {id : CompanionId} (h : w.binder.active.lookup t = some id) :
    w.vacated t = ((w.without t).unbindCompanion id).2.clearCompanion id := by
  rw [vacated, h]

/-- A target that has been released is not bound. -/
theorem lookup_without (w : World) (t : TargetId) :
    (w.without t).binder.active.lookup t = none :=
  (lookup_filter_ne _ _ _).trans (if_pos rfl)

theorem lookup_without_of_ne {t' : TargetId} (h : t' ≠ t) :
    (w.without t).binder.active.lookup t' = w.binder.active.lookup t' :=
  (lookup_filter_ne _ _ _).trans (if_neg h)

theorem resetFields_eq (w : World) (handle : Handle) (fields : List BoundField) :
    ∃ targets, w.resetFields handle fields = { w with targets } := by
  rw [resetFields]
  induction fields generalizing w with
  | nil => exact ⟨w.targets, rfl⟩
  | cons field rest ih =>
    obtain ⟨targets, h⟩ : ∃ targets, resetField handle w field = { w with targets } := by
      rw [resetField]
      cases field.shape <;> exact ⟨_, rfl⟩
    obtain ⟨targets', h'⟩ := ih (resetField handle w field)
    exact ⟨targets', by rw [List.foldl_cons, h', h]⟩

/-- Whatever companion is released, targets and listeners are all that it changes. -/
theorem unbindCompanion_eq (w : World) (id : CompanionId) :
    ∃ targets broadcasters, (w.unbindCompanion id).2 = { w with targets, broadcasters } := by
  rw [unbindCompanion]
  cases w.companions[id]? with
  | none => exact ⟨w.targets, w.broadcasters, rfl⟩
  | some c =>
    obtain ⟨entry, context, target⟩ := c
    dsimp only
    cases entry.conduct with
    | keep fields =>
      cases target with
      | none => exact ⟨_, _, rfl⟩
      | some handle =>
        obtain ⟨targets, h⟩ := resetFields_eq
          (w.removeListener context.broadcaster (.companion id)) handle fields
        exact ⟨targets, _, h⟩
    | record journal =>
      cases target with
      | none => exact ⟨w.targets, w.broadcasters, rfl⟩
      | some handle =>
        dsimp only
        split_ifs
        · exact ⟨_, w.broadcasters, rfl⟩
        · exact ⟨_, w.broadcasters, rfl⟩

theorem clearCompanion_eq (w : World) (id : CompanionId) :
    ∃ targets, w.clearCompanion id = { (w.detach id) with targets } := by
  rw [clearCompanion]
  split
  · exact ⟨_, rfl⟩
  · exact ⟨(w.detach id).targets, rfl⟩

/-- **A release takes the target out of the binder**, and changes nothing else but targets,
listeners and companions, whatever companion is released. -/
theorem vacated_eq (w : World) (t : TargetId) : ∃ targets broadcasters companions,
    w.vacated t = { (w.without t) with targets, broadcasters, companions } := by
  rw [vacated]
  cases h : w.binder.active.lookup t with
  | none =>
    refine ⟨w.targets, w.broadcasters, w.companions, ?_⟩
    dsimp only
    rw [without_of_unbound h]
  | some id =>
    obtain ⟨targets, broadcasters, hunbind⟩ := (w.without t).unbindCompanion_eq id
    obtain ⟨targets', hclear⟩ := ((w.without t).unbindCompanion id).2.clearCompanion_eq id
    refine ⟨targets', broadcasters, (((w.without t).unbindCompanion id).2.detach id).companions, ?_⟩
    dsimp only
    rw [hclear, hunbind]
    rfl

/-- Companions are there for good, and a release makes no other one let go of its target. -/
theorem companions_vacated (w : World) (t : TargetId) :
    (w.vacated t).companions.length = w.companions.length ∧
      ∀ other, w.binder.active.lookup t ≠ some other →
        (w.vacated t).companions[other]? = w.companions[other]? := by
  cases h : w.binder.active.lookup t with
  | none =>
    rw [vacated_of_unbound h]
    exact ⟨rfl, fun _ _ => rfl⟩
  | some id =>
    have hdetached : (w.vacated t).companions = (w.detach id).companions := by
      obtain ⟨targets, broadcasters, hunbind⟩ := (w.without t).unbindCompanion_eq id
      obtain ⟨targets', hclear⟩ := ((w.without t).unbindCompanion id).2.clearCompanion_eq id
      rw [vacated_of_bound h, hclear, hunbind]
      rfl
    rw [hdetached]
    refine ⟨List.length_modify .., fun other hother => ?_⟩
    rw [companions_detach, if_neg fun heq => hother (congrArg some heq.symm)]

theorem binder_vacated (w : World) (t : TargetId) :
    (w.vacated t).binder = (w.without t).binder := by
  obtain ⟨_, _, _, h⟩ := w.vacated_eq t
  rw [h]

theorem slots_vacated (w : World) (t : TargetId) : (w.vacated t).slots = w.slots := by
  obtain ⟨_, _, _, h⟩ := w.vacated_eq t
  rw [h]
  rfl

theorem manager_vacated (w : World) (t : TargetId) (m : ManagerId) :
    (w.vacated t).manager m = w.manager m := by
  obtain ⟨_, _, _, h⟩ := w.vacated_eq t
  rw [h]
  rfl

/-! ### The types of targets -/

theorem typeOf?_resetFields (w : World) (handle : Handle) (fields : List BoundField)
    (t : TargetId) : (w.resetFields handle fields).typeOf? t = w.typeOf? t := by
  rw [resetFields]
  induction fields generalizing w with
  | nil => rfl
  | cons field rest ih =>
    rw [List.foldl_cons, ih, resetField]
    cases field.shape with
    | value => exact Steady.typeOf?_modifyContent ..
    | reference => exact Steady.typeOf?_modifyContent ..
    | reactive => rfl

theorem typeOf?_unbindCompanion (w : World) (id : CompanionId) (t : TargetId) :
    (w.unbindCompanion id).2.typeOf? t = w.typeOf? t := by
  rw [unbindCompanion]
  cases w.companions[id]? with
  | none => rfl
  | some c =>
    obtain ⟨entry, context, target⟩ := c
    dsimp only
    cases entry.conduct with
    | keep fields =>
      cases target with
      | none => rfl
      | some handle => exact typeOf?_resetFields _ handle fields t
    | record journal =>
      cases target with
      | none => rfl
      | some handle =>
        dsimp only
        split_ifs <;> exact Steady.typeOf?_modifyContent ..

theorem typeOf?_vacated (w : World) (t t' : TargetId) :
    (w.vacated t).typeOf? t' = w.typeOf? t' := by
  cases hid : w.binder.active.lookup t with
  | none => rw [vacated_of_unbound hid]
  | some id =>
    have hunbind := (w.without t).typeOf?_unbindCompanion id t'
    rw [vacated_of_bound hid, clearCompanion]
    split
    · exact (Steady.typeOf?_modifyContent ..).trans hunbind
    · exact hunbind

end World

theorem Akin.vacated (h : Akin w w') (t : TargetId) : Akin (w.vacated t) (w'.vacated t) := by
  rw [World.vacated, World.vacated, h.active]
  cases w.binder.active.lookup t with
  | none => exact h
  | some id => exact ((h.without t).unbindCompanion id).2.clearCompanion id

/-- An unbind releases the target, whatever companion it has, and tells if there is none. -/
theorem unbind_eq (w : World) (t : TargetId) :
    ∃ trace, (w.unbind t).2 = { (w.vacated t) with trace } := by
  cases h : w.binder.active.lookup t with
  | none =>
    obtain ⟨level, message, heq⟩ := unbind_of_unbound h
    rw [World.vacated_of_unbound h, heq]
    exact ⟨_, rfl⟩
  | some id =>
    rw [World.vacated_of_bound h, unbind_of_bound h]
    exact ⟨_, rfl⟩

/-- The active companion of a target is taken away and released, and a fault is told. -/
theorem releaseActive_of_active (info : TypeInfo) {id : CompanionId}
    (h : w.binder.active.lookup t = some id) :
    (Binder.releaseActive World.craft info t : Step Unit) w =
      (Binder.releaseOrTell World.craft id (.previousFailed info.name) : Step Unit)
        ((w.replacing info id).without t) := by
  have hremove : (Binder.remove t : Step (Option CompanionId)) w =
      some (w.binder.active.lookup t, w.without t) := rfl
  have hlabel : ((World.craft : Binder.Craft Step CompanionId).label id) (w.without t) =
      some (w.labelOf id, w.without t) := rfl
  have htold : ((World.craft : Binder.Craft Step CompanionId).tell
      (.alreadyBound info.name (w.labelOf id))) (w.without t) =
        some ((), (w.replacing info id).without t) := rfl
  rw [h] at hremove
  exact (Step.bind_eq hremove).trans ((Step.bind_eq hlabel).trans (Step.bind_eq htold))

/-- What is told before a release makes no difference to it. -/
theorem vacated_replacing (w : World) (info : TypeInfo) (id : CompanionId) (t : TargetId) :
    ∃ trace, (w.replacing info id).vacated t = { (w.vacated t) with trace } := by
  have htold : Akin w (w.replacing info id) := .tell w _ _
  refine (htold.vacated t).eq_of_resolver ?_
  rw [World.binder_vacated, World.binder_vacated]
  rfl

/-- **A bind releases the target before it makes a companion**, whatever companion the target had,
and even if that reports a fault. -/
theorem releaseActive_run (w : World) (info : TypeInfo) (t : TargetId) :
    ∃ trace, (Binder.releaseActive World.craft info t : Step Unit) w =
      some ((), { (w.vacated t) with trace }) := by
  cases h : w.binder.active.lookup t with
  | none =>
    rw [World.vacated_of_unbound h]
    exact ⟨w.trace, releaseActive_of_unbound info h⟩
  | some id =>
    obtain ⟨trace, hvacated⟩ := vacated_replacing w info id t
    rw [World.vacated_of_bound (w := w.replacing info id) h] at hvacated
    have hreleased : (Binder.release World.craft id : Step _) ((w.replacing info id).without t) =
        some ((((w.replacing info id).without t).unbindCompanion id).1,
          (((w.replacing info id).without t).unbindCompanion id).2.clearCompanion id) := rfl
    rw [hvacated] at hreleased
    cases hresult : (((w.replacing info id).without t).unbindCompanion id).1 with
    | ok _ =>
      rw [hresult] at hreleased
      exact ⟨trace, (releaseActive_of_active info h).trans (Step.bind_eq hreleased)⟩
    | error e =>
      rw [hresult] at hreleased
      exact ⟨_, (releaseActive_of_active info h).trans (Step.bind_eq hreleased)⟩

end Live
end Theming
