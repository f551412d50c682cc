/-
# Releasing companions keeps the world in order

Releasing the companion of a target takes it out of the binder and out of the listeners of its
broadcaster, resets fields, and lets go of the target. In between the listeners and the active
companions do not match, so soundness is not kept by each of these steps but by all of them together
(`Sound.release`).
-/

import Theming.Proofs.Steadiness

namespace Theming
namespace Live

variable {setting : Setting} {short : Prop} {act : Act} {w w' : World}

/-- The types of targets are the same, and whom managers notify. -/
structure Alike (w w' : World) : Prop where
  types : ∀ t, w'.typeOf? t = w.typeOf? t
  hosts : ∀ m, (w'.manager m).broadcaster = (w.manager m).broadcaster

theorem Alike.refl (w : World) : Alike w w := ⟨fun _ => rfl, fun _ => rfl⟩

theorem Alike.trans {w'' : World} (h : Alike w w') (h' : Alike w' w'') : Alike w w'' :=
  ⟨fun t => (h'.types t).trans (h.types t), fun m => (h'.hosts m).trans (h.hosts m)⟩

theorem Steady.alike (h : Steady w w') : Alike w w' := ⟨h.types, fun m => (h.manager_skins m).1⟩

/-- The world is still in order, with the same targets. -/
structure Orders (setting : Setting) (w w' : World) : Prop where
  sound : Sound setting w'
  alike : Alike w w'

theorem Orders.trans {w'' : World} (h : Orders setting w w') (h' : Orders setting w' w'') :
    Orders setting w w'' := ⟨h'.sound, h.alike.trans h'.alike⟩

theorem Orders.tell (h : Orders setting w w') (level : Log.Level) (message : String) :
    Orders setting w (w'.tell level message) :=
  ⟨h.sound.steady (.tell w' level message), h.alike.trans (Steady.tell w' level message).alike⟩

namespace World

/-- The world without the active companion of a target. -/
def without (w : World) (t : TargetId) : World :=
  { w with binder := { w.binder with active := w.binder.active.filter (·.1 != t) } }

/-- The context with which a companion was made. -/
def contextOf? (w : World) (id : CompanionId) : Option Context :=
  w.companions[id]?.map Companion.context

theorem companions_resetFields (w : World) (handle : Handle) (fields : List BoundField) :
    (w.resetFields handle fields).companions = w.companions := by
  rw [resetFields]
  induction fields generalizing w with
  | nil => rfl
  | cons field rest ih =>
    rw [List.foldl_cons, ih, resetField]
    cases field.shape <;> rfl

/-- Releasing companions changes no companion but for its target. -/
theorem companions_unbindCompanion (w : World) (id : CompanionId) :
    (w.unbindCompanion id).2.companions = w.companions := by
  rw [unbindCompanion]
  cases w.companions[id]? with
  | none => rfl
  | some c =>
    obtain ⟨⟨path, name, type, label, subject, conduct⟩, context, target⟩ := c
    cases conduct with
    | keep fields =>
      cases target with
      | none => rfl
      | some handle => exact companions_resetFields _ handle fields
    | record journal =>
      cases target with
      | none => rfl
      | some handle =>
        dsimp only
        split_ifs <;> rfl

theorem companions_detach (w : World) (id other : CompanionId) :
    (w.detach id).companions[other]? =
      if other = id then (w.companions[id]?).map fun c => { c with target := none }
      else w.companions[other]? := by
  rw [detach, List.getElem?_modify]
  by_cases ho : other = id
  · subst ho
    simp
  · have hne : id ≠ other := fun h' => ho h'.symm
    cases w.companions[other]? <;> simp [ho, hne]

theorem contextOf?_detach (w : World) (id other : CompanionId) :
    (w.detach id).contextOf? other = w.contextOf? other := by
  rw [contextOf?, contextOf?, detach, List.getElem?_modify, Option.map_eq_map, Option.map_map]
  cases w.companions[other]? with
  | none => rfl
  | some c => by_cases h : id = other <;> simp [h]

theorem contextOf?_clearCompanion (w : World) (id other : CompanionId) :
    (w.clearCompanion id).contextOf? other = w.contextOf? other := by
  rw [clearCompanion]
  split
  · exact contextOf?_detach w id other
  · exact contextOf?_detach w id other

/-- **Companions keep their contexts** when they are released. -/
theorem contextOf?_release (w : World) (id other : CompanionId) :
    ((w.unbindCompanion id).2.clearCompanion id).contextOf? other = w.contextOf? other := by
  rw [contextOf?_clearCompanion, contextOf?, companions_unbindCompanion]
  rfl

theorem listeners_modifyBroadcaster {b : BroadcasterId} (h : b < w.broadcasters.length)
    (g : List Listener → List Listener) (b' : BroadcasterId) :
    (w.modifyBroadcaster b fun x => { x with listeners := g x.listeners }).listeners b' =
      if b' = b then g (w.listeners b) else w.listeners b' := by
  rw [listeners, modifyBroadcaster, List.getElem?_modify]
  by_cases hb : b' = b
  · subst hb
    rw [if_pos rfl, listeners, List.getElem?_eq_getElem h]
    simp
  · have hne : b ≠ b' := fun h' => hb h'.symm
    rw [if_neg hb, listeners]
    cases w.broadcasters[b']? <;> simp [hne]

end World

/-- An active companion belongs to one target. -/
theorem Sound.owner (hs : Sound setting w) {t t' : TargetId} {id : CompanionId}
    (h : (t, id) ∈ w.binder.active) (h' : (t', id) ∈ w.binder.active) : t = t' := by
  obtain ⟨c, handle, hc, htarget, rfl⟩ := hs.active t id h
  obtain ⟨c', handle', hc', htarget', rfl⟩ := hs.active t' id h'
  obtain rfl := Option.some.inj (hc.symm.trans hc')
  rw [Option.some.inj (htarget.symm.trans htarget')]

theorem Sound.active_without (hs : Sound setting w) {t : TargetId} {id : CompanionId}
    (h : (t, id) ∈ w.binder.active) :
    (w.without t).binder.active.map Prod.snd =
      (w.binder.active.map Prod.snd).filter (· != id) := by
  have hfilter : w.binder.active.filter (·.1 != t) = w.binder.active.filter (·.2 != id) := by
    refine List.filter_congr fun entry hentry => ?_
    obtain ⟨t', id'⟩ := entry
    have hiff : t' = t ↔ id' = id := by
      constructor
      · rintro rfl
        have hnodup := hs.keys
        have hl := lookup_of_mem h hnodup
        have hl' := lookup_of_mem hentry hnodup
        exact Option.some.inj (hl'.symm.trans hl)
      · rintro rfl
        exact hs.owner hentry h
    exact Bool.eq_iff_iff.mpr (by simpa using not_congr hiff)
  rw [World.without, hfilter, List.filter_map]
  rfl

/-- Without its active companion and the registrations of that, a target is unbound in a sound
world. -/
theorem Sound.drop (hs : Sound setting w) {t : TargetId} {id : CompanionId} {c : Companion}
    (h : (t, id) ∈ w.binder.active) (hc : w.companions[id]? = some c) :
    Sound setting ((w.without t).removeListener c.context.broadcaster (.companion id)) := by
  have hrange : c.context.broadcaster < (w.without t).broadcasters.length :=
    hs.reached c.context (hs.contexts c (List.mem_of_getElem? hc))
  have hactive := hs.active_without h
  have hfollowers : ∀ b, (w.without t).followers b = (w.followers b).filter (· != id) := by
    intro b
    rw [World.followers, World.followers, hactive, ← List.filter_reverse, ← List.filter_reverse,
      ← List.filter_reverse, List.filter_filter, List.filter_filter]
    exact List.filter_congr fun other _ => Bool.and_comm _ _
  exact
    { hs with
      keys := hs.keys.sublist (List.filter_sublist.map _)
      active := fun t' id' hmem => hs.active t' id' (List.mem_of_mem_filter hmem)
      reached := by
        intro context hcontext
        rw [World.removeListener, World.modifyBroadcaster, List.length_modify]
        exact hs.reached context hcontext
      listening := by
        intro b
        have hsame : ((w.without t).removeListener c.context.broadcaster
            (.companion id)).followers b = (w.without t).followers b := rfl
        rw [hsame, hfollowers, World.removeListener, World.listeners_modifyBroadcaster hrange
          (fun ls => ls.filter fun l => l != .companion id && (w.without t).isAlive l)]
        have hlisteners : ∀ b, (w.without t).listeners b =
            (w.followers b).map Listener.companion := hs.listening
        rw [hlisteners, hlisteners]
        by_cases hb : b = c.context.broadcaster
        · subst hb
          rw [if_pos rfl, List.filter_map]
          refine congrArg _ (List.filter_congr fun other hother => ?_)
          rw [World.followers, List.mem_reverse, List.mem_filter] at hother
          by_cases hid : other = id
          · simp [hid]
          · have halive : (w.without t).isAlive (.companion other) = true := by
              refine isAlive_of_active ?_
              rw [hactive, List.mem_filter]
              exact ⟨hother.1, by simpa using hid⟩
            simp only [Function.comp, halive, Bool.and_true]
            exact Bool.eq_iff_iff.mpr (by simp)
        · rw [if_neg hb, List.filter_eq_self.mpr]
          intro other hother
          rw [World.followers, List.mem_reverse, List.mem_filter, World.hears] at hother
          have hne : other ≠ id := by
            rintro rfl
            rw [hc] at hother
            have hheard : c.context.broadcaster = b := by simpa using hother.2
            exact hb hheard.symm
          simpa using hne }

theorem resetFields_steady {handle : Handle} {fields : List BoundField}
    (h : w.Suited handle fields) : Steady w (w.resetFields handle fields) := by
  rw [World.resetFields]
  induction fields generalizing w with
  | nil => exact .refl w
  | cons field rest ih =>
    have hfirst : Steady w (World.resetField handle w field) := by
      obtain ⟨k, hk, hsuits⟩ := h field List.mem_cons_self
      rw [World.resetField]
      cases hshape : field.shape with
      | value =>
        rw [BoundField.layout, hshape] at hsuits
        cases k <;> first | exact hsuits.elim | exact .assign hk fun h => by cases h
      | reference =>
        rw [BoundField.layout, hshape] at hsuits
        cases k <;> first | exact hsuits.elim | exact .assign hk fun h => by cases h
      | reactive => exact .refl w
    refine hfirst.trans (ih fun f hf => ?_)
    rw [hfirst.kinds]
    exact h f (List.mem_cons_of_mem _ hf)

/-- A companion that is not active may let go of its target. -/
theorem Sound.detach (hs : Sound setting w) {id : CompanionId}
    (h : id ∉ w.binder.active.map Prod.snd) : Sound setting (w.detach id) := by
  have hcompanions := w.companions_detach id
  have hhears : ∀ b, (w.detach id).hears b = w.hears b := by
    intro b
    funext other
    rw [World.hears, World.hears, hcompanions]
    split_ifs with ho
    · rw [ho, Option.map_map]
      rfl
    · rfl
  exact
    { hs with
      attached := by
        intro other c handle hc htarget
        rw [hcompanions] at hc
        split_ifs at hc
        · obtain ⟨d, -, rfl⟩ := Option.map_eq_some_iff.mp hc
          cases htarget
        · exact hs.attached other c handle hc htarget
      active := by
        intro t other hmem
        have hne : other ≠ id := by
          rintro rfl
          exact h (List.mem_map.mpr ⟨_, hmem, rfl⟩)
        rw [hcompanions, if_neg hne]
        exact hs.active t other hmem
      contexts := by
        intro c hc
        obtain ⟨other, hother⟩ := List.mem_iff_getElem?.mp hc
        rw [hcompanions] at hother
        split_ifs at hother
        · obtain ⟨d, hd, rfl⟩ := Option.map_eq_some_iff.mp hother
          exact hs.contexts d (List.mem_of_getElem? hd)
        · exact hs.contexts c (List.mem_of_getElem? hother)
      listening := by
        intro b
        have hsame : (w.detach id).followers b = w.followers b := by
          rw [World.followers, World.followers, hhears]
          rfl
        rw [hsame]
        exact hs.listening b }

/-- A companion that keeps fields stops listening and resets them. -/
theorem unbindCompanion_of_keeper {id : CompanionId} {A : TypeDefinition} {name : String}
    {context : Context} {handle : Handle}
    (hc : w.companions[id]? = some ⟨.keeper A name, context, some handle⟩) :
    w.unbindCompanion id = (.ok (),
      (w.removeListener context.broadcaster (.companion id)).resetFields handle A.bound) := by
  rw [World.unbindCompanion, hc]
  rfl

/-- A companion that keeps fields lets go of its target when it is cleared. -/
theorem clearCompanion_of_keeper {id : CompanionId} {A : TypeDefinition} {name : String}
    {context : Context} {target : Option Handle}
    (hc : w.companions[id]? = some ⟨.keeper A name, context, target⟩) :
    w.clearCompanion id = w.detach id := by
  rw [World.clearCompanion, hc]
  rfl

/-- **Releasing the active companion of a target succeeds and keeps the world in order.** -/
theorem Sound.release (hs : Sound setting w) {t : TargetId} {id : CompanionId}
    (h : (t, id) ∈ w.binder.active) {r : Except BindingError Unit × World}
    (hr : r = (w.without t).unbindCompanion id) :
    r.1 = .ok () ∧ Sound setting (r.2.clearCompanion id) ∧ Alike w (r.2.clearCompanion id) ∧
      (r.2.clearCompanion id).binder = (w.without t).binder := by
  obtain ⟨⟨entry, context, target⟩, handle, hc, rfl, rfl⟩ := hs.active t id h
  have hdrop := hs.drop h hc
  obtain ⟨A, name, hA, rfl, hsuited⟩ := hdrop.suited hc rfl
  have hreset := resetFields_steady hsuited
  have hinactive : id ∉ (w.without handle.target).binder.active.map Prod.snd := by
    rw [hs.active_without h, List.mem_filter]
    simp
  have hsound : Sound setting (World.detach _ id) :=
    (hdrop.steady hreset).detach (hreset.binder ▸ hinactive)
  have hunbind := unbindCompanion_of_keeper (w := w.without handle.target) hc
  have hclear : r.2.clearCompanion id = r.2.detach id := by
    rw [hr, hunbind]
    exact clearCompanion_of_keeper ((congrArg (·[id]?) hreset.companions).trans hc)
  rw [hclear, hr, hunbind]
  exact ⟨rfl, hsound, ⟨hreset.types, fun m => (hreset.manager_skins m).1⟩, hreset.binder⟩

theorem World.without_of_unbound {t : TargetId} (h : w.binder.active.lookup t = none) :
    w.without t = w := by
  rw [World.without, filter_ne_of_lookup h]

/-- A step of the binder that does nothing else goes before the rest. -/
theorem run_bind {α β : Type} {x : StateT World Id α} {f : α → StateT World Id β} {a : α}
    (h : x w = (a, w')) : (x >>= f) w = f a w' := by
  change f (x w).1 (x w).2 = f a w'
  rw [h]

/-- Unbinding releases the active companion. -/
theorem unbind_of_bound {t : TargetId} {id : CompanionId}
    (h : w.binder.active.lookup t = some id) :
    w.unbind t = (((w.without t).unbindCompanion id).1,
      ((w.without t).unbindCompanion id).2.clearCompanion id) := by
  have hremove : (Binder.remove t : StateT World Id (Option CompanionId)) w =
      (some id, w.without t) := by
    rw [← h]
    rfl
  exact run_bind hremove

/-- Unbinding does nothing to a target that is not bound. -/
theorem unbind_of_unbound {t : TargetId} (h : w.binder.active.lookup t = none) :
    ∃ level message, w.unbind t = (.ok (), w.tell level message) := by
  have hremove : (Binder.remove t : StateT World Id (Option CompanionId)) w = (none, w) := by
    rw [← h]
    exact congrArg (Prod.mk _) (World.without_of_unbound h)
  exact ⟨_, _, run_bind hremove⟩

/-- What unbinding a target comes to. -/
structure Unbinds (setting : Setting) (t : TargetId) (w : World) (r : Except BindingError Unit)
    (w' : World) : Prop where
  orders : Orders setting w w'
  result : r = .ok ()
  binder : w'.binder = (w.without t).binder
  contexts : ∀ id, w'.contextOf? id = w.contextOf? id

/-- **Unbinding succeeds and keeps the world in order.** -/
theorem Sound.unbind (hs : Sound setting w) (t : TargetId) :
    Unbinds setting t w (w.unbind t).1 (w.unbind t).2 := by
  cases h : w.binder.active.lookup t with
  | some id =>
    obtain ⟨hresult, hsound, halike, hbinder⟩ := hs.release (mem_of_lookup h) rfl
    rw [unbind_of_bound h]
    exact ⟨⟨hsound, halike⟩, hresult, hbinder, fun other => World.contextOf?_release _ id other⟩
  | none =>
    obtain ⟨level, message, heq⟩ := unbind_of_unbound h
    have hbinder : w.binder = (w.without t).binder :=
      congrArg World.binder (World.without_of_unbound h).symm
    rw [heq]
    exact ⟨(Orders.mk hs (.refl w)).tell level message, rfl, hbinder, fun _ => rfl⟩

end Live
end Theming
