/-
# What turns do to skins and to what is sent

Skins are only added to a manager and activated, and changes are only sent when a notification is
closed. Every other turn does nothing to any manager and sends nothing (`Mute`).

| turn | of the manager | sent to subscribers |
| --- | --- | --- |
| a skin is added | `added` | |
| a skin that is known is activated | `activated` | |
| a notification is closed | | the change |
| any other | | |

So what becomes of a manager is told by the turns (`Errand.tells`), in the middle of notifications
too.
-/

import Theming.Proofs.Candor
import Theming.Proofs.Storing

namespace Theming
namespace Live

variable {catalog : Catalog} {w w' w'' : World} {k : ManagerId} {b : BroadcasterId}

/-- What each broadcaster has sent. -/
def World.streams (w : World) : List (List String) := w.broadcasters.map Broadcaster.changes

theorem World.changes_eq (w : World) (b : BroadcasterId) :
    w.changes b = (w.streams[b]?).getD [] := by
  rw [changes, streams, List.getElem?_map]

/-! ## Turns that say nothing -/

/-- Nothing is done to managers, and nothing is sent. -/
structure Mute (w w' : World) : Prop where
  managers : w'.managers = w.managers
  streams : w'.streams = w.streams

namespace Mute

theorem refl (w : World) : Mute w w := ⟨rfl, rfl⟩

theorem trans (h : Mute w w') (h' : Mute w' w'') : Mute w w'' :=
  ⟨h'.managers.trans h.managers, h'.streams.trans h.streams⟩

theorem of_eq (hmanagers : w'.managers = w.managers)
    (hbroadcasters : w'.broadcasters = w.broadcasters) : Mute w w' :=
  ⟨hmanagers, by rw [World.streams, hbroadcasters, World.streams]⟩

/-- Listeners are no changes. -/
theorem modifyBroadcaster (w : World) (b : BroadcasterId) {f : Broadcaster → Broadcaster}
    (h : ∀ x, (f x).changes = x.changes) : Mute w (w.modifyBroadcaster b f) := by
  refine ⟨rfl, List.ext_getElem? fun i => ?_⟩
  rw [World.streams, World.streams, List.getElem?_map, List.getElem?_map, World.modifyBroadcaster,
    List.getElem?_modify]
  cases w.broadcasters[i]? with
  | none => rfl
  | some x =>
    by_cases hi : b = i
    · simp [hi, h]
    · simp [hi]

theorem addListener (w : World) (b : BroadcasterId) (l : Listener) :
    Mute w (w.addListener b l) := modifyBroadcaster w b fun _ => rfl

theorem removeListener (w : World) (b : BroadcasterId) (l : Listener) :
    Mute w (w.removeListener b l) := modifyBroadcaster w b fun _ => rfl

theorem logged (h : World.Logged w w') : Mute w w' := by
  obtain ⟨os, rfl, -⟩ := h
  exact ⟨rfl, rfl⟩

/-! ### Companions -/

theorem updateField (w : World) (target : Handle) (manager : ManagerId) (field : BoundField) :
    Mute w (w.updateField target manager field).2 := by
  have hlookup := logged (w.lookup_spec manager field.kind field.key).2
  rw [World.updateField]
  cases field.shape with
  | value => exact hlookup.trans (of_eq rfl rfl)
  | reference => exact hlookup.trans (of_eq rfl rfl)
  | reactive => exact hlookup

theorem updateFields (w : World) (target : Handle) (manager : ManagerId)
    (fields : List BoundField) : Mute w (w.updateFields target manager fields).2 := by
  induction fields generalizing w with
  | nil => exact refl w
  | cons field rest ih => exact (updateField w target manager field).trans (ih _)

theorem allocate (w : World) (target : Handle) (fields : List BoundField) :
    Mute w (w.allocate target fields) := by
  induction fields generalizing w with
  | nil => exact refl w
  | cons field rest ih =>
    rw [World.allocate]
    cases field.shape with
    | reactive =>
      have hgiven : Mute w (w.addSlot.2.assign target field.name (.reactive w.addSlot.1)) :=
        of_eq rfl rfl
      exact hgiven.trans (ih _)
    | _ => exact ih w

theorem storeAll (w : World) (pending : List Pending) : Mute w (w.storeAll pending) := by
  rw [World.storeAll]
  induction pending generalizing w with
  | nil => exact refl w
  | cons p rest ih =>
    have hstored : Mute w (w.store p.slot p.value) := of_eq rfl rfl
    exact hstored.trans (ih _)

theorem fitted (w : World) (entry : CompanionEntry) (fields : List BoundField) (handle : Handle)
    (context : Context) : Mute w (w.fitted entry fields handle context) := by
  have hadded : Mute w (w.addCompanion ⟨entry, context, some handle⟩).2 := of_eq rfl rfl
  exact ((hadded.trans (allocate _ handle fields)).trans
    (updateFields _ handle context.manager fields)).trans (storeAll _ _)

theorem unbindCompanion (w : World) (id : CompanionId) : Mute w (w.unbindCompanion id).2 := by
  rw [World.unbindCompanion]
  cases w.companions[id]? with
  | none => exact refl w
  | some c =>
    obtain ⟨entry, context, target⟩ := c
    dsimp only
    cases entry.conduct with
    | keep fields =>
      cases target with
      | none => exact removeListener w context.broadcaster (.companion id)
      | some handle =>
        obtain ⟨targets, h⟩ := World.resetFields_eq
          (w.removeListener context.broadcaster (.companion id)) handle fields
        refine (removeListener w context.broadcaster (.companion id)).trans ?_
        dsimp only
        rw [h]
        exact of_eq rfl rfl
    | record journal =>
      cases target with
      | none => exact refl w
      | some handle =>
        dsimp only
        split_ifs <;> exact of_eq rfl rfl

theorem vacated (w : World) (t : TargetId) : Mute w (w.vacated t) := by
  cases h : w.binder.active.lookup t with
  | none =>
    rw [World.vacated_of_unbound h]
    exact refl w
  | some id =>
    have hout : Mute w (w.without t) := of_eq rfl rfl
    obtain ⟨targets, hclear⟩ := ((w.without t).unbindCompanion id).2.clearCompanion_eq id
    rw [World.vacated_of_bound h, hclear]
    exact (hout.trans (unbindCompanion _ id)).trans (of_eq rfl rfl)

theorem akin (h : Akin w w') : Mute w w' := by
  obtain ⟨_, _, rfl⟩ := h
  exact of_eq rfl rfl

theorem joined (w : World) (A : TypeDefinition) (name : String) (handle : Handle)
    (context : Context) : Mute w (w.joined A name handle context) :=
  ((fitted w (.keeper A name) A.bound handle context).trans (addListener _ context.broadcaster
    (.companion w.companions.length))).trans (of_eq rfl rfl)

/-! ### The binder -/

theorem unbind (w : World) (t : TargetId) : Mute w (w.unbind t).2 := by
  obtain ⟨trace, h⟩ := unbind_eq w t
  rw [h]
  exact (vacated w t).trans (of_eq rfl rfl)

theorem resolving (w : World) (info : TypeInfo) : Mute w (w.resolving info) := by
  obtain ⟨trace, h⟩ := w.resolving_eq info
  rw [h]
  exact of_eq rfl rfl

theorem register (w : World) (entry : CompanionEntry) : Mute w (w.register entry) := by
  rw [World.register]
  cases w.binder.resolver.registry.warning? entry <;> exact of_eq rfl rfl

theorem addTarget (w : World) (T : TypeDefinition) : Mute w (w.addTarget T).2 := by
  obtain ⟨n, c, h, -, -⟩ := w.addTarget_eq T
  rw [h]
  exact of_eq rfl rfl

theorem bind (hb : Bonds catalog w) (hserved : w.Served) (t : TargetId) (context : Context) :
    Mute w ((Command.bind t context).turn w).world := by
  obtain ⟨r, w', hturn, hakin | ⟨T, path, A, name, -, -, -, hrebound⟩⟩ :=
    bind_rebounds hb hserved t context
  · rw [hturn]
    exact akin hakin
  · rw [hturn]
    exact ((vacated w t).trans (joined _ A name _ context)).trans (akin hrebound.akin)

end Mute

/-! ## What a turn tells -/

/-- What an errand does to the skins of a manager. -/
def Errand.skinEvent? (k : ManagerId) (w : World) : Errand → Option SkinEvent
  | move (.deed (.command (.addSkin manager skin))) =>
    if manager = k then some (.added skin) else none
  | move (.deed (.command (.activate manager name))) =>
    if manager = k then ((w.manager manager).skin? name).map fun _ => .activated name else none
  | _ => none

/-- What an errand sends to the subscribers of a broadcaster. -/
def Errand.sends? (b : BroadcasterId) : Errand → Option String
  | close _ broadcaster skin => if broadcaster = b then some skin else none
  | _ => none

/-- What becomes of a manager, and of what a broadcaster has sent. -/
structure Tells (k : ManagerId) (b : BroadcasterId) (w : World) (errand : Errand) (w' : World) :
    Prop where
  recounts : Recounts k w (errand.skinEvent? k w).toList w'
  changes : b < w.broadcasters.length → w'.changes b = w.changes b ++ (errand.sends? b).toList
  broadcasters : w'.broadcasters.length = w.broadcasters.length

theorem Mute.tells {errand : Errand} (h : Mute w w') (hskin : errand.skinEvent? k w = none)
    (hsends : errand.sends? b = none) : Tells k b w errand w' where
  recounts := by
    rw [hskin]
    exact .still h.managers
  changes _ := by
    rw [hsends, w'.changes_eq, h.streams, ← w.changes_eq]
    exact (List.append_nil _).symm
  broadcasters := by
    have hlength := congrArg List.length h.streams
    rwa [World.streams, World.streams, List.length_map, List.length_map] at hlength

/-- What is told of a turn that does something to a manager. -/
theorem Tells.of_recounts {errand : Errand} {e : Option SkinEvent} (h : Recounts k w e.toList w')
    (he : errand.skinEvent? k w = e) (hbroadcasters : w'.broadcasters = w.broadcasters)
    (hsends : errand.sends? b = none) : Tells k b w errand w' where
  recounts := he ▸ h
  changes _ := by
    rw [hsends, World.changes, World.changes, hbroadcasters]
    exact (List.append_nil _).symm
  broadcasters := by rw [hbroadcasters]

theorem addSkin_tells (w : World) (manager : ManagerId) (skin : Skin) :
    Tells k b w (.move (.deed (.command (.addSkin manager skin)))) (w.addSkin manager skin) := by
  have hbroadcasters : (w.addSkin manager skin).broadcasters = w.broadcasters := by
    rw [World.addSkin]
    split_ifs <;> rfl
  by_cases hk : manager = k
  · subst hk
    exact .of_recounts (e := some _) (.addSkin w manager skin) (if_pos rfl) hbroadcasters rfl
  · refine .of_recounts (e := none) ?_ (if_neg hk) hbroadcasters rfl
    rw [World.addSkin]
    split_ifs
    · exact .other hk _
    · exact Recounts.trans (.still rfl) (.other hk _)

theorem activate_tells (w : World) (manager : ManagerId) (name : String) :
    Tells k b w (.move (.deed (.command (.activate manager name))))
      ((Command.activate manager name).turn w).world := by
  have hevent : (Errand.move (.deed (.command (.activate manager name)))).skinEvent? k w =
      if manager = k then ((w.manager manager).skin? name).map fun _ => .activated name
      else none := rfl
  rw [Command.turn]
  cases hskin : (w.manager manager).skin? name with
  | none =>
    refine Mute.tells (.refl w) ?_ rfl
    rw [hevent, hskin, Option.map_none, ite_self]
  | some skin =>
    rw [hskin, Option.map_some] at hevent
    by_cases hk : manager = k
    · subst hk
      rw [if_pos rfl] at hevent
      exact .of_recounts (e := some (.activated name)) (Recounts.switch hskin) hevent rfl rfl
    · rw [if_neg hk] at hevent
      exact .of_recounts (e := none) (.other hk _) hevent rfl rfl

theorem close_tells (w : World) (pinned : List Listener) (broadcaster : BroadcasterId)
    (skin : String) : Tells k b w (.close pinned broadcaster skin)
      (({ w with pinned } : World).send broadcaster skin) where
  recounts := .still rfl
  changes hb := by
    by_cases hsame : broadcaster = b
    · subst hsame
      rw [changes_send (w := { w with pinned }) hb, Errand.sends?, if_pos rfl]
      rfl
    · rw [Errand.sends?, if_neg hsame, World.changes, World.send, World.modifyBroadcaster,
        List.getElem?_modify, World.changes]
      simp [hsame]
  broadcasters := List.length_modify ..

/-- **Every turn tells what it does to a manager, and what is sent.** -/
theorem Errand.tells (hb : Bonds catalog w) (hserved : w.Served) (moves : List Move)
    (errand : Errand) : Tells k b w errand (errand.turn moves w).world := by
  cases errand with
  | move m =>
    cases m with
    | deed d =>
      cases d with
      | command c =>
        cases c with
        | create T => exact (Mute.addTarget w T).tells rfl rfl
        | register T name => exact (Mute.register w _).tells rfl rfl
        | addSkin manager skin => exact addSkin_tells w manager skin
        | activate manager name => exact activate_tells w manager name
        | bind t context => exact (Mute.bind hb hserved t context).tells rfl rfl
        | unbind t => exact (Mute.unbind w t).tells rfl rfl
        | renew part field =>
          refine Mute.tells ?_ rfl rfl
          change Mute w (w.renew part field)
          rw [World.renew]
          cases w.slotAt? part field <;> exact .of_eq rfl rfl
        | _ => exact Mute.tells (.of_eq rfl rfl) rfl rfl
      | notify b skin =>
        have hswept : Mute w (w.sweep b) := .modifyBroadcaster w b fun _ => rfl
        refine Mute.tells ?_ rfl rfl
        exact hswept.trans (.of_eq rfl rfl)
      | resolve T =>
        refine Mute.tells ?_ rfl rfl
        change Mute w (w.resolve T.info).2
        rw [resolve_eq]
        exact .resolving w T.info
      | record o => exact Mute.tells (.of_eq rfl rfl) rfl rfl
    | place part field slot =>
      refine Mute.tells ?_ rfl rfl
      change Mute w (w.place part field slot)
      rw [World.place]
      cases w.slotAt? part field <;> exact .of_eq rfl rfl
    | listen b name =>
      refine Mute.tells ?_ rfl rfl
      change Mute w (w.listen b name)
      rw [World.listen]
      cases w.scriptOf? name with
      | none => exact .refl w
      | some id => exact .addListener w b _
    | ignore b name =>
      refine Mute.tells ?_ rfl rfl
      change Mute w (w.ignore b name)
      rw [World.ignore]
      cases w.scriptOf? name with
      | none => exact .refl w
      | some id => exact (Mute.removeListener w b _).trans (.of_eq rfl rfl)
    | _ => exact Mute.tells (.of_eq rfl rfl) rfl rfl
  | tell l =>
    refine Mute.tells ?_ rfl rfl
    cases l with
    | companion id =>
      change Mute w ((Listener.companion id).turn w).world
      rw [Listener.turn]
      split
      · exact .updateFields w _ _ _
      · exact .refl w
    | script id =>
      change Mute w ((Listener.script id).turn w).world
      rw [Listener.turn]
      cases w.scripts[id]? <;> exact .of_eq rfl rfl
  | close pinned b skin => exact close_tells w pinned b skin
  | _ => exact Mute.tells (.of_eq rfl rfl) rfl rfl

end Live
end Theming
