/-
# Changes of theme keep to the course of what they call

Setting a slot, bringing a companion up to date, notifying listeners and activating a skin do two
kinds of things: steady steps of their own, and what observers do. So whatever relation between
worlds the observers keep to, a change of theme keeps to it as well, if it has a place for steady
steps, can be composed and leads from sound worlds to sound ones (`Course`). Two of these are of
interest: steadiness itself, to which observers keep that activate skins at any depth
(`perform_orderly`), and what can be told by turns of the binder.

No registration is lost when dead ones are dropped: in a sound world all listeners are active
companions.
-/

import Theming.Proofs.Outcome
import Theming.Proofs.Refreshing

namespace Theming
namespace Live

variable {setting : Setting} {short : Prop} {act : Act} {w : World}

/-- What observers may do is steady in a sound world. -/
def Orderly (setting : Setting) (short : Prop) (act : Act) : Prop :=
  ∀ a, setting.actions a → ∀ v w, Sound setting w →
    Gives short (act v a) w fun _ w' => Steady w w'

/-- A course that worlds can take from sound ones to sound ones, steady steps included. -/
structure Course (setting : Setting) (course : World → World → Prop) : Prop where
  steady : ∀ {w w'}, Sound setting w → Steady w w' → course w w'
  trans : ∀ {w w' w''}, course w w' → course w' w'' → course w w''
  sound : ∀ {w w'}, Sound setting w → course w w' → Sound setting w'

theorem Course.ofSteady (setting : Setting) : Course setting Steady :=
  ⟨fun _ h => h, Steady.trans, Sound.steady⟩

/-- What observers may do keeps to a course. -/
def Keeping (setting : Setting) (short : Prop) (course : World → World → Prop) (act : Act) : Prop :=
  ∀ a, setting.actions a → ∀ v w, Sound setting w → Gives short (act v a) w fun _ w' => course w w'

theorem Orderly.keeping {course : World → World → Prop} (hact : Orderly setting short act)
    (hcourse : Course setting course) : Keeping setting short course act :=
  fun a ha v w hs => (hact a ha v w hs).mono fun _ _ h => hcourse.steady hs h

/-- Where observers do nothing, nothing can get out of order. -/
theorem Orderly.of_idle (h : ∀ a, ¬ setting.actions a) : Orderly setting short act :=
  fun a ha => absurd ha (h a)

/-- The observers of a slot do what the program lets them do. -/
theorem Sound.actions (hs : Sound setting w) {s : SlotId} {o : Observer}
    (ho : o ∈ w.observers s) : ∀ a ∈ o.actions, setting.actions a := by
  rw [World.observers] at ho
  cases hx : w.slots[s]? with
  | none => rw [hx] at ho; cases ho
  | some x =>
    rw [hx] at ho
    exact hs.acts x (List.mem_of_getElem? hx) o ho

/-- An attached companion keeps fields that are there. -/
theorem Sound.suited (hs : Sound setting w) {id : CompanionId} {c : Companion} {h : Handle}
    (hc : w.companions[id]? = some c) (htarget : c.target = some h) :
    ∃ A name, setting.catalog.has A ∧ c.entry = .keeper A name ∧ w.Suited h A.bound := by
  obtain ⟨T, A, name, hT, hembeds, hentry, -⟩ := hs.attached id c h hc htarget
  refine ⟨A, name, hembeds.has, hentry, fun f hf => ?_⟩
  exact hs.shapes h.target T hT _ _ (hembeds.layout_bound hf)

/-- The listeners of a broadcaster are active companions. -/
theorem Sound.listener (hs : Sound setting w) {b : BroadcasterId} {l : Listener}
    (hl : l ∈ w.listeners b) : ∃ id, l = .companion id ∧ id ∈ w.binder.active.map Prod.snd := by
  rw [hs.listening b, List.mem_map] at hl
  obtain ⟨id, hid, rfl⟩ := hl
  rw [World.followers, List.mem_reverse, List.mem_filter] at hid
  exact ⟨id, rfl, hid.1⟩

theorem isAlive_of_active {id : CompanionId} (h : id ∈ w.binder.active.map Prod.snd) :
    w.isAlive (.companion id) = true := by
  obtain ⟨entry, hentry, rfl⟩ := List.mem_map.mp h
  have hany : w.binder.active.any (·.2 == entry.2) = true :=
    List.any_eq_true.mpr ⟨entry, hentry, beq_self_eq_true _⟩
  rw [World.isAlive, hany]
  rfl

/-- **All registrations are alive** between two calls. -/
theorem Sound.liveListeners (hs : Sound setting w) (b : BroadcasterId) :
    w.liveListeners b = (w.followers b).map Listener.companion := by
  rw [World.liveListeners, List.filter_eq_self.mpr, hs.listening b]
  intro l hl
  obtain ⟨id, rfl, hid⟩ := hs.listener hl
  exact isAlive_of_active hid

theorem Sound.sweep_quiet (hs : Sound setting w) (b : BroadcasterId) : Quiet w (w.sweep b) := by
  refine ⟨.modifyBroadcaster fun x hx => List.filter_eq_self.mpr fun l hl => ?_, rfl, rfl, rfl, rfl⟩
  have hlisteners : l ∈ w.listeners b := by
    rw [World.listeners, hx]
    exact hl
  obtain ⟨id, rfl, hid⟩ := hs.listener hlisteners
  exact isAlive_of_active hid

/-- If all companions are made with one broadcaster, it has all active companions as listeners. -/
theorem Sound.followers_eq_active (hs : Sound setting w) {b : BroadcasterId}
    (hb : ∀ c ∈ w.companions, c.context.broadcaster = b) :
    w.followers b = w.binder.active.reverse.map Prod.snd := by
  rw [World.followers, List.filter_eq_self.mpr, List.map_reverse]
  intro id hid
  obtain ⟨entry, hentry, rfl⟩ := List.mem_map.mp hid
  obtain ⟨c, -, hc, -⟩ := hs.active entry.1 entry.2 hentry
  rw [World.hears, hc, Option.map_some, hb c (List.mem_of_getElem? hc)]
  exact beq_self_eq_true _

theorem Sound.followers_length (hs : Sound setting w) {b : BroadcasterId}
    (hb : ∀ c ∈ w.companions, c.context.broadcaster = b) :
    (w.followers b).length = w.binder.active.length := by
  rw [hs.followers_eq_active hb, List.length_map, List.length_reverse]

/-! ## Setting slots -/

section Course

variable {course : World → World → Prop} (hcourse : Course setting course)
  (hact : Keeping setting short course act) (hs : Sound setting w)
include hcourse hact hs

theorem call_keeping (s : SlotId) (v : Value) {o : Observer}
    (ho : ∀ a ∈ o.actions, setting.actions a) :
    Gives short (o.call act s v) w fun _ w' => course w w' := by
  have hrecord := Steady.record w (.observed o.tag v (o.glance.sight w s))
  refine Gives.modify_bind ?_
  refine Gives.forM (fun _ w' => course w w') (hcourse.steady hs hrecord)
    fun done a rest hactions w' h' => ?_
  have ha : a ∈ o.actions := by
    rw [hactions]
    exact List.mem_append_right _ List.mem_cons_self
  exact (hact a (ho a ha) (some v) w' (hcourse.sound hs h')).mono fun _ w'' h'' =>
    hcourse.trans h' h''

theorem setSlot_keeping (s : SlotId) (v : Value) :
    Gives short (setSlot act s v) w fun _ w' => course w w' := by
  have hstore := Steady.store w s v
  refine Gives.modify_bind (Gives.get_bind ?_)
  refine Gives.forM (fun _ w' => course w w') (hcourse.steady hs hstore)
    fun done o rest hobservers w' h' => ?_
  have ho : o ∈ w.observers s := by
    rw [← hstore.observers_eq s, hobservers]
    exact List.mem_append_right _ List.mem_cons_self
  exact (call_keeping hcourse hact (hcourse.sound hs h') s v (hs.actions ho)).mono
    fun _ w'' h'' => hcourse.trans h' h''

end Course

/-! ## Changes of theme -/

theorem updateTheme_run (act : Act) (id : CompanionId) (w : World) :
    updateTheme act id w = (match w.companions[id]? with
      | some ⟨⟨_, _, _, _, _, .keep fields⟩, context, some target⟩ => (do
        let (pending, w) := (← get).updateFields target context.manager fields
        set w
        pending.forM fun p => setSlot act p.slot p.value : Step Unit)
      | _ => pure ()) w := rfl

/-- The update of a companion is that of its fields and then of their slots. -/
theorem updateTheme_eq {id : CompanionId} {c : Companion} {h : Handle} {fields : List BoundField}
    (hc : w.companions[id]? = some c) (htarget : c.target = some h)
    (hconduct : c.entry.conduct = .keep fields) :
    updateTheme act id w =
      ((w.updateFields h c.context.manager fields).1.forM fun p => setSlot act p.slot p.value)
        (w.updateFields h c.context.manager fields).2 := by
  obtain ⟨⟨path, name, target, label, subject, conduct⟩, context, handle⟩ := c
  dsimp only at htarget hconduct
  subst htarget hconduct
  rw [updateTheme_run, hc]
  rfl

/-- A companion without a target has nothing to update. -/
theorem updateTheme_of_detached {id : CompanionId}
    (h : ∀ c, w.companions[id]? = some c → c.target = none) :
    updateTheme act id w = some ((), w) := by
  rw [updateTheme_run]
  cases hc : w.companions[id]? with
  | none => rfl
  | some c =>
    obtain ⟨⟨path, name, target, label, subject, conduct⟩, context, handle⟩ := c
    have hnone : handle = none := h _ hc
    subst hnone
    cases conduct <;> rfl

/-- A companion that is told brings its fields up to date, and then only sets slots. -/
theorem updateTheme_keeping {course : World → World → Prop} (hcourse : Course setting course)
    (hact : Keeping setting short course act) (hs : Sound setting w) (id : CompanionId) :
    Gives short (updateTheme act id) w fun _ w' => course w w' := by
  by_cases hattached : ∃ c h, w.companions[id]? = some c ∧ c.target = some h
  · obtain ⟨c, h, hc, htarget⟩ := hattached
    obtain ⟨A, name, hA, hentry, hsuited⟩ := hs.suited hc htarget
    have hconduct : c.entry.conduct = .keep A.bound := by rw [hentry]; rfl
    obtain ⟨-, hfields⟩ := updateFields_refreshed w h c.context.manager A.bound hsuited
      (Catalog.bound_names hA)
    rw [Gives, updateTheme_eq hc htarget hconduct]
    refine Gives.forM (fun _ w' => course w w') (hcourse.steady hs hfields.steady)
      fun done p rest _ w' h' => ?_
    exact (setSlot_keeping hcourse hact (hcourse.sound hs h') p.slot p.value).mono
      fun _ w'' h'' => hcourse.trans h' h''
  · have hdetached : ∀ c, w.companions[id]? = some c → c.target = none := by
      intro c hc
      cases htarget : c.target with
      | none => rfl
      | some h => exact absurd ⟨c, h, hc, htarget⟩ hattached
    rw [Gives, updateTheme_of_detached hdetached]
    exact hcourse.steady hs (.refl w)

/-- **What an active companion does** when it is told, in a world that differs from a sound one in
values only: the first round and then the slots, in the order of the fields. -/
theorem Sound.updateTheme_eq {w₀ : World} (hs₀ : Sound setting w₀) (hsteady : Steady w₀ w)
    (hmanager : ∀ c ∈ w₀.companions, c.context.manager = 0) {t : TargetId} {id : CompanionId}
    (hactive : (t, id) ∈ w₀.binder.active) {skin : Skin}
    (hskin : (w.manager 0).active = some skin) :
    ∃ c handle A w', w₀.companions[id]? = some c ∧ c.target = some handle ∧
      c.entry.conduct = .keep A.bound ∧ handle.target = t ∧ setting.catalog.has A ∧
      w₀.Suited handle A.bound ∧ Refreshed w handle skin A.bound w' ∧
      updateTheme act id w = ((A.bound.flatMap (w₀.pendingOf handle skin)).forM fun p =>
        setSlot act p.slot p.value) w' := by
  obtain ⟨c, handle, hc, htarget, ht⟩ := hs₀.active t id hactive
  obtain ⟨A, name, hA, hentry, hsuited⟩ := hs₀.suited hc htarget
  have hconduct : c.entry.conduct = .keep A.bound := by rw [hentry]; rfl
  have hsuited' : w.Suited handle A.bound := fun f hf => by
    rw [hsteady.kinds]
    exact hsuited f hf
  have hc' : w.companions[id]? = some c := by rw [hsteady.companions]; exact hc
  have hcurrent : (w.manager c.context.manager).current = skin := by
    rw [hmanager c (List.mem_of_getElem? hc), SkinManager.current, hskin, Option.getD_some]
  obtain ⟨hpending, hrefreshed⟩ := updateFields_refreshed w handle c.context.manager A.bound
    hsuited' (Catalog.bound_names hA)
  rw [hcurrent] at hpending hrefreshed
  have hpending' : (w.updateFields handle c.context.manager A.bound).1 =
      A.bound.flatMap (w₀.pendingOf handle skin) := by
    rw [hpending]
    exact congrArg (fun g => A.bound.flatMap g)
      (funext fun f => hsteady.pendingOf_eq handle skin f)
  refine ⟨c, handle, A, _, hc, htarget, hconduct, ht, hA, hsuited, hrefreshed, ?_⟩
  rw [Live.updateTheme_eq hc' htarget hconduct, hpending']

theorem send_quiet (w : World) (b : BroadcasterId) (name : String) : Quiet w (w.send b name) :=
  ⟨.modifyBroadcaster fun _ _ => rfl, rfl, rfl, rfl, rfl⟩

theorem changes_sweep (w : World) (b : BroadcasterId) : (w.sweep b).changes b = w.changes b := by
  rw [World.changes, World.sweep, World.modifyBroadcaster, List.getElem?_modify, World.changes]
  cases w.broadcasters[b]? with
  | none => rfl
  | some x => simp

theorem changes_send {b : BroadcasterId} (hb : b < w.broadcasters.length) (name : String) :
    (w.send b name).changes b = w.changes b ++ [name] := by
  rw [World.changes, World.send, World.modifyBroadcaster, List.getElem?_modify, World.changes,
    List.getElem?_eq_getElem hb]
  simp

/-- **A notification** is the loop over the followers of a broadcaster, between steps that touch
nothing of what companions look at; then one change is sent. -/
theorem notify_gives (hs : Sound setting w) {b : BroadcasterId} (post : World → Prop)
    (hloop : ∀ w', Quiet w w' → w'.changes b = w.changes b →
      Gives short (((w.followers b).map Listener.companion).forM (Listener.apply act)) w'
        fun _ w'' => post w'') (name : String) :
    Gives short (notify act b name) w fun n w' => n = (w.followers b).length ∧
      ∃ w'', post w'' ∧ w' = ({ w'' with pinned := w.pinned } : World).send b name := by
  refine Gives.get_bind (Gives.get_bind (Gives.modify_bind (Gives.modify_bind ?_)))
  rw [hs.liveListeners]
  refine (hloop _ (((hs.sweep_quiet b).trans (.pin _ _)).trans (World.quiet_tell _ _ _)) ?_).bind
    fun _ w₁ h₁ => ?_
  · exact changes_sweep w b
  · refine Gives.modify_bind (Gives.pure ⟨?_, w₁, h₁, rfl⟩)
    rw [List.length_map]

/-- **A notification keeps to the course** of those it calls, whatever they do to the list of
listeners meanwhile. -/
theorem notify_keeping {course : World → World → Prop} (hcourse : Course setting course)
    (hact : Keeping setting short course act) (hs : Sound setting w) (b : BroadcasterId)
    (skin : String) : Gives short (notify act b skin) w fun _ w' => course w w' := by
  refine (notify_gives hs (course w) (fun w₁ h₁ _ => ?_) skin).mono fun _ w' h' => ?_
  · refine Gives.forM (fun _ w' => course w w') (hcourse.steady hs h₁.steady)
      fun done l rest hlive w' h' => ?_
    have hl : l ∈ (w.followers b).map Listener.companion := by
      rw [hlive]
      exact List.mem_append_right _ List.mem_cons_self
    obtain ⟨id, -, rfl⟩ := List.mem_map.mp hl
    exact (updateTheme_keeping hcourse hact (hcourse.sound hs h') id).mono fun _ w'' h'' =>
      hcourse.trans h' h''
  · obtain ⟨-, w'', h'', rfl⟩ := h'
    have hend := (Steady.pin w'' w.pinned).trans (send_quiet _ b skin).steady
    exact hcourse.trans h'' (hcourse.steady (hcourse.sound hs h'') hend)

/-- **The loop over the active companions**, those bound first told first: an invariant holds at its
end if every companion keeps it, whose target is none of those told before. -/
theorem Sound.tell_active (hs : Sound setting w) {b : BroadcasterId}
    (hb : ∀ c ∈ w.companions, c.context.broadcaster = b)
    (inv : List (TargetId × CompanionId) → World → Prop) {w₁ : World} (hinit : inv [] w₁)
    (hstep : ∀ told t id w', (t, id) ∈ w.binder.active →
      (∀ entry ∈ told, entry ∈ w.binder.active ∧ entry.1 ≠ t) → inv told w' →
      Gives short (updateTheme act id) w' fun _ w'' => inv (told ++ [(t, id)]) w'') :
    Gives short (((w.followers b).map Listener.companion).forM (Listener.apply act)) w₁
      fun _ w' => inv w.binder.active.reverse w' := by
  have hmap : ((w.followers b).map Listener.companion).forM (Listener.apply act) =
      w.binder.active.reverse.forM fun entry => updateTheme act entry.2 := by
    rw [hs.followers_eq_active hb, List.map_map]
    exact List.forM_map
  rw [hmap]
  refine Gives.forM inv hinit fun told entry rest hall w' h' => ?_
  obtain ⟨t, id⟩ := entry
  have hactive : ∀ e ∈ told ++ (t, id) :: rest, e ∈ w.binder.active := fun e he =>
    List.mem_reverse.mp (hall ▸ he)
  have hnodup : ((told ++ (t, id) :: rest).map Prod.fst).Nodup := by
    rw [← hall, List.map_reverse, List.nodup_reverse]
    exact hs.keys
  rw [List.map_append, List.nodup_append] at hnodup
  refine hstep told t id w' (hactive _ (List.mem_append_right _ List.mem_cons_self))
    (fun e he => ⟨hactive e (List.mem_append_left _ he), fun heq => ?_⟩) h'
  exact hnodup.2.2 _ (List.mem_map_of_mem he) _ List.mem_cons_self heq

/-- A manager that is switched to a skin it knows has it as its active one. -/
theorem active_switch {m : ManagerId} {name : String} {skin : Skin}
    (h : (w.manager m).skin? name = some skin) :
    ((w.modifyManager m fun x => { x with active := some skin }).manager m).active = some skin := by
  rw [World.manager, World.modifyManager, List.getElem?_modify]
  rw [World.manager] at h
  cases hm : w.managers[m]? with
  | none => rw [hm] at h; cases h
  | some x => simp

/-- **Activating a skin keeps to the course** of those it notifies. -/
theorem activate_keeping {course : World → World → Prop} (hcourse : Course setting course)
    (hact : Keeping setting short course act) (hs : Sound setting w) (m : ManagerId)
    (name : String) : Gives short (activate act m name) w fun _ w' => course w w' := by
  refine Gives.get_bind ?_
  dsimp only
  cases (w.manager m).skin? name with
  | none => exact Gives.pure (hcourse.steady hs (.refl w))
  | some skin =>
    have hswitch : Steady w (w.modifyManager m fun x => { x with active := some skin }) :=
      .modifyManager fun _ => ⟨rfl, rfl⟩
    have htell := hswitch.trans (.tell _ .info ("Activated skin " ++ name))
    refine Gives.modify_bind (Gives.modify_bind ?_)
    refine Gives.bind (notify_keeping hcourse hact (hs.steady htell) _ name) fun _ w' h' => ?_
    exact Gives.pure (hcourse.trans (hcourse.steady hs htell) h')

/-- **Activating a skin is steady.** -/
theorem activate_steady (hact : Orderly setting short act) (hs : Sound setting w)
    (m : ManagerId) (name : String) :
    Gives short (activate act m name) w fun _ w' => Steady w w' :=
  activate_keeping (.ofSteady setting) hact hs m name

/-- Activations of skins are orderly however deep they nest; what nests deeper than the given depth
has no result. -/
theorem perform_orderly (h : ∀ a, setting.actions a → ∃ m name, a = .activate m name)
    (depth : Nat) : Orderly setting True (perform depth) := by
  induction depth with
  | zero => exact fun _ _ _ _ _ => trivial
  | succ depth ih =>
    intro a ha v w hs
    obtain ⟨m, name, rfl⟩ := h a ha
    exact Gives.bind (activate_steady ih hs m name) fun _ _ h' => Gives.pure h'

end Live
end Theming
