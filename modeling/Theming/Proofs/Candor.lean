/-
# What the world does to a manager can be told

Whatever is done in the world, skins of a manager are only added to it and activated. Most
computations leave all managers alone, though they may call user code, and user code may activate
skins. If what it does to a manager can be told by events of some kind, so can what is done by
whoever calls it (`Candid`): setting slots, bringing companions up to date, binding, notifying, and
activating, which adds the one event of its own.

So for actions it can be told at any depth (`performOnly_candid`): they activate skins, or do
nothing to the manager if they may not.
-/

import Theming.Live.Action
import Theming.Proofs.Outcome
import Theming.Proofs.Release
import Theming.Proofs.Replaying

namespace Theming
namespace Live

variable {short : Prop} {id : ManagerId} {others : SkinEvent → Prop} {w w' w'' : World}
  {events later : List SkinEvent}

/-- What has become of a manager is told by events. -/
def Recounts (id : ManagerId) (w : World) (events : List SkinEvent) (w' : World) : Prop :=
  ∀ m, w.managers[id]? = some m → ∃ m', w'.managers[id]? = some m' ∧ m.replay? events = some m'

namespace Recounts

theorem still (h : w'.managers = w.managers) : Recounts id w [] w' :=
  fun m hm => ⟨m, h ▸ hm, rfl⟩

theorem trans (h : Recounts id w events w') (h' : Recounts id w' later w'') :
    Recounts id w (events ++ later) w'' := by
  intro m hm
  obtain ⟨m', hm', hevents⟩ := h m hm
  obtain ⟨m'', hm'', hlater⟩ := h' m' hm'
  exact ⟨m'', hm'', SkinManager.replay?_trans hevents hlater⟩

/-- An event of the manager itself. -/
theorem event {e : SkinEvent} {f : SkinManager → SkinManager}
    (h : ∀ m, w.managers[id]? = some m → m.after? e = some (f m)) :
    Recounts id w [e] (w.modifyManager id f) := by
  intro m hm
  refine ⟨f m, ?_, ?_⟩
  · rw [World.modifyManager, List.getElem?_modify, hm]
    simp
  · rw [SkinManager.replay?_singleton]
    exact h m hm

/-- What is done to another manager does not matter. -/
theorem other {other : ManagerId} (hne : other ≠ id) (f : SkinManager → SkinManager) :
    Recounts id w [] (w.modifyManager other f) := by
  intro m hm
  refine ⟨m, ?_, rfl⟩
  rw [World.modifyManager, List.getElem?_modify, hm]
  simp [hne]

theorem addSkin (w : World) (id : ManagerId) (skin : Skin) :
    Recounts id w [.added skin] (w.addSkin id skin) := by
  rw [World.addSkin]
  split_ifs
  · exact event fun _ _ => rfl
  · have htell : Recounts id w [] (w.tell .debug ("Skin " ++ skin.name ++ " is now active")) :=
      still rfl
    exact htell.trans (event fun _ _ => rfl)

theorem switch {name : String} {skin : Skin} (h : (w.manager id).skin? name = some skin) :
    Recounts id w [.activated name]
      (w.modifyManager id fun m => { m with active := some skin }) := by
  refine event fun m hm => ?_
  rw [World.manager, hm] at h
  rw [SkinManager.after?, show m.skin? name = some skin from h]
  rfl

end Recounts

/-- What has become of a manager is told by events of a kind. -/
def ToldBy (others : SkinEvent → Prop) (id : ManagerId) (w w' : World) : Prop :=
  ∃ events, (∀ e ∈ events, others e) ∧ Recounts id w events w'

namespace ToldBy

theorem still (h : w'.managers = w.managers) : ToldBy others id w w' :=
  ⟨[], List.forall_mem_nil _, .still h⟩

theorem trans (h : ToldBy others id w w') (h' : ToldBy others id w' w'') :
    ToldBy others id w w'' := by
  obtain ⟨events, hevents, hrecounts⟩ := h
  obtain ⟨later, hlater, hrecounts'⟩ := h'
  exact ⟨events ++ later, List.forall_mem_append.mpr ⟨hevents, hlater⟩,
    hrecounts.trans hrecounts'⟩

end ToldBy

/-! ## Steps that leave all managers alone -/

section Managers

variable (w : World)

theorem managers_lookup (manager : ManagerId) (kind : ResourceKind) (key : ResourceId) :
    (w.lookup manager kind key).2.managers = w.managers := by
  cases kind with
  | color =>
    rw [World.lookup, World.lookupColor]
    cases (w.manager manager).color key <;> rfl
  | drawable =>
    rw [World.lookup, World.lookupDrawable]
    cases (w.manager manager).drawable key <;> rfl

theorem managers_updateField (target : Handle) (manager : ManagerId) (field : BoundField) :
    (w.updateField target manager field).2.managers = w.managers := by
  rw [← managers_lookup w manager field.kind field.key, World.updateField]
  cases field.shape <;> rfl

theorem managers_updateFields (target : Handle) (manager : ManagerId) (fields : List BoundField) :
    (w.updateFields target manager fields).2.managers = w.managers := by
  induction fields generalizing w with
  | nil => rfl
  | cons field rest ih =>
    rw [World.updateFields]
    exact (ih _).trans (managers_updateField w target manager field)

theorem managers_allocate (target : Handle) (fields : List BoundField) :
    (w.allocate target fields).managers = w.managers := by
  induction fields generalizing w with
  | nil => rfl
  | cons field rest ih =>
    rw [World.allocate]
    cases field.shape <;> exact ih _

theorem managers_resetFields (target : Handle) (fields : List BoundField) :
    (w.resetFields target fields).managers = w.managers := by
  induction fields generalizing w with
  | nil => rfl
  | cons field rest ih =>
    refine (ih (World.resetField target w field)).trans ?_
    rw [World.resetField]
    cases field.shape <;> rfl

theorem managers_unbindCompanion (companion : CompanionId) :
    (w.unbindCompanion companion).2.managers = w.managers := by
  rw [World.unbindCompanion]
  cases w.companions[companion]? with
  | none => rfl
  | some c =>
    obtain ⟨⟨path, name, declared, label, subject, conduct⟩, context, target⟩ := c
    cases conduct with
    | keep fields =>
      cases target with
      | none => rfl
      | some target => exact managers_resetFields _ target fields
    | record journal =>
      cases target with
      | none => rfl
      | some target =>
        dsimp only
        split_ifs <;> rfl

theorem managers_clearCompanion (companion : CompanionId) :
    (w.clearCompanion companion).managers = w.managers := by
  rw [World.clearCompanion]
  split <;> rfl

end Managers

/-! ## Computations that can be told -/

/-- What a computation does to a manager can be told by events of a kind. -/
def Candid (short : Prop) (id : ManagerId) (others : SkinEvent → Prop) {α : Type} (x : Step α) :
    Prop :=
  ∀ w, Gives short x w fun _ w' => ToldBy others id w w'

namespace Candid

variable {α β : Type} {x : Step α} {f : α → Step β}

theorem of_run (h : ∀ w, ∃ a w', x w = some (a, w') ∧ w'.managers = w.managers) :
    Candid short id others x := by
  intro w
  obtain ⟨a, w', hrun, hsame⟩ := h w
  exact Gives.of_eq hrun (.still hsame)

theorem pure (a : α) : Candid short id others (Pure.pure a : Step α) :=
  of_run fun w => ⟨a, w, rfl, rfl⟩

theorem modify {f : World → World} (h : ∀ w, (f w).managers = w.managers) :
    Candid short id others (modify f : Step PUnit) := of_run fun w => ⟨⟨⟩, f w, rfl, h w⟩

theorem bind (hx : Candid short id others x) (hf : ∀ a, Candid short id others (f a)) :
    Candid short id others (x >>= f) :=
  fun w => (hx w).bind fun a w₁ h => (hf a w₁).mono fun _ _ h' => h.trans h'

/-- The world may be looked at. -/
theorem read {f : World → Step β} (hf : ∀ w, Candid short id others (f w)) :
    Candid short id others (get >>= f) :=
  fun w => Gives.get_bind (hf w w)

theorem forM {f : α → Step PUnit} {items : List α} (hf : ∀ a, Candid short id others (f a)) :
    Candid short id others (items.forM f) :=
  fun w => Gives.forM (fun _ w' => ToldBy others id w w') (.still rfl)
    fun _ a _ _ w₁ h => (hf a w₁).mono fun _ _ h' => h.trans h'

/-- What begins in a world that has the same managers. -/
theorem resume {x : Step α} (hx : Candid short id others x) (h : w'.managers = w.managers) :
    Gives short x w' fun _ w'' => ToldBy others id w w'' :=
  (hx w').mono fun _ _ h' => ToldBy.trans (.still h) h'

theorem set_bind {f : PUnit → Step β} (hf : Candid short id others (f ⟨⟩))
    (h : w'.managers = w.managers) :
    Gives short (set w' >>= f) w fun _ w'' => ToldBy others id w w'' := hf.resume h

end Candid

/-! ## Computations that call user code -/

section Calls

variable {act : Act} (hact : ∀ v a, Candid short id others (act v a))
include hact

theorem call_candid (slot : SlotId) (value : Value) (o : Observer) :
    Candid short id others (o.call act slot value) :=
  .bind (.modify fun _ => rfl) fun _ => .forM fun a => hact (some value) a

theorem setSlot_candid (slot : SlotId) (value : Value) :
    Candid short id others (setSlot act slot value) :=
  .bind (.modify fun _ => rfl) fun _ => .read fun _ => .forM fun o => call_candid hact slot value o

theorem updateTheme_candid (companion : CompanionId) :
    Candid short id others (updateTheme act companion) := by
  intro w
  refine Gives.get_bind ?_
  split
  · refine Gives.get_bind (Candid.set_bind (.forM fun p => ?_) (managers_updateFields w _ _ _))
    exact setSlot_candid hact p.slot p.value
  · exact Candid.pure _ w

theorem apply_candid (l : Listener) : Candid short id others (l.apply act) := by
  cases l with
  | companion companion => exact updateTheme_candid hact companion
  | script script =>
    refine .read fun w => ?_
    cases w.scripts[script]? with
    | none => exact .pure _
    | some s => exact .bind (.modify fun _ => rfl) fun _ => .forM fun a => hact none a

theorem notify_candid (b : BroadcasterId) (skin : String) :
    Candid short id others (notify act b skin) :=
  .read fun _ => .read fun _ => .bind (.modify fun _ => rfl) fun _ =>
    .bind (.modify fun _ => rfl) fun _ => .bind (.forM fun l => apply_candid hact l) fun _ =>
      .bind (.modify fun _ => rfl) fun _ => .pure _

/-- **An activation is told by the event itself**, followed by what those do who are notified. -/
theorem activate_recounts (name : String) {skin : Skin}
    (h : (w.manager id).skin? name = some skin) :
    Gives short (activate act id name) w fun r w' => (∃ n, r = .ok n) ∧
      ∃ nested, (∀ e ∈ nested, others e) ∧ Recounts id w (.activated name :: nested) w' := by
  refine Gives.get_bind ?_
  dsimp only
  rw [h]
  refine Gives.modify_bind (Gives.modify_bind ?_)
  refine ((notify_candid hact _ name).resume rfl).bind fun n w' h' => Gives.pure ?_
  obtain ⟨nested, hnested, hrecounts⟩ := h'
  exact ⟨⟨n, rfl⟩, nested, hnested, (Recounts.switch h).trans hrecounts⟩

omit hact in
/-- A name that is not known is refused, and nothing is done. -/
theorem activate_of_unknown {name : String} (h : (w.manager id).skin? name = none) :
    activate act id name w = some (.error (.unknownSkin name), w) := by
  have hget : (get : Step World) w = some (w, w) := rfl
  refine (Step.bind_eq hget).trans ?_
  rw [h]
  rfl

theorem activate_candid (manager : ManagerId) (name : String)
    (hname : manager = id → others (.activated name)) :
    Candid short id others (activate act manager name) := by
  intro w
  cases h : (w.manager manager).skin? name with
  | none => exact Gives.of_eq (activate_of_unknown h) (.still rfl)
  | some skin =>
    by_cases hsame : manager = id
    · subst hsame
      refine (activate_recounts hact name h).mono fun _ _ ⟨_, nested, hnested, h'⟩ => ?_
      exact ⟨_, List.forall_mem_cons.mpr ⟨hname rfl, hnested⟩, h'⟩
    · refine Gives.get_bind ?_
      dsimp only
      rw [h]
      refine Gives.modify_bind (Gives.modify_bind ?_)
      refine ((notify_candid hact _ name).resume rfl).bind fun n w' h' => Gives.pure ?_
      exact ToldBy.trans ⟨[], List.forall_mem_nil _, .other hsame _⟩ h'

/-! ## Binding -/

theorem attach_candid (entry : CompanionEntry) (fields : List BoundField) (target : Handle)
    (context : Context) : Candid short id others (attach act entry fields target context) := by
  intro w
  refine Gives.get_bind ?_
  refine Candid.set_bind (.bind (updateTheme_candid hact _) fun _ => ?_)
    (managers_allocate _ target fields)
  exact .bind (.modify fun _ => rfl) fun _ => .pure _

theorem attachRecorder_candid (entry : CompanionEntry) (journal : String) (target : Handle)
    (context : Context) :
    Candid short id others (attachRecorder act entry journal target context) := by
  have hmake : Candid short id others (do
      let made := ((← get).note target journal "bind").addCompanion ⟨entry, context, some target⟩
      set made.2
      return .ok made.1 : Step (Except BindingError CompanionId)) :=
    fun w => Gives.get_bind (Candid.set_bind (.pure _) rfl)
  refine .read fun w => ?_
  cases hmode : w.modes.lookup entry.target with
  | none => exact hmake
  | some mode =>
    cases mode with
    | refuse e => exact .pure _
    | rebind =>
      refine .read fun w => .bind (.modify fun _ => rfl) fun _ => ?_
      cases w.repeatable with
      | none => exact hmake
      | some again => exact .bind (hact none _) fun _ => hmake
    | failRelease => exact hmake

theorem construct_candid (entry : CompanionEntry) (target : Handle) (context : Context) :
    Candid short id others (construct act entry target context) := by
  rw [construct]
  cases target.expect entry.target with
  | error e => exact .pure _
  | ok target =>
    cases entry.conduct with
    | keep fields => exact .bind (attach_candid hact entry fields target context) fun _ => .pure _
    | record journal => exact attachRecorder_candid hact entry journal target context

omit hact in
theorem release_candid (companion : CompanionId) :
    Candid short id others
      (Binder.release World.craft companion : Step (Except BindingError Unit)) :=
  .bind (.of_run fun w => ⟨_, _, rfl, managers_unbindCompanion w companion⟩) fun _ =>
    .bind (.of_run fun w => ⟨_, _, rfl, managers_clearCompanion w companion⟩) fun _ => .pure _

omit hact in
theorem tell_candid (notice : Binder.Notice) :
    Candid short id others (World.craft.tell notice : Step Unit) :=
  .of_run fun _ => ⟨_, _, rfl, rfl⟩

omit hact in
theorem releaseOrTell_candid (companion : CompanionId)
    (complaint : BindingError → Binder.Notice) :
    Candid short id others (Binder.releaseOrTell World.craft companion complaint : Step Unit) := by
  refine .bind (release_candid companion) fun result => ?_
  cases result with
  | ok _ => exact .pure _
  | error e => exact tell_candid _

omit hact in
theorem prepare_candid (info : TypeInfo) (target : TargetId) :
    Candid short id others (Binder.prepare World.craft info target : Step _) := by
  refine .bind (.bind (.of_run fun w => ⟨_, _, rfl, rfl⟩) fun _ =>
    .bind (.forM fun _ => tell_candid _) fun _ => .pure _) fun result => ?_
  cases result with
  | error e => exact .pure _
  | ok found => cases found <;> exact .pure _

omit hact in
theorem releaseActive_candid (info : TypeInfo) (target : TargetId) :
    Candid short id others (Binder.releaseActive World.craft info target : Step Unit) := by
  refine .bind (.of_run fun w => ⟨_, _, rfl, rfl⟩) fun previous => ?_
  cases previous with
  | none => exact .pure _
  | some previous =>
    exact .bind (.of_run fun w => ⟨_, _, rfl, rfl⟩) fun _ => .bind (tell_candid _) fun _ =>
      releaseOrTell_candid _ _

omit hact in
theorem install_candid (info : TypeInfo) (target : TargetId) (companion : CompanionId) :
    Candid short id others (Binder.install World.craft info target companion : Step Unit) := by
  refine .bind (.of_run fun w => ⟨_, _, rfl, rfl⟩) fun raced => ?_
  cases raced with
  | none => exact .pure _
  | some raced => exact .bind (tell_candid _) fun _ => releaseOrTell_candid _ _

theorem bind_candid (target : TargetId) (context : Context) :
    Candid short id others (Live.bind act target context) := by
  refine .read fun w => ?_
  cases w.targets[target]? with
  | none => exact .pure _
  | some t =>
    refine .bind (prepare_candid t.type.info target) fun prepared => ?_
    cases prepared with
    | error e => exact .pure _
    | ok prepared =>
      refine .bind (releaseActive_candid _ _) fun _ =>
        .bind (construct_candid hact prepared.1 prepared.2 context) fun made => ?_
      cases made with
      | error e => exact .pure _
      | ok companion =>
        exact .bind (install_candid _ _ _) fun _ => .bind (tell_candid _) fun _ => .pure _

omit hact in
theorem managers_unbind (w : World) (target : TargetId) :
    (w.unbind target).2.managers = w.managers := by
  cases h : w.binder.active.lookup target with
  | none =>
    obtain ⟨level, message, hunbind⟩ := unbind_of_unbound h
    rw [hunbind]
    rfl
  | some companion =>
    rw [unbind_of_bound h]
    exact (managers_clearCompanion _ companion).trans (managers_unbindCompanion _ companion)

/-- An action can be told if those it calls can be told, and it may activate what it does. -/
theorem carryOut_candid (observed : Option Value) (a : Action)
    (ha : ∀ name, a = .activate id name → others (.activated name)) :
    Candid short id others (carryOut act observed a) := by
  cases a with
  | bind target context =>
    exact .bind (bind_candid hact target context) fun _ => .modify fun _ => rfl
  | unbind target =>
    exact fun w => Gives.get_bind (Gives.of_eq rfl (.still (managers_unbind w target)))
  | rebind target context =>
    exact .bind (bind_candid hact target context) fun _ => .modify fun _ => rfl
  | activate manager skin =>
    exact .bind (activate_candid hact manager skin fun hsame => ha skin (hsame ▸ rfl)) fun _ =>
      .pure _
  | set slot value limit =>
    rw [carryOut]
    cases value.or observed with
    | none => exact .pure _
    | some value =>
      refine .read fun w => ?_
      split_ifs
      · exact setSlot_candid hact slot value
      · exact .pure _
  | observe slot tag glance actions => exact .modify fun _ => rfl
  | notify b skin => exact .bind (notify_candid hact b skin) fun _ => .pure _
  | listen b listener =>
    refine .modify fun w => ?_
    cases w.scriptOf? listener <;> rfl
  | ignore b listener =>
    refine .modify fun w => ?_
    cases w.scriptOf? listener <;> rfl
  | drop listener => exact .modify fun _ => rfl
  | count b => exact .modify fun _ => rfl

end Calls

/-- Carries out actions that nest at most to a given depth, all of which are allowed. -/
def performOnly (allowed : Action → Bool) : Nat → Act
  | 0 => fun _ _ => fun _ => none
  | depth + 1 => fun v a =>
    if allowed a = true then carryOut (performOnly allowed depth) v a else fun _ => none

theorem performOnly_true (depth : Nat) : performOnly (fun _ => true) depth = perform depth := by
  induction depth with
  | zero => rfl
  | succ depth ih =>
    funext v a
    rw [performOnly, ih]
    exact if_pos rfl

/-- **Actions do nothing to a manager but activate those of its skins that they may**, however deep
they nest. -/
theorem performOnly_candid {allowed : Action → Bool}
    (hallowed : ∀ name, allowed (.activate id name) = true → others (.activated name)) (depth : Nat)
    (v : Option Value) (a : Action) : Candid True id others (performOnly allowed depth v a) := by
  induction depth generalizing v a with
  | zero => exact fun _ => trivial
  | succ depth ih =>
    rw [performOnly]
    dsimp only
    split_ifs with ha
    · exact carryOut_candid ih v a fun name hname => hallowed name (hname ▸ ha)
    · exact fun _ => trivial

theorem perform_candid (id : ManagerId) (depth : Nat) (v : Option Value) (a : Action) :
    Candid True id (fun e => ∃ name, e = .activated name) (perform depth v a) := by
  rw [← performOnly_true]
  exact performOnly_candid (fun name _ => ⟨name, rfl⟩) depth v a

end Live
end Theming
