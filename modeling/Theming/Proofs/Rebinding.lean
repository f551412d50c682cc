/-
# Binding keeps the world in order

A bind resolves the type of a target, releases the companion of the target, and makes a new one that
listens and becomes active. As with a release, soundness is not kept by each of these steps
(`Sound.install`) but by all of them together (`Sound.bind`).

| a bind | the binder afterwards |
| --- | --- |
| fails | as before, but for what its resolver has found |
| succeeds | the target has a new companion, made with the context of the bind |

It fails only while it is prepared, before anything is released; and no user code runs, so what it
comes to does not depend on what observers may do.
-/

import Theming.Proofs.Making

namespace Theming

/-- What is prepared for a target of a type: its companion, and the handle to the part that the
companion is for. -/
def Binder.prepared {κ : Type} (b : Binder κ) (info : TypeInfo) (target : TargetId) :
    Except BindingError (CompanionEntry × Handle) :=
  match (b.resolver.resolve info).result with
  | .error e => .error e
  | .ok none => .error (.noBinding info.name)
  | .ok (some entry) =>
    (info.upcast ⟨target, [], info.declared⟩ entry.target).map fun handle => (entry, handle)

/-- What is prepared is the companion that is found, and the handle that is taken to its type. -/
theorem Binder.of_prepared {κ : Type} {b : Binder κ} {info : TypeInfo} {target : TargetId}
    {entry : CompanionEntry} {handle : Handle}
    (h : b.prepared info target = .ok (entry, handle)) :
    (b.resolver.resolve info).result = .ok (some entry) ∧
      info.upcast ⟨target, [], info.declared⟩ entry.target = .ok handle := by
  rw [prepared] at h
  rcases hresult : (b.resolver.resolve info).result with e | _ | found
  · rw [hresult] at h
    cases h
  · rw [hresult] at h
    cases h
  · rw [hresult] at h
    dsimp only at h
    cases hup : info.upcast ⟨target, [], info.declared⟩ found.target with
    | error e =>
      rw [hup] at h
      cases h
    | ok up =>
      rw [hup] at h
      obtain ⟨rfl, rfl⟩ := Prod.mk.inj (Except.ok.inj h)
      exact ⟨rfl, hup⟩

/-- Where a companion is found, its type decides. -/
theorem Binder.prepared_of_found {κ : Type} {b : Binder κ} {info : TypeInfo}
    {target : TargetId} {entry : CompanionEntry}
    (h : (b.resolver.resolve info).result = .ok (some entry)) :
    b.prepared info target =
      (info.upcast ⟨target, [], info.declared⟩ entry.target).map fun handle => (entry, handle) := by
  rw [prepared, h]

namespace Live

variable {setting : Setting} {act : Act} {w w' : World}

/-! ## Resolving -/

/-- The world after a type has been resolved: the resolver has found what there is, and each step
has been told. -/
def World.resolving (w : World) (info : TypeInfo) : World :=
  (w.binder.resolver.resolve info).told.foldl (fun w step => w.tell .debug step)
    { w with binder := { w.binder with resolver := (w.binder.resolver.resolve info).resolver } }

theorem tellAll_run (steps : List String) (w : World) :
    (steps.forM fun step => (World.craft : Binder.Craft Step CompanionId).tell
      (.resolving step)) w = some ((), steps.foldl (fun w step => w.tell .debug step) w) := by
  induction steps generalizing w with
  | nil => rfl
  | cons step rest ih => exact ih (w.tell .debug step)

theorem resolve_run (w : World) (info : TypeInfo) :
    (Binder.resolve World.craft info : Step _) w =
      some ((w.binder.resolver.resolve info).result, w.resolving info) := by
  have hfind : (MonadStateOf.modifyGet fun (b : Binder CompanionId) =>
      (b.resolver.resolve info, { b with resolver := (b.resolver.resolve info).resolver }) :
        Step Resolution) w = some (w.binder.resolver.resolve info, { w with binder :=
          { w.binder with resolver := (w.binder.resolver.resolve info).resolver } }) := rfl
  exact (Step.bind_eq hfind).trans
    (Step.bind_eq (tellAll_run (w.binder.resolver.resolve info).told _))

theorem resolve_eq (w : World) (info : TypeInfo) :
    w.resolve info = ((w.binder.resolver.resolve info).result, w.resolving info) := by
  have htell : ∀ (steps : List String) (w : World),
      (steps.forM fun step => (World.craft : Binder.Craft (StateT World Id) CompanionId).tell
        (.resolving step)) w = ((), steps.foldl (fun w step => w.tell .debug step) w) := by
    intro steps
    induction steps with
    | nil => exact fun _ => rfl
    | cons step rest ih => exact fun w => ih (w.tell .debug step)
  have hfind : (MonadStateOf.modifyGet fun (b : Binder CompanionId) =>
      (b.resolver.resolve info, { b with resolver := (b.resolver.resolve info).resolver }) :
        StateT World Id Resolution) w = (w.binder.resolver.resolve info, { w with binder :=
          { w.binder with resolver := (w.binder.resolver.resolve info).resolver } }) := rfl
  exact (run_bind hfind).trans (run_bind (htell (w.binder.resolver.resolve info).told _))

/-- What resolving a type changes. -/
structure Resolved (setting : Setting) (info : TypeInfo) (w w' : World) : Prop where
  orders : Orders setting w w'
  binder : w'.binder = { w.binder with resolver := (w.binder.resolver.resolve info).resolver }
  companions : w'.companions = w.companions
  listeners : w'.listeners = w.listeners

/-- **Resolving keeps the world in order** and changes nothing but the resolver. -/
theorem Sound.resolving (hs : Sound setting w) (info : TypeInfo) :
    Resolved setting info w (w.resolving info) := by
  have hfound : Resolved setting info w { w with
      binder := { w.binder with resolver := (w.binder.resolver.resolve info).resolver } } :=
    ⟨⟨{ hs with finds := (hs.finds.resolve info).resolver }, ⟨fun _ => rfl, fun _ => rfl⟩⟩, rfl,
      rfl, rfl⟩
  rw [World.resolving]
  generalize ({ w with
    binder := { w.binder with resolver := (w.binder.resolver.resolve info).resolver } } : World) =
      w' at hfound ⊢
  induction (w.binder.resolver.resolve info).told generalizing w' with
  | nil => exact hfound
  | cons step rest ih =>
    exact ih _ ⟨hfound.orders.tell .debug step, hfound.binder, hfound.companions,
      hfound.listeners⟩

theorem prepare_run (w : World) (info : TypeInfo) (t : TargetId) :
    (Binder.prepare World.craft info t : Step _) w =
      some (w.binder.prepared info t, w.resolving info) := by
  refine (Step.bind_eq (resolve_run w info)).trans ?_
  rw [Binder.prepared]
  rcases (w.binder.resolver.resolve info).result with e | _ | entry
  · rfl
  · rfl
  · rfl

/-- What is prepared for a target is the companion of a type that is embedded in it. -/
theorem Sound.prepared (hs : Sound setting w) {t : TargetId} {T : TypeDefinition}
    (hT : w.typeOf? t = some T) {entry : CompanionEntry} {handle : Handle}
    (h : w.binder.prepared T.info t = .ok (entry, handle)) :
    ∃ A name, setting.catalog.Embeds T handle.path A ∧ entry = .keeper A name ∧
      handle.target = t ∧ handle.type = A.info.declared := by
  obtain ⟨hresult, hup⟩ := Binder.of_prepared h
  have hkeeps := (hs.finds.resolve T.info).result entry hresult
  exact hkeeps.embeds (hs.types t T hT) hup

/-! ## Changing the active companion -/

/-- It has been told that the companion of a target is about to be replaced. -/
def World.replacing (w : World) (info : TypeInfo) (id : CompanionId) : World :=
  w.tell (Binder.Notice.alreadyBound info.name (w.labelOf id)).level
    (Binder.Notice.alreadyBound info.name (w.labelOf id)).message

theorem releaseActive_of_unbound (info : TypeInfo) {t : TargetId}
    (h : w.binder.active.lookup t = none) :
    (Binder.releaseActive World.craft info t : Step Unit) w = some ((), w) := by
  have hremove : (Binder.remove t : Step (Option CompanionId)) w =
      some (w.binder.active.lookup t, w.without t) := rfl
  rw [h, World.without_of_unbound h] at hremove
  exact Step.bind_eq hremove

theorem releaseActive_of_bound (info : TypeInfo) {t : TargetId} {id : CompanionId}
    (h : w.binder.active.lookup t = some id)
    (hok : (((w.replacing info id).without t).unbindCompanion id).1 = .ok ()) :
    (Binder.releaseActive World.craft info t : Step Unit) w = some ((),
      (((w.replacing info id).without t).unbindCompanion id).2.clearCompanion id) := by
  have hremove : (Binder.remove t : Step (Option CompanionId)) w =
      some (w.binder.active.lookup t, w.without t) := rfl
  have hlabel : ((World.craft : Binder.Craft Step CompanionId).label id) (w.without t) =
      some (w.labelOf id, w.without t) := rfl
  have htold : ((World.craft : Binder.Craft Step CompanionId).tell
      (.alreadyBound info.name (w.labelOf id))) (w.without t) =
        some ((), (w.replacing info id).without t) := rfl
  have hreleased : (Binder.release World.craft id : Step _) ((w.replacing info id).without t) =
      some (.ok (),
        (((w.replacing info id).without t).unbindCompanion id).2.clearCompanion id) := by
    rw [← hok]
    rfl
  rw [h] at hremove
  exact (Step.bind_eq hremove).trans ((Step.bind_eq hlabel).trans
    ((Step.bind_eq htold).trans (Step.bind_eq hreleased)))

/-- Releasing the active companion of a target, of which binding tells, keeps the world in order. -/
theorem Sound.releaseActive (hs : Sound setting w) (info : TypeInfo) (t : TargetId) :
    ∃ w', (Binder.releaseActive World.craft info t : Step Unit) w = some ((), w') ∧
      Orders setting w w' ∧ w'.binder = (w.without t).binder ∧
      ∀ id, w'.contextOf? id = w.contextOf? id := by
  cases h : w.binder.active.lookup t with
  | none =>
    exact ⟨w, releaseActive_of_unbound info h, ⟨hs, .refl w⟩,
      congrArg World.binder (World.without_of_unbound h).symm, fun _ => rfl⟩
  | some id =>
    have htell : Steady w (w.replacing info id) := .tell w _ _
    obtain ⟨hok, hsound, halike, hbinder⟩ := (hs.steady htell).release
      (mem_of_lookup (l := (w.replacing info id).binder.active) h) rfl
    exact ⟨_, releaseActive_of_bound info h hok, ⟨hsound, htell.alike.trans halike⟩, hbinder,
      fun other => World.contextOf?_release _ id other⟩

/-- **A companion that listens and becomes active keeps the world in order.** -/
theorem Sound.install (hs : Sound setting w) {id : CompanionId} {c : Companion} {h : Handle}
    (hc : w.companions[id]? = some c) (htarget : c.target = some h)
    (hunbound : w.binder.active.lookup h.target = none) :
    Sound setting { (w.addListener c.context.broadcaster (.companion id)) with
      binder := { w.binder with active := (h.target, id) :: w.binder.active } } := by
  have hrange : c.context.broadcaster < w.broadcasters.length :=
    hs.reached c.context (hs.contexts c (List.mem_of_getElem? hc))
  exact
    { hs with
      finds := ⟨hs.finds.registry, hs.finds.table⟩
      keys := by
        rw [List.map_cons, List.nodup_cons]
        refine ⟨fun hmem => ?_, hs.keys⟩
        have hsome := (lookup_isSome_iff h.target w.binder.active).mpr hmem
        rw [hunbound] at hsome
        cases hsome
      active := by
        intro t other hmem
        rcases List.mem_cons.mp hmem with heq | hmem
        · obtain ⟨rfl, rfl⟩ := Prod.mk.inj heq
          exact ⟨c, h, hc, htarget, rfl⟩
        · exact hs.active t other hmem
      reached := by
        intro context hcontext
        rw [World.addListener, World.modifyBroadcaster, List.length_modify]
        exact hs.reached context hcontext
      listening := by
        intro b
        have hlisteners : w.listeners b = (w.followers b).map Listener.companion := hs.listening b
        have hadded := w.listeners_modifyBroadcaster hrange (· ++ [Listener.companion id]) b
        have hhears : w.hears b id = (c.context.broadcaster == b) := by
          rw [World.hears, hc]
          rfl
        change (w.addListener c.context.broadcaster (.companion id)).listeners b =
          (((id :: w.binder.active.map Prod.snd).filter (w.hears b)).reverse).map
            Listener.companion
        rw [World.addListener, hadded]
        by_cases hb : b = c.context.broadcaster
        · subst hb
          rw [if_pos rfl, List.filter_cons_of_pos (by rw [hhears]; simp), List.reverse_cons,
            List.map_append, hlisteners]
          rfl
        · have hne : ¬ w.hears b id = true := by
            rw [hhears]
            simpa using fun h' : c.context.broadcaster = b => hb h'.symm
          rw [if_neg hb, List.filter_cons_of_neg hne, hlisteners]
          rfl }

/-- Where no companion is active, the new one becomes active. -/
theorem install_run (w : World) (info : TypeInfo) {t : TargetId} (id : CompanionId)
    (hunbound : w.binder.active.lookup t = none) :
    (Binder.install World.craft info t id : Step Unit) w =
      some ((), { w with binder := { w.binder with active := (t, id) :: w.binder.active } }) := by
  have hfilter : w.binder.active.filter (·.1 != t) = w.binder.active :=
    congrArg (fun w : World => w.binder.active) (World.without_of_unbound hunbound)
  have hinsert : (Binder.insert t id : Step (Option CompanionId)) w =
      some (w.binder.active.lookup t, { w with
        binder := { w.binder with active := (t, id) :: w.binder.active.filter (·.1 != t) } }) := rfl
  rw [hunbound, hfilter] at hinsert
  exact Step.bind_eq hinsert

/-- A companion is made for a handle to its own type. -/
theorem construct_run {A : TypeDefinition} {name : String} {handle : Handle} {context : Context}
    {id : CompanionId} (htype : handle.type = A.info.declared)
    (h : Live.attach act (.keeper A name) A.bound handle context w = some (id, w')) :
    construct act (.keeper A name) handle context w = some (.ok id, w') := by
  have hexpect : handle.expect (CompanionEntry.keeper A name).target = .ok handle := if_pos htype
  rw [construct, hexpect]
  exact Step.bind_eq h

/-- **A companion is made and becomes active**, where none was. -/
theorem Sound.make (hs : Sound setting w) (info : TypeInfo) {T A : TypeDefinition} (name : String)
    {handle : Handle} {context : Context} (hcontext : setting.contexts context)
    (hT : w.typeOf? handle.target = some T) (hembeds : setting.catalog.Embeds T handle.path A)
    (htype : handle.type = A.info.declared)
    (hunbound : w.binder.active.lookup handle.target = none) :
    ∃ id w₁ w₂,
      (∀ act, construct act (.keeper A name) handle context w = some (.ok id, w₁)) ∧
      (Binder.install World.craft info handle.target id : Step Unit) w₁ = some ((), w₂) ∧
      Orders setting w w₂ ∧
      w₂.binder = { w.binder with active := (handle.target, id) :: w.binder.active } ∧
      w₂.companions = w.companions ++ [⟨.keeper A name, context, some handle⟩] ∧
      id = w.companions.length := by
  obtain ⟨w', h, hbinder, hcompanions, hattach⟩ := hs.attach name hcontext hT hembeds htype
  have hc : w'.companions[w.companions.length]? =
      some ⟨.keeper A name, context, some handle⟩ := by
    rw [hcompanions]
    exact List.getElem?_concat_length
  have hunbound' : w'.binder.active.lookup handle.target = none := by
    rw [hbinder]
    exact hunbound
  refine ⟨w.companions.length, w'.addListener context.broadcaster (.companion w.companions.length),
    _, fun act => construct_run htype (hattach act), install_run _ info _ hunbound',
    ⟨h.sound.install hc rfl hunbound', h.alike.types, h.alike.hosts⟩, ?_, hcompanions, rfl⟩
  rw [← hbinder]
  rfl

/-- A world with one more companion knows its context as well as those of the others. -/
theorem World.contextOf?_concat {c : Companion} (h : w'.companions = w.companions ++ [c]) :
    w'.contextOf? w.companions.length = some c.context ∧
      ∀ id context, w.contextOf? id = some context → w'.contextOf? id = some context := by
  constructor
  · rw [contextOf?, h, List.getElem?_concat_length]
    rfl
  · intro id context hid
    obtain ⟨d, hd, rfl⟩ := Option.map_eq_some_iff.mp hid
    rw [contextOf?, h, List.getElem?_append_left (List.getElem?_eq_some_iff.mp hd).1, hd]
    rfl

/-! ## Binding -/

/-- What binding a target of a type comes to. -/
structure Binds (setting : Setting) (info : TypeInfo) (t : TargetId) (context : Context)
    (w : World) (r : Except BindingError Unit) (w' : World) : Prop where
  orders : Orders setting w w'
  resolver : w'.binder.resolver = (w.binder.resolver.resolve info).resolver
  result : r = (w.binder.prepared info t).map fun _ => ()
  contexts : ∀ id context, w.contextOf? id = some context → w'.contextOf? id = some context
  failed : ∀ e, r = .error e → w'.binder.active = w.binder.active
  made : r = .ok () → ∃ id, w'.contextOf? id = some context ∧
    w'.binder.active = (t, id) :: w.binder.active.filter (·.1 != t)

section

variable {t : TargetId} {T : TypeDefinition} {context : Context} (hT : w.typeOf? t = some T)
include hT

theorem bind_eq_binder : Live.bind act t context w =
    (Binder.bind World.craft (fun entry handle => construct act entry handle context) T.info t :
      Step _) w := by
  obtain ⟨target, htarget, rfl⟩ := Option.map_eq_some_iff.mp hT
  have hget : (get : Step World) w = some (w, w) := rfl
  refine (Step.bind_eq hget).trans ?_
  rw [htarget]

/-- A bind fails if nothing can be prepared. -/
theorem bind_refused {e : BindingError} (h : w.binder.prepared T.info t = .error e) :
    Live.bind act t context w = some (.error e, w.resolving T.info) := by
  have hprepare := prepare_run w T.info t
  rw [h] at hprepare
  rw [bind_eq_binder hT]
  exact Step.bind_eq hprepare

/-- A bind prepares, releases, makes and installs, and then it is told. -/
theorem bind_run {entry : CompanionEntry} {handle : Handle} {id : CompanionId} {w₁ w₂ w₃ : World}
    (hprepared : w.binder.prepared T.info t = .ok (entry, handle))
    (hrelease : (Binder.releaseActive World.craft T.info t : Step Unit) (w.resolving T.info) =
      some ((), w₁))
    (hconstruct : construct act entry handle context w₁ = some (.ok id, w₂))
    (hinstall : (Binder.install World.craft T.info t id : Step Unit) w₂ = some ((), w₃)) :
    Live.bind act t context w = some (.ok (), w₃.tell
      (Binder.Notice.bound T.info.name entry.name).level
      (Binder.Notice.bound T.info.name entry.name).message) := by
  have hprepare := prepare_run w T.info t
  rw [hprepared] at hprepare
  rw [bind_eq_binder hT]
  exact (Step.bind_eq hprepare).trans ((Step.bind_eq hrelease).trans
    ((Step.bind_eq hconstruct).trans (Step.bind_eq hinstall)))

end

/-- **Binding keeps the world in order**, and comes to the same whatever observers may do. -/
theorem Sound.bind (hs : Sound setting w) {t : TargetId} {T : TypeDefinition}
    (hT : w.typeOf? t = some T) {context : Context} (hcontext : setting.contexts context) :
    ∃ r w', (∀ act, Live.bind act t context w = some (r, w')) ∧
      Binds setting T.info t context w r w' := by
  have hresolved := hs.resolving T.info
  cases hprepared : w.binder.prepared T.info t with
  | error e =>
    refine ⟨.error e, _, fun act => bind_refused hT hprepared, hresolved.orders,
      ?_, ?_, fun id c hc => ?_, fun _ _ => ?_, fun h => by cases h⟩
    · rw [hresolved.binder]
    · rw [hprepared]
      rfl
    · rw [World.contextOf?, hresolved.companions]
      exact hc
    · rw [hresolved.binder]
  | ok found =>
    obtain ⟨entry, handle⟩ := found
    obtain ⟨A, name, hembeds, rfl, rfl, htype⟩ := hs.prepared hT hprepared
    obtain ⟨w₁, hrelease, h₁, hbinder₁, hcontexts₁⟩ :=
      hresolved.orders.sound.releaseActive T.info handle.target
    have hT₁ : w₁.typeOf? handle.target = some T :=
      (h₁.alike.types _).trans ((hresolved.orders.alike.types _).trans hT)
    have hunbound : w₁.binder.active.lookup handle.target = none := by
      rw [hbinder₁]
      exact (lookup_filter_ne _ _ _).trans (if_pos rfl)
    obtain ⟨id, w₂, w₃, hconstruct, hinstall, h₃, hbinder₃, hcompanions₃, rfl⟩ :=
      h₁.sound.make T.info name hcontext hT₁ hembeds htype hunbound
    have horders := hresolved.orders.trans (h₁.trans h₃)
    refine ⟨.ok (), _, fun act => bind_run hT hprepared hrelease (hconstruct act) hinstall,
      horders.tell _ _, ?_, ?_, fun id c hc => ?_, fun _ h => (by cases h),
      fun _ => ⟨w₁.companions.length, ?_, ?_⟩⟩
    · change w₃.binder.resolver = _
      rw [hbinder₃, hbinder₁, World.without, hresolved.binder]
    · rw [hprepared]
      rfl
    · refine (World.contextOf?_concat hcompanions₃).2 id c ?_
      rw [hcontexts₁, World.contextOf?, hresolved.companions]
      exact hc
    · exact (World.contextOf?_concat hcompanions₃).1
    · change w₃.binder.active = _
      rw [hbinder₃, hbinder₁, World.without, hresolved.binder]

end Live
end Theming
