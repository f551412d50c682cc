/-
# Companions that anybody may hold

Whoever makes a companion may tell it, release it and clear it whenever he likes. Then a companion
with a target need not be the active one of that target, and an active one may have let go of it.
What still holds at every moment is that targets hold what their types ask for, that companions
with a target keep fields that are there, and that the binder holds no companion twice (`Typed`).

To a companion the following can happen, and nothing else (`Outlasts`).

| what is done | its target | its registration | the binder |
| --- | --- | --- | --- |
| it is told | stays | stays | |
| it is released | stays | goes | |
| it is cleared | goes | stays | |
| the binder releases it | goes | goes | lets go of it first |
| a notification finds it dead | stays | goes | |
| anything else | stays | stays | |

So it never gets back what has gone, whatever else is done, by user code that is called in between
as well (`Sustains`). And its target stays as long as neither somebody clears it nor the binder has
let go of it.
-/

import Theming.Proofs.Joining
import Theming.Proofs.Moments

namespace Theming
namespace Live

variable {catalog : Catalog} {careful : CompanionId → Prop} {w w' w'' : World}

/-! ## Typed worlds -/

/-- The companions that the binder holds. -/
def World.actives (w : World) : List CompanionId := w.binder.active.map Prod.snd

/-- Targets are of the types of a catalog and hold what these ask for, companions with a target
keep the fields of a type that is embedded where their handle leads, and the binder holds each
companion for one target at most. -/
structure Typed (catalog : Catalog) (w : World) : Prop where
  types : ∀ t T, w.typeOf? t = some T → catalog.has T
  shapes : ∀ t T, w.typeOf? t = some T → ∀ p l, T.layout.at? p = some l →
    ∃ k, w.kindAt? t p = some k ∧ k.Suits l
  finds : w.binder.resolver.Finds catalog.Keeps
  attached : ∀ (id : CompanionId) c h, w.companions[id]? = some c → c.target = some h →
    w.Attached catalog c h
  once : w.actives.Nodup
  made : ∀ id ∈ w.actives, id < w.companions.length

theorem Typed.opened (catalog : Catalog) (boundary : Boundary) (broadcasters : Nat)
    (hosts : List BroadcasterId) : Typed catalog (.opened boundary broadcasters hosts) where
  types t T hT := by cases hT
  shapes t T hT := by cases hT
  finds := ⟨nofun, nofun⟩
  attached id c h hc := by cases hc
  once := .nil
  made id hmem := by cases hmem

/-- Targets keep their types, and fields of the same sort. -/
structure KeepsSorts (w w' : World) : Prop where
  types : ∀ t, w'.typeOf? t = w.typeOf? t
  sorts : ∀ t p k, w.kindAt? t p = some k →
    ∃ k', w'.kindAt? t p = some k' ∧ ∀ l, k.Suits l → k'.Suits l

theorem Spares.keepsSorts {t : TargetId} (h : Spares t w w') : KeepsSorts w w' := ⟨h.types, h.sorts⟩

theorem Steady.keepsSorts (h : Steady w w') : KeepsSorts w w' :=
  ⟨h.types, fun t p k hk => ⟨k, (h.kinds t p).trans hk, fun _ hl => hl⟩⟩

theorem KeepsSorts.of_targets (h : w'.targets = w.targets) : KeepsSorts w w' := by
  refine ⟨fun t => ?_, fun t p k hk => ⟨k, ?_, fun _ hl => hl⟩⟩
  · rw [World.typeOf?, World.typeOf?, h]
  · rw [World.kindAt?, World.content?, h]
    exact hk

namespace Typed

variable (ht : Typed catalog w)
include ht

/-- The companions and the binder are as before. -/
theorem kept (h : KeepsSorts w w') (hbinder : w'.binder = w.binder)
    (hcompanions : w'.companions = w.companions) : Typed catalog w' where
  types t T hT := ht.types t T ((h.types t).symm.trans hT)
  shapes t T hT p l hl := by
    obtain ⟨k, hk, hsuits⟩ := ht.shapes t T ((h.types t).symm.trans hT) p l hl
    obtain ⟨k', hk', hsort⟩ := h.sorts t p k hk
    exact ⟨k', hk', hsort l hsuits⟩
  finds := hbinder ▸ ht.finds
  attached other c handle hc htarget :=
    (ht.attached other c handle (hcompanions ▸ hc) htarget).of_types h.types
  once := by
    rw [World.actives, hbinder]
    exact ht.once
  made := by
    rw [World.actives, hbinder, hcompanions]
    exact ht.made

theorem steady (h : Steady w w') : Typed catalog w' := ht.kept h.keepsSorts h.binder h.companions

/-- The binder holds others, but finds what is there. -/
theorem rebound {binder : Binder CompanionId} (hfinds : binder.resolver.Finds catalog.Keeps)
    (honce : (binder.active.map Prod.snd).Nodup)
    (hmade : ∀ id ∈ binder.active.map Prod.snd, id < w.companions.length) :
    Typed catalog { w with binder } :=
  { ht with
    finds := hfinds
    once := honce
    made := hmade }

theorem without (t : TargetId) : Typed catalog (w.without t) :=
  ht.rebound ht.finds (ht.once.sublist (List.filter_sublist.map _)) fun id hmem =>
    ht.made id ((List.filter_sublist.map _).subset hmem)

theorem detach (id : CompanionId) : Typed catalog (w.detach id) where
  types := ht.types
  shapes := ht.shapes
  finds := ht.finds
  attached other c handle hc htarget := by
    rw [World.companions_detach] at hc
    split_ifs at hc
    · obtain ⟨d, -, rfl⟩ := Option.map_eq_some_iff.mp hc
      cases htarget
    · exact ht.attached other c handle hc htarget
  once := ht.once
  made other hmem := by
    rw [World.detach, List.length_modify]
    exact ht.made other hmem

/-- A companion with a target keeps fields that are there. -/
theorem suited {id : CompanionId} {c : Companion} {handle : Handle}
    (hc : w.companions[id]? = some c) (htarget : c.target = some handle) :
    ∃ A name, catalog.has A ∧ c.entry = .keeper A name ∧ w.Suited handle A.bound := by
  obtain ⟨T, A, name, hT, hembeds, hentry, -⟩ := ht.attached id c handle hc htarget
  refine ⟨A, name, hembeds.has, hentry, fun f hf => ?_⟩
  exact ht.shapes handle.target T hT _ _ (hembeds.layout_bound hf)

/-- The fields of a companion are there, and have different names. -/
theorem keeper {id : CompanionId} {A : TypeDefinition} {name : String} {context : Context}
    {handle : Handle} (hc : w.companions[id]? = some ⟨.keeper A name, context, some handle⟩) :
    w.Suited handle A.bound ∧ (A.bound.map fun f => f.name).Nodup := by
  obtain ⟨A', _, hA, hentry, hsuited⟩ := ht.suited hc rfl
  have hbound : A'.bound = A.bound :=
    Conduct.keep.inj (congrArg CompanionEntry.conduct hentry).symm
  exact ⟨hbound ▸ hsuited, hbound ▸ Catalog.bound_names hA⟩

/-- A new companion has a target in which the type is embedded that it is for. -/
theorem addCompanion {c : Companion} (hattached : ∀ h, c.target = some h → w.Attached catalog c h) :
    Typed catalog (w.addCompanion c).2 where
  types := ht.types
  shapes := ht.shapes
  finds := ht.finds
  attached other d handle hd htarget := by
    rw [World.addCompanion, List.getElem?_append] at hd
    split_ifs at hd with hlt
    · exact ht.attached other d handle hd htarget
    · rw [List.getElem?_singleton] at hd
      split_ifs at hd
      obtain rfl := Option.some.inj hd
      exact hattached handle htarget
  once := ht.once
  made other hmem := by
    rw [World.addCompanion, List.length_append]
    exact Nat.lt_add_right 1 (ht.made other hmem)

theorem grown {T : TypeDefinition} (hT : catalog.has T) {c : Content} (hfits : c.Fits T.layout)
    (n : Nat) : Typed catalog (w.grown T c n) where
  types := World.types_grown ht.types hT
  shapes := World.shapes_grown ht.shapes hfits
  finds := ht.finds
  attached other d handle hd htarget := (ht.attached other d handle hd htarget).grown
  once := ht.once
  made := ht.made

/-- Whom the binder holds for a target, it does not hold when the target has been taken out. -/
theorem lost {t : TargetId} {id : CompanionId} (h : w.binder.active.lookup t = some id) :
    id ∉ (w.without t).actives := by
  intro hmem
  obtain ⟨⟨t', id'⟩, hmem', rfl⟩ := List.mem_map.mp hmem
  obtain ⟨hpair, hne⟩ := List.mem_filter.mp hmem'
  have hsame : (t', id') = (t, id') :=
    List.inj_on_of_nodup_map ht.once hpair (mem_of_lookup h) rfl
  exact bne_iff_ne.mp hne (Prod.mk.inj hsame).1

end Typed

/-! ## What companions outlast -/

/-- The world is typed still, and to the companions that there were nothing has happened but that
they are registered no longer, are no longer held by the binder or have let go of their target. The
last has not happened to those that are handled with care, unless the binder has let go of them. -/
structure Outlasts (catalog : Catalog) (careful : CompanionId → Prop) (w w' : World) : Prop where
  typed : Typed catalog w'
  types : ∀ t T, w.typeOf? t = some T → w'.typeOf? t = some T
  stays : ∀ (id : CompanionId) c, w.companions[id]? = some c →
    ∃ target, w'.companions[id]? = some { c with target } ∧ (target = c.target ∨ target = none)
  heard : ∀ id < w.companions.length, ∀ b,
    .companion id ∈ w'.listeners b → .companion id ∈ w.listeners b
  held : ∀ id < w.companions.length, id ∈ w'.actives → id ∈ w.actives
  spared : ∀ id < w.companions.length, careful id → (id ∈ w.actives → id ∈ w'.actives) →
    w'.companions[id]? = w.companions[id]?

namespace Outlasts

/-- The companions are there as long as the world is. -/
theorem lt_length (h : Outlasts catalog careful w w') {id : CompanionId}
    (hid : id < w.companions.length) : id < w'.companions.length := by
  obtain ⟨_, hc, -⟩ := h.stays id _ (List.getElem?_eq_getElem hid)
  exact (List.getElem?_eq_some_iff.mp hc).1

theorem trans (h : Outlasts catalog careful w w') (h' : Outlasts catalog careful w' w'') :
    Outlasts catalog careful w w'' where
  typed := h'.typed
  types t T hT := h'.types t T (h.types t T hT)
  stays id c hc := by
    obtain ⟨target, hc', htarget⟩ := h.stays id c hc
    obtain ⟨target', hc'', htarget'⟩ := h'.stays id _ hc'
    refine ⟨target', hc'', ?_⟩
    rcases htarget' with rfl | rfl
    · exact htarget
    · exact .inr rfl
  heard id hid b hmem := h.heard id hid b (h'.heard id (h.lt_length hid) b hmem)
  held id hid hmem := h.held id hid (h'.held id (h.lt_length hid) hmem)
  spared id hid hcareful hheld := by
    have hfirst : id ∈ w.actives → id ∈ w'.actives := fun hmem =>
      h'.held id (h.lt_length hid) (hheld hmem)
    have hsecond : id ∈ w'.actives → id ∈ w''.actives := fun hmem => hheld (h.held id hid hmem)
    exact (h'.spared id (h.lt_length hid) hcareful hsecond).trans (h.spared id hid hcareful hfirst)

/-- The companions are as before, registered where they were or nowhere, and held if they were. -/
theorem of_same (ht : Typed catalog w')
    (htypes : ∀ t T, w.typeOf? t = some T → w'.typeOf? t = some T)
    (hsame : ∀ id < w.companions.length, w'.companions[id]? = w.companions[id]?)
    (hheard : ∀ id < w.companions.length, ∀ b,
      .companion id ∈ w'.listeners b → .companion id ∈ w.listeners b)
    (hheld : ∀ id < w.companions.length, id ∈ w'.actives → id ∈ w.actives) :
    Outlasts catalog careful w w' where
  typed := ht
  types := htypes
  stays id c hc := ⟨c.target, (hsame id (List.getElem?_eq_some_iff.mp hc).1).trans hc, .inl rfl⟩
  heard := hheard
  held := hheld
  spared id hid _ _ := hsame id hid

theorem refl (ht : Typed catalog w) : Outlasts catalog careful w w :=
  of_same ht (fun _ _ h => h) (fun _ _ => rfl) (fun _ _ _ h => h) fun _ _ h => h

section Steps

variable (ht : Typed catalog w)
include ht

/-- Nothing is done to companions, to the binder and to listeners. -/
theorem apart (h : KeepsSorts w w') (hbinder : w'.binder = w.binder)
    (hcompanions : w'.companions = w.companions)
    (hlisteners : ∀ b, w'.listeners b = w.listeners b) : Outlasts catalog careful w w' := by
  refine of_same (ht.kept h hbinder hcompanions) (fun t T hT => (h.types t).trans hT)
    (fun _ _ => by rw [hcompanions]) (fun _ _ b hmem => hlisteners b ▸ hmem) fun _ _ hmem => ?_
  rwa [World.actives, hbinder] at hmem

theorem steady (h : Steady w w') : Outlasts catalog careful w w' :=
  apart ht h.keepsSorts h.binder h.companions h.listeners_eq

/-- A change that concerns neither companions nor listeners nor what targets hold. -/
theorem aside (htargets : w'.targets = w.targets) (hbinder : w'.binder = w.binder)
    (hcompanions : w'.companions = w.companions)
    (hbroadcasters : w'.broadcasters = w.broadcasters) : Outlasts catalog careful w w' :=
  apart ht (.of_targets htargets) hbinder hcompanions fun b => by
    rw [World.listeners, World.listeners, hbroadcasters]

/-- The binder holds no other companions than before. -/
theorem rebound {binder : Binder CompanionId} (hfinds : binder.resolver.Finds catalog.Keeps)
    (hactive : (binder.active.map Prod.snd).Sublist w.actives) :
    Outlasts catalog careful w { w with binder } := by
  have ht' := ht.rebound hfinds (ht.once.sublist hactive) fun id hmem =>
    ht.made id (hactive.subset hmem)
  exact of_same ht' (fun _ _ hT => hT) (fun _ _ => rfl) (fun _ _ _ hmem => hmem)
    fun _ _ hmem => hactive.subset hmem

theorem without (t : TargetId) : Outlasts catalog careful w (w.without t) :=
  rebound ht ht.finds (List.filter_sublist.map _)

end Steps

/-- Something is done to a broadcaster, by which no companion is registered that there was. -/
theorem modifyBroadcaster (h : Outlasts catalog careful w w') (b : BroadcasterId)
    {f : Broadcaster → Broadcaster} (hf : ∀ id < w.companions.length, ∀ x,
      .companion id ∈ (f x).listeners → .companion id ∈ x.listeners) :
    Outlasts catalog careful w (w'.modifyBroadcaster b f) where
  typed := h.typed.kept (.of_targets rfl) rfl rfl
  types := h.types
  stays := h.stays
  heard id hid b' hmem := by
    refine h.heard id hid b' ?_
    rw [World.listeners, World.modifyBroadcaster, List.getElem?_modify] at hmem
    rw [World.listeners]
    cases hx : w'.broadcasters[b']? with
    | none =>
      rw [hx] at hmem
      exact hmem
    | some x =>
      rw [hx] at hmem
      change .companion id ∈ (if b = b' then f x else x).listeners at hmem
      split_ifs at hmem
      · exact hf id hid x hmem
      · exact hmem
  held := h.held
  spared := h.spared

theorem removeListener (ht : Typed catalog w) (b : BroadcasterId) (l : Listener) :
    Outlasts catalog careful w (w.removeListener b l) :=
  modifyBroadcaster (.refl ht) b fun _ _ _ hmem => List.mem_of_mem_filter hmem

theorem sweep (ht : Typed catalog w) (b : BroadcasterId) :
    Outlasts catalog careful w (w.sweep b) :=
  modifyBroadcaster (.refl ht) b fun _ _ _ hmem => List.mem_of_mem_filter hmem

/-- A listener is registered that is not one of the companions that there were. -/
theorem addListener (h : Outlasts catalog careful w w') (b : BroadcasterId) {l : Listener}
    (hne : ∀ id < w.companions.length, l ≠ .companion id) :
    Outlasts catalog careful w (w'.addListener b l) := by
  refine modifyBroadcaster h b fun id hid x hmem => ?_
  rcases List.mem_append.mp hmem with hmem | hmem
  · exact hmem
  · exact absurd (List.mem_singleton.mp hmem).symm (hne id hid)

/-- A companion stops to listen, and its fields are reset if it has a target. -/
theorem unbindCompanion (ht : Typed catalog w) (id : CompanionId) :
    Outlasts catalog careful w (w.unbindCompanion id).2 := by
  rw [World.unbindCompanion]
  cases hc : w.companions[id]? with
  | none => exact .refl ht
  | some c =>
    obtain ⟨⟨path, name, type, label, subject, conduct⟩, context, target⟩ := c
    cases target with
    | none =>
      cases conduct with
      | keep fields => exact removeListener ht _ _
      | record journal => exact .refl ht
    | some handle =>
      obtain ⟨A, _, -, hentry, hsuited⟩ := ht.suited hc rfl
      cases hentry
      have hfirst : Outlasts catalog careful w
          (w.removeListener context.broadcaster (.companion id)) := removeListener ht _ _
      exact hfirst.trans (steady hfirst.typed (resetFields_steady hsuited))

/-- A companion lets go of its target. If it is handled with care, the binder has let go of it. -/
theorem detach (h : Outlasts catalog careful w w') {other : CompanionId}
    (hne : ∀ id < w.companions.length, careful id → (id ∈ w.actives → id ∈ w'.actives) →
      other ≠ id) : Outlasts catalog careful w (w'.detach other) where
  typed := h.typed.detach other
  types := h.types
  stays id c hc := by
    obtain ⟨target, hc', htarget⟩ := h.stays id c hc
    rw [World.companions_detach]
    split_ifs with ho
    · rw [← ho, hc']
      exact ⟨none, rfl, .inr rfl⟩
    · exact ⟨target, hc', htarget⟩
  heard := h.heard
  held := h.held
  spared id hid hcareful hheld := by
    rw [World.companions_detach, if_neg (hne id hid hcareful hheld).symm]
    exact h.spared id hid hcareful hheld

theorem clearCompanion (h : Outlasts catalog careful w w') {other : CompanionId}
    (hne : ∀ id < w.companions.length, careful id → (id ∈ w.actives → id ∈ w'.actives) →
      other ≠ id) : Outlasts catalog careful w (w'.clearCompanion other) := by
  rw [World.clearCompanion]
  split
  · rename_i hc
    obtain ⟨A, _, -, hentry, -⟩ := h.typed.suited hc rfl
    cases hentry
  · exact h.detach hne

/-- A companion is released and lets go of its target. If it is handled with care, the binder has
let go of it before. -/
theorem retire (h : Outlasts catalog careful w w') {other : CompanionId}
    (hne : ∀ id < w.companions.length, careful id → (id ∈ w.actives → id ∈ w'.actives) →
      other ≠ id) :
    Outlasts catalog careful w ((w'.unbindCompanion other).2.clearCompanion other) := by
  have hreleased : Outlasts catalog careful w' (w'.unbindCompanion other).2 :=
    .unbindCompanion h.typed other
  refine (h.trans hreleased).clearCompanion fun id hid hcareful hheld => ?_
  exact hne id hid hcareful fun hmem => hreleased.held id (h.lt_length hid) (hheld hmem)

end Outlasts

/-! ## Computations that companions outlast -/

/-- What comes first has a result. -/
theorem Gives.run_bind {α β : Type} {short : Prop} {x : Step α} {f : α → Step β} {a : α}
    {post : β → World → Prop} (hx : x w = some (a, w')) (h : Gives short (f a) w' post) :
    Gives short (x >>= f) w post := by
  rw [Gives, Step.bind_eq hx]
  exact h

/-- Companions outlast a computation, however deep it calls user code. -/
def Sustains (catalog : Catalog) (careful : CompanionId → Prop) {α : Type} (x : Step α) : Prop :=
  ∀ w, Typed catalog w → Gives True x w fun _ w' => Outlasts catalog careful w w'

namespace Sustains

variable {α β : Type} {x : Step α} {f : α → Step β}

/-- What goes on in a world that companions have outlasted so far. -/
theorem on (hx : Sustains catalog careful x) (h : Outlasts catalog careful w w') :
    Gives True x w' fun _ w'' => Outlasts catalog careful w w'' :=
  (hx w' h.typed).mono fun _ _ h' => h.trans h'

theorem pure (a : α) : Sustains catalog careful (Pure.pure a : Step α) :=
  fun _ ht => Gives.pure (.refl ht)

theorem modify {f : World → World} (h : ∀ w, Typed catalog w → Outlasts catalog careful w (f w)) :
    Sustains catalog careful (modify f : Step PUnit) := fun w ht => Gives.modify (h w ht)

theorem steady {f : World → World} (h : ∀ w, Steady w (f w)) :
    Sustains catalog careful (MonadState.modifyGet fun w => (⟨⟩, f w) : Step PUnit) :=
  fun w ht => Gives.modify (.steady ht (h w))

theorem bind (hx : Sustains catalog careful x) (hf : ∀ a, Sustains catalog careful (f a)) :
    Sustains catalog careful (x >>= f) :=
  fun w ht => (hx w ht).bind fun a _ h => (hf a).on h

/-- The world may be looked at. -/
theorem read {f : World → Step β} (hf : ∀ w, Sustains catalog careful (f w)) :
    Sustains catalog careful (get >>= f) :=
  fun w ht => Gives.get_bind (hf w w ht)

theorem forM {f : α → Step PUnit} {items : List α}
    (hf : ∀ a ∈ items, Sustains catalog careful (f a)) :
    Sustains catalog careful (items.forM f) := fun w ht =>
  Gives.forM (fun _ w' => Outlasts catalog careful w w') (.refl ht)
    fun _ a _ hitems _ h => (hf a (hitems ▸ List.mem_append_right _ List.mem_cons_self)).on h

end Sustains

section Calls

variable {act : Act} (hact : ∀ v a, Sustains catalog careful (act v a))
include hact

theorem call_sustains (s : SlotId) (v : Value) (o : Observer) :
    Sustains catalog careful (o.call act s v) :=
  .bind (.steady fun w => .record w _) fun _ => .forM fun a _ => hact (some v) a

theorem setSlot_sustains (s : SlotId) (v : Value) : Sustains catalog careful (setSlot act s v) :=
  .bind (.steady fun w => .store w s v) fun _ => .read fun _ => .forM fun o _ =>
    call_sustains hact s v o

/-- **Telling any companion**, and what its slots call. -/
theorem updateTheme_sustains (id : CompanionId) :
    Sustains catalog careful (updateTheme act id) := by
  intro w ht
  cases htarget : w.targetOf? id with
  | none =>
    refine Gives.of_eq (updateTheme_of_detached fun c hc => ?_) (.refl ht)
    rw [World.targetOf?, hc] at htarget
    exact htarget
  | some handle =>
    obtain ⟨c, hc, hhandle⟩ := Option.bind_eq_some_iff.mp htarget
    obtain ⟨A, name, hA, hentry, hsuited⟩ := ht.suited hc hhandle
    obtain ⟨-, hrefreshed⟩ := updateFields_refreshed w handle c.context.manager A.bound hsuited
      (Catalog.bound_names hA)
    rw [Gives, updateTheme_eq hc hhandle (congrArg CompanionEntry.conduct hentry)]
    exact Sustains.on (.forM fun p _ => setSlot_sustains hact p.slot p.value)
      (.steady ht hrefreshed.steady)

theorem apply_sustains (l : Listener) : Sustains catalog careful (l.apply act) := by
  cases l with
  | companion id => exact updateTheme_sustains hact id
  | script script =>
    refine .read fun w => ?_
    cases w.scripts[script]? with
    | none => exact .pure _
    | some s => exact .bind (.steady fun w => .record w _) fun _ => .forM fun a _ => hact none a

/-- **A notification of any broadcaster.** -/
theorem notify_sustains (b : BroadcasterId) (skin : String) :
    Sustains catalog careful (notify act b skin) := by
  refine .read fun _ => .read fun _ => .bind (.modify fun w ht => ?_) fun _ =>
    .bind (.steady fun w => .tell w _ _) fun _ => .bind (.forM fun l _ => apply_sustains hact l)
      fun _ => .bind (.steady fun w => ?_) fun _ => .pure _
  · have hswept : Outlasts catalog careful w (w.sweep b) := .sweep ht b
    exact hswept.trans (.steady hswept.typed (.pin _ _))
  · exact (Steady.pin w _).trans (.modifyBroadcaster fun _ _ => rfl)

theorem activate_sustains (m : ManagerId) (name : String) :
    Sustains catalog careful (activate act m name) := by
  refine .read fun w => ?_
  dsimp only
  cases (w.manager m).skin? name with
  | none => exact .pure _
  | some skin =>
    exact .bind (.steady fun w => .modifyManager fun _ => ⟨rfl, rfl⟩) fun _ =>
      .bind (.steady fun w => .tell w _ _) fun _ =>
        .bind (notify_sustains hact _ _) fun _ => .pure _

/-! ## Making companions -/

omit hact in
theorem World.broadcasters_allocate (w : World) (handle : Handle) (fields : List BoundField) :
    (w.allocate handle fields).broadcasters = w.broadcasters := by
  induction fields generalizing w with
  | nil => rfl
  | cons field rest ih =>
    rw [World.allocate]
    cases field.shape <;> exact ih _

/-- A companion is new: it was not there, and nobody has given it to the binder. -/
def Newcomer (w w' : World) (id : CompanionId) : Prop :=
  w.companions.length ≤ id ∧ id < w'.companions.length ∧ id ∉ w'.actives

omit hact in
/-- A companion is made, and its slots. -/
theorem Outlasts.allocated (ht : Typed catalog w) {A : TypeDefinition} {name : String}
    {handle : Handle} {context : Context}
    (hattached : w.Attached catalog ⟨.keeper A name, context, some handle⟩ handle) :
    let w₁ := (w.addCompanion ⟨.keeper A name, context, some handle⟩).2.allocate handle A.bound
    Outlasts catalog careful w w₁ ∧ Newcomer w w₁ w.companions.length := by
  set w₁ := (w.addCompanion ⟨.keeper A name, context, some handle⟩).2 with hw₁
  have ht₁ : Typed catalog w₁ := ht.addCompanion fun h hh => Option.some.inj hh ▸ hattached
  have hadded : Outlasts catalog careful w w₁ :=
    .of_same ht₁ (fun _ _ hT => hT) (fun _ hid => List.getElem?_append_left hid)
      (fun _ _ _ hmem => hmem) fun _ _ hmem => hmem
  have hc : w₁.companions[w.companions.length]? = some ⟨.keeper A name, context, some handle⟩ :=
    List.getElem?_concat_length
  obtain ⟨hsuited, hnames⟩ := ht₁.keeper hc
  obtain ⟨hspares, hbinder, hcompanions⟩ := Spares.allocate hsuited hnames
  have hallocated : Outlasts catalog careful w₁ (w₁.allocate handle A.bound) :=
    .apart ht₁ hspares.keepsSorts hbinder hcompanions fun b => by
      rw [World.listeners, World.listeners, World.broadcasters_allocate]
  refine ⟨hadded.trans hallocated, le_rfl, ?_, fun hmem => ?_⟩
  · rw [hcompanions]
    exact (List.getElem?_eq_some_iff.mp hc).1
  · rw [World.actives, hbinder] at hmem
    exact Nat.lt_irrefl _ (ht.made _ hmem)

/-- **Making a companion** where its type is embedded. -/
theorem construct_outlasts (ht : Typed catalog w) {A : TypeDefinition} {name : String}
    {handle : Handle} {context : Context}
    (hattached : w.Attached catalog ⟨.keeper A name, context, some handle⟩ handle)
    (htype : handle.type = A.info.declared) :
    Gives True (construct act (.keeper A name) handle context) w fun made w' =>
      Outlasts catalog careful w w' ∧ ∀ id, made = .ok id → Newcomer w w' id := by
  have hexpect : handle.expect (CompanionEntry.keeper A name).target = .ok handle := if_pos htype
  obtain ⟨hallocated, hle, hlt, hfree⟩ :=
    @Outlasts.allocated catalog careful w ht A name handle context hattached
  have hattach : Gives True (attach act (.keeper A name) A.bound handle context) w
      fun id w' => Outlasts catalog careful w w' ∧ Newcomer w w' id := by
    refine Gives.get_bind (Gives.run_bind rfl ?_)
    refine (updateTheme_sustains hact w.companions.length _ hallocated.typed).bind fun _ w₁ h₁ => ?_
    refine Gives.modify_bind (Gives.pure ⟨(hallocated.trans h₁).addListener _ ?_, hle, ?_, ?_⟩)
    · exact fun id hid heq => Nat.ne_of_lt hid (Listener.companion.inj heq).symm
    · exact h₁.lt_length hlt
    · exact fun hmem => hfree (h₁.held _ hlt hmem)
  rw [construct, hexpect]
  refine hattach.bind fun id w' hmade => ?_
  exact Gives.pure ⟨hmade.1, fun _ heq => Except.ok.inj heq ▸ hmade.2⟩

/-! ## Calls of the binder -/

omit hact

theorem Outlasts.tell (h : Outlasts catalog careful w w') (level : Log.Level) (message : String) :
    Outlasts catalog careful w (w'.tell level message) :=
  h.trans (.steady h.typed (.tell w' level message))

/-- What the binder finds is resolved, and it is told. -/
theorem Outlasts.resolving (ht : Typed catalog w) (info : TypeInfo) :
    Outlasts catalog careful w (w.resolving info) := by
  obtain ⟨trace, hresolving⟩ := w.resolving_eq info
  have hfound : Outlasts catalog careful w { w with
      binder := { w.binder with resolver := (w.binder.resolver.resolve info).resolver } } :=
    .rebound ht (ht.finds.resolve info).resolver (.refl _)
  rw [hresolving]
  exact hfound.trans (.aside hfound.typed rfl rfl rfl rfl)

/-- A companion is released and lets go of its target; if that fails, it is told. -/
theorem releaseOrTell_outlasts (h : Outlasts catalog careful w w') {other : CompanionId}
    (hne : ∀ id < w.companions.length, careful id → (id ∈ w.actives → id ∈ w'.actives) → other ≠ id)
    (complaint : BindingError → Binder.Notice) :
    Gives True (Binder.releaseOrTell World.craft other complaint : Step Unit) w' fun _ w'' =>
      Outlasts catalog careful w w'' := by
  have hretired := h.retire hne
  have hrelease : (Binder.release World.craft other : Step (Except BindingError Unit)) w' =
      some ((w'.unbindCompanion other).1, (w'.unbindCompanion other).2.clearCompanion other) := rfl
  refine Gives.run_bind hrelease ?_
  cases (w'.unbindCompanion other).1 with
  | ok _ => exact Gives.pure hretired
  | error e => exact Gives.of_eq rfl (hretired.tell _ _)

/-- Whom the binder held for a target, it has let go of when the target has been taken out. -/
theorem Typed.let_go (ht : Typed catalog w) {t : TargetId} {other : CompanionId}
    (h : w.binder.active.lookup t = some other) {id : CompanionId}
    (hheld : id ∈ w.actives → id ∈ (w.without t).actives) : other ≠ id := by
  rintro rfl
  exact ht.lost h (hheld (List.mem_map.mpr ⟨_, mem_of_lookup h, rfl⟩))

theorem releaseActive_outlasts (ht : Typed catalog w) (info : TypeInfo) (t : TargetId) :
    Gives True (Binder.releaseActive World.craft info t : Step Unit) w fun _ w' =>
      Outlasts catalog careful w w' := by
  have hremove : (Binder.remove t : Step (Option CompanionId)) w =
      some (w.binder.active.lookup t, w.without t) := rfl
  have hwithout : Outlasts catalog careful w (w.without t) := .without ht t
  refine Gives.run_bind hremove ?_
  cases hlookup : w.binder.active.lookup t with
  | none => exact Gives.pure hwithout
  | some other =>
    refine Gives.run_bind rfl (Gives.run_bind rfl ?_)
    exact releaseOrTell_outlasts (hwithout.tell _ _) (fun _ _ _ hheld => ht.let_go hlookup hheld) _

/-- A new companion is given to the binder, which lets go of the one that it held for the target. -/
theorem install_outlasts (h : Outlasts catalog careful w w') (info : TypeInfo) (t : TargetId)
    {other : CompanionId} (hnew : Newcomer w w' other) :
    Gives True (Binder.install World.craft info t other : Step Unit) w' fun _ w'' =>
      Outlasts catalog careful w w'' := by
  obtain ⟨hle, hlt, hfree⟩ := hnew
  set w₁ : World := { w' with
    binder := { w'.binder with active := (t, other) :: (w'.without t).binder.active } } with hw₁
  have hinsert : (Binder.insert t other : Step (Option CompanionId)) w' =
      some (w'.binder.active.lookup t, w₁) := rfl
  have hactives : w₁.actives = other :: (w'.without t).actives := rfl
  have hwithout : Outlasts catalog careful w' (w'.without t) := .without h.typed t
  have hnot : other ∉ (w'.without t).actives := fun hmem => hfree (hwithout.held other hlt hmem)
  have hsame : ∀ id < w.companions.length, id ∈ w₁.actives → id ∈ (w'.without t).actives := by
    intro id hid hmem
    exact (List.mem_cons.mp (hactives ▸ hmem)).resolve_left (Nat.ne_of_lt (hid.trans_le hle))
  have hinserted : Outlasts catalog careful w w₁ := by
    have h' := h.trans hwithout
    have hmade : ∀ id ∈ w₁.actives, id < w'.companions.length := fun id hmem =>
      (List.mem_cons.mp hmem).elim (fun heq => heq ▸ hlt) (h'.typed.made id)
    exact ⟨h'.typed.rebound h'.typed.finds (List.nodup_cons.mpr ⟨hnot, h'.typed.once⟩) hmade,
      h'.types, h'.stays, h'.heard, fun id hid hmem => h'.held id hid (hsame id hid hmem),
      fun id hid hcareful hheld => h'.spared id hid hcareful fun hmem => hsame id hid (hheld hmem)⟩
  refine Gives.run_bind hinsert ?_
  cases hlookup : w'.binder.active.lookup t with
  | none => exact Gives.pure hinserted
  | some raced =>
    refine Gives.run_bind rfl (releaseOrTell_outlasts (hinserted.tell _ _) ?_ _)
    exact fun id hid _ hheld => h.typed.let_go hlookup fun hmem =>
      hsame id hid (hheld (h.held id hid hmem))

include hact in
/-- **Binding any target.** -/
theorem bind_sustains (t : TargetId) (context : Context) :
    Sustains catalog careful (Live.bind act t context) := by
  intro w ht
  cases hT : w.typeOf? t with
  | none => exact Gives.of_eq (bind_of_absent hT context act) (.refl ht)
  | some T =>
    have hresolved : Outlasts catalog careful w (w.resolving T.info) := .resolving ht T.info
    rw [Gives, bind_eq_binder hT, Binder.bind, Step.bind_eq (prepare_run w T.info t)]
    cases hprepared : w.binder.prepared T.info t with
    | error e => exact hresolved
    | ok found =>
      obtain ⟨entry, handle⟩ := found
      obtain ⟨hresult, hup⟩ := Binder.of_prepared hprepared
      obtain ⟨A, name, hembeds, rfl, rfl, htype⟩ :=
        ((ht.finds.resolve T.info).result entry hresult).embeds (ht.types t T hT) hup
      have hreleased : Gives True
          (Binder.releaseActive World.craft T.info handle.target : Step Unit) (w.resolving T.info)
          fun _ w₁ => Outlasts catalog careful (w.resolving T.info) w₁ :=
        releaseActive_outlasts hresolved.typed T.info handle.target
      refine hreleased.bind fun _ w₁ h => ?_
      have h₁ := hresolved.trans h
      have hattached : w₁.Attached catalog ⟨.keeper A name, context, some handle⟩ handle :=
        ⟨T, A, name, h₁.types _ _ hT, hembeds, rfl, htype⟩
      refine (construct_outlasts hact h₁.typed hattached htype).bind fun made w₂ h₂ => ?_
      obtain ⟨h₂, hmade⟩ := h₂
      cases made with
      | error e => exact Gives.pure (h₁.trans h₂)
      | ok other =>
        refine (install_outlasts h₂ T.info handle.target (hmade other rfl)).bind fun _ w₃ h₃ => ?_
        exact Gives.run_bind rfl (Gives.pure ((h₁.trans h₃).tell _ _))

theorem Outlasts.unbind (ht : Typed catalog w) (t : TargetId) :
    Outlasts catalog careful w (w.unbind t).2 := by
  cases hlookup : w.binder.active.lookup t with
  | none =>
    obtain ⟨level, message, hunbind⟩ := unbind_of_unbound hlookup
    rw [hunbind]
    exact (Outlasts.refl ht).tell level message
  | some other =>
    have hwithout : Outlasts catalog careful w (w.without t) := .without ht t
    rw [unbind_of_bound hlookup]
    exact hwithout.retire fun _ _ _ hheld => ht.let_go hlookup hheld

/-! ## Moves -/

theorem Outlasts.create (ht : Typed catalog w) {T : TypeDefinition} (hT : catalog.has T) :
    Outlasts catalog careful w (w.addTarget T).2 := by
  obtain ⟨n, c, hworld, hfits, -⟩ := w.addTarget_eq T
  rw [hworld]
  exact .of_same (ht.grown hT hfits n) (fun _ _ => World.typeOf?_grown) (fun _ _ => rfl)
    (fun _ _ _ hmem => hmem) fun _ _ hmem => hmem

theorem Outlasts.register (ht : Typed catalog w) {T : TypeDefinition} (hT : catalog.has T)
    (name : String) : Outlasts catalog careful w (w.register (.keeper T name)) := by
  have hregistered : Outlasts catalog careful w
      { w with binder := w.binder.register (.keeper T name) } :=
    .rebound ht (ht.finds.insert ⟨T, name, hT, rfl⟩) (.refl _)
  rw [World.register]
  cases w.binder.resolver.registry.warning? (.keeper T name) with
  | none => exact hregistered
  | some message => exact hregistered.tell .warn message

theorem Outlasts.addSkin (ht : Typed catalog w) (m : ManagerId) (skin : Skin) :
    Outlasts catalog careful w (w.addSkin m skin) := by
  rw [World.addSkin]
  split_ifs <;> exact .aside ht rfl rfl rfl rfl

/-- A slot is put into a field that holds one. -/
theorem Outlasts.place (ht : Typed catalog w) (part : Handle) (field : String) (slot : SlotId) :
    Outlasts catalog careful w (w.place part field slot) := by
  rw [World.place]
  cases hslot : w.slotAt? part field with
  | none => exact .refl ht
  | some s =>
    have hreassigned := Spares.reassign (World.slotAt?_eq_some.mp hslot) slot
    exact .apart ht hreassigned.keepsSorts rfl rfl fun _ => rfl

theorem Outlasts.renew (ht : Typed catalog w) (part : Handle) (field : String) :
    Outlasts catalog careful w (w.renew part field) := by
  rw [World.renew]
  cases hslot : w.slotAt? part field with
  | none => exact .refl ht
  | some s =>
    have hgiven := Spares.give (World.slotAt?_eq_some.mp hslot)
    exact .apart ht hgiven.keepsSorts rfl rfl fun _ => rfl

theorem Outlasts.listen (ht : Typed catalog w) (b : BroadcasterId) (name : String) :
    Outlasts catalog careful w (w.listen b name) := by
  rw [World.listen]
  cases w.scriptOf? name with
  | none => exact .refl ht
  | some script => exact (Outlasts.refl ht).addListener b fun _ _ => nofun

theorem Outlasts.ignore (ht : Typed catalog w) (b : BroadcasterId) (name : String) :
    Outlasts catalog careful w (w.ignore b name) := by
  rw [World.ignore]
  cases w.scriptOf? name with
  | none => exact .refl ht
  | some script =>
    have hremoved : Outlasts catalog careful w (w.removeListener b (.script script)) :=
      .removeListener ht _ _
    exact hremoved.trans (.steady hremoved.typed (.record _ _))

include hact

theorem command_sustains {c : Command} (hc : c.Of (.free catalog)) :
    Sustains catalog careful (c.run act) := by
  cases c with
  | create T => exact .modify fun w ht => .create ht hc
  | register T name => exact .modify fun w ht => .register ht hc name
  | addSkin m skin => exact .modify fun w ht => .addSkin ht m skin
  | activate m skin => exact .bind (activate_sustains hact m skin) fun _ => .pure _
  | bind t context => exact .bind (bind_sustains hact t context) fun _ => .pure _
  | unbind t => exact .modify fun w ht => .unbind ht t
  | observe s o => exact .modify fun w ht => .aside ht rfl rfl rfl rfl
  | write t path content => exact .steady fun w => write_steady w t path content
  | renew part field => exact .modify fun w ht => .renew ht part field
  | set s v => exact setSlot_sustains hact s v

/-- **Companions outlast every move of a program**, with all that it calls. -/
theorem move_sustains {m : Move} (hm : m.Of catalog) : Sustains catalog careful (m.run act) := by
  cases m with
  | deed d =>
    cases d with
    | command c => exact command_sustains hact hm
    | notify b skin => exact .bind (notify_sustains hact b skin) fun _ => .pure _
    | resolve T =>
      refine .modify fun w ht => ?_
      rw [resolve_eq]
      exact .resolving ht T.info
    | record o => exact .steady fun w => .record w o
  | place part field slot => exact .modify fun w ht => .place ht part field slot
  | hold script => exact .modify fun w ht => .aside ht rfl rfl rfl rfl
  | listen b name => exact .modify fun w ht => .listen ht b name
  | ignore b name => exact .modify fun w ht => .ignore ht b name
  | drop name => exact .modify fun w ht => .aside ht rfl rfl rfl rfl

end Calls
end Live
end Theming
