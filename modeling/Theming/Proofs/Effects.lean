/-
# What turns do to targets and slots

Each turn leads from a world with bonds to another one (`errand_leads`). Slots are set as its effect
says. A target that is not bound is as its owner has made it, whoever else is bound or told, since
companions write to the fields of their own target only. What is still to be published for it only
becomes less: companions put values aside for bound targets only.

By induction this holds of runs (`Runs.leads`, `Runs.free`).
-/

import Theming.Proofs.Moments

namespace Theming
namespace Live

variable {catalog : Catalog} {w w' w'' : World}

/-! ## What a turn does to targets and slots -/

namespace Effect

/-- What the owner makes of a target. -/
def rewrites (t : TargetId) : Effect → Content → Content
  | wrote t' path change, c => if t = t' then c.modifyAt change path else c
  | _, c => c

/-- What becomes of the value and the version of a slot. -/
def resets (s : SlotId) : Effect → Option Value × Nat → Option Value × Nat
  | set s' v, r => if s = s' then (some v, r.2 + 1) else r
  | published _ p, r => if s = p.slot then (some p.value, r.2 + 1) else r
  | _, r => r

/-- Whether a target has been bound. -/
def binds (t : TargetId) : Effect → Bool
  | bound t' (.ok _) => t' == t
  | _ => false

end Effect

/-- A turn leads from a world with bonds to another one; slots are reset as its effect says, and a
target that is not bound, and does not become bound, is as its owner has made it. -/
structure Leads (catalog : Catalog) (w : World) (effect : Effect) (w' : World) : Prop where
  bonds : Bonds catalog w'
  types : ∀ t T, w.typeOf? t = some T → w'.typeOf? t = some T
  slots : w.slots.length ≤ w'.slots.length
  readings : ∀ s < w.slots.length, w'.reading s = (w.reading s).map (effect.resets s)
  free : ∀ t T, w.typeOf? t = some T → w.binder.active.lookup t = none → effect.binds t = false →
    w'.binder.active.lookup t = none ∧
      w'.content? t [] = (w.content? t []).map (effect.rewrites t)

namespace Leads

variable (hb : Bonds catalog w)

/-- What concerns no target that is free does nothing to those that are. -/
theorem of_spares (hb' : Bonds catalog w') {effect : Effect}
    (hresets : ∀ s r, effect.resets s r = r) (hrewrites : ∀ t c, effect.rewrites t c = c)
    (h : ∀ t T, w.typeOf? t = some T → w.binder.active.lookup t = none →
      effect.binds t = false → ∃ t', t ≠ t' ∧ Spares t' w w') {t' : TargetId}
    (hspares : Spares t' w w') : Leads catalog w effect w' where
  bonds := hb'
  types t T hT := (hspares.types t).trans hT
  slots := hspares.slots
  readings s hs := by
    have hid : effect.resets s = id := funext (hresets s)
    rw [hid, Option.map_id]
    exact hspares.readings s hs
  free t T hT hfree hbinds := by
    obtain ⟨t', ht, hspares'⟩ := h t T hT hfree hbinds
    have hid : effect.rewrites t = id := funext (hrewrites t)
    rw [hid, Option.map_id]
    exact ⟨(hspares'.bindings t ht).trans hfree, hspares'.contents t ht []⟩

/-- What concerns no target at all. -/
theorem silent (hb' : Bonds catalog w') (h : ∀ t, Spares t w w') : Leads catalog w .nothing w' :=
  of_spares hb' (fun _ _ => rfl) (fun _ _ => rfl)
    (fun t _ _ _ _ => ⟨t + 1, (Nat.succ_ne_self t).symm, h (t + 1)⟩) (h 0)

include hb in
/-- What changes no target, slot, companion or binding. -/
theorem of_eq (htargets : w'.targets = w.targets) (hslots : w'.slots = w.slots)
    (hbinder : w'.binder = w.binder) (hcompanions : w'.companions = w.companions) :
    Leads catalog w .nothing w' := by
  have hactive : w'.binder.active = w.binder.active := by rw [hbinder]
  have hspares : ∀ t, Spares t w w' := fun t => .of_eq htargets hslots hactive
  have hfinds : w'.binder.resolver.Finds catalog.Keeps := by
    rw [hbinder]
    exact hb.finds
  exact silent (hb.spared (hspares 0) hfinds hactive hcompanions) hspares

include hb in
theorem store (s : SlotId) (v : Value) {effect : Effect}
    (hresets : ∀ s' r, effect.resets s' r = if s' = s then (some v, r.2 + 1) else r)
    (hrewrites : ∀ t c, effect.rewrites t c = c) : Leads catalog w effect (w.store s v) where
  bonds := hb.steady (.store w s v)
  types _ _ hT := hT
  slots := by
    rw [World.store, List.length_modify]
  readings s' _ := by
    rw [World.reading, World.slots_store, World.reading]
    have hreset : effect.resets s' = fun r => if s' = s then (some v, r.2 + 1) else r :=
      funext (hresets s')
    rw [hreset]
    by_cases hs : s' = s
    · subst hs
      simp [Function.comp_def]
    · simp [hs, Function.comp_def]
  free t _ _ hfree _ := by
    have hid : effect.rewrites t = id := funext (hrewrites t)
    rw [hid, Option.map_id]
    exact ⟨hfree, rfl⟩

/-- What the owner writes leads to what the effect says, if it keeps the sorts of fields. -/
theorem wrote (hb' : Bonds catalog w') {t' : TargetId} (hspares : Spares t' w w')
    (hactive : w'.binder.active = w.binder.active) {path : List String}
    {change : Content → Content}
    (htargets : w'.targets = (w.modifyContent t' path change).targets) :
    Leads catalog w (.wrote t' path change) w' where
  bonds := hb'
  types t T hT := (hspares.types t).trans hT
  slots := hspares.slots
  readings s hs := by
    have hid : (Effect.wrote t' path change).resets s = id := rfl
    rw [hid, Option.map_id]
    exact hspares.readings s hs
  free t _ _ hfree _ := by
    refine ⟨hactive ▸ hfree, ?_⟩
    have hcontent : w'.content? t [] = (w.modifyContent t' path change).content? t [] := by
      rw [World.content?, htargets]
      rfl
    rw [hcontent, World.content?_modifyContent]
    by_cases ht : t = t'
    · subst ht
      rw [if_pos rfl, World.content?]
      have hrewrites : (Effect.wrote t path change).rewrites t = Content.modifyAt change path :=
        funext fun c => if_pos rfl
      rw [hrewrites]
      cases w.targets[t]? <;> rfl
    · rw [if_neg ht]
      have hrewrites : (Effect.wrote t' path change).rewrites t = id :=
        funext fun c => if_neg ht
      rw [hrewrites, Option.map_id, id]

end Leads

/-! ## Every turn leads somewhere -/

variable (hb : Bonds catalog w)
include hb

theorem Leads.create {T : TypeDefinition} (hT : catalog.has T) :
    Leads catalog w .nothing (w.addTarget T).2 := by
  obtain ⟨n, c, hworld, hfits, -⟩ := w.addTarget_eq T
  rw [hworld]
  refine ⟨hb.grown hT hfits n, fun _ _ => World.typeOf?_grown, ?_, fun s hs => ?_,
    fun t T' hT' hfree _ => ⟨hfree, ?_⟩⟩
  · rw [World.slots_length_grown]
    exact Nat.le_add_right _ _
  · rw [World.reading, World.grown, List.getElem?_append_left hs]
    exact Option.map_id'.symm
  · rw [World.content?_grown, if_neg (World.ne_length_of_typeOf? hT')]
    exact Option.map_id'.symm

/-- A bind comes to what its turn comes to, whatever user code may do. -/
theorem Bonds.bind_turn (t : TargetId) (context : Context) :
    ∃ r w', (∀ act, Live.bind act t context w = some (r, w')) ∧
      (Command.bind t context).turn w = { effect := .bound t r, world := w' } ∧
      ((w.typeOf? t = none ∧ w' = w) ∨ Joins catalog t w r w') := by
  obtain ⟨r, w', hrun, hcomes⟩ : ∃ r w', (∀ act, Live.bind act t context w = some (r, w')) ∧
      ((w.typeOf? t = none ∧ w' = w) ∨ Joins catalog t w r w') := by
    cases hT : w.typeOf? t with
    | none => exact ⟨.ok (), w, bind_of_absent hT context, .inl ⟨rfl, rfl⟩⟩
    | some T =>
      obtain ⟨r, w', hrun, hjoins⟩ := hb.bind hT context
      exact ⟨r, w', hrun, .inr hjoins⟩
  refine ⟨r, w', hrun, ?_, hcomes⟩
  rw [Command.turn, hrun]

theorem Leads.bind (t : TargetId) (context : Context) :
    Leads catalog w ((Command.bind t context).turn w).effect
      ((Command.bind t context).turn w).world := by
  obtain ⟨r, w', -, hturn, ⟨-, rfl⟩ | hjoins⟩ := hb.bind_turn t context
  · rw [hturn]
    exact .of_spares hb (fun _ _ => rfl) (fun _ _ => rfl)
      (fun t' _ _ _ _ => ⟨t' + 1, (Nat.succ_ne_self t').symm, .refl _ w'⟩) (.refl 0 w')
  · rw [hturn]
    refine .of_spares hjoins.bonds (fun _ _ => rfl) (fun _ _ => rfl) (fun t' T' _ _ hbinds => ?_)
      hjoins.spares
    by_cases ht : t' = t
    · subst ht
      cases r with
      | error e =>
        obtain ⟨htargets, hslots, hactive⟩ := hjoins.failed e rfl
        exact ⟨t' + 1, (Nat.succ_ne_self t').symm, .of_eq htargets hslots hactive⟩
      | ok _ => simp [Effect.binds] at hbinds
    · exact ⟨t, ht, hjoins.spares⟩

theorem Leads.unbind (t : TargetId) : Leads catalog w .nothing (w.unbind t).2 := by
  obtain ⟨-, hparts⟩ := hb.unbind t
  refine .of_spares hparts.bonds (fun _ _ => rfl) (fun _ _ => rfl) (fun t' T' _ hfree _ => ?_)
    hparts.spares
  by_cases ht : t' = t
  · subst ht
    obtain ⟨htargets, hactive⟩ := hparts.idle hfree
    exact ⟨t' + 1, (Nat.succ_ne_self t').symm, .of_eq htargets hparts.slots hactive⟩
  · exact ⟨t, ht, hparts.spares⟩

/-- The owner puts a slot into a field that holds one. -/
theorem Leads.seated {part : Handle} {field : String} {slot : SlotId}
    (hnone : w.slotAt? part field = none → w' = w)
    (hsome : ∀ s, w.slotAt? part field = some s → Spares part.target w w' ∧
      w'.binder = w.binder ∧ w'.companions = w.companions ∧
      w'.targets = (w.assign part field (.reactive slot)).targets) :
    Leads catalog w (Upshot.seated w part field slot w').effect
      (Upshot.seated w part field slot w').world := by
  rw [Upshot.seated]
  cases hslot : w.slotAt? part field with
  | none =>
    obtain rfl := hnone hslot
    exact .of_eq hb rfl rfl rfl rfl
  | some s =>
    obtain ⟨hspares, hbinder, hcompanions, htargets⟩ := hsome s hslot
    have hactive : w'.binder.active = w.binder.active := by rw [hbinder]
    have hfinds : w'.binder.resolver.Finds catalog.Keeps := by
      rw [hbinder]
      exact hb.finds
    exact .wrote (hb.spared hspares hfinds hactive hcompanions) hspares hactive htargets

/-- A command that keeps to the types of the program leads to what its turn comes to. -/
theorem command_leads {c : Command} (hc : c.Of (.free catalog)) :
    Leads catalog w (c.turn w).effect (c.turn w).world := by
  cases c with
  | create T => exact .create hb hc
  | register T name =>
    exact .silent (hb.register (t := 0) hc name).1 fun t => (hb.register hc name).2
  | addSkin m skin =>
    rw [Command.turn, World.addSkin]
    split_ifs <;> exact .of_eq hb rfl rfl rfl rfl
  | activate m name =>
    rw [Command.turn]
    cases (w.manager m).skin? name <;> exact .of_eq hb rfl rfl rfl rfl
  | bind t context => exact .bind hb t context
  | unbind t => exact .unbind hb t
  | observe s o =>
    have hspares : ∀ t, Spares t w (w.observe s o) := fun t => .observe t w s o
    exact .silent (hb.spared (hspares 0) hb.finds rfl rfl) hspares
  | write t path content =>
    have hsteady := write_steady w t path content
    have hspares : Spares t w (w.modifyContent t path content.overwrite) :=
      .of_steady hsteady rfl fun t' ht p => by rw [World.content?_modifyContent, if_neg ht]
    exact .wrote (hb.steady hsteady) hspares rfl rfl
  | renew part field =>
    refine .seated hb (fun hs => by rw [World.renew, hs]) fun s hs => ?_
    rw [World.renew, hs]
    exact ⟨.give (World.slotAt?_eq_some.mp hs), rfl, rfl, rfl⟩
  | set s v => exact .store hb s v (fun _ _ => rfl) fun _ _ => rfl

/-- A move that keeps to the types of the program leads to what its turn comes to. -/
theorem move_leads {m : Move} (hm : m.Of catalog) :
    Leads catalog w (m.turn w).effect (m.turn w).world := by
  cases m with
  | deed d =>
    cases d with
    | command c => exact command_leads hb hm
    | notify b skin => exact .of_eq hb rfl rfl rfl rfl
    | resolve T =>
      rw [Move.turn, resolve_eq]
      exact .silent (hb.resolving (t := 0) T.info).1 fun t => (hb.resolving T.info).2
    | record o => exact .of_eq hb rfl rfl rfl rfl
  | place part field slot =>
    refine .seated hb (fun hs => by rw [World.place, hs]) fun s hs => ?_
    rw [World.place, hs]
    exact ⟨.reassign (World.slotAt?_eq_some.mp hs) slot, rfl, rfl, rfl⟩
  | hold script => exact .of_eq hb rfl rfl rfl rfl
  | listen b name =>
    rw [Move.turn, World.listen]
    cases w.scriptOf? name <;> exact .of_eq hb rfl rfl rfl rfl
  | ignore b name =>
    rw [Move.turn, World.ignore]
    cases w.scriptOf? name <;> exact .of_eq hb rfl rfl rfl rfl
  | drop name => exact .of_eq hb rfl rfl rfl rfl

omit hb in
/-- A companion that has let go of its target does nothing when it is told. -/
theorem Listener.turn_of_detached {id : CompanionId}
    (h : ∀ c, w.companions[id]? = some c → c.target = none) :
    (Listener.companion id).turn w = .silent w := by
  rw [turn]
  cases hc : w.companions[id]? with
  | none => rfl
  | some c =>
    obtain ⟨⟨path, name, target, label, subject, conduct⟩, context, handle⟩ := c
    obtain rfl : handle = none := h _ hc
    cases conduct <;> rfl

omit hb in
/-- A companion that keeps fields brings them up to date and puts values aside for its target. -/
theorem Listener.turn_of_keeper {id : CompanionId} {A : TypeDefinition} {name : String}
    {context : Context} {handle : Handle}
    (hc : w.companions[id]? = some ⟨.keeper A name, context, some handle⟩) :
    (Listener.companion id).turn w =
      { effect := .updated handle.target
        world := (w.updateFields handle context.manager A.bound).2
        errands := (w.updateFields handle context.manager A.bound).1.map
          (.publish handle.target) } := by
  rw [turn, hc]
  rfl

/-- A companion has let go of its target, or it is the active one and keeps fields that are
there. -/
theorem Bonds.told (id : CompanionId) :
    (∀ c, w.companions[id]? = some c → c.target = none) ∨
    ∃ (A : TypeDefinition) (name : String) (context : Context) (handle : Handle),
      w.companions[id]? = some ⟨.keeper A name, context, some handle⟩ ∧
      (handle.target, id) ∈ w.binder.active ∧ w.Suited handle A.bound ∧
      (A.bound.map fun f => f.name).Nodup := by
  by_cases h : ∃ c handle, w.companions[id]? = some c ∧ c.target = some handle
  · right
    obtain ⟨⟨entry, context, target⟩, handle, hc, rfl⟩ := h
    obtain ⟨hattached, hactive⟩ := hb.attached id _ handle hc rfl
    obtain ⟨A, name, hA, rfl, hsuited⟩ := hb.suited hattached
    exact ⟨A, name, context, handle, hc, hactive, hsuited, Catalog.bound_names hA⟩
  · left
    intro c hc
    cases htarget : c.target with
    | none => rfl
    | some handle => exact absurd ⟨c, handle, hc, htarget⟩ h

/-- **Every turn leads somewhere.** -/
theorem errand_leads (moves : List Move) {errand : Errand} (herrand : errand.Of catalog) :
    Leads catalog w (errand.turn moves w).effect (errand.turn moves w).world := by
  cases errand with
  | move m => exact move_leads hb herrand
  | hear v a => exact .of_eq hb rfl rfl rfl rfl
  | call s v o => exact .of_eq hb rfl rfl rfl rfl
  | publish t p => exact .store hb p.slot p.value (fun _ _ => rfl) fun _ _ => rfl
  | tell l =>
    cases l with
    | companion id =>
      change Leads catalog w ((Listener.companion id).turn w).effect
        ((Listener.companion id).turn w).world
      rcases hb.told id with hdetached | ⟨A, name, context, handle, hc, hactive, hsuited, hnames⟩
      · rw [Listener.turn_of_detached hdetached]
        exact .of_eq hb rfl rfl rfl rfl
      · rw [Listener.turn_of_keeper hc]
        obtain ⟨-, hrefreshed⟩ :=
          updateFields_refreshed w handle context.manager A.bound hsuited hnames
        have hspares := Spares.of_refreshed hrefreshed
        refine .of_spares (hb.steady hrefreshed.steady) (fun _ _ => rfl) (fun _ _ => rfl)
          (fun t T _ hfree _ => ⟨handle.target, (hb.ne_of_free hactive hfree).symm, hspares⟩)
          hspares
    | script id =>
      change Leads catalog w ((Listener.script id).turn w).effect
        ((Listener.script id).turn w).world
      rw [Listener.turn]
      cases w.scripts[id]? <;> exact .of_eq hb rfl rfl rfl rfl
  | close pinned b skin => exact .of_eq hb rfl rfl rfl rfl

/-! ## What is still to be published -/

/-- What is still to be published for the companion of a target. -/
def pendingFor (t : TargetId) (errands : List Errand) : List Pending :=
  errands.filterMap (Errand.pending? t)

/-- What has been published for the companion of a target. -/
def publishedFor (t : TargetId) (effects : List Effect) : List Pending :=
  effects.filterMap (Effect.published? t)

omit hb in
theorem Upshot.Idle.pendingFor {u : Upshot} (h : u.Idle catalog) (t : TargetId) :
    pendingFor t u.errands = [] :=
  List.filterMap_eq_nil_iff.mpr fun e he => (h.errands e he).2 t

/-- **Nothing is put aside for a target that is not bound**, and its companion is not brought up to
date: what has been published in a turn and what follows from it were to be published before. -/
theorem errand_pending (moves : List Move) (errand : Errand) {t : TargetId}
    (hfree : w.binder.active.lookup t = none) :
    (errand.turn moves w).effect ≠ .updated t ∧
      ((errand.turn moves w).effect.published? t).toList ++
        pendingFor t (errand.turn moves w).errands = (errand.pending? t).toList := by
  have hidle : (errand.turn moves w).Idle catalog → errand.pending? t = none →
      (errand.turn moves w).effect ≠ .updated t ∧
        ((errand.turn moves w).effect.published? t).toList ++
          pendingFor t (errand.turn moves w).errands = (errand.pending? t).toList := by
    intro h hnone
    refine ⟨(h.effect t).2, ?_⟩
    rw [(h.effect t).1, h.pendingFor, hnone]
    rfl
  cases errand with
  | move m => exact hidle (m.turn_idle w) rfl
  | hear v a =>
    refine ⟨nofun, List.filterMap_eq_nil_iff.mpr fun e he => ?_⟩
    obtain ⟨x, -, rfl⟩ := List.mem_map.mp he
    rfl
  | call s v o =>
    refine ⟨nofun, List.filterMap_eq_nil_iff.mpr fun e he => ?_⟩
    obtain ⟨a, -, rfl⟩ := List.mem_map.mp he
    rfl
  | publish t' p =>
    have hcalls : pendingFor t ((Errand.publish t' p).turn moves w).errands = [] :=
      List.filterMap_eq_nil_iff.mpr fun e he => by
        obtain ⟨o, -, rfl⟩ := List.mem_map.mp he
        rfl
    refine ⟨nofun, ?_⟩
    rw [hcalls, List.append_nil]
    rfl
  | tell l =>
    cases l with
    | companion id =>
      rcases hb.told id with hdetached | ⟨A, name, context, handle, hc, hactive, -, -⟩
      · have hsilent : ((Errand.tell (.companion id)).turn moves w).Idle catalog := by
          change ((Listener.companion id).turn w).Idle catalog
          rw [Listener.turn_of_detached hdetached]
          exact .silent w
        exact hidle hsilent rfl
      · have hne := hb.ne_of_free hactive hfree
        change ((Listener.companion id).turn w).effect ≠ _ ∧
          (((Listener.companion id).turn w).effect.published? t).toList ++
            pendingFor t ((Listener.companion id).turn w).errands = []
        rw [Listener.turn_of_keeper hc]
        refine ⟨fun h => hne (Effect.updated.inj h), List.filterMap_eq_nil_iff.mpr fun e he => ?_⟩
        obtain ⟨p, -, rfl⟩ := List.mem_map.mp he
        exact if_neg hne
    | script id => exact hidle (Listener.script_idle w id) rfl
  | close pinned b skin => exact hidle (.silent _) rfl

omit hb

/-! ## Runs -/

/-- A moment with bonds, at which what is to be done keeps to the types of the program. -/
structure Moment.Of (catalog : Catalog) (m : Moment) : Prop where
  bonds : Bonds catalog m.world
  errands : ∀ e ∈ m.errands, e.Of catalog

/-- What the owner has made of a target. -/
def rewritten (t : TargetId) (effects : List Effect) (c : Content) : Content :=
  effects.foldl (fun c e => e.rewrites t c) c

/-- What has become of the value and the version of a slot. -/
def resetBy (s : SlotId) (effects : List Effect) (r : Option Value × Nat) : Option Value × Nat :=
  effects.foldl (fun r e => e.resets s r) r

section Turn

variable {code : UserCode catalog} {errand : Errand} {rest : List Errand}
  (hm : (⟨w, errand :: rest⟩ : Moment).Of catalog) (moves : List Move)
include hm

theorem Moment.Of.leads : Leads catalog w (errand.turn moves w).effect
    (errand.turn moves w).world :=
  errand_leads hm.bonds moves (hm.errands errand List.mem_cons_self)

omit moves in
theorem Moment.Of.turn {moves : List Move} (hmoves : errand.Evokes code w moves) :
    (⟨(errand.turn moves w).world, (errand.turn moves w).errands ++ rest⟩ : Moment).Of catalog := by
  refine ⟨(hm.leads moves).bonds, fun e he => ?_⟩
  rcases List.mem_append.mp he with he | he
  · exact Errand.of_turn hmoves e he
  · exact hm.errands e (List.mem_cons_of_mem _ he)

/-- What is still to be published for a target that is not bound only becomes less. -/
theorem Moment.Of.pending {t : TargetId} (hfree : w.binder.active.lookup t = none) :
    (errand.turn moves w).effect ≠ .updated t ∧
      ((errand.turn moves w).effect.published? t).toList ++
        pendingFor t ((errand.turn moves w).errands ++ rest) = pendingFor t (errand :: rest) := by
  obtain ⟨hupdated, hpending⟩ := errand_pending hm.bonds moves errand hfree
  refine ⟨hupdated, ?_⟩
  have hsplit : ∀ before after, pendingFor t (before ++ after) =
    pendingFor t before ++ pendingFor t after := fun _ _ => List.filterMap_append
  have hone : pendingFor t [errand] = (errand.pending? t).toList := by
    rw [pendingFor, List.filterMap_cons]
    cases errand.pending? t <;> rfl
  rw [hsplit, ← List.append_assoc, hpending, ← List.singleton_append, hsplit, hone]

end Turn

namespace Runs

variable {code : UserCode catalog} {m m' : Moment} {effects : List Effect}

theorem of (h : Runs code m effects m') (hm : m.Of catalog) : m'.Of catalog := by
  induction h with
  | stop => exact hm
  | turn hmoves _ ih => exact ih (hm.turn hmoves)

/-- **Slots are only set as the effects say.** -/
theorem readings (h : Runs code m effects m') (hm : m.Of catalog) :
    ∀ s < m.world.slots.length,
      m'.world.reading s = (m.world.reading s).map (resetBy s effects) := by
  induction h with
  | stop => exact fun s _ => Option.map_id'.symm
  | @turn w errand rest moves effects m hmoves _ ih =>
    intro s hs
    have hleads := hm.leads moves
    rw [ih (hm.turn hmoves) s (hs.trans_le hleads.slots), hleads.readings s hs, Option.map_map]
    rfl

/-- **A target that is free stays as its owner makes it** until it is bound: its companion is not
brought up to date, and of what was to be published for it some has been published. -/
theorem free (h : Runs code m effects m') (hm : m.Of catalog) {t : TargetId}
    {T : TypeDefinition} (hT : m.world.typeOf? t = some T)
    (hfree : m.world.binder.active.lookup t = none)
    (hbinds : ∀ e ∈ effects, e.binds t = false) :
    m'.world.binder.active.lookup t = none ∧
      m'.world.content? t [] = (m.world.content? t []).map (rewritten t effects) ∧
      (∀ e ∈ effects, e ≠ .updated t) ∧
      publishedFor t effects ++ pendingFor t m'.errands = pendingFor t m.errands := by
  induction h with
  | stop => exact ⟨hfree, Option.map_id'.symm, nofun, rfl⟩
  | @turn w errand rest moves effects m hmoves _ ih =>
    rw [List.forall_mem_cons] at hbinds
    have hleads := hm.leads moves
    obtain ⟨hfree₁, hcontent₁⟩ := hleads.free t T hT hfree hbinds.1
    obtain ⟨hupdated₁, hpending₁⟩ := hm.pending moves hfree
    obtain ⟨hfree', hcontent', hupdated', hpending'⟩ :=
      ih (hm.turn hmoves) (hleads.types t T hT) hfree₁ hbinds.2
    refine ⟨hfree', ?_, List.forall_mem_cons.mpr ⟨hupdated₁, hupdated'⟩, ?_⟩
    · rw [hcontent', hcontent₁, Option.map_map]
      rfl
    · have hone : publishedFor t ((errand.turn moves w).effect :: effects) =
          ((errand.turn moves w).effect.published? t).toList ++ publishedFor t effects := by
        rw [publishedFor, List.filterMap_cons]
        cases (errand.turn moves w).effect.published? t <;> rfl
      rw [hone, List.append_assoc, hpending', hpending₁]

end Runs

end Live
end Theming
