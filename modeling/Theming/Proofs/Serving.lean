/-
# Active companions serve their targets

At every moment of a program all targets are poised (`Performance.poised`), the moments in the middle of a
notification included. A companion that has become active is of the entry that was found for the
type of its target; what has been found is kept for good; and nobody else gives a target a companion
or a companion a target (`Retains`).
-/

import Theming.Proofs.Performing
import Theming.Proofs.Poise

namespace Theming
namespace Live

variable {catalog : Catalog} {t : TargetId} {T : TypeDefinition} {w w' : World}

/-- Every active companion serves its target. -/
def World.Served (w : World) : Prop :=
  ∀ t T id, w.typeOf? t = some T → w.binder.active.lookup t = some id → w.Serves t T id

theorem Bonds.poised (hb : Bonds catalog w) (hserved : w.Served) (hT : w.typeOf? t = some T) :
    w.Poised catalog t T where
  type := hT
  has := hb.types t T hT
  shapes := hb.shapes t T hT
  keys := hb.keys
  served id h := hserved t T id hT h

/-! ## Steps after which companions serve their targets -/

/-- A step that keeps what has been found, and after which each active companion is as it was or
serves its target. -/
structure Retains (w w' : World) : Prop where
  types : ∀ t T, w.typeOf? t = some T → w'.typeOf? t = some T
  table : ∀ declared found, w.binder.resolver.table.lookup declared = some found →
    w'.binder.resolver.table.lookup declared = some found
  active : ∀ t id, w'.binder.active.lookup t = some id →
    (w.binder.active.lookup t = some id ∧ w'.companions[id]? = w.companions[id]?) ∨
      ∀ T, w'.typeOf? t = some T → w'.Serves t T id

/-- **After such a step companions serve their targets**, if they did before. -/
theorem Retains.served (h : Retains w w') (hb : Bonds catalog w) (hserved : w.Served) :
    w'.Served := by
  intro t T id hT hid
  rcases h.active t id hid with ⟨hold, hcompanion⟩ | hserves
  · obtain ⟨c, handle, hc, htarget, rfl⟩ := hb.active t id (mem_of_lookup hold)
    obtain ⟨T₀, -, -, hT₀, -⟩ := (hb.attached id c handle hc htarget).1
    obtain rfl := Option.some.inj ((h.types _ T₀ hT₀).symm.trans hT)
    obtain ⟨c, handle, hc, htarget, htable, hup⟩ := hserved _ _ id hT₀ hold
    exact ⟨c, handle, hcompanion.trans hc, htarget, h.table _ _ htable, hup⟩
  · exact hserves T hT

namespace Retains

theorem of_eq (htypes : ∀ t T, w.typeOf? t = some T → w'.typeOf? t = some T)
    (hbinder : w'.binder = w.binder) (hcompanions : w'.companions = w.companions) :
    Retains w w' where
  types := htypes
  table declared found h := hbinder ▸ h
  active t id h := .inl ⟨hbinder ▸ h, by rw [hcompanions]⟩

theorem of_steady (h : Steady w w') : Retains w w' :=
  .of_eq (fun t _ hT => (h.types t).trans hT) h.binder h.companions

theorem refl (w : World) : Retains w w := .of_eq (fun _ _ hT => hT) rfl rfl

theorem resolving (w : World) (info : TypeInfo) : Retains w (w.resolving info) := by
  obtain ⟨trace, h⟩ := w.resolving_eq info
  rw [h]
  exact ⟨fun _ _ hT => hT,
    fun _ _ hfound => (w.binder.resolver.search_resolve info).keeps hfound,
    fun _ _ hid => .inl ⟨hid, rfl⟩⟩

theorem register (w : World) (entry : CompanionEntry) : Retains w (w.register entry) := by
  have htypes : ∀ t, (w.register entry).typeOf? t = w.typeOf? t := fun t => by
    rw [World.register]
    cases w.binder.resolver.registry.warning? entry <;> rfl
  refine ⟨fun t _ hT => (htypes t).trans hT, fun _ _ hfound => ?_, fun _ _ hid => .inl ⟨?_, ?_⟩⟩
  · rw [World.binder_register]
    exact hfound
  · rw [World.binder_register] at hid
    exact hid
  · rw [w.companions_register]

/-- A slot in a field gives no target a companion. -/
theorem assign (w : World) (part : Handle) (field : String) (c : Content) :
    Retains w (w.assign part field c) :=
  .of_eq (fun t _ hT => (Steady.typeOf?_modifyContent w _ t _ _).trans hT) rfl rfl

section Bonds

variable (hb : Bonds catalog w)
include hb

/-- Each companion that is still active after a release is as it was. -/
theorem active_vacated {t' : TargetId} {id : CompanionId}
    (hid : (w.vacated t).binder.active.lookup t' = some id) :
    t' ≠ t ∧ w.binder.active.lookup t' = some id ∧
      (w.vacated t).companions[id]? = w.companions[id]? := by
  rw [w.binder_vacated] at hid
  have ht : t' ≠ t := by
    rintro rfl
    rw [World.lookup_without] at hid
    cases hid
  rw [World.lookup_without_of_ne ht] at hid
  refine ⟨ht, hid, (w.companions_vacated t).2 id fun hactive => ht ?_⟩
  exact hb.owner (mem_of_lookup hid) (mem_of_lookup hactive)

theorem unbind (t : TargetId) : Retains w (w.unbind t).2 := by
  obtain ⟨-, hparts⟩ := hb.unbind t
  obtain ⟨trace, hunbind⟩ := unbind_eq w t
  have hbinder : (w.unbind t).2.binder = (w.vacated t).binder := by rw [hunbind]
  have hcompanions : (w.unbind t).2.companions = (w.vacated t).companions := by rw [hunbind]
  refine ⟨fun t' _ hT => (hparts.spares.types t').trans hT, fun _ _ hfound => ?_,
    fun t' id hid => ?_⟩
  · rw [hbinder, w.binder_vacated]
    exact hfound
  · rw [hbinder] at hid
    rw [hcompanions]
    exact .inl (active_vacated hb hid).2

/-- **The companion that a bind makes serves the target**: it is of the entry that was found. -/
theorem bind {w' : World} {r : Except BindingError Unit} {context : Context} {act : Act}
    (h : Live.bind act t context w = some (r, w')) (hserved : w.Served) : Retains w w' := by
  cases hT : w.typeOf? t with
  | none =>
    rw [bind_of_absent hT] at h
    obtain ⟨-, rfl⟩ := Prod.mk.inj (Option.some.inj h)
    exact .refl w
  | some T =>
    cases hprepared : w.binder.prepared T.info t with
    | error e =>
      rw [bind_refused hT hprepared] at h
      obtain ⟨-, rfl⟩ := Prod.mk.inj (Option.some.inj h)
      exact .resolving w T.info
    | ok found =>
      obtain ⟨entry, handle⟩ := found
      obtain ⟨A, name, hembeds, rfl, rfl, -⟩ := hb.prepared hT hprepared
      obtain ⟨hresult, -⟩ := Binder.of_prepared hprepared
      obtain ⟨w'', hrun, hbound⟩ := (hb.poised hserved hT).bind hembeds hresult context
      obtain ⟨-, rfl⟩ := Prod.mk.inj (Option.some.inj (h.symm.trans (hrun act)))
      refine ⟨fun t' _ hT' => (hbound.spares.types t').trans hT', fun _ _ hfound => ?_,
        fun t' id hid => ?_⟩
      · rw [hbound.resolver]
        exact (w.binder.resolver.search_resolve T.info).keeps hfound
      · rw [hbound.active, lookup_cons_ite] at hid
        split_ifs at hid with ht
        · refine .inr fun T' hT' => ?_
          obtain rfl := Option.some.inj hid
          subst ht
          obtain rfl := Option.some.inj (((hbound.spares.types _).trans hT).symm.trans hT')
          exact hbound.serves
        · rw [← w.binder_vacated] at hid
          obtain ⟨-, hold, hcompanion⟩ := active_vacated hb hid
          have hlt : id < (w.vacated handle.target).companions.length := by
            obtain ⟨c, -, hc, -⟩ := hb.active t' id (mem_of_lookup hold)
            rw [(w.companions_vacated _).1]
            exact (List.getElem?_eq_some_iff.mp hc).1
          refine .inl ⟨hold, ?_⟩
          rw [hbound.companions, List.getElem?_append_left hlt, hcompanion]

end Bonds
end Retains

/-! ## At every moment -/

variable (hb : Bonds catalog w) (hserved : w.Served)
include hb hserved

/-- A command that keeps to the types of the program retains companions. -/
theorem command_retains (c : Command) : Retains w (c.turn w).world := by
  cases c with
  | create T =>
    obtain ⟨n, content, hworld, -, -⟩ := w.addTarget_eq T
    rw [Command.turn, Upshot.silent, hworld]
    exact .of_eq (fun _ _ hT => World.typeOf?_grown hT) rfl rfl
  | register T name => exact .register w _
  | addSkin m skin =>
    rw [Command.turn, World.addSkin]
    split_ifs <;> exact .of_eq (fun _ _ hT => hT) rfl rfl
  | activate m name =>
    rw [Command.turn]
    cases (w.manager m).skin? name <;> exact .of_eq (fun _ _ hT => hT) rfl rfl
  | bind t context =>
    obtain ⟨r, w', hrun, hturn, -⟩ := hb.bind_turn t context
    rw [hturn]
    exact .bind hb (hrun fun _ _ => pure ()) hserved
  | unbind t => exact .unbind hb t
  | observe s o => exact .of_eq (fun _ _ hT => hT) rfl rfl
  | write t path content => exact .of_steady (write_steady w t path content)
  | renew part field =>
    rw [Command.turn, Upshot.seated, World.renew]
    cases w.slotAt? part field with
    | none => exact .refl w
    | some s =>
      exact .of_eq (fun t _ hT => (Steady.typeOf?_modifyContent w.addSlot.2 _ t _ _).trans hT)
        rfl rfl
  | set s v => exact .of_eq (fun _ _ hT => hT) rfl rfl

/-- A move retains companions. -/
theorem move_retains (m : Move) : Retains w (m.turn w).world := by
  cases m with
  | deed d =>
    cases d with
    | command c => exact command_retains hb hserved c
    | notify b skin => exact .of_eq (fun _ _ hT => hT) rfl rfl
    | resolve T =>
      rw [Move.turn, resolve_eq]
      exact .resolving w T.info
    | record o => exact .of_eq (fun _ _ hT => hT) rfl rfl
  | place part field slot =>
    rw [Move.turn, Upshot.seated, World.place]
    cases w.slotAt? part field with
    | none => exact .refl w
    | some s => exact .assign w part field _
  | hold script => exact .of_eq (fun _ _ hT => hT) rfl rfl
  | listen b name =>
    rw [Move.turn, World.listen]
    cases w.scriptOf? name <;> exact .of_eq (fun _ _ hT => hT) rfl rfl
  | ignore b name =>
    rw [Move.turn, World.ignore]
    cases w.scriptOf? name <;> exact .of_eq (fun _ _ hT => hT) rfl rfl
  | drop name => exact .of_eq (fun _ _ hT => hT) rfl rfl

/-- **Every turn retains companions.** -/
theorem errand_retains (moves : List Move) (errand : Errand) :
    Retains w (errand.turn moves w).world := by
  cases errand with
  | move m => exact move_retains hb hserved m
  | hear => exact .refl w
  | call s v o => exact .of_eq (fun _ _ hT => hT) rfl rfl
  | publish t p => exact .of_eq (fun _ _ hT => hT) rfl rfl
  | tell l =>
    cases l with
    | companion id =>
      change Retains w ((Listener.companion id).turn w).world
      rcases hb.told id with hdetached | ⟨A, name, context, handle, hc, -, hsuited, hnames⟩
      · rw [Listener.turn_of_detached hdetached]
        exact .refl w
      · rw [Listener.turn_of_keeper hc]
        exact .of_steady
          (updateFields_refreshed w handle context.manager A.bound hsuited hnames).2.steady
    | script id =>
      change Retains w ((Listener.script id).turn w).world
      rw [Listener.turn]
      cases w.scripts[id]? <;> exact .of_eq (fun _ _ hT => hT) rfl rfl
  | close pinned b skin => exact .of_eq (fun _ _ hT => hT) rfl rfl

omit hb hserved

variable {code : UserCode catalog}

theorem Runs.served {m m' : Moment} {effects : List Effect} (h : Runs code m effects m')
    (hm : m.Of catalog) (hserved : m.world.Served) : m'.world.Served := by
  induction h with
  | stop => exact hserved
  | @turn w errand rest moves effects m hmoves _ ih =>
    exact ih (hm.turn hmoves)
      ((errand_retains hm.bonds hserved moves errand).served hm.bonds hserved)

/-- **At every moment of a program all targets are poised.** -/
theorem Performance.poised (performance : Performance catalog) (boundary : Boundary)
    (broadcasters : Nat) (hosts : List BroadcasterId) {effects : List Effect} {m : Moment}
    (h : Runs code (performance.opening boundary broadcasters hosts) effects m)
    (hT : m.world.typeOf? t = some T) : m.world.Poised catalog t T := by
  have hopening := performance.opening_of boundary broadcasters hosts
  have hunbound : (performance.opening boundary broadcasters hosts).world.Served :=
    fun t _ id _ hid => by cases hid
  exact (h.of hopening).bonds.poised (h.served hopening hunbound) hT

end Live
end Theming
