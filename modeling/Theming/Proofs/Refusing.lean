/-
# What a failing bind leaves behind

| a bind fails | its target | everything else |
| --- | --- | --- |
| before its target is released | as before, bound or not | as before |
| when the companion is made | not bound | as before |

In the first case no companion was found, or none that the target can be handed to, and only the
resolver and the log know of it (`World.Denies`). In the second case the previous companion, if there
was one, has been released, be it with a fault or not, and the target is left as it is after an
unbind (`Forsaken`).

The same is true of companions that anybody else may write, whatever making and releasing them may
do to the state that they work on. When the calls on them are logged, the first case logs none of
them, and the second one those that release the previous companion, each once.
-/

import Theming.Proofs.Conservation
import Theming.Proofs.Parting

namespace Theming

/-! ## Companions that are watched -/

namespace Binder

variable {σ κ γ : Type} (code : Code σ κ γ) {info : TypeInfo} {target : TargetId}
  {b : Binder (Numbered κ)} {e : BindingError}

/-- A bind with companions that do not reach the binder. -/
def Code.bind (code : Code σ κ γ) (info : TypeInfo) (target : TargetId) (context : γ) :
    Beside σ κ (Except BindingError Unit) :=
  Binder.bind code.beside
    (fun entry handle => StateT.lift (code.construct entry handle context)) info target

/-- What is prepared is what a binder has for a type, and the resolver is all that changes. -/
theorem prepare_prepared (info : TypeInfo) (target : TargetId) (b : Binder (Numbered κ))
    (p : σ × List Event) :
    ∃ p', Yields (prepare code.watched.beside info target) b p (b.prepared info target)
      { b with resolver := (b.resolver.resolve info).resolver } p' [] := by
  obtain ⟨p', h⟩ := resolve_yields code info b p
  rw [prepared]
  rcases hresult : (b.resolver.resolve info).result with e | _ | entry <;> rw [hresult] at h
  · exact ⟨p', h.bind (.pure _ _ p')⟩
  · exact ⟨p', h.bind (.pure _ _ p')⟩
  · exact ⟨p', h.bind (.pure _ _ p')⟩

/-- A bind for which nothing can be prepared makes no call on any companion. -/
theorem bind_denied (h : b.prepared info target = .error e) (context : γ) (p : σ × List Event) :
    ∃ p', Yields (code.watched.bind info target context) b p (.error e) { b with resolver := (b.resolver.resolve info).resolver } p' [] := by
  obtain ⟨p', hprepare⟩ := prepare_prepared code info target b p
  rw [h] at hprepare
  exact ⟨p', hprepare.bind (.pure _ _ p')⟩

/-- **A bind whose companion cannot be made has released the previous one**, and no more. -/
theorem bind_forsaken {entry : CompanionEntry} {handle : Handle}
    (h : b.prepared info target = .ok (entry, handle)) (p : σ × List Event) :
    ∃ s log, ∀ context e s', code.construct entry handle context s = (.error e, s') →
      Yields (code.watched.bind info target context) b p (.error e)
        { resolver := (b.resolver.resolve info).resolver
          active := b.active.filter (·.1 != target) } (s', log)
        (retirement (b.active.lookup target)) := by
  obtain ⟨p₁, hprepare⟩ := prepare_prepared code info target b p
  rw [h] at hprepare
  obtain ⟨⟨s, log⟩, hrelease⟩ := releaseActive_yields code info target
    { b with resolver := (b.resolver.resolve info).resolver } p₁
  refine ⟨s, log, fun context e s' hfails => ?_⟩
  set b' : Binder (Numbered κ) :=
    { resolver := (b.resolver.resolve info).resolver
      active := b.active.filter (·.1 != target) }
  have hconstruct : Yields (StateT.lift (code.watched.construct entry handle context)) b'
      (s, log) (.error e) b' (s', log) [] := by
    have hwatched : code.watched.construct entry handle context (s, log) =
        (.error e, s', log) := by
      simp only [Code.watched, hfails]
    refine ⟨?_, (List.append_nil _).symm⟩
    change (((code.watched.construct entry handle context (s, log)).1, b'),
      (code.watched.construct entry handle context (s, log)).2) = _
    rw [hwatched]
  have hcalls : retirement (b.active.lookup target) =
      [] ++ (retirement (b.active.lookup target) ++ ([] ++ [])) := by simp
  rw [hcalls]
  exact hprepare.bind (hrelease.bind (hconstruct.bind (.pure _ _ _)))

/-- An unbind of a target that is not bound makes no call on any companion. -/
theorem unbind_spares (h : b.active.lookup target = none) (name : String)
    (p : σ × List Event) :
    ∃ p', Yields (Binder.unbind code.watched.beside name target) b p (.ok ()) b p' [] := by
  have hremove := remove_yields target b p
  rw [h, filter_ne_of_lookup h] at hremove
  obtain ⟨p', htell⟩ := tell_yields code (.notBound name) rfl b p
  exact ⟨p', hremove.bind (htell.bind (.pure _ b p'))⟩

end Binder

namespace Live

variable {t : TargetId} {T : TypeDefinition} {entry : CompanionEntry} {handle : Handle}
  {context : Context} {act : Act} {e : BindingError} {w w' : World}

/-! ## Binds that are denied -/

/-- Whatever user code may do, a bind of a target fails, and only the resolver and the log know
that it was tried. -/
def World.Denies (w : World) (t : TargetId) (e : BindingError) : Prop :=
  ∃ w', Akin w w' ∧ ∀ act context, Live.bind act t context w = some (.error e, w')

/-- **A bind for which nothing can be prepared is denied.** -/
theorem denies_of_prepared (hT : w.typeOf? t = some T)
    (h : w.binder.prepared T.info t = .error e) : w.Denies t e :=
  ⟨_, .resolving w T.info, fun _ _ => bind_refused hT h⟩

/-! ## Companions that cannot be made -/

/-- Of all companions, those that record are refused if their mode says so. -/
theorem construct_refused {journal : String} (hexpect : handle.expect entry.target = .ok handle)
    (hconduct : entry.conduct = .record journal)
    (hmode : w.modes.lookup entry.target = some (.refuse e)) :
    construct act entry handle context w = some (.error e, w) := by
  rw [construct, hexpect]
  dsimp only
  rw [hconduct]
  have hget : (get : Step World) w = some (w, w) := rfl
  refine (Step.bind_eq hget).trans ?_
  rw [hmode]
  rfl

/-- A companion that records and is not refused is made, whatever user code did before. -/
theorem attachRecorder_made (journal : String) :
    Gives True (attachRecorder act entry journal handle context) w
      fun r w' => (∃ id, r = .ok id) ∨ w' = w := by
  have hmake : ∀ w₁ : World, Gives True (do
      let made := ((← get).note handle journal "bind").addCompanion ⟨entry, context, some handle⟩
      set made.2
      return .ok made.1 : Step (Except BindingError CompanionId)) w₁
      fun r w' => (∃ id, r = .ok id) ∨ w' = w := fun _ => Gives.of_eq rfl (.inl ⟨_, rfl⟩)
  refine Gives.get_bind ?_
  cases hmode : w.modes.lookup entry.target with
  | none => exact hmake w
  | some mode =>
    cases mode with
    | refuse e => exact Gives.pure (.inr rfl)
    | failRelease => exact hmake w
    | rebind =>
      refine Gives.get_bind (Gives.modify_bind ?_)
      cases w.repeatable with
      | none => exact hmake _
      | some again =>
        have hagain : Gives True (act none (.rebind again.1 again.2))
            { w.setMode entry.target none with repeatable := none } fun _ _ => True :=
          Gives.granted.mpr fun _ _ _ => trivial
        exact hagain.bind fun _ w₁ _ => hmake w₁

/-- **A companion that cannot be made has not changed the world.** -/
theorem construct_error (h : construct act entry handle context w = some (.error e, w')) :
    w' = w := by
  have hconstruct : Gives True (construct act entry handle context) w
      fun r w' => (∃ id, r = .ok id) ∨ w' = w := by
    rw [construct]
    cases hexpect : handle.expect entry.target with
    | error e => exact Gives.pure (.inr rfl)
    | ok target =>
      dsimp only
      cases entry.conduct with
      | record journal => exact attachRecorder_made journal
      | keep fields =>
        have hattach : Gives True (attach act entry fields target context) w fun _ _ => True :=
          Gives.granted.mpr fun _ _ _ => trivial
        exact hattach.bind fun id _ _ => Gives.pure (.inl ⟨id, rfl⟩)
  rcases Gives.granted.mp hconstruct _ w' h with ⟨id, hid⟩ | hsame
  · cases hid
  · exact hsame

/-! ## Binds that fail when they make a companion -/

/-- What is left of a bind when its target has been released. -/
def makeFor (act : Act) (info : TypeInfo) (t : TargetId) (entry : CompanionEntry)
    (handle : Handle) (context : Context) : Step (Except BindingError Unit) := do
  match ← construct act entry handle context with
  | .error e => return .error e
  | .ok companion =>
    Binder.install World.craft info t companion
    World.craft.tell (.bound info.name entry.name)
    return .ok ()

/-- **A bind that has found a companion goes on from a world in which its target has been
released.** -/
theorem bind_makes (hT : w.typeOf? t = some T)
    (h : w.binder.prepared T.info t = .ok (entry, handle)) :
    ∃ u, Akin (w.vacated t) u ∧
      u.binder.resolver = (w.binder.resolver.resolve T.info).resolver ∧
      ∀ act context,
        Live.bind act t context w = makeFor act T.info t entry handle context u := by
  obtain ⟨trace, hrelease⟩ := releaseActive_run (w.resolving T.info) T.info t
  refine ⟨_, ((Akin.resolving w T.info).vacated t).trans (.retrace _ trace), ?_,
    fun act context => ?_⟩
  · change ((w.resolving T.info).vacated t).binder.resolver = _
    rw [World.binder_vacated]
    obtain ⟨_, hresolving⟩ := w.resolving_eq T.info
    rw [hresolving]
    rfl
  · have hprepare := prepare_run w T.info t
    rw [h] at hprepare
    rw [bind_eq_binder hT]
    refine (Step.bind_eq hprepare).trans ((Step.bind_eq hrelease).trans ?_)
    refine congrFun (congrArg (construct act entry handle context >>= ·) (funext fun r => ?_)) _
    cases r <;> rfl

/-! ### What is left -/

/-- What a bind leaves behind that has released its target and then failed. -/
structure Forsaken (w : World) (t : TargetId) (u : World) : Prop where
  /-- Its companion, if it had one, has been unbound and cleared. -/
  akin : Akin (w.vacated t) u
  unbound : u.isBound t = false
  bindings : ∀ t' ≠ t, u.binder.active.lookup t' = w.binder.active.lookup t'
  /-- An unbind finds nothing to do. -/
  idle : ∃ level message, u.unbind t = (.ok (), u.tell level message)

theorem forsaken_of_akin (h : Akin (w.vacated t) w') : Forsaken w t w' := by
  have hactive : w'.binder.active = (w.without t).binder.active := by
    rw [h.active, w.binder_vacated]
  have hunbound : w'.binder.active.lookup t = none := by rw [hactive, w.lookup_without]
  refine ⟨h, isBound_eq_false.mpr hunbound, fun t' ht => ?_, unbind_of_unbound hunbound⟩
  rw [hactive, World.lookup_without_of_ne ht]

/-- A bind after one that has failed finds the same companion, and nothing to release. -/
theorem bind_afresh {u : World} (hT : w.typeOf? t = some T)
    (hresult : (w.binder.resolver.resolve T.info).result = .ok (some entry))
    (hup : T.info.upcast ⟨t, [], T.info.declared⟩ entry.target = .ok handle)
    (hakin : Akin (w.vacated t) u)
    (hresolver : u.binder.resolver = (w.binder.resolver.resolve T.info).resolver) :
    ∃ u', Akin u u' ∧ ∀ act context,
      Live.bind act t context u = makeFor act T.info t entry handle context u' := by
  have hTu : u.typeOf? t = some T := by
    obtain ⟨_, _, rfl⟩ := hakin
    exact (w.typeOf?_vacated t t).trans hT
  have hsearch := w.binder.resolver.search_resolve T.info
  rw [hresult] at hsearch
  have hprepared : u.binder.prepared T.info t = .ok (entry, handle) := by
    have hknown := (u.binder.resolver.search_resolve T.info).of_known
      ((congrArg (·.table.lookup T.info.declared) hresolver).trans hsearch.kept)
    rw [Binder.prepared_of_found hknown, hup]
    rfl
  have hunbound : u.vacated t = u := by
    refine World.vacated_of_unbound ?_
    rw [hakin.active, w.binder_vacated, w.lookup_without]
  obtain ⟨u', hakin', -, hbind⟩ := bind_makes hTu hprepared
  rw [hunbound] at hakin'
  exact ⟨u', hakin', hbind⟩

/-- **A failing bind leaves either all as it was or the target unbound.** In any world at all, and
whatever user code may do, a bind is denied if no companion is found, or none that the target can
be handed to: it gives this error, and all but the resolver and the log is as before. If a companion
is found and cannot be made, the bind gives the error of that, and what it leaves is `Forsaken`; the
next bind makes a companion in the very world that was left. And so it is with the companions that
anybody else may write, as long as they do not reach the binder: the calls on them are those that
release the previous one. -/
theorem failing_bind_leaves :
    (∀ (w : World) (t : TargetId) (T : TypeDefinition), w.typeOf? t = some T →
      (∀ e, (w.binder.resolver.resolve T.info).result = .error e → w.Denies t e) ∧
      ((w.binder.resolver.resolve T.info).result = .ok none →
        w.Denies t (.noBinding T.info.name)) ∧
      ∀ entry, (w.binder.resolver.resolve T.info).result = .ok (some entry) →
        (∀ e, T.info.upcast ⟨t, [], T.info.declared⟩ entry.target = .error e → w.Denies t e) ∧
        ∀ handle, T.info.upcast ⟨t, [], T.info.declared⟩ entry.target = .ok handle →
          ∃ u, Forsaken w t u ∧
            (∀ act context e w', construct act entry handle context u = some (.error e, w') →
              Live.bind act t context w = some (.error e, u)) ∧
            ∃ u', Akin u u' ∧ ∀ act context,
              Live.bind act t context u = makeFor act T.info t entry handle context u') ∧
    ∀ (σ κ γ : Type) (code : Binder.Code σ κ γ) (info : TypeInfo) (t : TargetId)
      (b : Binder (Binder.Numbered κ)) (p : σ × List Binder.Event),
      (∀ e context, b.prepared info t = .error e →
        ∃ p', Binder.Yields (code.watched.bind info t context) b p (.error e)
          { b with resolver := (b.resolver.resolve info).resolver } p' []) ∧
      (∀ entry handle, b.prepared info t = .ok (entry, handle) → ∃ s log, ∀ context e s',
        code.construct entry handle context s = (.error e, s') →
        Binder.Yields (code.watched.bind info t context) b p (.error e)
          { resolver := (b.resolver.resolve info).resolver
            active := b.active.filter (·.1 != t) } (s', log)
          (Binder.retirement (b.active.lookup t))) ∧
      (b.active.lookup t = none → ∀ name, ∃ p',
        Binder.Yields (Binder.unbind code.watched.beside name t) b p (.ok ()) b p' []) := by
  refine ⟨fun w t T hT => ⟨fun e hresult => ?_, fun hresult => ?_, fun entry hresult =>
    ⟨fun e hup => ?_, fun handle hup => ?_⟩⟩, fun σ κ γ code info t b p =>
    ⟨fun e context h => Binder.bind_denied code h context p, fun entry handle h =>
      Binder.bind_forsaken code h p, fun h name => Binder.unbind_spares code h name p⟩⟩
  · refine denies_of_prepared hT ?_
    rw [Binder.prepared, hresult]
  · refine denies_of_prepared hT ?_
    rw [Binder.prepared, hresult]
  · refine denies_of_prepared hT ?_
    rw [Binder.prepared_of_found hresult, hup]
    rfl
  · have hprepared : w.binder.prepared T.info t = .ok (entry, handle) := by
      rw [Binder.prepared_of_found hresult, hup]
      rfl
    obtain ⟨u, hakin, hresolver, hbind⟩ := bind_makes hT hprepared
    refine ⟨u, forsaken_of_akin hakin, fun act context e w' hfails => ?_,
      bind_afresh hT hresult hup hakin hresolver⟩
    obtain rfl := construct_error hfails
    rw [hbind]
    exact Step.bind_eq hfails

/-! ## A lamp that is refused -/

namespace Bench

/-- The type of lamps, with a journal. -/
def lamp : TypeDefinition where
  info := .root "Lamp" "app::Lamp"
  fields := [{ name := "events", layout := .journal }]

/-- The type of rocks. -/
def rock : TypeDefinition where
  info := .root "Rock" "app::Rock"
  fields := []

/-- The companion of lamps writes down what happens to it. -/
def recorder : CompanionEntry where
  path := Naming.companionPath "app::Lamp"
  name := "LampThemeBinding"
  target := "Lamp"
  label := "LampThemeBinding"
  subject := "LampThemeBinding"
  conduct := .record "events"

/-- What the next companion of a lamp is refused with. -/
def refusal : BindingError := .targetMismatch "app::Lamp" "app::Rock"

/-- A lamp that is bound and cannot be bound again, and a rock. -/
def scene : World where
  targets := [⟨lamp, .part [("events", .journal ["bind"])]⟩, ⟨rock, .part []⟩]
  companions := [⟨recorder, ⟨0, 0⟩, some ⟨0, [], "Lamp"⟩⟩]
  broadcasters := [{}]
  binder := { resolver := { registry := ⟨[(recorder.path, recorder)]⟩ }, active := [(0, 0)] }
  modes := [("Lamp", .refuse refusal)]

/-- Companions that can neither be made nor released without a fault. -/
def spoiled : Binder.Code Unit Unit Unit where
  unbind _ := pure (.error (.alreadyCleared "LampThemeBinding"))
  clear _ := pure ()
  label _ := pure "LampThemeBinding"
  tell _ := pure ()
  construct _ _ _ := pure (.error refusal)

/-- A binder that has once made a companion for a lamp. -/
def used : Binder (Binder.Numbered Unit) where
  resolver := { registry := ⟨[(recorder.path, recorder)]⟩ }
  active := [(0, ⟨0, 0, ()⟩)]

end Bench

/-- A rock cannot be bound. A lamp that is bound is not bound any more after its next companion was
refused, and its journal says that it was released once. If that reports a fault it is the same. -/
theorem Bench.lamp_goes_out :
    scene.isBound 0 = true ∧ scene.Denies 1 (.noBinding "app::Rock") ∧
    (∃ u, (∀ act context, Live.bind act 0 context scene = some (.error refusal, u)) ∧
      u.isBound 0 = false ∧
      u.content? 0 ["events"] = some (.journal ["bind", "unbind", "clear"])) ∧
    ∃ resolver p', Binder.Yields (spoiled.watched.bind lamp.info 0 ()) used ((), [])
      (.error refusal) { resolver, active := [] } p' [.unbound 0 0, .cleared 0 0] := by
  obtain ⟨hworld, hwatched⟩ := failing_bind_leaves
  obtain ⟨-, hrock, -⟩ := hworld scene 1 rock rfl
  obtain ⟨-, -, hlamp⟩ := hworld scene 0 lamp rfl
  have hfound : (scene.binder.resolver.resolve lamp.info).result = .ok (some recorder) := by
    decide +kernel
  obtain ⟨u, hleft, hfails, -⟩ := (hlamp recorder hfound).2 ⟨0, [], "Lamp"⟩ rfl
  have hprepared : used.prepared lamp.info 0 = .ok (recorder, ⟨0, [], "Lamp"⟩) := by
    decide +kernel
  obtain ⟨-, hspoiled, -⟩ := hwatched Unit Unit Unit spoiled lamp.info 0 used ((), [])
  obtain ⟨s, log, hcalls⟩ := hspoiled recorder ⟨0, [], "Lamp"⟩ hprepared
  have hmode : u.modes.lookup recorder.target = some (.refuse refusal) := by
    obtain ⟨_, _, rfl⟩ := hleft.akin
    rfl
  have hrefused : ∀ act context,
      construct act recorder ⟨0, [], "Lamp"⟩ context u = some (.error refusal, u) :=
    fun _ _ => construct_refused rfl rfl hmode
  refine ⟨rfl, hrock rfl, ⟨u, fun act context => hfails act context refusal u
    (hrefused act context), hleft.unbound, ?_⟩, _, _, hcalls () refusal s rfl⟩
  rw [hleft.akin.content?]
  rfl

end Live
end Theming
