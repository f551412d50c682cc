/-
# Activating skins from inside a change of theme

An observer may activate a skin while a change of theme sets the slot that it observes. The inner
change then brings everything up to date with the newer skin, and the outer one goes on: the values
for the remaining slots of the companion at hand have been put aside before, and are what those
slots are set to. When the outermost activation returns, all leading fields are up to date with the
skin that is active then, to whatever depth activations have been nested
(`Program.activation_settles`); if none has succeeded inside, all bound fields are. A slot that is
set late keeps what was put aside for it (`Badge.not_upToDate`).
-/

import Theming.Proofs.Activating
import Theming.Proofs.Nesting
import Theming.Proofs.Runs

namespace Theming
namespace Live

variable {catalog : Catalog} {code : Action → Prop} {act inner : Act} {w w' w'' : World}
  {skin : Skin}

/-! ## Activations -/

/-- What an activation of a known skin leaves behind. -/
structure Settled (skin : Skin) (w w' : World) : Prop where
  steady : Steady w w'
  sent : w.sent < w'.sent
  leads : Holding w'.leads w'
  /-- If no other change has been sent, no activation has succeeded inside. -/
  alone : w'.sent = w.sent + 1 →
    (w'.manager 0).active = some skin ∧ ∀ x ∈ w'.places, w'.Holds skin x

/-- A notification that has come to its end settles the world. -/
theorem Caught.settled {w₀ : World} (h : Caught skin w₀ w₀.leads w₀.places w')
    (hswitch : Steady w w₀) (hlistens : 0 < w.broadcasters.length) (hsent : w₀.sent = w.sent)
    (pinned : List Listener) (name : String) :
    Settled skin w (({ w' with pinned } : World).send 0 name) := by
  have hquiet : Quiet w' (({ w' with pinned } : World).send 0 name) :=
    (Quiet.pin w' pinned).trans (send_quiet _ 0 name)
  have hsteady : Steady w w' := hswitch.trans h.steady
  have hone : (({ w' with pinned } : World).send 0 name).sent = w'.sent + 1 := by
    have hlistens' : 0 < w'.broadcasters.length := hsteady.broadcasters_length ▸ hlistens
    rw [World.sent, changes_send (w := { w' with pinned }) hlistens', List.length_append]
    rfl
  have hold := h.sent
  have hafter := h.steady.trans hquiet.steady
  refine ⟨hsteady.trans hquiet.steady, by omega, ?_, fun honly => ?_⟩
  · obtain ⟨current, hcurrent, hholds⟩ := h.holding
    rw [hafter.leads_eq]
    rw [← hquiet.manager] at hcurrent
    exact ⟨current, hcurrent, fun x hx => hquiet.holds (hholds x hx)⟩
  · obtain ⟨hskin, hholds⟩ := h.undisturbed (by omega)
    rw [hafter.places_eq, hquiet.manager]
    exact ⟨hskin, fun x hx => hquiet.holds (hholds x hx)⟩

section Activation

variable {setting : Setting} (hact : Orderly setting True act) (hfresh : Fresh setting act)
  (hs : Sound setting w) (hhost : (w.manager 0).broadcaster = 0)
  (hcontexts : ∀ c ∈ w.companions, c.context = ⟨0, 0⟩) (hlistens : 0 < w.broadcasters.length)
include hact hfresh hs hhost hcontexts hlistens

/-- **An activation settles the world**: an unknown skin is refused and changes nothing, and a known
one brings the leading fields up to date. -/
theorem activate_settles (name : String) :
    Gives True (activate act 0 name) w fun r w' =>
      match (w.manager 0).skin? name with
      | none => r = .error (.unknownSkin name) ∧ w' = w
      | some skin => r = .ok w.binder.active.length ∧ Settled skin w w' := by
  refine Gives.get_bind ?_
  dsimp only
  cases hskin : (w.manager 0).skin? name with
  | none => exact Gives.pure ⟨rfl, rfl⟩
  | some skin =>
    set w₀ := w.modifyManager 0 fun m => { m with active := some skin } with hw₀
    have hswitch : Steady w w₀ := .modifyManager fun _ => ⟨rfl, rfl⟩
    have hs₀ := hs.steady hswitch
    have hactive : (w₀.manager 0).active = some skin := active_switch hskin
    have hhost₀ : (w₀.manager 0).broadcaster = 0 := (hswitch.manager_skins 0).1.trans hhost
    have hstart : Caught skin w₀ [] [] w₀ :=
      ⟨.refl w₀, le_rfl, nofun, ⟨skin, hactive, nofun⟩, fun _ => ⟨hactive, nofun⟩⟩
    have hcount : (w₀.followers 0).length = w.binder.active.length :=
      hs₀.followers_length fun c hc => by rw [hcontexts c hc]
    have htell := World.quiet_tell w₀ .info ("Activated skin " ++ name)
    refine Gives.modify_bind (Gives.modify_bind ?_)
    rw [hhost]
    refine (notify_gives (hs₀.steady htell.steady) (Caught skin w₀ w₀.leads w₀.places)
      (fun w₁ h₁ hchanges => ?_) name).bind fun n w' h' => ?_
    · rw [htell.steady.followers_eq]
      refine Caught.notification hact hfresh hs₀ hhost₀ hcontexts ?_
      exact hstart.quiet (htell.trans h₁) (congrArg List.length hchanges)
    · obtain ⟨hn, w₂, h₂, rfl⟩ := h'
      rw [htell.steady.followers_eq, hcount] at hn
      exact Gives.pure ⟨congrArg _ hn, h₂.settled hswitch hlistens rfl _ name⟩

end Activation

theorem Refreshing.trans (h : Refreshing w w') (h' : Refreshing w' w'') : Refreshing w w'' := by
  rcases h with ⟨trace, rfl⟩ | ⟨⟨current, hcurrent, hholds⟩, hlt⟩
  · exact h'
  · rcases h' with ⟨trace, rfl⟩ | ⟨hholding, hlt'⟩
    · refine .inr ⟨⟨current, hcurrent, fun x hx => ?_⟩, hlt⟩
      rw [(Steady.retrace w' trace).leads_eq] at hx
      exact (hholds x hx).of_eq rfl fun _ _ _ => rfl
    · exact .inr ⟨hholding, hlt.trans hlt'⟩

theorem Sound.open_contexts (hs : Sound (.open catalog code) w) :
    (∀ c ∈ w.companions, c.context = ⟨0, 0⟩) ∧ 0 < w.broadcasters.length :=
  ⟨hs.contexts, hs.reached ⟨0, 0⟩ rfl⟩

theorem Activations.refreshing (hinner : Orderly (.open catalog code) True inner)
    (hfresh : Fresh (.open catalog code) inner) (hs : Sound (.open catalog code) w)
    (hhost : (w.manager 0).broadcaster = 0) (h : Activations inner w w') : Refreshing w w' := by
  induction h with
  | done w => exact .inl ⟨w.trace, rfl⟩
  | @record w w' os rest ih =>
    have hfirst : Steady w { w with trace := w.trace ++ os } := .retrace w _
    exact ih (hs.steady hfirst) hhost
  | @activate w w₁ w' name r h rest ih =>
    have hgives := Gives.granted.mp (activate_settles hinner hfresh hs hhost
      hs.open_contexts.1 hs.open_contexts.2 name) r w₁ h
    cases hskin : (w.manager 0).skin? name with
    | none =>
      rw [hskin] at hgives
      obtain ⟨-, rfl⟩ := hgives
      exact ih hs hhost
    | some skin =>
      rw [hskin] at hgives
      obtain ⟨-, hsettled⟩ := hgives
      have hhost₁ := (hsettled.steady.manager_skins 0).1.trans hhost
      have hrest := ih (hs.steady hsettled.steady) hhost₁
      exact Refreshing.trans (.inr ⟨hsettled.leads, hsettled.sent⟩) hrest

/-- **User code that activates skins refreshes the leading fields**, however deep its calls nest. -/
theorem Activates.fresh {depth : Nat} (h : Activates code depth act) :
    Fresh (.open catalog code) act := by
  refine Deepens.elim (fun _ _ _ _ _ _ => trivial) (fun inner act hdeep hinner hact => ?_) h
  refine fun a ha v w hs hhost => Gives.granted.mpr fun _ w' hrun => ?_
  obtain ⟨_, hdeep⟩ := hdeep
  exact (hact v a w w' hrun ha).refreshing (Activates.orderly hdeep) hinner hs hhost

/-- There is an active skin, and the given ones of the bound fields of all bound targets hold what
it has for them. -/
def World.UpToDate (catalog : Catalog) (given : Handle → List BoundField → BoundField → Prop)
    (w : World) : Prop :=
  ∃ skin, (w.manager 0).active = some skin ∧ ∀ t, w.isBound t →
    ∃ T A path, w.typeOf? t = some T ∧ catalog.Embeds T path A ∧ w.Follows t A path ∧
      ∀ f ∈ A.bound, given ⟨t, path, A.info.declared⟩ A.bound f →
        w.Holds skin ⟨t, path ++ [f.name], f⟩

/-- What holds of the bound fields that companions keep holds of those of all bound targets. -/
theorem Sound.upToDate {setting : Setting} (hs : Sound setting w)
    {given : Handle → List BoundField → BoundField → Prop}
    (hskin : (w.manager 0).active = some skin)
    (h : ∀ t A path, w.Follows t A path → ∀ f ∈ A.bound,
      given ⟨t, path, A.info.declared⟩ A.bound f → w.Holds skin ⟨t, path ++ [f.name], f⟩) :
    w.UpToDate setting.catalog given := by
  refine ⟨skin, hskin, fun t ht => ?_⟩
  obtain ⟨T, A, path, hT, hembeds, hfollows⟩ := hs.follows ht
  exact ⟨T, A, path, hT, hembeds, hfollows, h t A path hfollows⟩

/-- **Activations may be nested.** Whatever a program has done whose observers activate skins, to
any depth, when an activation returns it has changed nothing if the skin is unknown. Otherwise it
gives the number of bound targets, and all leading fields of all bound targets hold what the skin
has for them that is active then; if no other change has been sent meanwhile, that skin is the one
that was asked for, and all bound fields are up to date. -/
theorem Program.activation_settles (catalog : Catalog) (code : Action → Prop)
    (boundary : Boundary) (program : Program (.open catalog code)) {depth : Nat}
    (hact : Activates code depth act) (hrun : program.run act (.start boundary) = some ((), w))
    {name : String} {r : Except SkinError Nat} (h : activate act 0 name w = some (r, w')) :
    match (w.manager 0).skin? name with
    | none => r = .error (.unknownSkin name) ∧ w' = w
    | some skin => r = .ok ((List.range w.targets.length).countP w.isBound) ∧
        w'.UpToDate catalog w'.Leads ∧
        (w'.sent = w.sent + 1 →
          (w'.manager 0).active = some skin ∧ w'.UpToDate catalog fun _ _ _ => True) := by
  obtain ⟨hs, hhosts⟩ := Gives.granted.mp (run_sound hact.orderly boundary
    (fun context hcontext => by rw [hcontext]) program) () w hrun
  have hgives := Gives.granted.mp (activate_settles hact.orderly hact.fresh hs (hhosts 0)
    hs.open_contexts.1 hs.open_contexts.2 name) r w' h
  cases hskin : (w.manager 0).skin? name with
  | none =>
    rw [hskin] at hgives
    exact hgives
  | some skin =>
    rw [hskin] at hgives
    obtain ⟨hr, hsettled⟩ := hgives
    have hs' := hs.steady hsettled.steady
    rw [hs.active_length] at hr
    refine ⟨hr, ?_, fun halone => ?_⟩
    · obtain ⟨current, hcurrent, hholds⟩ := hsettled.leads
      exact hs'.upToDate hcurrent fun t A path hfollows f hf hleads =>
        hholds _ (hfollows.mem_leads hf hleads)
    · obtain ⟨hcurrent, hholds⟩ := hsettled.alone halone
      exact ⟨hcurrent, hs'.upToDate hcurrent fun t A path hfollows f hf _ =>
        hholds _ (hfollows.mem_places hf)⟩

/-! ## A badge that changes its mind

A badge has two slots. When its first slot gets the color of the day, its observer activates the
night. -/

namespace Badge

/-- The type of badges. -/
def type : TypeDefinition where
  info := .root "Badge" "Badge"
  fields := [
    { name := "face", layout := .reactive .color, source := some (.color, 1) },
    { name := "edge", layout := .reactive .color, source := some (.color, 2) }]

/-- The skin of the day. -/
def day : Skin := { name := "day", colors := [(1, ⟨10⟩), (2, ⟨20⟩)] }

/-- The skin of the night. -/
def night : Skin := { name := "night", colors := [(1, ⟨30⟩), (2, ⟨40⟩)] }

/-- The catalog of badges. -/
def types : Catalog where
  has A := A = type
  unique := by rintro A B rfl rfl -; rfl
  names := by rintro A rfl; decide
  parent := by rintro A declared name via up rfl hinfo; cases hinfo

/-- Whoever sees the first color of the day activates the night. -/
def changeMind : Act :=
  reacting (fun v => if v = some (.color ⟨10⟩) then some "night" else none) 3

/-- A badge is bound and gets an observer of its first slot. -/
def observed : Program (.open types fun _ => True) where
  commands := [.create type, .register type "BadgeThemeBinding", .addSkin 0 night, .addSkin 0 day,
    .bind 0 ⟨0, 0⟩, .observe 2 ⟨"face", .slot, [.activate 0 "night"]⟩]
  of := by simp [Command.Of, Setting.open, types]

end Badge

/-- A badge for which the day is activated ends with the night in its first slot. -/
theorem Badge.settles_at_night :
    Activates (fun _ => True) 3 Badge.changeMind ∧
    ∃ w n w', Badge.observed.run Badge.changeMind (.start .standard) = some ((), w) ∧
      activate Badge.changeMind 0 "day" w = some (.ok n, w') ∧ w'.isBound 0 ∧
      w'.UpToDate Badge.types w'.Leads ∧ (w'.manager 0).active = some Badge.night := by
  have hrun : (Badge.observed.run Badge.changeMind (.start .standard)).isSome = true := by
    decide +kernel
  obtain ⟨⟨⟨⟩, w⟩, hw⟩ := Option.isSome_iff_exists.mp hrun
  have hafter : ((Badge.observed.run Badge.changeMind (.start .standard)).bind fun r =>
      (activate Badge.changeMind 0 "day" r.2).map fun r' =>
        ((r.2.manager 0).skin? "day", r'.2.isBound 0, (r'.2.manager 0).active)) =
      some (some Badge.day, true, some Badge.night) := by decide +kernel
  rw [hw, Option.bind_some, Option.map_eq_some_iff] at hafter
  obtain ⟨⟨r, w'⟩, hw', hskins⟩ := hafter
  simp only [Prod.mk.injEq] at hskins
  obtain ⟨hday, hbound, hnight⟩ := hskins
  have hact : Activates (fun _ => True) 3 Badge.changeMind := reacting_activates _ 3
  have hsettles :=
    Program.activation_settles Badge.types (fun _ => True) .standard Badge.observed hact hw hw'
  rw [hday] at hsettles
  obtain ⟨rfl, hleads, -⟩ := hsettles
  exact ⟨hact, w, _, w', hw, hw', hbound, hleads, hnight⟩

namespace Badge

/-- Whether the badge is bound, the active skin, and what the slot in a field of the badge holds. -/
def glimpse (field : BoundField) (w : World) : Bool × Option Skin × Option Value :=
  (w.isBound 0, (w.manager 0).active,
    (w.slotAt? ⟨0, [], "Badge"⟩ field.name).bind fun s => w.slots[s]?.bind Slot.value)

/-- If the badge is up to date, its slots hold what the active skin has for them. -/
theorem glimpse_of_upToDate (h : w.UpToDate types fun _ _ _ => True) (hbound : w.isBound 0)
    {field : BoundField} (hfield : field ∈ type.bound) (hshape : field.shape = .reactive) :
    ∃ skin, glimpse field w = (true, some skin, some (skin.value field)) := by
  obtain ⟨skin, hskin, hall⟩ := h
  obtain ⟨T, A, path, hT, hembeds, -, hholds⟩ := hall 0 hbound
  have hA : A = type := hembeds.has
  have hpath : path = [] := by
    cases hembeds with
    | self h => rfl
    | up hA' _ hinfo _ =>
      obtain rfl : T = type := hA'
      cases hinfo
  subst hA hpath
  have hslots := hholds field hfield trivial
  rw [World.Holds, hshape] at hslots
  obtain ⟨s, slot, hkind, hslot, hvalue⟩ := hslots
  refine ⟨skin, ?_⟩
  rw [glimpse, hbound, hskin, World.slotAt?_eq_some.mpr hkind, Option.bind_some, hslot,
    Option.bind_some, hvalue]

/-- The second slot. -/
def edge : BoundField := ⟨⟨"edge", .reactive, .color, 2⟩, .color⟩

theorem edge_bound : edge ∈ type.bound := by decide

end Badge

/-- **The badge is not up to date**: its second slot comes after one whose observer activates, and
holds what the day has for it while the night is active. -/
theorem Badge.not_upToDate :
    Activates (fun _ => True) 3 Badge.changeMind ∧
    ∃ w w', Badge.observed.run Badge.changeMind (.start .standard) = some ((), w) ∧
      activate Badge.changeMind 0 "day" w = some (.ok 1, w') ∧ w'.isBound 0 ∧
      Badge.glimpse Badge.edge w' = (true, some Badge.night, some (.color ⟨20⟩)) ∧
      ¬ w'.UpToDate Badge.types fun _ _ _ => True := by
  have hrun : ((Badge.observed.run Badge.changeMind (.start .standard)).bind fun before =>
      (activate Badge.changeMind 0 "day" before.2).map fun after =>
        (after.1, Badge.glimpse Badge.edge after.2)) =
      some (.ok 1, true, some Badge.night, some (.color ⟨20⟩)) := by decide +kernel
  obtain ⟨⟨⟨⟩, w⟩, hw, hrun⟩ := Option.bind_eq_some_iff.mp hrun
  obtain ⟨⟨r, w'⟩, hw', heq⟩ := Option.map_eq_some_iff.mp hrun
  obtain ⟨rfl, hglimpse⟩ := Prod.mk.inj heq
  have hbound : w'.isBound 0 := congrArg Prod.fst hglimpse
  refine ⟨reacting_activates _ 3, w, w', hw, hw', hbound, hglimpse, fun hupToDate => ?_⟩
  obtain ⟨skin, hskin⟩ :=
    Badge.glimpse_of_upToDate hupToDate hbound Badge.edge_bound rfl
  rw [hglimpse] at hskin
  simp only [Prod.mk.injEq, Option.some.injEq, true_and] at hskin
  obtain ⟨rfl, hvalue⟩ := hskin
  exact absurd hvalue (by decide)

end Live
end Theming
