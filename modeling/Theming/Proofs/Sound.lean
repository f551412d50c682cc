/-
# Sound worlds

Between two calls of a program that binds generated companions, the world is in order
(`Sound`): contents are what the types of their targets ask for, no slot belongs to two fields, an
attached companion keeps the fields of a type that is embedded where its handle leads, and the
listeners of a broadcaster are the active companions that were made with it, in the order in which
their targets were bound last.

Most steps touch nothing of this; they are `Steady`, and a steady step keeps a world sound
(`Sound.steady`).
-/

import Theming.Live.Action
import Theming.Proofs.Catalog
import Theming.Proofs.Fields

namespace Theming

namespace Live

/-- What a program is made of: the types it declares, the contexts with which it binds, and what its
observers do. -/
structure Setting where
  catalog : Catalog
  contexts : Context → Prop
  actions : Action → Prop

namespace World

/-- The type of a target. -/
def typeOf? (w : World) (t : TargetId) : Option TypeDefinition := w.targets[t]?.map Target.type

/-- Whether a companion was made with a broadcaster. -/
def hears (w : World) (b : BroadcasterId) (id : CompanionId) : Bool :=
  (w.companions[id]?.map fun c => c.context.broadcaster) == some b

/-- The active companions that were made with a broadcaster, the one bound last at the end. -/
def followers (w : World) (b : BroadcasterId) : List CompanionId :=
  ((w.binder.active.map Prod.snd).filter (w.hears b)).reverse

/-- A companion keeps the fields of a type that is embedded where its handle leads. -/
def Attached (w : World) (catalog : Catalog) (c : Companion) (h : Handle) : Prop :=
  ∃ T A name, w.typeOf? h.target = some T ∧ catalog.Embeds T h.path A ∧
    c.entry = .keeper A name ∧ h.type = A.info.declared

end World

/-- The world of a program is in order. -/
structure Sound (setting : Setting) (w : World) : Prop where
  types : ∀ t T, w.typeOf? t = some T → setting.catalog.has T
  shapes : ∀ t T, w.typeOf? t = some T → ∀ p l, T.layout.at? p = some l →
    ∃ k, w.kindAt? t p = some k ∧ k.Suits l
  ranged : ∀ t p s, w.kindAt? t p = some (.reactive s) → s < w.slots.length
  apart : ∀ t p t' p' s, w.kindAt? t p = some (.reactive s) →
    w.kindAt? t' p' = some (.reactive s) → t = t' ∧ p = p'
  acts : ∀ x ∈ w.slots, ∀ o ∈ x.observers, ∀ a ∈ o.actions, setting.actions a
  finds : w.binder.resolver.Finds setting.catalog.Keeps
  keys : (w.binder.active.map Prod.fst).Nodup
  attached : ∀ (id : CompanionId) c h, w.companions[id]? = some c → c.target = some h →
    w.Attached setting.catalog c h
  active : ∀ t id, (t, id) ∈ w.binder.active →
    ∃ c h, w.companions[id]? = some c ∧ c.target = some h ∧ h.target = t
  contexts : ∀ c ∈ w.companions, setting.contexts c.context
  reached : ∀ context, setting.contexts context → context.broadcaster < w.broadcasters.length
  listening : ∀ b, w.listeners b = (w.followers b).map Listener.companion

/-- A step that changes values at most: no types, kinds or slots, no observers, listeners, skins or
companions. -/
structure Steady (w w' : World) : Prop where
  binder : w'.binder = w.binder
  companions : w'.companions = w.companions
  types : ∀ t, w'.typeOf? t = w.typeOf? t
  kinds : ∀ t p, w'.kindAt? t p = w.kindAt? t p
  observers : w'.slots.map Slot.observers = w.slots.map Slot.observers
  listeners : w'.broadcasters.map Broadcaster.listeners = w.broadcasters.map Broadcaster.listeners
  skins : w'.managers.map (fun m => (m.broadcaster, m.skins)) =
    w.managers.map (fun m => (m.broadcaster, m.skins))

namespace Steady

variable {w w' w'' : World}

theorem refl (w : World) : Steady w w := ⟨rfl, rfl, fun _ => rfl, fun _ _ => rfl, rfl, rfl, rfl⟩

theorem trans (h : Steady w w') (h' : Steady w' w'') : Steady w w'' where
  binder := h'.binder.trans h.binder
  companions := h'.companions.trans h.companions
  types t := (h'.types t).trans (h.types t)
  kinds t p := (h'.kinds t p).trans (h.kinds t p)
  observers := h'.observers.trans h.observers
  listeners := h'.listeners.trans h.listeners
  skins := h'.skins.trans h.skins

theorem record (w : World) (o : Occurrence) : Steady w (w.record o) :=
  ⟨rfl, rfl, fun _ => rfl, fun _ _ => rfl, rfl, rfl, rfl⟩

theorem tell (w : World) (level : Log.Level) (message : String) : Steady w (w.tell level message) :=
  record w _

theorem typeOf?_modifyContent (w : World) (t t' : TargetId) (p : List String)
    (f : Content → Content) : (w.modifyContent t p f).typeOf? t' = w.typeOf? t' := by
  rw [World.typeOf?, World.typeOf?, World.modifyContent, List.getElem?_modify,
    Option.map_eq_map, Option.map_map]
  refine congrArg (fun g => (w.targets[t']?).map g) (funext fun x => ?_)
  dsimp only [Function.comp]
  split_ifs <;> rfl

/-- A change that keeps kinds where it is made is steady. -/
theorem modifyContent {t : TargetId} {p : List String} {f : Content → Content}
    (h : ∀ c, w.content? t p = some c → ∀ r, (f c).kindAt? r = c.kindAt? r) :
    Steady w (w.modifyContent t p f) :=
  { refl w with
    types := fun t' => typeOf?_modifyContent w t t' p f
    kinds := fun _ _ => World.kindAt?_modifyContent h }

/-- Putting a leaf in place of another of its kind is steady. -/
theorem assign {handle : Handle} {field : String} {c : Content}
    (h : w.kindAt? handle.target (handle.path ++ [field]) = some c.kind) (hleaf : c.kind ≠ .part) :
    Steady w (w.assign handle field c) :=
  { refl w with
    types := fun t' => typeOf?_modifyContent w _ t' _ _
    kinds := fun _ _ => World.kindAt?_assign h hleaf }

theorem store (w : World) (s : SlotId) (v : Value) : Steady w (w.store s v) :=
  { refl w with
    observers := by
      refine List.ext_getElem? fun i => ?_
      rw [List.getElem?_map, List.getElem?_map, World.slots_store]
      split_ifs with h
      · rw [h, Option.map_map]
        rfl
      · rfl }

theorem retrace (w : World) (trace : List Occurrence) : Steady w { w with trace } :=
  ⟨rfl, rfl, fun _ => rfl, fun _ _ => rfl, rfl, rfl, rfl⟩

theorem pin (w : World) (pinned : List Listener) : Steady w { w with pinned } :=
  ⟨rfl, rfl, fun _ => rfl, fun _ _ => rfl, rfl, rfl, rfl⟩

theorem modifyBroadcaster {b : BroadcasterId} {f : Broadcaster → Broadcaster}
    (h : ∀ x, w.broadcasters[b]? = some x → (f x).listeners = x.listeners) :
    Steady w (w.modifyBroadcaster b f) :=
  { refl w with
    listeners := by
      refine List.ext_getElem? fun i => ?_
      rw [World.modifyBroadcaster, List.getElem?_map, List.getElem?_map, List.getElem?_modify]
      cases hi : w.broadcasters[i]? with
      | none => rfl
      | some x =>
        by_cases hb : b = i
        · subst hb
          simpa using h x hi
        · simp [hb] }

theorem modifyManager {m : ManagerId} {f : SkinManager → SkinManager}
    (h : ∀ x, (f x).broadcaster = x.broadcaster ∧ (f x).skins = x.skins) :
    Steady w (w.modifyManager m f) :=
  { refl w with
    skins := by
      refine List.ext_getElem? fun i => ?_
      rw [World.modifyManager, List.getElem?_map, List.getElem?_map, List.getElem?_modify]
      cases w.managers[i]? with
      | none => rfl
      | some x =>
        obtain ⟨hb, hs⟩ := h x
        by_cases hm : m = i <;> simp [hm, hb, hs] }

/-! ## What a steady step keeps -/

section Keeps

variable (h : Steady w w')
include h

theorem slots_length : w'.slots.length = w.slots.length := by
  simpa using congrArg List.length h.observers

theorem observers_eq (s : SlotId) : w'.observers s = w.observers s := by
  have hs := congrArg (·[s]?) h.observers
  simp only [List.getElem?_map] at hs
  rw [World.observers, World.observers, hs]

theorem listeners_eq (b : BroadcasterId) : w'.listeners b = w.listeners b := by
  have hb := congrArg (·[b]?) h.listeners
  simp only [List.getElem?_map] at hb
  rw [World.listeners, World.listeners, hb]

theorem broadcasters_length : w'.broadcasters.length = w.broadcasters.length := by
  simpa using congrArg List.length h.listeners

theorem followers_eq (b : BroadcasterId) : w'.followers b = w.followers b := by
  rw [World.followers, World.followers, h.binder]
  have hhears : w'.hears b = w.hears b := by
    funext id
    rw [World.hears, World.hears, h.companions]
  rw [hhears]

theorem attached {catalog : Catalog} {c : Companion} {handle : Handle}
    (ha : w.Attached catalog c handle) : w'.Attached catalog c handle := by
  obtain ⟨T, A, name, hT, hrest⟩ := ha
  exact ⟨T, A, name, (h.types handle.target).trans hT, hrest⟩

theorem manager_skins (m : ManagerId) :
    (w'.manager m).broadcaster = (w.manager m).broadcaster ∧
      (w'.manager m).skins = (w.manager m).skins := by
  have hm := congrArg (·[m]?) h.skins
  simp only [List.getElem?_map] at hm
  rw [World.manager, World.manager]
  cases hw : w.managers[m]? <;> cases hw' : w'.managers[m]? <;> rw [hw, hw'] at hm <;> simp_all

end Keeps
end Steady

/-- **A steady step keeps a world in order.** -/
theorem Sound.steady {setting : Setting} {w w' : World} (hs : Sound setting w)
    (h : Steady w w') : Sound setting w' where
  types t T hT := hs.types t T ((h.types t).symm.trans hT)
  shapes t T hT p l hl := by
    rw [h.kinds]
    exact hs.shapes t T ((h.types t).symm.trans hT) p l hl
  ranged t p s hp := by
    rw [h.slots_length]
    exact hs.ranged t p s ((h.kinds t p).symm.trans hp)
  apart t p t' p' s hp hp' :=
    hs.apart t p t' p' s ((h.kinds t p).symm.trans hp) ((h.kinds t' p').symm.trans hp')
  acts x hx o ho := by
    have hmem : x.observers ∈ w.slots.map Slot.observers :=
      h.observers ▸ List.mem_map_of_mem hx
    obtain ⟨y, hy, hobs⟩ := List.mem_map.mp hmem
    exact hs.acts y hy o (hobs ▸ ho)
  finds := h.binder ▸ hs.finds
  keys := h.binder ▸ hs.keys
  attached id c handle hc htarget :=
    h.attached (hs.attached id c handle (h.companions ▸ hc) htarget)
  active t id hmem := by
    rw [h.companions]
    exact hs.active t id (h.binder ▸ hmem)
  contexts c hc := hs.contexts c (h.companions ▸ hc)
  reached context hcontext := by
    rw [h.broadcasters_length]
    exact hs.reached context hcontext
  listening b := by
    rw [h.listeners_eq, h.followers_eq, hs.listening]

end Live
end Theming
