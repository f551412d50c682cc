/-
# Skins against their history

All that becomes of the skins of a manager can be told in two kinds of events.

| event | what the name stands for | which skin is active |
| --- | --- | --- |
| `added` | the skin, from now on | the skin, if there was none |
| `activated` | | the one that the name stands for at this moment |

Replaying its events leads from a new manager to what it is (`SkinManager.replay?`). The active skin
is held apart from the names, so a skin that is added later does not reach it: it is the one that was
added last under the name activated last, before that name was activated
(`SkinManager.recalls_of_replay?`).
-/

import Theming.Live.Skins
import Theming.Proofs.Association

namespace Theming
namespace Live

/-- Something that happens to the skins of a manager. -/
inductive SkinEvent where
  | added (skin : Skin)
  | activated (name : String)
deriving DecidableEq

/-- A skin is the last one that was added under a name. -/
def LastAdded (history : List SkinEvent) (name : String) (skin : Skin) : Prop :=
  skin.name = name ∧ ∃ before after, history = before ++ .added skin :: after ∧
    ∀ other, .added other ∈ after → other.name ≠ name

namespace SkinManager

variable {m m' m'' : SkinManager} {history events : List SkinEvent}

/-- The manager after an event; only what is known can be activated. -/
def after? (m : SkinManager) : SkinEvent → Option SkinManager
  | .added skin => some (m.add skin)
  | .activated name => (m.skin? name).map fun skin => { m with active := some skin }

/-- The manager after events that happen one after the other. -/
def replay? (m : SkinManager) (events : List SkinEvent) : Option SkinManager :=
  events.foldlM after? m

theorem replay?_append (m : SkinManager) (events later : List SkinEvent) :
    m.replay? (events ++ later) = (m.replay? events).bind fun m' => m'.replay? later :=
  List.foldlM_append

theorem replay?_cons (m : SkinManager) (e : SkinEvent) (events : List SkinEvent) :
    m.replay? (e :: events) = (m.after? e).bind fun m' => m'.replay? events :=
  List.foldlM_cons

theorem replay?_singleton (m : SkinManager) (e : SkinEvent) : m.replay? [e] = m.after? e := by
  rw [replay?_cons]
  cases m.after? e <;> rfl

theorem replay?_trans {later : List SkinEvent} (h : m.replay? events = some m')
    (h' : m'.replay? later = some m'') : m.replay? (events ++ later) = some m'' := by
  rw [replay?_append, h]
  exact h'

/-- Replaying leads through what comes between. -/
theorem replay?_split {later : List SkinEvent} (h : m.replay? (events ++ later) = some m'') :
    ∃ m', m.replay? events = some m' ∧ m'.replay? later = some m'' := by
  rw [replay?_append] at h
  exact Option.bind_eq_some_iff.mp h

/-! ## Names -/

theorem skin?_add (m : SkinManager) (skin : Skin) (name : String) :
    (m.add skin).skin? name = if name = skin.name then some skin else m.skin? name :=
  lookup_put _ _ _ _

/-- Names that nothing is added under stand for what they stood for. -/
theorem skin?_replay?_of_ne {name : String} (h : m.replay? events = some m')
    (hother : ∀ skin, .added skin ∈ events → skin.name ≠ name) : m'.skin? name = m.skin? name := by
  induction events generalizing m with
  | nil =>
    obtain rfl := Option.some.inj h
    rfl
  | cons e rest ih =>
    rw [replay?_cons] at h
    obtain ⟨m₁, hfirst, hrest⟩ := Option.bind_eq_some_iff.mp h
    rw [ih hrest fun skin hskin => hother skin (List.mem_cons_of_mem _ hskin)]
    cases e with
    | added skin =>
      obtain rfl := Option.some.inj hfirst
      have hne : name ≠ skin.name := (hother skin List.mem_cons_self).symm
      rw [skin?_add, if_neg hne]
    | activated other =>
      obtain ⟨skin, -, rfl⟩ := Option.map_eq_some_iff.mp hfirst
      rfl

theorem skin?_of_lastAdded {name : String} {skin : Skin} (h : m.replay? history = some m')
    (hlast : LastAdded history name skin) : m'.skin? name = some skin := by
  obtain ⟨hname, before, after, rfl, hafter⟩ := hlast
  obtain ⟨m₁, -, hrest⟩ := replay?_split h
  have hadded : (m₁.add skin).replay? after = some m' := hrest
  rw [skin?_replay?_of_ne hadded hafter, skin?_add, if_pos hname.symm]

theorem exists_lastAdded {name : String}
    (h : ∃ skin, .added skin ∈ history ∧ skin.name = name) :
    ∃ skin, LastAdded history name skin := by
  obtain ⟨skin, hskin, hname⟩ := h
  obtain ⟨before, e, after, hsplit, ⟨last, rfl, hlast⟩, hafter⟩ := exists_last_of_mem
    (p := fun e => ∃ skin, e = SkinEvent.added skin ∧ skin.name = name) ⟨_, hskin, skin, rfl, hname⟩
  exact ⟨last, hlast, before, after, hsplit, fun other hother hname =>
    hafter _ hother ⟨other, rfl, hname⟩⟩

/-- **A name stands for the skin that was added last under it.** -/
theorem skin?_replay? (hnew : m.skins = []) (h : m.replay? history = some m') (name : String)
    (skin : Skin) : m'.skin? name = some skin ↔ LastAdded history name skin := by
  refine ⟨fun hskin => ?_, skin?_of_lastAdded h⟩
  by_cases hadded : ∃ skin, .added skin ∈ history ∧ skin.name = name
  · obtain ⟨last, hlast⟩ := exists_lastAdded hadded
    obtain rfl := Option.some.inj (hskin.symm.trans (skin?_of_lastAdded h hlast))
    exact hlast
  · have hnone : m'.skin? name = m.skin? name :=
      skin?_replay?_of_ne h fun other hother hname => hadded ⟨other, hother, hname⟩
    rw [hnone, skin?, hnew] at hskin
    cases hskin

/-! ## The active skin -/

/-- Adding skins leaves the one that is active. -/
theorem active_replay?_of_some {skin : Skin} (h : m.replay? events = some m')
    (hactive : m.active = some skin) (hnone : ∀ name, .activated name ∉ events) :
    m'.active = some skin := by
  induction events generalizing m with
  | nil =>
    obtain rfl := Option.some.inj h
    exact hactive
  | cons e rest ih =>
    rw [replay?_cons] at h
    obtain ⟨m₁, hfirst, hrest⟩ := Option.bind_eq_some_iff.mp h
    have hnone' : ∀ name, .activated name ∉ rest := fun name hname =>
      hnone name (List.mem_cons_of_mem _ hname)
    cases e with
    | added other =>
      obtain rfl := Option.some.inj hfirst
      refine ih hrest ?_ hnone'
      rw [add, hactive]
      rfl
    | activated name => exact absurd List.mem_cons_self (hnone name)

theorem active_of_head {skin : Skin} (hidle : m.active = none)
    (h : m.replay? (.added skin :: events) = some m') (hnone : ∀ name, .activated name ∉ events) :
    m'.active = some skin := by
  have hadded : (m.add skin).replay? events = some m' := h
  refine active_replay?_of_some hadded ?_ hnone
  rw [add, hidle]
  rfl

/-- **Without an activation**, the first skin that is added becomes active. -/
theorem active_of_first {before after : List SkinEvent} {skin : Skin} (hidle : m.active = none)
    (h : m.replay? (before ++ .added skin :: after) = some m')
    (hfirst : ∀ other, .added other ∉ before)
    (hnone : ∀ name, .activated name ∉ before ++ .added skin :: after) :
    m'.active = some skin := by
  cases before with
  | nil => exact active_of_head hidle h fun name hname => hnone name (List.mem_cons_of_mem _ hname)
  | cons e rest =>
    cases e with
    | added other => exact absurd List.mem_cons_self (hfirst other)
    | activated name => exact absurd List.mem_cons_self (hnone name)

/-- **A name that is activated last** makes the skin active that was added last under it before. -/
theorem active_of_last {before after : List SkinEvent} {name : String} (hnew : m.skins = [])
    (h : m.replay? (before ++ .activated name :: after) = some m')
    (hlast : ∀ other, .activated other ∉ after) :
    ∃ skin, LastAdded before name skin ∧ m'.active = some skin := by
  obtain ⟨m₁, hbefore, hrest⟩ := replay?_split h
  rw [replay?_cons] at hrest
  obtain ⟨m₂, hswitch, hafter⟩ := Option.bind_eq_some_iff.mp hrest
  obtain ⟨skin, hskin, rfl⟩ := Option.map_eq_some_iff.mp hswitch
  exact ⟨skin, (skin?_replay? hnew hbefore name skin).mp hskin,
    active_replay?_of_some hafter rfl hlast⟩

/-- What a manager is, from all that has happened to its skins. -/
structure Recalls (m : SkinManager) (history : List SkinEvent) : Prop where
  /-- A name is known if a skin was added under it. -/
  known : ∀ name, (m.skin? name).isSome = true ↔ ∃ skin, .added skin ∈ history ∧ skin.name = name
  /-- It stands for the last one. -/
  stands : ∀ name skin, m.skin? name = some skin ↔ LastAdded history name skin
  /-- No skin is active just if none was ever added. -/
  idle : m.active = none ↔ ∀ skin, .added skin ∉ history
  /-- The name of the active skin is known. -/
  current : ∀ skin, m.active = some skin → (m.skin? skin.name).isSome = true
  /-- The active skin is the one that the name activated last stood for at that moment. -/
  switched : ∀ before name after, history = before ++ .activated name :: after →
    (∀ other, .activated other ∉ after) →
      ∃ skin, LastAdded before name skin ∧ m.active = some skin
  /-- As long as nothing was activated, it is the very first one. -/
  first : ∀ before skin after, history = before ++ .added skin :: after →
    (∀ other, .added other ∉ before) → (∀ name, .activated name ∉ history) → m.active = some skin

theorem LastAdded.mem {name : String} {skin : Skin} (h : LastAdded history name skin) :
    .added skin ∈ history := by
  obtain ⟨-, before, after, rfl, -⟩ := h
  exact List.mem_append_right _ List.mem_cons_self

theorem known_replay? (hnew : m.skins = []) (h : m.replay? history = some m') (name : String) :
    (m'.skin? name).isSome = true ↔ ∃ skin, .added skin ∈ history ∧ skin.name = name := by
  rw [Option.isSome_iff_exists]
  refine ⟨fun ⟨skin, hskin⟩ => ?_, fun hadded => ?_⟩
  · have hlast := (skin?_replay? hnew h name skin).mp hskin
    exact ⟨skin, LastAdded.mem hlast, hlast.1⟩
  · obtain ⟨skin, hlast⟩ := exists_lastAdded hadded
    exact ⟨skin, skin?_of_lastAdded h hlast⟩

/-- As soon as anything has happened, a skin is active that was added. -/
theorem active_replay? (hnew : m.skins = []) (hidle : m.active = none)
    (h : m.replay? history = some m') :
    (history = [] ∧ m'.active = none) ∨ ∃ skin, .added skin ∈ history ∧ m'.active = some skin := by
  by_cases hswitched : ∃ e ∈ history, ∃ name, e = SkinEvent.activated name
  · obtain ⟨before, e, after, rfl, ⟨name, rfl⟩, hafter⟩ := exists_last_of_mem hswitched
    obtain ⟨skin, hlast, hactive⟩ := active_of_last hnew h fun other hother =>
      hafter _ hother ⟨other, rfl⟩
    exact .inr ⟨skin, List.mem_append_left _ (LastAdded.mem hlast), hactive⟩
  · have hnone : ∀ name, .activated name ∉ history := fun name hname =>
      hswitched ⟨_, hname, name, rfl⟩
    cases history with
    | nil =>
      obtain rfl := Option.some.inj h
      exact .inl ⟨rfl, hidle⟩
    | cons e rest =>
      cases e with
      | added first =>
        exact .inr ⟨first, List.mem_cons_self, active_of_head hidle h fun name hname =>
          hnone name (List.mem_cons_of_mem _ hname)⟩
      | activated name => exact absurd List.mem_cons_self (hnone name)

/-- **A manager recalls its history**: what it is can be told from the events that led to it from a
new one. -/
theorem recalls_of_replay? (hnew : m.skins = []) (hidle : m.active = none)
    (h : m.replay? history = some m') : m'.Recalls history where
  known := known_replay? hnew h
  stands := skin?_replay? hnew h
  idle := by
    rcases active_replay? hnew hidle h with ⟨rfl, hnone⟩ | ⟨skin, hskin, hactive⟩
    · exact ⟨fun _ => nofun, fun _ => hnone⟩
    · refine ⟨fun hnone => ?_, fun hunadded => absurd hskin (hunadded skin)⟩
      cases hactive.symm.trans hnone
  current skin hactive := by
    rcases active_replay? hnew hidle h with ⟨-, hnone⟩ | ⟨skin', hskin, hactive'⟩
    · cases hactive.symm.trans hnone
    · obtain rfl := Option.some.inj (hactive.symm.trans hactive')
      exact (known_replay? hnew h skin.name).mpr ⟨skin, hskin, rfl⟩
  switched before name after hsplit hlast := active_of_last hnew (hsplit ▸ h) hlast
  first before skin after hsplit hfirst hnone :=
    active_of_first hidle (hsplit ▸ h) hfirst (hsplit ▸ hnone)

end SkinManager
end Live
end Theming
