/-
# A change of theme, from end to end

When a skin is activated in a run whose observers only read and record, every bound field of every
bound target is renewed, and the number that the activation gives is that of the bound targets. This
holds of every activation after every run (`Program.activation_applies`).

The proof follows the notification. `Underway` says how far it has come: which fields have been
renewed, which calls have been made, and that nothing else has changed. One companion adds its own
fields, first those that are no slots and then its slots (`Underway.updateTheme`).
-/

import Theming.Proofs.Renewal
import Theming.Proofs.Runs

namespace Theming
namespace Live

/-- The notification has renewed the fields of `done`, made the calls of `due`, and left everything
else as it was before the activation. -/
structure Underway (skin : Skin) (w₀ : World) (done : List Place) (due : List Due)
    (w : World) : Prop where
  steady : Steady w₀ w
  active : (w.manager 0).active = some skin
  renewed : ∀ x ∈ done, x.Renewed skin w₀ w
  contents : ∀ t p, (∀ x ∈ done, x.target = t → x.field.shape ≠ .reactive → ¬ p <+: x.path) →
    w.content? t p = w₀.content? t p
  slots : ∀ s, (∀ x ∈ done, x.field.shape = .reactive →
    w₀.kindAt? x.target x.path ≠ some (.reactive s)) → w.slots[s]? = w₀.slots[s]?
  seen : ∃ os, w.observations = w₀.observations ++ os ∧ List.Forall₂ (Due.Met skin w₀) due os

namespace Underway

variable {setting : Setting} {short : Prop} {act : Act} {skin : Skin} {w₀ w w' : World}
  {done done' : List Place} {due : List Due}

/-- Only which fields are done matters, not in which order. -/
theorem of_mem_iff (h : Underway skin w₀ done due w) (hdone : ∀ x, x ∈ done' ↔ x ∈ done) :
    Underway skin w₀ done' due w where
  steady := h.steady
  active := h.active
  renewed x hx := h.renewed x ((hdone x).mp hx)
  contents t p hp := h.contents t p fun x hx => hp x ((hdone x).mpr hx)
  slots s hs := h.slots s fun x hx => hs x ((hdone x).mpr hx)
  seen := h.seen

/-- Steps that touch nothing do not matter. -/
theorem quiet (h : Underway skin w₀ done due w) (hquiet : Quiet w w') :
    Underway skin w₀ done due w' := by
  refine ⟨h.steady.trans hquiet.steady, ?_, ?_, ?_, ?_, ?_⟩
  · rw [hquiet.manager]
    exact h.active
  · exact fun x hx => (h.renewed x hx).of_eq (hquiet.content? _ _) fun s _ _ => by
      rw [hquiet.slots]
  · exact fun t p hp => (hquiet.content? t p).trans (h.contents t p hp)
  · intro s hs
    rw [hquiet.slots]
    exact h.slots s hs
  · rw [hquiet.observations]
    exact h.seen

/-- **The first round of a companion** renews its fields that are no slots. -/
theorem refreshed (h : Underway skin w₀ done due w) {handle : Handle} {fields : List BoundField}
    (hr : Refreshed w handle skin fields w') (hdone : ∀ x ∈ done, x.target ≠ handle.target) :
    Underway skin w₀
      (done ++ (placesAt handle fields).filter fun x => x.field.shape ≠ .reactive) due w' := by
  have hmem : ∀ f ∈ fields, f.shape ≠ .reactive →
      (⟨handle.target, handle.path ++ [f.name], f⟩ : Place) ∈
        done ++ (placesAt handle fields).filter fun x => x.field.shape ≠ .reactive := by
    intro f hf hshape
    refine List.mem_append_right _ (List.mem_filter.mpr ⟨List.mem_map_of_mem hf, ?_⟩)
    simpa using hshape
  refine ⟨h.steady.trans hr.steady, ?_, ?_, ?_, ?_, ?_⟩
  · rw [World.manager, hr.managers]
    exact h.active
  · intro x hx
    rcases List.mem_append.mp hx with hx | hx
    · refine (h.renewed x hx).of_eq ?_ fun s _ _ => by rw [hr.slots]
      exact hr.rest _ _ fun ht => absurd ht (hdone x hx)
    · exact Place.renewed_of_holds (hr.holds x hx) (by simpa using (List.mem_filter.mp hx).2)
  · intro t p hp
    rw [hr.rest t p fun ht f hf hshape => hp _ (hmem f hf hshape) ht.symm hshape]
    exact h.contents t p fun x hx => hp x (List.mem_append_left _ hx)
  · intro s hs
    rw [hr.slots]
    exact h.slots s fun x hx => hs x (List.mem_append_left _ hx)
  · rw [hr.observations]
    exact h.seen

/-- Setting the slot of a field renews it. -/
theorem store (hs₀ : Sound setting w₀) (h : Underway skin w₀ done due w) {x : Place} {s : SlotId}
    (hshape : x.field.shape = .reactive) (hkind : w₀.kindAt? x.target x.path = some (.reactive s))
    (hnew : ∀ y ∈ done, y.field.shape = .reactive →
      w₀.kindAt? y.target y.path ≠ some (.reactive s)) :
    Underway skin w₀ (done ++ [x]) due (w.store s (skin.value x.field)) := by
  have hcontent : ∀ {w : World}, w.kindAt? x.target x.path = some (.reactive s) →
      w.content? x.target x.path = some (.reactive s) := by
    intro w hk
    obtain ⟨c, hc, hreactive⟩ := World.kindAt?_eq_some.mp hk
    cases c <;> cases hreactive
    exact hc
  have hother : ∀ s', s' ≠ s → (w.store s (skin.value x.field)).slots[s']? = w.slots[s']? := by
    intro s' hne
    rw [World.slots_store, if_neg hne]
  refine ⟨h.steady.trans (.store w s _), h.active, ?_, ?_, ?_, h.seen⟩
  · intro y hy
    rcases List.mem_append.mp hy with hy | hy
    · refine (h.renewed y hy).of_eq rfl fun s' hs' hy' => hother s' ?_
      rintro rfl
      exact hnew y hy hy' (World.kindAt?_eq_some.mpr ⟨_, hs', rfl⟩)
    · rw [List.mem_singleton.mp hy]
      unfold Place.Renewed
      rw [hshape]
      obtain ⟨slot, hslot⟩ : ∃ slot, w₀.slots[s]? = some slot :=
        ⟨_, List.getElem?_eq_getElem (hs₀.ranged _ _ _ hkind)⟩
      have hsame : w.slots[s]? = some slot := (h.slots s hnew).trans hslot
      refine ⟨s, slot, hcontent hkind, hcontent (w := w) ?_, hslot, ?_⟩
      · rw [h.steady.kinds]
        exact hkind
      · rw [World.slots_store, if_pos rfl, hsame]
        rfl
  · exact fun t p hp => h.contents t p fun y hy => hp y (List.mem_append_left _ hy)
  · intro s' hs'
    have hne : s' ≠ s := by
      rintro rfl
      exact hs' x (List.mem_append_right _ List.mem_cons_self) hshape hkind
    rw [hother s' hne]
    exact h.slots s' fun y hy => hs' y (List.mem_append_left _ hy)

/-- A call that meets what was due is one more call. -/
theorem called (h : Underway skin w₀ done due w) {d : Due} {o : Occurrence}
    (hobserved : o.isObserved = true) (hmet : d.Met skin w₀ o) :
    Underway skin w₀ done (due ++ [d]) (w.record o) := by
  obtain ⟨os, hos, hall⟩ := h.seen
  refine ⟨h.steady.trans (.record w o), h.active, h.renewed, h.contents, h.slots, os ++ [o], ?_,
    ?_⟩
  · have hrecord : (w.record o).observations = w.observations ++ [o] := by
      rw [World.observations, World.record, List.filter_append, List.filter_cons_of_pos hobserved]
      rfl
    rw [hrecord, hos, List.append_assoc]
  · exact List.rel_append hall (.cons hmet .nil)

/-- A renewed field that is no slot is seen as such. -/
theorem seen_of_renewed {t : TargetId} {path : List String} {f : BoundField} {v : View}
    (h : Place.Renewed skin w₀ w ⟨t, path, f⟩) (hv : View.renewed? skin f = some v) :
    (w.viewTarget t).at? path = some v := by
  unfold Place.Renewed at h
  rw [View.renewed?] at hv
  cases hshape : f.shape with
  | value =>
    rw [hshape] at h hv
    obtain rfl := Option.some.inj hv
    rw [World.at?_viewTarget h, World.view]
  | reference =>
    rw [hshape] at h hv
    obtain rfl := Option.some.inj hv
    rw [World.at?_viewTarget h, World.view]
  | reactive =>
    rw [hshape] at hv
    cases hv

/-- **An observer that is called once the slot is set** and the fields that are no slots are
renewed gets what is due. -/
theorem met (h : Underway skin w₀ done due w) {x : Place} {s : SlotId} (hx : x ∈ done)
    (hshape : x.field.shape = .reactive) (hkind : w₀.kindAt? x.target x.path = some (.reactive s))
    (hplain : ∀ A path, w₀.Follows x.target A path → ∀ f ∈ A.bound, f.shape ≠ .reactive →
      (⟨x.target, path ++ [f.name], f⟩ : Place) ∈ done) (o : Observer) :
    Due.Met skin w₀ ⟨x.target, s, skin.value x.field, o⟩
      (.observed o.tag (skin.value x.field) (o.glance.sight w s)) := by
  refine ⟨_, rfl, ?_⟩
  dsimp only
  cases hglance : o.glance with
  | nothing => rfl
  | slot =>
    have hrenewed := h.renewed x hx
    unfold Place.Renewed at hrenewed
    rw [hshape] at hrenewed
    obtain ⟨s', slot, hold, -, hslot, hset⟩ := hrenewed
    have hs : s' = s := by
      have hk := hkind
      rw [World.kindAt?, hold] at hk
      exact Content.Kind.reactive.inj (Option.some.inj hk)
    subst hs
    rw [Glance.sight, World.version, World.version, hset, hslot]
    rfl
  | target id =>
    refine ⟨w.viewTarget id, rfl, ?_⟩
    rintro rfl A path hfollows f hf v hv
    have hne : f.shape ≠ .reactive := by
      intro hf'
      rw [View.renewed?, hf'] at hv
      cases hv
    exact seen_of_renewed (h.renewed _ (hplain A path hfollows f hf hne)) hv

variable (hidle : ∀ a, ¬ setting.actions a)
include hidle

/-- **Setting the slot of a field** renews it and calls its observers. -/
theorem setSlot (hs₀ : Sound setting w₀) (h : Underway skin w₀ done due w) {x : Place}
    {s : SlotId} (hshape : x.field.shape = .reactive)
    (hkind : w₀.kindAt? x.target x.path = some (.reactive s))
    (hnew : ∀ y ∈ done, y.field.shape = .reactive →
      w₀.kindAt? y.target y.path ≠ some (.reactive s))
    (hplain : ∀ A path, w₀.Follows x.target A path → ∀ f ∈ A.bound, f.shape ≠ .reactive →
      (⟨x.target, path ++ [f.name], f⟩ : Place) ∈ done) :
    Gives short (Live.setSlot act s (skin.value x.field)) w fun _ w' =>
      Underway skin w₀ (done ++ [x]) (due ++ w₀.dueAt skin x) w' := by
  have hstore := h.store hs₀ hshape hkind hnew
  have hdue : w₀.dueAt skin x =
      (w₀.observers s).map fun o => ⟨x.target, s, skin.value x.field, o⟩ := by
    rw [World.dueAt, hshape, hkind]
  have hobservers : (w.store s (skin.value x.field)).observers s = w₀.observers s :=
    hstore.steady.observers_eq s
  rw [hdue]
  refine Gives.modify_bind (Gives.get_bind ?_)
  rw [hobservers]
  refine Gives.forM (fun called w' => Underway skin w₀ (done ++ [x])
    (due ++ called.map fun o => ⟨x.target, s, skin.value x.field, o⟩) w') (by simpa using hstore)
    fun called o rest hall w' h' => ?_
  have ho : o ∈ w₀.observers s := by
    rw [hall]
    exact List.mem_append_right _ List.mem_cons_self
  have hactions : o.actions = [] := by
    cases hlist : o.actions with
    | nil => rfl
    | cons a _ => exact absurd (hs₀.actions ho a (hlist ▸ List.mem_cons_self)) (hidle a)
  have hmet := h'.met (List.mem_append_right _ List.mem_cons_self) hshape hkind
    (fun A path hf f hfield hne => List.mem_append_left _ (hplain A path hf f hfield hne)) o
  refine Gives.modify_bind ?_
  rw [hactions, List.map_append, ← List.append_assoc]
  exact Gives.pure (h'.called rfl hmet)

/-- **The second round of a companion** sets its slots one after the other. -/
theorem publish (hs₀ : Sound setting w₀) {handle : Handle} (fields : List BoundField)
    (hsuited : w₀.Suited handle fields) (hnames : (fields.map fun f => f.name).Nodup)
    (h : Underway skin w₀ done due w) (hnew : Apart done handle fields)
    (hplain : ∀ A path, w₀.Follows handle.target A path → ∀ f ∈ A.bound, f.shape ≠ .reactive →
      (⟨handle.target, path ++ [f.name], f⟩ : Place) ∈ done) :
    Gives short ((fields.flatMap (w₀.pendingOf handle skin)).forM fun p =>
        Live.setSlot act p.slot p.value) w fun _ w' =>
      Underway skin w₀ (done ++ (placesAt handle fields).filter fun x => x.field.shape = .reactive)
        (due ++ (placesAt handle fields).flatMap (w₀.dueAt skin)) w' := by
  induction fields generalizing done due w with
  | nil => exact Gives.pure (by simpa [placesAt] using h)
  | cons field rest ih =>
    rw [List.map_cons, List.nodup_cons] at hnames
    have hrest : w₀.Suited handle rest := fun f hf => hsuited f (List.mem_cons_of_mem _ hf)
    rw [List.flatMap_cons, placesAt, List.map_cons, List.flatMap_cons, ← List.append_assoc]
    by_cases hshape : field.shape = .reactive
    · obtain ⟨s, hs⟩ := hsuited.slot List.mem_cons_self hshape
      rw [World.pendingOf_of_slot hshape hs, List.filter_cons_of_pos (by simpa using hshape),
        List.append_cons done]
      refine (h.setSlot hidle hs₀ (x := ⟨handle.target, handle.path ++ [field.name], field⟩) hshape
        hs (hnew.slot_ne hs₀ List.mem_cons_self hs) hplain).bind fun _ w' h' => ?_
      exact ih hrest hnames.2 h' (hnew.concat hnames.1)
        fun A path hA f hf hne => List.mem_append_left _ (hplain A path hA f hf hne)
    · rw [World.pendingOf_of_ne hshape, World.dueAt_of_ne hshape, List.nil_append,
        List.append_nil, List.filter_cons_of_neg (by simpa using hshape)]
      exact ih hrest hnames.2 h hnew.tail hplain

/-- **A companion that is told of the change** renews its fields, and no other ones. -/
theorem updateTheme (hs₀ : Sound setting w₀) (hmanager : ∀ c ∈ w₀.companions, c.context.manager = 0)
    (h : Underway skin w₀ done due w) {t : TargetId} {id : CompanionId}
    (hactive : (t, id) ∈ w₀.binder.active) (hdone : ∀ x ∈ done, x.target ≠ t) :
    Gives short (Live.updateTheme act id) w fun _ w' =>
      Underway skin w₀ (done ++ w₀.placesOf id) (due ++ (w₀.placesOf id).flatMap (w₀.dueAt skin))
        w' := by
  obtain ⟨c, handle, A, w₁, hc, htarget, hconduct, rfl, hA, hsuited, hrefreshed, hrun⟩ :=
    hs₀.updateTheme_eq h.steady hmanager hactive h.active
  have hfirst := h.refreshed hrefreshed hdone
  have hplain : ∀ A' path, w₀.Follows handle.target A' path → ∀ f ∈ A'.bound,
      f.shape ≠ .reactive → (⟨handle.target, path ++ [f.name], f⟩ : Place) ∈
        done ++ (placesAt handle A.bound).filter fun x => x.field.shape ≠ .reactive := by
    intro A' path hfollows f hf hne
    obtain ⟨id', hlookup, hplace⟩ := hfollows.mem_placesOf hf
    have hid : id' = id :=
      Option.some.inj (hlookup.symm.trans (lookup_of_mem hactive hs₀.keys))
    rw [hid, World.placesOf_eq hc htarget hconduct] at hplace
    exact List.mem_append_right _ (List.mem_filter.mpr ⟨hplace, by simpa using hne⟩)
  rw [World.placesOf_eq hc htarget hconduct, Gives, hrun]
  refine (hfirst.publish hidle hs₀ A.bound hsuited (Catalog.bound_names hA) (.of_target hdone)
    hplain).mono fun _ w' h' => h'.of_mem_iff fun x => ?_
  simp only [List.mem_append, List.mem_filter, decide_eq_true_eq]
  tauto

/-- **The notification of all listeners** renews all bound fields of all bound targets. -/
theorem notification (hs₀ : Sound setting w₀)
    (hcontexts : ∀ c ∈ w₀.companions, c.context = ⟨0, 0⟩) (h : Underway skin w₀ [] [] w) :
    Gives short (((w₀.followers 0).map Listener.companion).forM (Listener.apply act)) w
      fun _ w' => Underway skin w₀ w₀.places (w₀.due skin) w' := by
  rw [World.due, World.places, List.flatMap_assoc]
  refine hs₀.tell_active (fun c hc => by rw [hcontexts c hc])
    (fun told w' => Underway skin w₀
      (told.flatMap fun (entry : TargetId × CompanionId) => w₀.placesOf entry.2)
      (told.flatMap fun (entry : TargetId × CompanionId) =>
        (w₀.placesOf entry.2).flatMap (w₀.dueAt skin)) w') h fun told t id w' hactive htold h' => ?_
  rw [List.flatMap_append, List.flatMap_append, List.flatMap_singleton, List.flatMap_singleton]
  refine h'.updateTheme hidle hs₀ (fun c hc => by rw [hcontexts c hc]) hactive fun x hx => ?_
  obtain ⟨⟨t', id'⟩, hentry, hplace⟩ := List.mem_flatMap.mp hx
  rw [hs₀.target_of_mem_placesOf (htold _ hentry).1 hplace]
  exact (htold _ hentry).2

/-- **A whole notification** renews all bound fields and counts its listeners. -/
theorem notify (hs₀ : Sound setting w₀) (hcontexts : ∀ c ∈ w₀.companions, c.context = ⟨0, 0⟩)
    (h : Underway skin w₀ [] [] w) (name : String) :
    Gives short (Live.notify act 0 name) w fun n w' =>
      n = w₀.binder.active.length ∧ Underway skin w₀ w₀.places (w₀.due skin) w' := by
  have hcount := hs₀.followers_length fun c hc => by rw [hcontexts c hc]
  rw [← hcount, ← h.steady.followers_eq]
  refine (notify_gives (hs₀.steady h.steady) (Underway skin w₀ w₀.places (w₀.due skin))
    (fun w₁ h₁ _ => ?_) name).mono fun n w' h' => ?_
  · rw [h.steady.followers_eq]
    exact (h.quiet h₁).notification hidle hs₀ hcontexts
  · obtain ⟨hn, w'', h'', rfl⟩ := h'
    exact ⟨hn, (h''.quiet (.pin _ _)).quiet (send_quiet _ _ _)⟩

/-- **An activation** of a known skin renews all bound fields. -/
theorem activate (hs₀ : Sound setting w₀) (hcontexts : ∀ c ∈ w₀.companions, c.context = ⟨0, 0⟩)
    (hhost : (w₀.manager 0).broadcaster = 0) {name : String}
    (hskin : (w₀.manager 0).skin? name = some skin) :
    Gives short (Live.activate act 0 name) w₀ fun r w' =>
      r = .ok w₀.binder.active.length ∧ Underway skin w₀ w₀.places (w₀.due skin) w' := by
  have hswitch : Underway skin w₀ [] []
      (w₀.modifyManager 0 fun m => { m with active := some skin }) := by
    exact ⟨.modifyManager fun _ => ⟨rfl, rfl⟩, active_switch hskin, nofun, fun _ _ _ => rfl,
      fun _ _ => rfl, [], (List.append_nil _).symm, .nil⟩
  have htell := hswitch.quiet (World.quiet_tell _ .info ("Activated skin " ++ name))
  refine Gives.get_bind ?_
  dsimp only
  rw [hskin, hhost]
  refine Gives.modify_bind (Gives.modify_bind ?_)
  refine (htell.notify hidle hs₀ hcontexts name).bind fun n w' h' => ?_
  obtain ⟨rfl, h'⟩ := h'
  exact Gives.pure ⟨rfl, h'⟩

end Underway

/-! ## Every activation of every run -/

section Activation

variable {setting : Setting} {skin : Skin} {w w' : World}

/-- A notification that has come to its end is a change of theme. -/
theorem Underway.applied (hs : Sound setting w)
    (h : Underway skin w w.places (w.due skin) w') : Applied setting.catalog skin w w' where
  active := h.active
  binder := h.steady.binder
  types := h.steady.types
  follows t ht := hs.follows ht
  renewed t A path hfollows f hf := by
    obtain ⟨id, hlookup, hplace⟩ := hfollows.mem_placesOf hf
    refine h.renewed _ (List.mem_flatMap.mpr ⟨(t, id), ?_, hplace⟩)
    exact List.mem_reverse.mpr (mem_of_lookup hlookup)
  observers := h.seen
  rest t p hp := by
    have hapart : ∀ x ∈ w.places, x.target = t → ¬ p <+: x.path := by
      rintro x hx rfl
      obtain ⟨A, path, hfollows, hfield, hpath⟩ := hs.mem_places hx
      rw [hpath]
      exact hp A path hfollows x.field hfield
    refine ⟨h.contents t p fun x hx ht _ => hapart x hx ht, fun s hcontent => ?_⟩
    refine h.slots s fun x hx _ hkind => ?_
    have hkind' : w.kindAt? t p = some (.reactive s) :=
      World.kindAt?_eq_some.mpr ⟨_, hcontent, rfl⟩
    obtain ⟨ht, hpath⟩ := hs.apart _ _ _ _ _ hkind hkind'
    exact hapart x hx ht (hpath ▸ List.prefix_rfl)

/-- The setting of a program that binds with one context and whose observers only read and
record. -/
def Setting.reading (catalog : Catalog) : Setting where
  catalog := catalog
  contexts context := context = ⟨0, 0⟩
  actions _ := False

/-- **Every activation applies its skin.** Whatever a program with one context has done before, it
comes to a world in which every activation of a known skin succeeds, gives the number of bound
targets, and renews their bound fields; an unknown skin is refused and changes nothing. -/
theorem Program.activation_applies (catalog : Catalog) (boundary : Boundary) (act : Act)
    (program : Program (.reading catalog)) :
    ∃ w, program.run act (.start boundary) = some ((), w) ∧ ∀ name,
      match (w.manager 0).skin? name with
      | none => activate act 0 name w = some (.error (.unknownSkin name), w)
      | some skin => ∃ w', activate act 0 name w =
          some (.ok ((List.range w.targets.length).countP w.isBound), w') ∧
            Applied catalog skin w w' := by
  have hidle : ∀ a, ¬ (Setting.reading catalog).actions a := fun _ ha => ha
  have hrun : Gives False (program.run act) (.start boundary) _ :=
    run_sound (.of_idle hidle) boundary (fun context hcontext => by rw [hcontext]) program
  obtain ⟨⟨⟩, w, hw, hs, hhosts⟩ := Gives.total.mp hrun
  refine ⟨w, hw, fun name => ?_⟩
  cases hskin : (w.manager 0).skin? name with
  | none =>
    have hrefused : Gives False (activate act 0 name) w fun r w' =>
        r = .error (.unknownSkin name) ∧ w' = w := by
      refine Gives.get_bind ?_
      dsimp only
      rw [hskin]
      exact Gives.pure ⟨rfl, rfl⟩
    obtain ⟨r, w', hr, rfl, rfl⟩ := Gives.total.mp hrefused
    exact hr
  | some skin =>
    have hactivate : Gives False (activate act 0 name) w _ :=
      Underway.activate hidle hs (fun c hc => hs.contexts c hc) (hhosts 0) hskin
    obtain ⟨r, w', hr, rfl, hunderway⟩ := Gives.total.mp hactivate
    rw [← hs.active_length]
    exact ⟨w', hr, hunderway.applied hs⟩

end Activation

end Live
end Theming
