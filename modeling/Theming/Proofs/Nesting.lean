/-
# A notification that is disturbed

An activation from inside brings all leading fields up to date with the newer skin, and the
notification goes on with what it has put aside. `Caught` says how far it has come: the leading
fields of the companions that have been told are up to date with the skin that is active now,
whichever it is, since user code refreshes all leading fields or does nothing (`Refreshing`); and if
no activation has succeeded inside, all fields are.
-/

import Theming.Proofs.Leading

namespace Theming
namespace Live

variable {act : Act} {w w' : World} {skin : Skin}

/-- How many changes the broadcaster has sent. -/
def World.sent (w : World) : Nat := (w.changes 0).length

/-- There is an active skin, and the given fields hold what it has for them. -/
def Holding (places : List Place) (w : World) : Prop :=
  ∃ skin, (w.manager 0).active = some skin ∧ ∀ x ∈ places, w.Holds skin x

/-- What is done leaves the world as it is but for the trace, or brings all leading fields up to
date and has at least one change sent. -/
def Refreshing (w w' : World) : Prop :=
  (∃ trace, w' = { w with trace }) ∨ (Holding w'.leads w' ∧ w.sent < w'.sent)

/-- User code refreshes the leading fields if it does anything. -/
def Fresh (setting : Setting) (act : Act) : Prop :=
  ∀ a, setting.actions a → ∀ v w, Sound setting w → (w.manager 0).broadcaster = 0 →
    Gives True (act v a) w fun _ w' => Refreshing w w'

theorem Refreshing.sent_le (h : Refreshing w w') : w.sent ≤ w'.sent := by
  rcases h with ⟨trace, rfl⟩ | ⟨-, hlt⟩
  · exact le_rfl
  · exact hlt.le

/-- A notification of a skin that started from `w₀` has come to `w`, which may have been disturbed
by activations from inside: the fields `lead` are up to date with the skin that is active. If it has
not been disturbed, that is the skin of the notification, and the fields `all` are up to date
too. -/
structure Caught (skin : Skin) (w₀ : World) (lead all : List Place) (w : World) : Prop where
  steady : Steady w₀ w
  sent : w₀.sent ≤ w.sent
  among : ∀ x ∈ lead, x ∈ all ∧ x ∈ w₀.leads
  holding : Holding lead w
  undisturbed : w.sent = w₀.sent →
    (w.manager 0).active = some skin ∧ ∀ x ∈ all, w.Holds skin x

namespace Caught

variable {setting : Setting} {w₀ : World} {lead lead' all all' : List Place} {x : Place}
  {s : SlotId} {v : Value}

/-- Only which fields they are matters, not in which order. -/
theorem of_mem_iff (h : Caught skin w₀ lead all w) (hlead : ∀ x, x ∈ lead' ↔ x ∈ lead)
    (hall : ∀ x, x ∈ all' ↔ x ∈ all) : Caught skin w₀ lead' all' w where
  steady := h.steady
  sent := h.sent
  among x hx := by
    rw [hall]
    exact h.among x ((hlead x).mp hx)
  holding := by
    obtain ⟨current, hcurrent, hholds⟩ := h.holding
    exact ⟨current, hcurrent, fun x hx => hholds x ((hlead x).mp hx)⟩
  undisturbed hsent := by
    obtain ⟨hskin, hholds⟩ := h.undisturbed hsent
    exact ⟨hskin, fun x hx => hholds x ((hall x).mp hx)⟩

/-- Steps that touch nothing and send no change do not matter. -/
theorem quiet (h : Caught skin w₀ lead all w) (hquiet : Quiet w w') (hsent : w'.sent = w.sent) :
    Caught skin w₀ lead all w' where
  steady := h.steady.trans hquiet.steady
  sent := hsent ▸ h.sent
  among := h.among
  holding := by
    obtain ⟨current, hcurrent, hholds⟩ := h.holding
    rw [← hquiet.manager] at hcurrent
    exact ⟨current, hcurrent, fun x hx => hquiet.holds (hholds x hx)⟩
  undisturbed hsame := by
    obtain ⟨hskin, hholds⟩ := h.undisturbed (hsent.symm.trans hsame)
    rw [← hquiet.manager] at hskin
    exact ⟨hskin, fun x hx => hquiet.holds (hholds x hx)⟩

/-- A field that is up to date with the active skin is one more of them. -/
theorem extend (h : Caught skin w₀ lead all w) (hall : x ∈ all) (hleads : x ∈ w₀.leads)
    (hholds : ∀ current, (w.manager 0).active = some current → w.Holds current x) :
    Caught skin w₀ (lead ++ [x]) all w where
  steady := h.steady
  sent := h.sent
  among y hy := by
    rcases List.mem_append.mp hy with hy | hy
    · exact h.among y hy
    · rw [List.mem_singleton.mp hy]
      exact ⟨hall, hleads⟩
  holding := by
    obtain ⟨current, hcurrent, hlead⟩ := h.holding
    refine ⟨current, hcurrent, fun y hy => ?_⟩
    rcases List.mem_append.mp hy with hy | hy
    · exact hlead y hy
    · rw [List.mem_singleton.mp hy]
      exact hholds current hcurrent
  undisturbed := h.undisturbed

/-- **User code that activates skins** brings the leading fields up to date again, or does
nothing. -/
theorem refreshing (h : Caught skin w₀ lead all w) (hsteady : Steady w w')
    (hr : Refreshing w w') : Caught skin w₀ lead all w' := by
  rcases hr with ⟨trace, rfl⟩ | ⟨⟨current, hcurrent, hholds⟩, hlt⟩
  · obtain ⟨current, hcurrent, hlead⟩ := h.holding
    exact
      { steady := h.steady.trans hsteady
        sent := h.sent
        among := h.among
        holding := ⟨current, hcurrent, fun x hx => (hlead x hx).of_eq rfl fun _ _ _ => rfl⟩
        undisturbed := fun hsent =>
          ⟨(h.undisturbed hsent).1, fun x hx =>
            ((h.undisturbed hsent).2 x hx).of_eq rfl fun _ _ _ => rfl⟩ }
  · have hleads : w'.leads = w₀.leads := (h.steady.trans hsteady).leads_eq
    exact
      { steady := h.steady.trans hsteady
        sent := h.sent.trans hlt.le
        among := h.among
        holding := ⟨current, hcurrent, fun x hx => hholds x (hleads ▸ (h.among x hx).2)⟩
        undisturbed := fun hsent => absurd hsent (Nat.ne_of_gt (h.sent.trans_lt hlt)) }

/-- **Setting the slot of a field** brings it up to date with the skin of the notification, and does
not matter to the fields that came before. -/
theorem store (hs₀ : Sound setting w₀) (h : Caught skin w₀ lead all w)
    (hshape : x.field.shape = .reactive) (hkind : w₀.kindAt? x.target x.path = some (.reactive s))
    (hnew : ∀ y ∈ all, y.field.shape = .reactive →
      w₀.kindAt? y.target y.path ≠ some (.reactive s))
    (hv : w.sent = w₀.sent → v = skin.value x.field) :
    Caught skin w₀ lead (all ++ [x]) (w.store s v) := by
  have hother : ∀ y ∈ all, ∀ current, w.Holds current y → (w.store s v).Holds current y := by
    intro y hy current hholds
    refine hholds.store (fun hreactive => ?_) v
    rw [h.steady.kinds]
    exact hnew y hy hreactive
  obtain ⟨current, hcurrent, hlead⟩ := h.holding
  refine ⟨h.steady.trans (.store w s v), h.sent, fun y hy => ?_,
    ⟨current, hcurrent, fun y hy => ?_⟩, fun hsent => ⟨(h.undisturbed hsent).1, fun y hy => ?_⟩⟩
  · exact ⟨List.mem_append_left _ (h.among y hy).1, (h.among y hy).2⟩
  · exact hother y (h.among y hy).1 current (hlead y hy)
  · rcases List.mem_append.mp hy with hy | hy
    · exact hother y hy skin ((h.undisturbed hsent).2 y hy)
    · rw [List.mem_singleton.mp hy, hv hsent]
      refine World.holds_store hshape ((h.steady.kinds _ _).trans hkind) ?_
      rw [h.steady.slots_length]
      exact hs₀.ranged _ _ _ hkind

/-- **The first round of a companion** brings its fields up to date that are no slots. -/
theorem refreshed (h : Caught skin w₀ lead all w) {handle : Handle} {fields : List BoundField}
    {current : Skin} (hcurrent : (w.manager 0).active = some current)
    (hr : Refreshed w handle current fields w') (hall : ∀ x ∈ all, x.target ≠ handle.target)
    (hleads : ∀ x ∈ (placesAt handle fields).filter (·.field.shape ≠ .reactive), x ∈ w₀.leads) :
    Caught skin w₀ (lead ++ (placesAt handle fields).filter (·.field.shape ≠ .reactive))
      (all ++ (placesAt handle fields).filter (·.field.shape ≠ .reactive)) w' := by
  have hsent : w'.sent = w.sent := by
    rw [World.sent, World.sent, World.changes, World.changes, hr.broadcasters]
  have hactive : (w'.manager 0).active = some current := by
    rw [World.manager, hr.managers]
    exact hcurrent
  have hold : ∀ x ∈ all, ∀ skin, w.Holds skin x → w'.Holds skin x := fun x hx skin hholds =>
    hholds.of_eq (hr.rest _ _ fun ht => absurd ht (hall x hx)) fun _ _ _ => by rw [hr.slots]
  obtain ⟨skin', hskin', hlead⟩ := h.holding
  obtain rfl : current = skin' := Option.some.inj (hcurrent.symm.trans hskin')
  refine ⟨h.steady.trans hr.steady, hsent ▸ h.sent, fun x hx => ?_,
    ⟨current, hactive, fun x hx => ?_⟩, fun hsame => ?_⟩
  · rcases List.mem_append.mp hx with hx | hx
    · exact ⟨List.mem_append_left _ (h.among x hx).1, (h.among x hx).2⟩
    · exact ⟨List.mem_append_right _ hx, hleads x hx⟩
  · rcases List.mem_append.mp hx with hx | hx
    · exact hold x (h.among x hx).1 current (hlead x hx)
    · exact hr.holds x hx
  · obtain ⟨hskin, hholds⟩ := h.undisturbed (hsent.symm.trans hsame)
    obtain rfl : current = skin := Option.some.inj (hcurrent.symm.trans hskin)
    refine ⟨hactive, fun x hx => ?_⟩
    rcases List.mem_append.mp hx with hx | hx
    · exact hold x hx current (hholds x hx)
    · exact hr.holds x hx

section Told

variable (hact : Orderly setting True act) (hfresh : Fresh setting act) (hs₀ : Sound setting w₀)
  (hhost : (w₀.manager 0).broadcaster = 0)
include hact hfresh hs₀ hhost

/-- **The observers of a slot** may do what they do. -/
theorem observed (h : Caught skin w₀ lead all (w.store s v)) :
    Gives True (Live.setSlot act s v) w fun _ w' =>
      Caught skin w₀ lead all w' ∧ w.sent ≤ w'.sent := by
  have hactions : ∀ o ∈ (w.store s v).observers s, ∀ a ∈ o.actions, setting.actions a :=
    fun o ho => (hs₀.steady h.steady).actions ho
  refine Gives.modify_bind (Gives.get_bind ?_)
  refine Gives.forM (fun _ w' => Caught skin w₀ lead all w' ∧ w.sent ≤ w'.sent) ⟨h, le_rfl⟩
    fun done o rest hobservers w₁ h₁ => ?_
  have ho : o ∈ (w.store s v).observers s := by
    rw [hobservers]
    exact List.mem_append_right _ List.mem_cons_self
  refine Gives.modify_bind ?_
  refine Gives.forM (fun _ w' => Caught skin w₀ lead all w' ∧ w.sent ≤ w'.sent)
    ⟨h₁.1.refreshing (.record w₁ _) (.inl ⟨_, rfl⟩), h₁.2⟩ fun done a rest hlist w₂ h₂ => ?_
  have ha : a ∈ o.actions := by
    rw [hlist]
    exact List.mem_append_right _ List.mem_cons_self
  have hhost₂ : (w₂.manager 0).broadcaster = 0 :=
    (h₂.1.steady.manager_skins 0).1.trans hhost
  have hsound := hs₀.steady h₂.1.steady
  have ha' := hactions o ho a ha
  refine ((hact a ha' (some v) w₂ hsound).and (hfresh a ha' (some v) w₂ hsound hhost₂)).mono
    fun _ w₃ h₃ => ?_
  exact ⟨h₂.1.refreshing h₃.1 h₃.2, h₂.2.trans h₃.2.sent_le⟩

/-- **The slots after the first one** are up to date if nothing is activated from inside. -/
theorem publishRest (h : Caught skin w₀ lead all w) {handle : Handle} {current : Skin}
    (hcurrent : w.sent = w₀.sent → current = skin) (fields : List BoundField)
    (hsuited : w₀.Suited handle fields) (hnames : (fields.map fun f => f.name).Nodup)
    (hnew : Apart all handle fields) :
    Gives True ((fields.flatMap (w₀.pendingOf handle current)).forM fun p =>
        Live.setSlot act p.slot p.value) w fun _ w' =>
      Caught skin w₀ lead (all ++ (placesAt handle fields).filter (·.field.shape = .reactive))
        w' := by
  induction fields generalizing all w with
  | nil => exact Gives.pure (by simpa [placesAt] using h)
  | cons field rest ih =>
    rw [List.map_cons, List.nodup_cons] at hnames
    have hrest : w₀.Suited handle rest := fun f hf => hsuited f (List.mem_cons_of_mem _ hf)
    rw [List.flatMap_cons, placesAt, List.map_cons]
    by_cases hshape : field.shape = .reactive
    · obtain ⟨s, hs⟩ := hsuited.slot List.mem_cons_self hshape
      rw [World.pendingOf_of_slot hshape hs, List.filter_cons_of_pos (by simpa using hshape),
        List.append_cons all]
      have hstore := h.store (x := ⟨handle.target, handle.path ++ [field.name], field⟩)
        (v := current.value field) hs₀ hshape hs (hnew.slot_ne hs₀ List.mem_cons_self hs)
        fun hsent => by rw [hcurrent hsent]
      refine (hstore.observed hact hfresh hs₀ hhost).bind fun _ w' h' => ?_
      refine ih h'.1 (fun hsent => hcurrent ?_) hrest hnames.2 (hnew.concat hnames.1)
      exact le_antisymm (hsent ▸ h'.2) h.sent
    · rw [World.pendingOf_of_ne hshape, List.nil_append,
        List.filter_cons_of_neg (by simpa using hshape)]
      exact ih h hcurrent hrest hnames.2 hnew.tail

/-- **The slots of a companion** are up to date up to the first one whose observers do something. -/
theorem publish (h : Caught skin w₀ lead all w) {handle : Handle} {current : Skin}
    (hcurrent : (w.manager 0).active = some current) (fields : List BoundField)
    (hsuited : w₀.Suited handle fields) (hnames : (fields.map fun f => f.name).Nodup)
    (hnew : Apart all handle fields)
    (hleads : ∀ x ∈ placesAt handle (w₀.leading handle fields), x ∈ w₀.leads) :
    Gives True ((fields.flatMap (w₀.pendingOf handle current)).forM fun p =>
        Live.setSlot act p.slot p.value) w fun _ w' =>
      Caught skin w₀
        (lead ++ (placesAt handle (w₀.leading handle fields)).filter (·.field.shape = .reactive))
        (all ++ (placesAt handle fields).filter (·.field.shape = .reactive)) w' := by
  induction fields generalizing lead all w with
  | nil => exact Gives.pure (by simpa [placesAt, World.leading] using h)
  | cons field rest ih =>
    rw [List.map_cons, List.nodup_cons] at hnames
    have hrest : w₀.Suited handle rest := fun f hf => hsuited f (List.mem_cons_of_mem _ hf)
    rw [World.leading, placesAt, List.map_cons] at hleads
    rw [List.flatMap_cons, World.leading, placesAt, placesAt, List.map_cons, List.map_cons]
    by_cases hshape : field.shape = .reactive
    · obtain ⟨s, hs⟩ := hsuited.slot List.mem_cons_self hshape
      have hskin : w.sent = w₀.sent → current = skin := fun hsent =>
        Option.some.inj (hcurrent.symm.trans (h.undisturbed hsent).1)
      have hkind := (h.steady.kinds _ _).trans hs
      -- Nothing has run since the value was put aside, so it is that of the active skin.
      have hstore := (h.store (x := ⟨handle.target, handle.path ++ [field.name], field⟩)
        (v := current.value field) hs₀ hshape hs (hnew.slot_ne hs₀ List.mem_cons_self hs)
        fun hsent => by rw [hskin hsent]).extend (List.mem_append_right _ List.mem_cons_self)
          (hleads _ List.mem_cons_self) fun current' hcurrent' => by
            obtain rfl : current = current' := Option.some.inj (hcurrent.symm.trans hcurrent')
            exact World.holds_store hshape hkind
              ((hs₀.steady h.steady).ranged _ _ _ hkind)
      rw [World.pendingOf_of_slot hshape hs, List.filter_cons_of_pos (by simpa using hshape),
        List.filter_cons_of_pos (by simpa using hshape), List.append_cons all,
        List.append_cons lead]
      split_ifs at hleads ⊢ with hstirs
      · have hnone : ((rest.filter (·.shape ≠ .reactive)).map fun f =>
            (⟨handle.target, handle.path ++ [f.name], f⟩ : Place)).filter
              (·.field.shape = .reactive) = [] := by
          simp [List.filter_map, Function.comp_def]
        rw [hnone, List.append_nil]
        refine (hstore.observed hact hfresh hs₀ hhost).bind fun _ w' h' => ?_
        refine h'.1.publishRest hact hfresh hs₀ hhost (fun hsent => hskin ?_) rest hrest hnames.2
          (hnew.concat hnames.1)
        exact le_antisymm (hsent ▸ h'.2) h.sent
      · have hstill : w₀.stirs handle field = false := by simpa using hstirs
        have hquiet : ∀ o ∈ (w.store s (current.value field)).observers s, o.actions = [] := by
          rw [hstore.steady.observers_eq]
          exact World.actions_of_still hshape hs hstill
        refine (setSlot_still hquiet).bind fun _ w' h' => ?_
        obtain ⟨trace, rfl⟩ := h'
        exact ih (hstore.refreshing (.retrace _ _) (.inl ⟨trace, rfl⟩)) hcurrent hrest hnames.2
          (hnew.concat hnames.1) fun x hx => hleads x (List.mem_cons_of_mem _ hx)
    · have hstill : w₀.stirs handle field = false := World.stirs_of_ne hshape
      rw [hstill] at hleads
      rw [World.pendingOf_of_ne hshape, List.nil_append, hstill,
        List.filter_cons_of_neg (by simpa using hshape),
        List.filter_cons_of_neg (by simpa using hshape)]
      exact ih h hcurrent hrest hnames.2 hnew.tail
        fun x hx => hleads x (List.mem_cons_of_mem _ hx)

/-- **A companion that is told** brings its leading fields up to date. -/
theorem updateTheme (hmanager : ∀ c ∈ w₀.companions, c.context.manager = 0)
    (h : Caught skin w₀ lead all w) {t : TargetId} {id : CompanionId}
    (hactive : (t, id) ∈ w₀.binder.active) (hall : ∀ x ∈ all, x.target ≠ t) :
    Gives True (Live.updateTheme act id) w fun _ w' =>
      Caught skin w₀ (lead ++ w₀.leadsOf id) (all ++ w₀.placesOf id) w' := by
  obtain ⟨current, hcurrent, -⟩ := h.holding
  obtain ⟨c, handle, A, w₁, hc, htarget, hconduct, rfl, hA, hsuited, hrefreshed, hrun⟩ :=
    hs₀.updateTheme_eq h.steady hmanager hactive hcurrent
  have hleadsOf : w₀.leadsOf id = placesAt handle (w₀.leading handle A.bound) :=
    World.leadsOf_eq hc htarget hconduct
  have hleads : ∀ x ∈ placesAt handle (w₀.leading handle A.bound), x ∈ w₀.leads := by
    intro x hx
    refine List.mem_flatMap.mpr ⟨_, List.mem_reverse.mpr hactive, ?_⟩
    rw [hleadsOf]
    exact hx
  have hfirst := h.refreshed hcurrent hrefreshed hall fun x hx =>
    hleads x (World.mem_placesAt_leading.mpr (.inl hx))
  have hactive₁ : (w₁.manager 0).active = some current := by
    rw [World.manager, hrefreshed.managers]
    exact hcurrent
  rw [hleadsOf, World.placesOf_eq hc htarget hconduct, Gives, hrun]
  refine (hfirst.publish hact hfresh hs₀ hhost hactive₁ A.bound hsuited (Catalog.bound_names hA)
    (.of_target hall) hleads).mono fun _ w' h' => h'.of_mem_iff (fun x => ?_) fun x => ?_
  · rw [List.mem_append, World.mem_placesAt_leading, List.mem_append, List.mem_append, or_assoc]
  · simp only [List.mem_append, List.mem_filter, decide_eq_true_eq]
    tauto

/-- **The notification of all listeners** brings all leading fields up to date. -/
theorem notification (hcontexts : ∀ c ∈ w₀.companions, c.context = ⟨0, 0⟩)
    (h : Caught skin w₀ [] [] w) :
    Gives True (((w₀.followers 0).map Listener.companion).forM (Listener.apply act)) w
      fun _ w' => Caught skin w₀ w₀.leads w₀.places w' := by
  refine hs₀.tell_active (fun c hc => by rw [hcontexts c hc])
    (fun told w' => Caught skin w₀
      (told.flatMap fun (entry : TargetId × CompanionId) => w₀.leadsOf entry.2)
      (told.flatMap fun (entry : TargetId × CompanionId) => w₀.placesOf entry.2) w') h
    fun told t id w' hactive htold h' => ?_
  rw [List.flatMap_append, List.flatMap_append, List.flatMap_singleton, List.flatMap_singleton]
  refine h'.updateTheme hact hfresh hs₀ hhost (fun c hc => by rw [hcontexts c hc]) hactive
    fun x hx => ?_
  obtain ⟨⟨t', id'⟩, hentry, hplace⟩ := List.mem_flatMap.mp hx
  rw [hs₀.target_of_mem_placesOf (htold _ hentry).1 hplace]
  exact (htold _ hentry).2

end Told
end Caught

end Live
end Theming
