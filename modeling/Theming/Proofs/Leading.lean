/-
# Fields that are up to date in any case

While a companion sets its slots, observers may run code that changes the theme once more, and what
has been put aside for the slots that remain is old then. So of the fields of a companion these can
be relied on when a change of theme is over (`World.Leads`):

| field | up to date |
| --- | --- |
| plain, optional | always |
| the first reactive one | always |
| a later reactive one | unless an observer of one that comes before it does more than to look |
-/

import Theming.Proofs.Places

namespace Theming
namespace Live

variable {skin : Skin} {w w' : World}

/-- Whether an observer of the slot of a field does more than to look. -/
def World.stirs (w : World) (handle : Handle) (field : BoundField) : Bool :=
  match field.shape, w.slotAt? handle field.name with
  | .reactive, some s => (w.observers s).any fun o => !o.actions.isEmpty
  | _, _ => false

/-- The fields that are up to date in any case: those that are no slots, and the slots up to the
first one that has an observer that does more than to look. -/
def World.leading (w : World) (handle : Handle) : List BoundField → List BoundField
  | [] => []
  | field :: rest =>
    field :: if w.stirs handle field then rest.filter (·.shape ≠ .reactive)
      else leading w handle rest

/-- A field is no slot, or no observer of a slot that comes before it does more than to look. -/
def World.Leads (w : World) (handle : Handle) (fields : List BoundField) (field : BoundField) :
    Prop :=
  field.shape = .reactive → ∀ before after, fields = before ++ field :: after →
    ∀ other ∈ before, w.stirs handle other = false

section Fields

variable {handle : Handle} {fields : List BoundField} {field : BoundField}

theorem World.stirs_of_ne (h : field.shape ≠ .reactive) : w.stirs handle field = false := by
  rw [stirs]
  split
  · exact absurd ‹field.shape = .reactive› h
  · rfl

/-- The observers of a slot that does not stir have nothing to do. -/
theorem World.actions_of_still {s : SlotId} (hshape : field.shape = .reactive)
    (hkind : w.kindAt? handle.target (handle.path ++ [field.name]) = some (.reactive s))
    (h : w.stirs handle field = false) : ∀ o ∈ w.observers s, o.actions = [] := by
  intro o ho
  rw [stirs, hshape, slotAt?_eq_some.mpr hkind] at h
  simpa using List.any_eq_false.mp h o ho

theorem World.mem_of_mem_leading (h : field ∈ w.leading handle fields) : field ∈ fields := by
  induction fields with
  | nil => exact h
  | cons first rest ih =>
    rw [leading] at h
    rcases List.mem_cons.mp h with rfl | h
    · exact List.mem_cons_self
    · refine List.mem_cons_of_mem _ ?_
      split_ifs at h
      · exact List.mem_of_mem_filter h
      · exact ih h

theorem World.mem_leading (hfield : field ∈ fields) (h : w.Leads handle fields field) :
    field ∈ w.leading handle fields := by
  induction fields with
  | nil => exact hfield
  | cons first rest ih =>
    rw [leading]
    rcases List.mem_cons.mp hfield with rfl | hrest
    · exact List.mem_cons_self
    · refine List.mem_cons_of_mem _ ?_
      have hleads : w.Leads handle rest field := fun hshape before after heq other hother =>
        h hshape (first :: before) after (by rw [heq, List.cons_append]) other
          (List.mem_cons_of_mem _ hother)
      split_ifs with hstirs
      · refine List.mem_filter.mpr ⟨hrest, ?_⟩
        by_contra hshape
        obtain ⟨before, after, rfl⟩ := List.append_of_mem hrest
        have hstill := h (by simpa using hshape) (first :: before) after rfl first
          List.mem_cons_self
        rw [hstill] at hstirs
        cases hstirs
      · exact ih hrest hleads

/-- The leading places are those of fields that are no slots, and of the leading slots. -/
theorem World.mem_placesAt_leading {x : Place} :
    x ∈ placesAt handle (w.leading handle fields) ↔
      x ∈ (placesAt handle fields).filter (·.field.shape ≠ .reactive) ∨
        x ∈ (placesAt handle (w.leading handle fields)).filter (·.field.shape = .reactive) := by
  simp only [List.mem_filter, decide_eq_true_eq]
  constructor
  · intro hx
    by_cases hshape : x.field.shape = .reactive
    · exact .inr ⟨hx, hshape⟩
    · obtain ⟨f, hf, rfl⟩ := List.mem_map.mp hx
      exact .inl ⟨List.mem_map_of_mem (mem_of_mem_leading hf), hshape⟩
  · rintro (⟨hx, hshape⟩ | ⟨hx, -⟩)
    · obtain ⟨f, hf, rfl⟩ := List.mem_map.mp hx
      exact List.mem_map_of_mem (mem_leading hf fun h => absurd h hshape)
    · exact hx

theorem Steady.leading_eq (h : Steady w w') (handle : Handle) (fields : List BoundField) :
    w'.leading handle fields = w.leading handle fields := by
  have hstirs : ∀ field, w'.stirs handle field = w.stirs handle field := by
    intro field
    have hslot : w'.slotAt? handle field.name = w.slotAt? handle field.name := by
      refine Option.ext fun s => ?_
      rw [World.slotAt?_eq_some, World.slotAt?_eq_some, h.kinds]
    rw [World.stirs, World.stirs, hslot, funext h.observers_eq]
  induction fields with
  | nil => rfl
  | cons field rest ih => rw [World.leading, World.leading, hstirs, ih]

end Fields

/-- Where the leading fields of a companion lie. -/
def World.leadsOf (w : World) (id : CompanionId) : List Place :=
  match w.companions[id]? with
  | some ⟨⟨_, _, _, _, _, .keep fields⟩, _, some handle⟩ =>
    placesAt handle (w.leading handle fields)
  | _ => []

/-- Where the leading fields of the active companions lie. -/
def World.leads (w : World) : List Place :=
  w.binder.active.reverse.flatMap fun entry => w.leadsOf entry.2

theorem World.leadsOf_eq {id : CompanionId} {c : Companion} {handle : Handle}
    {fields : List BoundField} (hc : w.companions[id]? = some c) (htarget : c.target = some handle)
    (hconduct : c.entry.conduct = .keep fields) :
    w.leadsOf id = placesAt handle (w.leading handle fields) := by
  obtain ⟨⟨path, name, target, label, subject, conduct⟩, context, h⟩ := c
  dsimp only at htarget hconduct
  subst htarget hconduct
  rw [leadsOf, hc]

theorem Steady.leads_eq (h : Steady w w') : w'.leads = w.leads := by
  rw [World.leads, World.leads, h.binder]
  refine congrArg (fun g => w.binder.active.reverse.flatMap g) (funext fun entry => ?_)
  rw [World.leadsOf, World.leadsOf, h.companions]
  simp only [h.leading_eq]

/-- A leading field that the companion of a target keeps is one of the leading places. -/
theorem World.Follows.mem_leads {t : TargetId} {A : TypeDefinition} {path : List String}
    (h : w.Follows t A path) {f : BoundField} (hf : f ∈ A.bound)
    (hleads : w.Leads ⟨t, path, A.info.declared⟩ A.bound f) :
    (⟨t, path ++ [f.name], f⟩ : Place) ∈ w.leads := by
  obtain ⟨id, name, context, hlookup, hc⟩ := h
  refine List.mem_flatMap.mpr ⟨(t, id), List.mem_reverse.mpr (mem_of_lookup hlookup), ?_⟩
  rw [World.leadsOf_eq hc rfl rfl]
  exact List.mem_map.mpr ⟨f, mem_leading hf hleads, rfl⟩

/-- A slot whose observers only look is set, and nothing else happens. -/
theorem setSlot_still {short : Prop} {s : SlotId} {v : Value}
    (h : ∀ o ∈ (w.store s v).observers s, o.actions = []) :
    Gives short (setSlot act s v) w fun _ w' => ∃ trace, w' = { (w.store s v) with trace } := by
  refine Gives.modify_bind (Gives.get_bind ?_)
  refine Gives.forM (fun _ w' => ∃ trace, w' = { (w.store s v) with trace }) ⟨_, rfl⟩
    fun done o rest hobservers w' h' => ?_
  have ho : o ∈ (w.store s v).observers s := by
    rw [hobservers]
    exact List.mem_append_right _ List.mem_cons_self
  obtain ⟨trace, rfl⟩ := h'
  refine Gives.modify_bind ?_
  rw [h o ho]
  exact Gives.pure ⟨_, rfl⟩

end Live
end Theming
