/-
# Making companions

A new companion gets slots of its own for the fields that are slots, and is then brought up to date
for the first time. Nobody observes a slot that has just been given, so no user code runs
meanwhile: whatever observers may do, making a companion comes to the same world
(`Sound.attach`).
-/

import Theming.Proofs.Release

namespace Theming
namespace Live

variable {setting : Setting} {w w' : World}

/-! ## Room for a companion -/

theorem Sound.addCompanion (hs : Sound setting w) {c : Companion}
    (hcontext : setting.contexts c.context)
    (hattached : ∀ h, c.target = some h → w.Attached setting.catalog c h) :
    Sound setting (w.addCompanion c).2 := by
  have hold : ∀ t id, (t, id) ∈ w.binder.active → id < w.companions.length := by
    intro t id hmem
    obtain ⟨d, -, hd, -⟩ := hs.active t id hmem
    exact (List.getElem?_eq_some_iff.mp hd).1
  exact
    { hs with
      attached := by
        intro id d handle hd htarget
        rw [World.addCompanion, List.getElem?_append] at hd
        split_ifs at hd
        · exact hs.attached id d handle hd htarget
        · rw [List.getElem?_singleton] at hd
          split_ifs at hd
          obtain rfl := Option.some.inj hd
          exact hattached handle htarget
      active := by
        intro t id hmem
        rw [World.addCompanion, List.getElem?_append_left (hold t id hmem)]
        exact hs.active t id hmem
      contexts := by
        intro d hd
        rcases List.mem_append.mp hd with hd | hd
        · exact hs.contexts d hd
        · rw [List.mem_singleton.mp hd]
          exact hcontext
      listening := by
        intro b
        have hfollowers : (w.addCompanion c).2.followers b = w.followers b := by
          rw [World.followers, World.followers]
          congr 1
          refine List.filter_congr fun id hid => ?_
          obtain ⟨entry, hentry, rfl⟩ := List.mem_map.mp hid
          rw [World.hears, World.hears, World.addCompanion,
            List.getElem?_append_left (hold entry.1 entry.2 hentry)]
        rw [hfollowers]
        exact hs.listening b }

/-- What lies where after a field that is a slot has got a new one. -/
theorem World.kindAt?_give {handle : Handle} {field : String} {s : SlotId}
    (h : w.kindAt? handle.target (handle.path ++ [field]) = some (.reactive s)) (t : TargetId)
    (p : List String) :
    (w.addSlot.2.assign handle field (.reactive w.addSlot.1)).kindAt? t p =
      if t = handle.target ∧ p = handle.path ++ [field] then some (.reactive w.slots.length)
      else w.kindAt? t p := by
  obtain ⟨old, hold, hkind⟩ := World.kindAt?_eq_some.mp h
  have hleaf : old.kind ≠ .part := by rw [hkind]; nofun
  exact World.kindAt?_assign_leaf (w := w.addSlot.2) (c := .reactive w.addSlot.1) hold hleaf
    nofun t p

/-- The fields of other names are as they were. -/
theorem World.Suited.give {handle : Handle} {field : BoundField} {rest : List BoundField}
    {s : SlotId} (hsuited : w.Suited handle rest)
    (h : w.kindAt? handle.target (handle.path ++ [field.name]) = some (.reactive s))
    (hname : ∀ f ∈ rest, f.name ≠ field.name) :
    (w.addSlot.2.assign handle field.name (.reactive w.addSlot.1)).Suited handle rest := by
  intro f hf
  rw [World.kindAt?_give h, if_neg fun hand => hname f hf (by simpa using hand.2)]
  exact hsuited f hf

/-- A field that is a slot may get a new one. -/
theorem Sound.giveSlot (hs : Sound setting w) {handle : Handle} {field : String} {s : SlotId}
    (h : w.kindAt? handle.target (handle.path ++ [field]) = some (.reactive s)) :
    Sound setting (w.addSlot.2.assign handle field (.reactive w.addSlot.1)) := by
  have hkinds := World.kindAt?_give h
  have htypes : ∀ t, (w.addSlot.2.assign handle field (.reactive w.addSlot.1)).typeOf? t =
      w.typeOf? t := fun t => Steady.typeOf?_modifyContent w.addSlot.2 _ t _ _
  exact
    { hs with
      types := fun t T hT => hs.types t T (htypes t ▸ hT)
      shapes := by
        intro t T hT p l hl
        rw [htypes] at hT
        obtain ⟨k, hk, hsuits⟩ := hs.shapes t T hT p l hl
        rw [hkinds]
        split_ifs with hplace
        · obtain ⟨rfl, rfl⟩ := hplace
          rw [h] at hk
          obtain rfl := Option.some.inj hk
          exact ⟨_, rfl, by cases l <;> exact hsuits⟩
        · exact ⟨k, hk, hsuits⟩
      ranged := by
        intro t p s' hp
        have hlength : w.addSlot.2.slots.length = w.slots.length + 1 := by
          rw [World.addSlot, List.length_append, List.length_singleton]
        change s' < w.addSlot.2.slots.length
        rw [hlength]
        rw [hkinds] at hp
        split_ifs at hp
        · rw [← Content.Kind.reactive.inj (Option.some.inj hp)]
          exact Nat.lt_succ_self _
        · exact Nat.lt_succ_of_lt (hs.ranged t p s' hp)
      apart := by
        intro t p t' p' s' hp hp'
        rw [hkinds] at hp hp'
        split_ifs at hp hp' with hplace hplace' hplace'
        · rw [hplace.1, hplace.2, hplace'.1, hplace'.2]
          exact ⟨rfl, rfl⟩
        · obtain rfl := Content.Kind.reactive.inj (Option.some.inj hp)
          exact absurd (hs.ranged t' p' _ hp') (lt_irrefl _)
        · obtain rfl := Content.Kind.reactive.inj (Option.some.inj hp')
          exact absurd (hs.ranged t p _ hp) (lt_irrefl _)
        · exact hs.apart t p t' p' s' hp hp'
      acts := by
        intro x hx
        rcases List.mem_append.mp hx with hx | hx
        · exact hs.acts x hx
        · rw [List.mem_singleton.mp hx]
          nofun
      attached := by
        intro id c h' hc htarget
        obtain ⟨T, A, name, hT, hrest⟩ := hs.attached id c h' hc htarget
        exact ⟨T, A, name, (htypes _).trans hT, hrest⟩ }

/-- What allocation of slots leaves alone. -/
structure Allotted (w w' : World) : Prop where
  alike : Alike w w'
  binder : w'.binder = w.binder
  companions : w'.companions = w.companions

/-- **Giving the slots of an attached companion new places keeps the world in order.** -/
theorem Sound.allocate (hs : Sound setting w) {handle : Handle} {fields : List BoundField}
    (hsuited : w.Suited handle fields) (hnames : (fields.map fun f => f.name).Nodup) :
    Sound setting (w.allocate handle fields) ∧ Allotted w (w.allocate handle fields) := by
  induction fields generalizing w with
  | nil => exact ⟨hs, .refl w, rfl, rfl⟩
  | cons field rest ih =>
    rw [List.map_cons, List.nodup_cons] at hnames
    have hrest : w.Suited handle rest := fun f hf => hsuited f (List.mem_cons_of_mem _ hf)
    have hname : ∀ f ∈ rest, f.name ≠ field.name :=
      fun f hf heq => hnames.1 (heq ▸ List.mem_map_of_mem hf)
    rw [World.allocate]
    cases hshape : field.shape with
    | value => exact ih hs hrest hnames.2
    | reference => exact ih hs hrest hnames.2
    | reactive =>
      obtain ⟨s, hk⟩ := hsuited.slot List.mem_cons_self hshape
      obtain ⟨hsound, hallotted⟩ := ih (hs.giveSlot hk) (hrest.give hk hname) hnames.2
      refine ⟨hsound, ⟨fun t => ?_, hallotted.alike.hosts⟩, hallotted.binder,
        hallotted.companions⟩
      exact (hallotted.alike.types t).trans (Steady.typeOf?_modifyContent w.addSlot.2 _ t _ _)

/-! ## New slots are not observed -/

/-- The slots of the fields come after the first ones of a number. -/
def World.Beyond (w : World) (count : Nat) (handle : Handle) (fields : List BoundField) : Prop :=
  ∀ f ∈ fields, f.shape = .reactive → ∀ s : Nat,
    w.kindAt? handle.target (handle.path ++ [f.name]) = some (.reactive s) → count ≤ s

/-- Whoever sets the slots of the fields calls no observer. -/
def World.Unheard (w : World) (handle : Handle) (fields : List BoundField) : Prop :=
  ∀ f ∈ fields, f.shape = .reactive → ∀ s,
    w.kindAt? handle.target (handle.path ++ [f.name]) = some (.reactive s) → w.observers s = []

theorem World.observers_addSlot (w : World) (s : SlotId) :
    w.addSlot.2.observers s = w.observers s := by
  rw [observers, observers, addSlot, List.getElem?_append]
  split_ifs with hlt
  · rfl
  · rw [List.getElem?_eq_none (Nat.le_of_not_lt hlt), List.getElem?_singleton]
    split_ifs <;> rfl

/-- Allocation gives no slot an observer. -/
theorem World.observers_allocate (w : World) (handle : Handle) (fields : List BoundField)
    (s : SlotId) : (w.allocate handle fields).observers s = w.observers s := by
  induction fields generalizing w with
  | nil => rfl
  | cons field rest ih =>
    rw [allocate]
    cases field.shape with
    | value => exact ih w
    | reference => exact ih w
    | reactive => exact (ih _).trans (w.observers_addSlot s)

/-- Allocation leaves alone what is none of the fields. -/
theorem World.kindAt?_allocate {handle : Handle} {fields : List BoundField}
    (hsuited : w.Suited handle fields) (hnames : (fields.map fun f => f.name).Nodup)
    {p : List String} (hp : ∀ f ∈ fields, p ≠ handle.path ++ [f.name]) :
    (w.allocate handle fields).kindAt? handle.target p = w.kindAt? handle.target p := by
  induction fields generalizing w with
  | nil => rfl
  | cons field rest ih =>
    rw [List.map_cons, List.nodup_cons] at hnames
    have hrest : w.Suited handle rest := fun f hf => hsuited f (List.mem_cons_of_mem _ hf)
    have hname : ∀ f ∈ rest, f.name ≠ field.name :=
      fun f hf heq => hnames.1 (heq ▸ List.mem_map_of_mem hf)
    have hothers : ∀ f ∈ rest, p ≠ handle.path ++ [f.name] :=
      fun f hf => hp f (List.mem_cons_of_mem _ hf)
    rw [allocate]
    cases hshape : field.shape with
    | value => exact ih hrest hnames.2 hothers
    | reference => exact ih hrest hnames.2 hothers
    | reactive =>
      obtain ⟨s, hk⟩ := hsuited.slot List.mem_cons_self hshape
      refine (ih (hrest.give hk hname) hnames.2 hothers).trans ?_
      rw [World.kindAt?_give hk, if_neg fun hand => hp field List.mem_cons_self hand.2]

/-- **The slots that fields have just been given were not there before.** -/
theorem World.beyond_allocate {handle : Handle} {fields : List BoundField}
    (hsuited : w.Suited handle fields) (hnames : (fields.map fun f => f.name).Nodup) :
    (w.allocate handle fields).Beyond w.slots.length handle fields := by
  induction fields generalizing w with
  | nil => exact nofun
  | cons field rest ih =>
    rw [List.map_cons, List.nodup_cons] at hnames
    have hrest : w.Suited handle rest := fun f hf => hsuited f (List.mem_cons_of_mem _ hf)
    have hname : ∀ f ∈ rest, f.name ≠ field.name :=
      fun f hf heq => hnames.1 (heq ▸ List.mem_map_of_mem hf)
    have hapart : ∀ f ∈ rest, handle.path ++ [field.name] ≠ handle.path ++ [f.name] :=
      fun f hf heq => hname f hf (by simpa using heq.symm)
    rw [allocate]
    intro f hf hreactive s' hs'
    cases hshape : field.shape with
    | reactive =>
      rw [hshape] at hs'
      obtain ⟨s, hk⟩ := hsuited.slot List.mem_cons_self hshape
      have hsuited' := hrest.give hk hname
      rcases List.mem_cons.mp hf with rfl | hf
      · rw [World.kindAt?_allocate hsuited' hnames.2 hapart, World.kindAt?_give hk,
          if_pos ⟨rfl, rfl⟩] at hs'
        exact (Content.Kind.reactive.inj (Option.some.inj hs')).le
      · have hbeyond := ih hsuited' hnames.2 f hf hreactive s' hs'
        refine le_trans ?_ hbeyond
        change w.slots.length ≤ w.addSlot.2.slots.length
        rw [World.addSlot, List.length_append]
        exact Nat.le_add_right _ _
    | _ =>
      rw [hshape] at hs'
      rcases List.mem_cons.mp hf with rfl | hf
      · cases hshape.symm.trans hreactive
      · exact ih hrest hnames.2 f hf hreactive s' hs'

/-- The slots that fields have just been given are not observed. -/
theorem World.unheard_allocate {handle : Handle} {fields : List BoundField}
    (hsuited : w.Suited handle fields) (hnames : (fields.map fun f => f.name).Nodup) :
    (w.allocate handle fields).Unheard handle fields := by
  intro f hf hshape s hs
  rw [World.observers_allocate, observers,
    List.getElem?_eq_none (World.beyond_allocate hsuited hnames f hf hshape s hs)]
  rfl

/-! ## Setting slots that nobody observes -/

theorem setSlot_of_unobserved {s : SlotId} (h : w.observers s = []) (act : Act) (v : Value) :
    setSlot act s v w = some ((), w.store s v) := by
  have hobservers : (w.store s v).observers s = [] :=
    ((Steady.store w s v).observers_eq s).trans h
  have hrun : setSlot act s v w =
      (((w.store s v).observers s).forM (Observer.call act s v)) (w.store s v) := rfl
  rw [hrun, hobservers]
  rfl

/-- The world with the values stored in their slots, in order. -/
def World.storeAll (w : World) (pending : List Pending) : World :=
  pending.foldl (fun w p => w.store p.slot p.value) w

theorem Steady.storeAll (w : World) (pending : List Pending) : Steady w (w.storeAll pending) := by
  rw [World.storeAll]
  induction pending generalizing w with
  | nil => exact .refl w
  | cons p rest ih => exact (Steady.store w p.slot p.value).trans (ih _)

/-- Setting slots that are not observed stores the values, whatever observers may do. -/
theorem setSlots_of_unobserved {pending : List Pending}
    (h : ∀ p ∈ pending, w.observers p.slot = []) (act : Act) :
    (pending.forM fun p => setSlot act p.slot p.value) w = some ((), w.storeAll pending) := by
  induction pending generalizing w with
  | nil => rfl
  | cons p rest ih =>
    have hstore := Steady.store w p.slot p.value
    have hrest : ∀ q ∈ rest, (w.store p.slot p.value).observers q.slot = [] := fun q hq =>
      (hstore.observers_eq q.slot).trans (h q (List.mem_cons_of_mem _ hq))
    exact (Step.bind_eq (setSlot_of_unobserved (h p List.mem_cons_self) act p.value)).trans
      (ih hrest)

/-- What is put aside in the first round is for the slots of the fields. -/
theorem World.Suited.pending {h : Handle} {fields : List BoundField} (hsuited : w.Suited h fields)
    (m : ManagerId) (hnames : (fields.map fun f => f.name).Nodup) {p : Pending}
    (hp : p ∈ (w.updateFields h m fields).1) :
    ∃ f ∈ fields, f.shape = .reactive ∧
      w.kindAt? h.target (h.path ++ [f.name]) = some (.reactive p.slot) := by
  obtain ⟨hpending, -⟩ := updateFields_refreshed w h m fields hsuited hnames
  rw [hpending] at hp
  obtain ⟨f, hf, hp⟩ := List.mem_flatMap.mp hp
  by_cases hshape : f.shape = .reactive
  · obtain ⟨s, hslot⟩ := hsuited.slot hf hshape
    rw [World.pendingOf_of_slot hshape hslot] at hp
    rw [List.mem_singleton.mp hp]
    exact ⟨f, hf, hshape, hslot⟩
  · rw [World.pendingOf_of_ne hshape] at hp
    cases hp

/-- **A companion whose slots are not observed calls nobody** when it is brought up to date: after
the first round it stores what was put aside. -/
theorem updateTheme_of_unheard {id : CompanionId} {c : Companion} {h : Handle}
    {fields : List BoundField} (hc : w.companions[id]? = some c) (htarget : c.target = some h)
    (hconduct : c.entry.conduct = .keep fields) (hsuited : w.Suited h fields)
    (hnames : (fields.map fun f => f.name).Nodup) (hunheard : w.Unheard h fields) (act : Act) :
    updateTheme act id w = some ((), (w.updateFields h c.context.manager fields).2.storeAll
      (w.updateFields h c.context.manager fields).1) := by
  obtain ⟨-, hrefreshed⟩ := updateFields_refreshed w h c.context.manager fields hsuited hnames
  rw [updateTheme_eq hc htarget hconduct]
  refine setSlots_of_unobserved (fun p hp => ?_) act
  obtain ⟨f, hf, hshape, hslot⟩ := hsuited.pending c.context.manager hnames hp
  rw [hrefreshed.steady.observers_eq]
  exact hunheard f hf hshape p.slot hslot

/-! ## Making a companion -/

/-- A companion is made, given slots and brought up to date, and then it listens. -/
theorem attach_run {act : Act} (entry : CompanionEntry) {fields : List BoundField}
    {handle : Handle} (context : Context)
    (h : updateTheme act w.companions.length
      ((w.addCompanion ⟨entry, context, some handle⟩).2.allocate handle fields) = some ((), w')) :
    Live.attach act entry fields handle context w =
      some (w.companions.length, w'.addListener context.broadcaster
        (.companion w.companions.length)) := by
  set w₁ := (w.addCompanion ⟨entry, context, some handle⟩).2.allocate handle fields
  have hget : (get : Step World) w = some (w, w) := rfl
  have hset : (set w₁ : Step PUnit) w = some (⟨⟩, w₁) := rfl
  exact (Step.bind_eq hget).trans ((Step.bind_eq hset).trans (Step.bind_eq h))

/-- **A companion is made for a target in order**, and it is the same one whatever observers may
do: all that is left to do is to let it listen. -/
theorem Sound.attach (hs : Sound setting w) {T A : TypeDefinition} (name : String)
    {handle : Handle} {context : Context} (hcontext : setting.contexts context)
    (hT : w.typeOf? handle.target = some T) (hembeds : setting.catalog.Embeds T handle.path A)
    (htype : handle.type = A.info.declared) :
    ∃ w', Orders setting w w' ∧ w'.binder = w.binder ∧
      w'.companions = w.companions ++ [⟨.keeper A name, context, some handle⟩] ∧
      ∀ act, Live.attach act (.keeper A name) A.bound handle context w =
        some (w.companions.length, w'.addListener context.broadcaster
          (.companion w.companions.length)) := by
  set c : Companion := ⟨.keeper A name, context, some handle⟩ with hcdef
  have hattached : w.Attached setting.catalog c handle := ⟨T, A, name, hT, hembeds, rfl, htype⟩
  have hadd := hs.addCompanion (c := c) hcontext fun h hh => Option.some.inj hh ▸ hattached
  have hc : (w.addCompanion c).2.companions[w.companions.length]? = some c :=
    List.getElem?_concat_length
  obtain ⟨A', name', hA', hentry, hsuited⟩ := hadd.suited hc rfl
  have hfields : A'.bound = A.bound :=
    (Conduct.keep.inj (congrArg CompanionEntry.conduct hentry)).symm
  have hnames := Catalog.bound_names hA'
  rw [hfields] at hsuited hnames
  obtain ⟨hallocated, hallotted⟩ := hadd.allocate hsuited hnames
  have hc' : ((w.addCompanion c).2.allocate handle A.bound).companions[w.companions.length]? =
      some c := by
    rw [hallotted.companions]
    exact hc
  have hsuited' : ((w.addCompanion c).2.allocate handle A.bound).Suited handle A.bound := by
    obtain ⟨B, name'', -, hentry', hsuited'⟩ := hallocated.suited hc' rfl
    rw [← Conduct.keep.inj (congrArg CompanionEntry.conduct hentry')] at hsuited'
    exact hsuited'
  obtain ⟨-, hrefreshed⟩ := updateFields_refreshed _ handle context.manager A.bound hsuited' hnames
  obtain ⟨w', hsteady, hrun⟩ : ∃ w', Steady ((w.addCompanion c).2.allocate handle A.bound) w' ∧
      ∀ act, updateTheme act w.companions.length ((w.addCompanion c).2.allocate handle A.bound) =
        some ((), w') :=
    ⟨_, hrefreshed.steady.trans (.storeAll _ _), updateTheme_of_unheard hc' rfl rfl hsuited'
      hnames (World.unheard_allocate hsuited hnames)⟩
  have halike : Alike w ((w.addCompanion c).2.allocate handle A.bound) :=
    ⟨hallotted.alike.types, hallotted.alike.hosts⟩
  refine ⟨w', ⟨hallocated.steady hsteady, halike.trans hsteady.alike⟩,
    hsteady.binder.trans hallotted.binder, hsteady.companions.trans hallotted.companions,
    fun act => attach_run _ _ (hrun act)⟩

end Live
end Theming
