/-
# What a bind does to its target

Binding a target of a type `T` whose companion is that of a type `A`, be it `T` itself or one that
is embedded in it, comes to this (`Endows`), whether the target is bound or not:

| what | after the bind |
| --- | --- |
| a plain or an optional field that `A` binds | what the current skin of the context has for it |
| a reactive field that `A` binds | a slot of its own that was not there before, set once |
| every other field of the target | as before |
| every slot that was there | as before |
| every other target, and whether it is bound | as before |

And it comes to the same, but for what is logged, if the target is unbound first. The states of
which this holds are those in which the target is poised; at every moment of a program all targets
are (`Performance.bind_endows`).
-/

import Theming.Proofs.Aftermath
import Theming.Proofs.Serving

namespace Theming
namespace Live

variable {catalog : Catalog} {t : TargetId} {T A : TypeDefinition} {path : List String}
  {name : String} {context : Context} {skin : Skin} {w w' : World}

/-! ## Slots that nobody else holds -/

/-- Two fields with one slot are one field. -/
theorem seats_inj {first : Nat} {fields : List BoundField} {x y : BoundField × SlotId}
    (hx : x ∈ seats first fields) (hy : y ∈ seats first fields) (h : x.2 = y.2) : x.1 = y.1 := by
  obtain ⟨-, hx⟩ := List.mk_mem_zipIdx_iff_le_and_getElem?_sub.mp hx
  obtain ⟨-, hy⟩ := List.mk_mem_zipIdx_iff_le_and_getElem?_sub.mp hy
  rw [h] at hx
  exact Option.some.inj (hx.symm.trans hy)

theorem le_of_mem_seats {first : Nat} {fields : List BoundField} {x : BoundField × SlotId}
    (h : x ∈ seats first fields) : first ≤ x.2 :=
  (List.mk_mem_zipIdx_iff_le_and_getElem?_sub.mp h).1

/-- What a bound field holds that is no slot is no slot. -/
theorem BoundField.content?_ne_slot {field : BoundField} {s : SlotId} :
    field.content? skin ≠ some (.reactive s) := by
  cases h : field.shape <;> simp [BoundField.content?, h]

/-- **A new slot is held by the field that it was given to**, and by no other field that did not
hold its number before it was there. -/
theorem Fitted.alone {handle : Handle} {fields : List BoundField}
    (h : Fitted w handle skin fields w') (hsuited : w.Suited handle fields)
    {x : BoundField × SlotId} (hx : x ∈ seats w.slots.length fields) {t : TargetId}
    {p : List String} (hp : w'.content? t p = some (.reactive x.2)) :
    (t = handle.target ∧ p = handle.path ++ [x.1.name]) ∨
      w.content? t p = some (.reactive x.2) := by
  by_cases hplace : t = handle.target ∧ ∃ f ∈ fields, p <+: handle.path ++ [f.name]
  · obtain ⟨rfl, f, hf, q, hq⟩ := hplace
    obtain ⟨k, hk, -⟩ := h.spares.suited hsuited f hf
    obtain ⟨c, hc, -⟩ := World.kindAt?_eq_some.mp hk
    -- A slot leads nowhere, so the place is the field.
    have hleaf : q = [] := by
      by_contra hne
      have hbelow : w'.content? handle.target (p ++ q) =
          (w'.content? handle.target p).bind (Content.at? q) := by
        rw [World.content?, World.content?]
        cases w'.targets[handle.target]? with
        | none => rfl
        | some target => exact Content.at?_append p q target.content
      have hslot : (Content.reactive x.2).kind ≠ .part := fun h => by cases h
      rw [hp, Option.bind_some, Content.at?_of_leaf hslot hne, hq, hc] at hbelow
      cases hbelow
    rw [hleaf, List.append_nil] at hq
    subst hq
    by_cases hshape : f.shape = .reactive
    · obtain ⟨s, hs⟩ := exists_seat hf hshape w.slots.length
      have hslot := (h.seated _ hs).symm.trans hp
      have hsame : s = x.2 := Content.reactive.inj (Option.some.inj hslot)
      rw [seats_inj hx hs hsame.symm]
      exact .inl ⟨rfl, rfl⟩
    · obtain ⟨c, hfield⟩ : ∃ c, f.content? skin = some c :=
        Option.ne_none_iff_exists'.mp fun hnone => hshape (BoundField.content?_eq_none.mp hnone)
      rw [h.applied f hf c hfield] at hp
      exact absurd (hfield.trans hp) BoundField.content?_ne_slot
  · refine .inr ?_
    rw [← h.rest t p fun ht f hf hprefix => hplace ⟨ht, f, hf, hprefix⟩]
    exact hp

/-! ## What a bind does -/

/-- A target has been bound with the companion of a type that lies at a path of it. -/
structure Endows (w : World) (t : TargetId) (path : List String) (A : TypeDefinition)
    (skin : Skin) (w' : World) : Prop where
  /-- The bound fields that are no slots hold what the skin has for them. -/
  values : ∀ f ∈ A.bound, ∀ c, f.content? skin = some c →
    w'.content? t (path ++ [f.name]) = some c
  /-- The others, in order, hold the slots with the next numbers. -/
  seated : ∀ x ∈ seats w.slots.length A.bound,
    w'.content? t (path ++ [x.1.name]) = some (.reactive x.2)
  /-- These have been set once and are not observed, and all older slots are as they were. -/
  slots : w'.slots = w.slots ++ (reactives A.bound).map fun f =>
    { value := some (skin.value f), version := 1, observers := [] }
  /-- They were not there before, and nobody else has come to hold them. -/
  alone : ∀ x ∈ seats w.slots.length A.bound, w.slots.length ≤ x.2 ∧
    ∀ t' p, w'.content? t' p = some (.reactive x.2) →
      (t' = t ∧ p = path ++ [x.1.name]) ∨ w.content? t' p = some (.reactive x.2)
  /-- Whatever is not, and does not contain, a bound field is as it was. -/
  rest : ∀ p, (∀ f ∈ A.bound, ¬ p <+: path ++ [f.name]) → w'.content? t p = w.content? t p
  others : ∀ t' ≠ t, w'.targets[t']? = w.targets[t']?
  bound : w'.isBound t = true
  bindings : ∀ t' ≠ t, w'.binder.active.lookup t' = w.binder.active.lookup t'

/-- What a step does not concern is the same target. -/
theorem Spares.target (h : Spares t w w') {t' : TargetId} (ht : t' ≠ t) :
    w'.targets[t']? = w.targets[t']? := by
  have htype := h.types t'
  have hcontent := h.contents t' ht []
  rw [World.typeOf?, World.typeOf?] at htype
  rw [World.content?, World.content?] at hcontent
  cases hx : w.targets[t']? with
  | none =>
    rw [hx, Option.map_none, Option.map_eq_none_iff] at htype
    exact htype
  | some x =>
    rw [hx] at htype hcontent
    obtain ⟨x', hx', htype⟩ := Option.map_eq_some_iff.mp htype
    rw [hx'] at hcontent ⊢
    have hcontent : x'.content = x.content := Option.some.inj hcontent
    obtain ⟨type, content⟩ := x
    obtain ⟨type', content'⟩ := x'
    obtain rfl : type' = type := htype
    obtain rfl : content' = content := hcontent
    rfl

theorem Akin.slots (h : Akin w w') : w'.slots = w.slots := by
  obtain ⟨_, _, rfl⟩ := h
  rfl

namespace World.Poised

variable (h : w.Poised catalog t T) (hA : catalog.Embeds T path A)
  (hresolve : (w.binder.resolver.resolve T.info).result = .ok (some (.keeper A name)))
include h hA hresolve

/-- **What a bind does to a poised target and to all else.** -/
theorem endows (hbound : Rebound w t T A name ⟨t, path, A.info.declared⟩ context w') :
    Endows w t path A (w.manager context.manager).current w' := by
  have hnames := Catalog.bound_names hA.has
  have hsuited := h.suited_vacated hA hresolve (.refl (w.vacated t)) A.info.declared
  obtain ⟨hfitted, -⟩ := fitted_fitted (.keeper A name) context hsuited hnames
  obtain ⟨-, hkinds, hrest⟩ := h.vacated hA hresolve
  rw [w.manager_vacated] at hfitted
  have hcontent : ∀ t' p, w'.content? t' p = ((w.vacated t).fitted (.keeper A name) A.bound
      ⟨t, path, A.info.declared⟩ context).content? t' p := hbound.akin.content?
  have hseats : seats w.slots.length A.bound = seats (w.vacated t).slots.length A.bound := by
    rw [w.slots_vacated]
  refine ⟨fun f hf c hc => ?_, fun x hx => ?_, ?_, fun x hx => ⟨le_of_mem_seats hx, fun t' p hp => ?_⟩,
    fun p hp => ?_, fun t' ht => hbound.spares.target ht, ?_,
    fun t' ht => hbound.spares.bindings t' ht⟩
  · rw [hcontent]
    exact hfitted.applied f hf c hc
  · rw [hcontent]
    exact hfitted.seated x (hseats ▸ hx)
  · have hslots := hfitted.slots
    rw [w.slots_vacated] at hslots
    exact hbound.akin.slots.trans hslots
  · rw [hcontent] at hp
    rcases hfitted.alone hsuited (hseats ▸ hx) hp with hplace | hold
    · exact .inl hplace
    · have hkind := World.content?_eq_of_slot.mpr hold
      rw [hkinds] at hkind
      exact .inr (World.content?_eq_of_slot.mp hkind)
  · rw [hcontent, hfitted.rest t p fun _ => hp]
    exact hrest t p fun _ => hp
  · rw [World.isBound, Binder.isBound, hbound.active, lookup_cons_ite, if_pos rfl]
    rfl

/-- A target that has been bound so is released without a fault. -/
theorem unbind_ok : (w.unbind t).1 = .ok () := by
  cases hid : w.binder.active.lookup t with
  | none =>
    obtain ⟨level, message, heq⟩ := unbind_of_unbound hid
    rw [heq]
  | some id =>
    obtain ⟨context, hc⟩ := h.companion hid (Binder.prepared_of_embeds hA hresolve t)
    rw [unbind_of_bound hid, unbindCompanion_of_keeper (w := w.without t) hc]

/-- A target that has been released is still poised. -/
theorem of_vacated {u : World} (hakin : Akin (w.vacated t) u) : u.Poised catalog t T := by
  obtain ⟨htypes, hkinds, -⟩ := h.vacated hA hresolve
  refine ⟨?_, h.has, fun p l hl => ?_, ?_, fun id hid => ?_⟩
  · obtain ⟨_, _, rfl⟩ := hakin
    exact (htypes t).trans h.type
  · rw [hakin.kindAt?, hkinds]
    exact h.shapes p l hl
  · rw [hakin.active, w.binder_vacated]
    exact h.keys.sublist (List.filter_sublist.map _)
  · rw [hakin.active, w.binder_vacated, lookup_without] at hid
    cases hid

/-- **To bind a target that is bound comes to the same as to unbind it and bind it then.** -/
theorem rebinds (hbound : Rebound w t T A name ⟨t, path, A.info.declared⟩ context w') :
    ∃ trace, ∀ act,
      Live.bind act t context (w.unbind t).2 = some (.ok (), { w' with trace }) := by
  obtain ⟨trace, hunbind⟩ := unbind_eq w t
  rw [hunbind]
  set u : World := { (w.vacated t) with trace }
  have hakin : Akin (w.vacated t) u := .retrace _ trace
  have hresolver : u.binder.resolver = w.binder.resolver := by
    change (w.vacated t).binder.resolver = _
    rw [w.binder_vacated]
    rfl
  have hunbound : u.vacated t = u := by
    refine vacated_of_unbound ?_
    rw [hakin.active, w.binder_vacated, lookup_without]
  obtain ⟨w'', hrun, hbound'⟩ := (h.of_vacated hA hresolve hakin).bind hA
    (by rw [hresolver]; exact hresolve) context
  have hjoined := hbound'.akin
  rw [hunbound] at hjoined
  have hsame : Akin w' w'' :=
    (hbound.akin.symm.trans (hakin.joined A name _ context)).trans hjoined
  obtain ⟨trace', rfl⟩ := hsame.eq_of_resolver (by
    rw [hbound'.resolver, hbound.resolver, hresolver])
  exact ⟨trace', hrun⟩

end World.Poised

/-- **A bind endows its target, and nothing else.** Every program is carried out moment by moment,
and at every moment all targets are poised. To bind a poised target with the companion of a
type that it embeds always succeeds, whatever user code may do, and does what `Endows` says: it
brings the bound fields of that part up to date with the current skin of the context, on slots of
their own, and leaves everything else alone. The world afterwards is the same, but for what was
logged, as if the target had been unbound before. -/
theorem Performance.bind_endows (code : UserCode catalog) (performance : Performance catalog)
    (boundary : Boundary) (broadcasters : Nat) (hosts : List BroadcasterId) :
    performance.Unfolds code boundary broadcasters hosts ∧
    (∀ effects m t T, Runs code (performance.opening boundary broadcasters hosts) effects m →
      m.world.typeOf? t = some T → m.world.Poised catalog t T) ∧
    ∀ w t T path A name context, w.Poised catalog t T → catalog.Embeds T path A →
      (w.binder.resolver.resolve T.info).result = .ok (some (.keeper A name)) →
      ∃ w', (∀ act, Live.bind act t context w = some (.ok (), w')) ∧
        Endows w t path A (w.manager context.manager).current w' ∧
        (w.unbind t).1 = .ok () ∧
        ∃ trace, ∀ act,
          Live.bind act t context (w.unbind t).2 = some (.ok (), { w' with trace }) := by
  refine ⟨performance.unfolds code boundary broadcasters hosts,
    fun effects m t T hruns hT => performance.poised boundary broadcasters hosts hruns hT,
    fun w t T path A name context h hA hresolve => ?_⟩
  obtain ⟨w', hrun, hbound⟩ := h.bind hA hresolve context
  exact ⟨w', hrun, h.endows hA hresolve hbound, h.unbind_ok hA hresolve,
    h.rebinds hA hresolve hbound⟩

/-! ## A picture in its frame -/

namespace Gallery

/-- The type of frames. -/
def frame : TypeDefinition where
  info := .root "Frame" "app::Frame"
  fields := [
    { name := "wood", layout := .plain .color, source := some (.color, 1) },
    { name := "mat", layout := .optional .color, source := some (.color, 2) },
    { name := "glow", layout := .reactive .color, source := some (.color, 3) },
    { name := "label", layout := .plain .text }]

/-- The type of pictures. -/
def picture : TypeDefinition where
  info := .derived "Picture" "app::Picture" "frame" frame.info
  fields := [
    { name := "frame", layout := frame.layout },
    { name := "title", layout := .plain .text }]

/-- The catalog of what hangs in a gallery. -/
def types : Catalog where
  has A := A = frame ∨ A = picture
  unique := by
    rintro A B (rfl | rfl) (rfl | rfl) h <;> first | rfl | exact absurd h (by decide)
  names := by rintro A (rfl | rfl) <;> decide
  parent := by
    rintro A declared name via up (rfl | rfl) hinfo <;> cases hinfo
    exact ⟨frame, .inl rfl, rfl, _, List.mem_cons_self, rfl, rfl⟩

/-- A picture has a frame. -/
theorem framed : types.Embeds picture ["frame"] frame :=
  .up (.inr rfl) (.inl rfl) rfl (.self (.inl rfl))

/-- The skin of the day. -/
def day : Skin := { name := "day", colors := [(1, ⟨10⟩), (2, ⟨20⟩), (3, ⟨30⟩)] }

/-- Two pictures are hung, and the first one is bound. -/
def hung : Performance types where
  moves := [.deed (.command (.create picture)), .deed (.command (.create picture)),
    .deed (.command (.register frame "FrameThemeBinding")),
    .deed (.command (.addSkin 0 day)), .deed (.command (.bind 0 ⟨0, 0⟩))]
  of := by simp [Move.Of, Deed.Of, Command.Of, Setting.free, types]

/-- The pictures are there, the first one is bound, and the companion of frames is found for
them. -/
theorem scene : ∃ w, hung.run (perform 1) (.opened .standard 1 [0]) = some ((), w) ∧
    w.isBound 0 = true ∧ w.isBound 1 = false ∧ w.slots.length = 3 ∧
    (∀ t < 2, ∃ T, w.typeOf? t = some T ∧ T.info.declared = "Picture") ∧
    (w.binder.resolver.resolve picture.info).result =
      .ok (some (.keeper frame "FrameThemeBinding")) := by
  have hglance : (hung.run (perform 1) (.opened .standard 1 [0])).map (fun r =>
      (r.2.isBound 0, r.2.isBound 1, r.2.slots.length,
        (List.range 2).all fun t => (r.2.typeOf? t).any fun T => T.info.declared == "Picture",
        decide ((r.2.binder.resolver.resolve picture.info).result.toOption =
          some (some (.keeper frame "FrameThemeBinding"))))) =
      some (true, false, 3, true, true) := by decide +kernel
  obtain ⟨⟨⟨⟩, w⟩, hrun, hglance⟩ := Option.map_eq_some_iff.mp hglance
  simp only [Prod.mk.injEq, decide_eq_true_eq] at hglance
  obtain ⟨hbound, hother, hslots, htypes, hresult⟩ := hglance
  refine ⟨w, hrun, hbound, hother, hslots, fun t ht => ?_, ?_⟩
  · have htype := List.all_eq_true.mp htypes t (List.mem_range.mpr ht)
    obtain ⟨T, hT, hdeclared⟩ := (Option.any_eq_true _ _).mp htype
    exact ⟨T, hT, beq_iff_eq.mp hdeclared⟩
  cases hresolve : (w.binder.resolver.resolve picture.info).result with
  | error e =>
    rw [hresolve] at hresult
    cases hresult
  | ok found =>
    rw [hresolve] at hresult
    exact congrArg Except.ok (Option.some.inj hresult)

end Gallery

/-- The frame of a picture that is bound already is bound once more, with another slot. -/
theorem Gallery.picture_framed_anew :
    Plays (.acting types) 1 (perform 1) ∧
    ∃ w, hung.run (perform 1) (.opened .standard 1 [0]) = some ((), w) ∧ w.isBound 0 = true ∧
      w.Poised types 0 picture ∧ types.Embeds picture ["frame"] frame ∧
      (w.binder.resolver.resolve picture.info).result =
        .ok (some (.keeper frame "FrameThemeBinding")) ∧
      ∃ w', (∀ act, Live.bind act 0 ⟨0, 0⟩ w = some (.ok (), w')) ∧
        Endows w 0 ["frame"] frame (w.manager 0).current w' ∧
        w'.content? 0 ["frame", "glow"] = some (.reactive 3) ∧ (w.unbind 0).1 = .ok () ∧
        ∃ trace, ∀ act,
          Live.bind act 0 ⟨0, 0⟩ (w.unbind 0).2 = some (.ok (), { w' with trace }) := by
  have hact := perform_plays types 1
  obtain ⟨hunfolds, hpoised, hbinds⟩ :=
    Performance.bind_endows (.acting types) hung .standard 1 [0]
  obtain ⟨w, hrun, hbound, -, hslots, htypes, hresult⟩ := scene
  obtain ⟨T, hT, hdeclared⟩ := htypes 0 (by decide)
  obtain ⟨effects, hreached⟩ := (hunfolds.result hact hrun).ends
  have h := hpoised effects ⟨w, []⟩ 0 T hreached hT
  obtain rfl : T = picture := types.unique h.has (.inr rfl) hdeclared
  obtain ⟨w', hbind, hendows, hrest⟩ :=
    hbinds w 0 picture ["frame"] frame "FrameThemeBinding" ⟨0, 0⟩ h framed hresult
  obtain ⟨glow, hglow, hname⟩ : ∃ f, (f, w.slots.length) ∈ seats w.slots.length frame.bound ∧
      f.name = "glow" := ⟨_, List.mem_cons_self, rfl⟩
  have hslot := hendows.seated _ hglow
  rw [hname, hslots] at hslot
  exact ⟨hact, w, hrun, hbound, h, framed, hresult, w', hbind, hendows, hslot, hrest⟩

end Live
end Theming
