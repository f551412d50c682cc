/-
# Cleared companions are inert

A companion goes through phases, whoever holds it.

| phase | ends with | released | told | registered |
| --- | --- | --- | --- | --- |
| it listens | release or clearing | resets its fields | brings them up to date | yes |
| it has been released | clearing | resets its fields | brings them up to date | no |
| it has been cleared | | error with its name | nothing | not after a release |

In between a program does what it likes: other companions are made, told, released and cleared, the
binder is called, skins change, and owners write to fields and slots, all this by user code as well
that is called in the middle of something else (`Touches`; actions are such user code, by
`perform_touches`). Whatever has been done before a call, it comes to what the phase says
(`companion_phases`).
-/

import Theming.Proofs.Custody
import Theming.Proofs.Parting

namespace Theming
namespace Live

variable {catalog : Catalog} {careful : CompanionId → Prop} {act inner : Act} {w w' : World}

/-! ## Touches -/

/-- What those do who hold companions themselves. -/
inductive Touch where
  /-- A skin changes, an owner writes to a field, or whatever else a program does. -/
  | move (m : Move)
  /-- Makes the companion of an entry for a target, and holds it under a name. -/
  | make (name : String) (entry : CompanionEntry) (target : TargetId) (context : Context)
  /-- Lets go of the companion held under a name. -/
  | drop (name : String)
  /-- Applies the current theme to the target of a companion. -/
  | apply (id : CompanionId)
  | release (id : CompanionId)
  | clear (id : CompanionId)

namespace Touch

/-- Makes the companion of an entry for the part of a target that is of the entry's type. -/
def construct (act : Act) (name : String) (entry : CompanionEntry) (target : TargetId)
    (context : Context) : Step (Except BindingError Unit) := do
  match (← get).targets[target]? with
  | none => return .ok ()
  | some t =>
    match t.type.info.upcast ⟨target, [], t.type.info.declared⟩ entry.target with
    | .error e => return .error e
    | .ok handle =>
      match ← Live.construct act entry handle context with
      | .error e => return .error e
      | .ok id =>
        modify fun w => w.keep name id
        return .ok ()

/-- Does it, and gives what it comes to. -/
def run (act : Act) : Touch → Step (Except BindingError Unit)
  | move m => do
    m.run act
    return .ok ()
  | make name entry target context => construct act name entry target context
  | drop name => do
    modify fun w => w.letGo name
    return .ok ()
  | apply id => do
    updateTheme act id
    return .ok ()
  | release id => modifyGet fun w => w.unbindCompanion id
  | clear id => do
    modify fun w => w.clearCompanion id
    return .ok ()

/-- Does all of it, whatever each comes to. -/
def runAll (act : Act) (touches : List Touch) : Step Unit :=
  touches.forM fun touch => do
    let _ ← touch.run act

/-- A touch that keeps to the types of a program. -/
def Of (catalog : Catalog) : Touch → Prop
  | move m => m.Of catalog
  | make _ entry _ _ => catalog.Keeps entry
  | _ => True

end Touch

/-- What user code does comes to touches that it may make, in which user code is called less
deeply. -/
def Touches (catalog : Catalog) (may : Touch → Prop) : Nat → Act → Prop :=
  Deepens fun inner _ _ w w' => ∃ touches : List Touch,
    (∀ touch ∈ touches, touch.Of catalog ∧ may touch) ∧
    Touch.runAll inner touches w = some ((), w')

/-- Moves are touches. -/
theorem runAll_moves (moves : List Move) :
    Touch.runAll act (moves.map .move) = moves.forM (Move.run act) := by
  rw [Touch.runAll, List.forM_eq_forM, List.forM_eq_forM, List.forM_map]
  simp [Touch.run]

/-- Actions make moves only. -/
theorem perform_touches (catalog : Catalog) (depth : Nat) :
    Touches catalog (fun touch => ∃ m, touch = .move m) depth (perform depth) := by
  refine Deepens.of_tower rfl (fun depth v a w w' hrun => ?_) depth
  refine ⟨(a.answer (perform depth) v w).map .move, fun touch htouch => ?_, ?_⟩
  · obtain ⟨m, hm, rfl⟩ := List.mem_map.mp htouch
    exact ⟨a.answer_of v w m hm, m, rfl⟩
  · rw [runAll_moves, ← carryOut_eq]
    exact hrun

/-! ## What companions outlast -/

section Calls

variable (hact : ∀ v a, Sustains catalog careful (act v a))
include hact

theorem make_sustains (name : String) {entry : CompanionEntry} (hentry : catalog.Keeps entry)
    (target : TargetId) (context : Context) :
    Sustains catalog careful (Touch.construct act name entry target context) := by
  refine fun w ht => Gives.get_bind ?_
  cases htarget : w.targets[target]? with
  | none => exact Gives.pure (.refl ht)
  | some t =>
    have htype : w.typeOf? target = some t.type := by rw [World.typeOf?, htarget]; rfl
    dsimp only
    cases hup : t.type.info.upcast ⟨target, [], t.type.info.declared⟩ entry.target with
    | error e => exact Gives.pure (.refl ht)
    | ok handle =>
      obtain ⟨A, label, hembeds, rfl, rfl, hgoal⟩ := hentry.embeds (ht.types _ _ htype) hup
      have hattached : w.Attached catalog ⟨.keeper A label, context, some handle⟩ handle :=
        ⟨t.type, A, label, htype, hembeds, rfl, hgoal⟩
      refine (construct_outlasts hact ht hattached hgoal).bind fun made w₁ h₁ => ?_
      obtain ⟨h₁, -⟩ := h₁
      cases made with
      | error e => exact Gives.pure h₁
      | ok id => exact Gives.modify_bind (Gives.pure (h₁.trans (.aside h₁.typed rfl rfl rfl rfl)))

/-- **Companions outlast every touch** of others, and their own but for the clearing. -/
theorem touch_sustains {touch : Touch} (hof : touch.Of catalog)
    (hcareful : ∀ id, careful id → touch ≠ .clear id) :
    Sustains catalog careful (touch.run act) := by
  cases touch with
  | move m => exact .bind (move_sustains hact hof) fun _ => .pure _
  | make name entry target context => exact make_sustains hact name hof target context
  | drop name => exact .bind (.modify fun w ht => .aside ht rfl rfl rfl rfl) fun _ => .pure _
  | apply id => exact .bind (updateTheme_sustains hact id) fun _ => .pure _
  | release id => exact fun w ht => Gives.of_eq rfl (.unbindCompanion ht id)
  | clear id =>
    refine .bind (.modify fun w ht => (Outlasts.refl ht).clearCompanion ?_) fun _ => .pure _
    exact fun other _ hother _ heq => hcareful other hother (congrArg Touch.clear heq)

theorem runAll_sustains {touches : List Touch} (hof : ∀ touch ∈ touches, touch.Of catalog)
    (hcareful : ∀ id, careful id → .clear id ∉ touches) :
    Sustains catalog careful (Touch.runAll act touches) :=
  .forM fun touch htouch => .bind (touch_sustains hact (hof touch htouch) fun id hid heq =>
    hcareful id hid (heq ▸ htouch)) fun _ => .pure _

end Calls

/-- **Companions outlast user code**, however deep its calls nest, if it clears none that is handled
with care. -/
theorem Touches.sustains {may : Touch → Prop} (hcareful : ∀ id, careful id → ¬ may (.clear id))
    {depth : Nat} (h : Touches catalog may depth act) (v : Option Value) (a : Action) :
    Sustains catalog careful (act v a) := by
  refine Deepens.elim (P := fun act => ∀ v a, Sustains catalog careful (act v a))
    (fun _ _ _ _ => trivial) (fun inner act _ hinner hact v a w ht => ?_) h v a
  refine Gives.granted.mpr fun _ w' hrun => ?_
  obtain ⟨touches, htouches, hrun⟩ := hact v a w w' hrun
  have hsustains : Sustains catalog careful (Touch.runAll inner touches) :=
    runAll_sustains hinner (fun touch htouch => (htouches touch htouch).1)
      fun id hid hmem => hcareful id hid (htouches _ hmem).2
  exact Gives.granted.mp (hsustains w ht) () w' hrun

/-- What touches come to from the start of a program is typed. -/
theorem Touches.typed {may : Touch → Prop} {depth : Nat} (hact : Touches catalog may depth act)
    {touches : List Touch} (hof : ∀ touch ∈ touches, touch.Of catalog) (boundary : Boundary)
    (broadcasters : Nat) (hosts : List BroadcasterId)
    (hrun : Touch.runAll act touches (.opened boundary broadcasters hosts) = some ((), w)) :
    Typed catalog w := by
  have hsustains : Sustains catalog (fun _ => False) (Touch.runAll act touches) :=
    runAll_sustains (hact.sustains fun _ => False.elim) hof fun _ => False.elim
  have h := hsustains _ (.opened catalog boundary broadcasters hosts)
  exact (Gives.granted.mp h () w hrun).typed

/-! ## One companion -/

section Keeper

variable {id : CompanionId} {A : TypeDefinition} {name : String} {context : Context}
  {target : Option Handle}

/-- A companion without a target gives its name when it is released, and touches nothing. -/
theorem unbindCompanion_of_cleared (hc : w.companions[id]? = some ⟨.keeper A name, context, none⟩) :
    w.unbindCompanion id = (.error (.alreadyCleared name),
      w.removeListener context.broadcaster (.companion id)) := by
  rw [World.unbindCompanion, hc]
  rfl

/-- **A release resets the fields** of a companion that has its target. -/
theorem unbindCompanion_resets (ht : Typed catalog w) {handle : Handle}
    (hc : w.companions[id]? = some ⟨.keeper A name, context, some handle⟩) :
    ∃ w', w.unbindCompanion id = (.ok (), w') ∧ ∀ f ∈ A.bound, ∀ c, f.cleared? = some c →
      w'.content? handle.target (handle.path ++ [f.name]) = some c := by
  obtain ⟨hsuited, hnames⟩ := ht.keeper hc
  have hsuited' : (w.removeListener context.broadcaster (.companion id)).Suited handle A.bound :=
    hsuited
  have hcleared := resetFields_cleared hsuited' hnames
  exact ⟨_, unbindCompanion_of_keeper hc, hcleared.applied⟩

/-- **A companion is not registered once it has been released.** -/
theorem unheard_unbindCompanion
    (hc : w.companions[id]? = some ⟨.keeper A name, context, target⟩) :
    .companion id ∉ (w.unbindCompanion id).2.listeners context.broadcaster := by
  have hremoved : .companion id ∉
      (w.removeListener context.broadcaster (.companion id)).listeners context.broadcaster := by
    rw [w.listeners_removeListener, if_pos rfl]
    exact fun hmem => bne_iff_ne.mp (List.mem_filter.mp hmem).2 rfl
  cases target with
  | none =>
    rw [unbindCompanion_of_cleared hc]
    exact hremoved
  | some handle =>
    obtain ⟨targets, hreset⟩ := (w.removeListener context.broadcaster
      (.companion id)).resetFields_eq handle A.bound
    rw [unbindCompanion_of_keeper hc, hreset]
    exact hremoved

/-- What is known of a companion when some touches have been made. -/
structure Since (catalog : Catalog) (careful : CompanionId → Prop) (id : CompanionId)
    (context : Context) (w : World) (touches : List Touch) (w' : World) : Prop where
  outlasts : Outlasts catalog careful w w'
  cleared : .clear id ∈ touches → ∀ c, w'.companions[id]? = some c → c.target = none
  released : .release id ∈ touches → .companion id ∉ w'.listeners context.broadcaster

/-- One more touch. -/
theorem Since.touch (hact : ∀ v a, Sustains catalog careful (act v a))
    (hc : w.companions[id]? = some ⟨.keeper A name, context, target⟩) {touches : List Touch}
    (h : Since catalog careful id context w touches w') {touch : Touch} (hof : touch.Of catalog)
    (hcareful : ∀ id, careful id → touch ≠ .clear id) :
    Gives True (touch.run act) w' fun _ w'' =>
      Since catalog careful id context w (touches ++ [touch]) w'' := by
  refine Gives.granted.mpr fun r w'' hrun => ?_
  have hstep : Outlasts catalog careful w' w'' :=
    Gives.granted.mp (touch_sustains hact hof hcareful w' h.outlasts.typed) r w'' hrun
  have hid : id < w.companions.length := (List.getElem?_eq_some_iff.mp hc).1
  obtain ⟨now, hc', -⟩ := h.outlasts.stays id _ hc
  refine ⟨h.outlasts.trans hstep, fun hmem c hcompanion => ?_, fun hmem => ?_⟩
  · rcases List.mem_append.mp hmem with hmem | hmem
    · -- It has been cleared before, and gets no target back.
      obtain rfl : now = none := h.cleared hmem _ hc'
      obtain ⟨now', hc'', hnow⟩ := hstep.stays id _ hc'
      obtain rfl := Option.some.inj (hc''.symm.trans hcompanion)
      exact or_self_iff.mp hnow
    · obtain rfl := List.mem_singleton.mp hmem
      obtain rfl : w'.clearCompanion id = w'' := congrArg Prod.snd (Option.some.inj hrun)
      rw [clearCompanion_of_keeper hc', World.companions_detach, if_pos rfl] at hcompanion
      obtain ⟨c', -, rfl⟩ := Option.map_eq_some_iff.mp hcompanion
      rfl
  · rcases List.mem_append.mp hmem with hmem | hmem
    · exact fun hheard => h.released hmem (hstep.heard id (h.outlasts.lt_length hid) _ hheard)
    · obtain rfl := List.mem_singleton.mp hmem
      obtain rfl : (w'.unbindCompanion id).2 = w'' :=
        congrArg Prod.snd (Option.some.inj hrun)
      exact unheard_unbindCompanion hc'

/-- All touches. -/
theorem Since.runAll (hact : ∀ v a, Sustains catalog careful (act v a)) (ht : Typed catalog w)
    (hc : w.companions[id]? = some ⟨.keeper A name, context, target⟩) {touches : List Touch}
    (hof : ∀ touch ∈ touches, touch.Of catalog)
    (hcareful : ∀ id, careful id → .clear id ∉ touches) :
    Gives True (Touch.runAll act touches) w fun _ w' =>
      Since catalog careful id context w touches w' := by
  refine Gives.forM (fun done w' => Since catalog careful id context w done w')
    ⟨.refl ht, nofun, nofun⟩ fun done touch rest htouches w₁ h₁ => ?_
  have htouch : touch ∈ touches := htouches ▸ List.mem_append_right _ List.mem_cons_self
  exact (h₁.touch hact hc (hof touch htouch) fun id hid heq => hcareful id hid (heq ▸ htouch)).bind
    fun _ _ h => Gives.pure h

end Keeper

/-- **The phases of a companion.** Whatever touches are made from a typed world on, with user code
that makes touches of its own, a companion keeps what it is, and its target or none. It has none if
it had none or has been cleared; it has the same if it was cleared neither by these touches nor by
user code, and the binder has not let go of it. Without a target a release gives an error with its
name and an application of the theme nothing at all, and neither changes a target or a slot. With
one a release succeeds and resets all fields that are no slots. And once it is not registered with
its broadcaster, or has been released, it is not registered. -/
theorem companion_phases {may : Touch → Prop} {depth : Nat} (hact : Touches catalog may depth act)
    (ht : Typed catalog w) {id : CompanionId} {A : TypeDefinition} {name : String}
    {context : Context} {target : Option Handle}
    (hc : w.companions[id]? = some ⟨.keeper A name, context, target⟩) {before : List Touch}
    (hof : ∀ touch ∈ before, touch.Of catalog)
    (hrun : Touch.runAll act before w = some ((), w')) :
    ∃ now, w'.companions[id]? = some ⟨.keeper A name, context, now⟩ ∧
      (target = none ∨ .clear id ∈ before → now = none) ∧
      (.clear id ∉ before → ¬ may (.clear id) → (id ∈ w.actives → id ∈ w'.actives) →
        now = target) ∧
      (now = none →
        (∃ w'', (Touch.release id).run act w' = some (.error (.alreadyCleared name), w'') ∧
          w''.targets = w'.targets ∧ w''.slots = w'.slots) ∧
        (Touch.apply id).run act w' = some (.ok (), w')) ∧
      (∀ handle, now = some handle →
        ∃ w'', (Touch.release id).run act w' = some (.ok (), w'') ∧
          ∀ f ∈ A.bound, ∀ c, f.cleared? = some c →
            w''.content? handle.target (handle.path ++ [f.name]) = some c) ∧
      (w.hasListener context.broadcaster (.companion id) = false ∨ .release id ∈ before →
        w'.hasListener context.broadcaster (.companion id) = false) := by
  -- With care is handled the one companion, if nobody clears it.
  have hsustains : ∀ v a, Sustains catalog
      (fun other => other = id ∧ .clear id ∉ before ∧ ¬ may (.clear id)) (act v a) :=
    hact.sustains fun other ⟨heq, _, hmay⟩ => heq ▸ hmay
  have hsince := Gives.granted.mp (Since.runAll hsustains ht hc hof
    fun other ⟨heq, hnot, _⟩ => heq ▸ hnot) () w' hrun
  have hid : id < w.companions.length := (List.getElem?_eq_some_iff.mp hc).1
  obtain ⟨now, hc', hnow⟩ := hsince.outlasts.stays id _ hc
  refine ⟨now, hc', ?_, fun hnot hmay hheld => ?_, ?_, ?_, fun h => ?_⟩
  · rintro (rfl | hmem)
    · exact or_self_iff.mp hnow
    · exact hsince.cleared hmem _ hc'
  · have hsame := hsince.outlasts.spared id hid ⟨rfl, hnot, hmay⟩ hheld
    exact congrArg Companion.target (Option.some.inj (hc'.symm.trans (hsame.trans hc)))
  · rintro rfl
    refine ⟨⟨_, congrArg some (unbindCompanion_of_cleared hc'), rfl, rfl⟩, ?_⟩
    refine Step.bind_eq (updateTheme_of_detached fun c hcompanion => ?_)
    obtain rfl := Option.some.inj (hc'.symm.trans hcompanion)
    rfl
  · rintro handle rfl
    obtain ⟨w'', hreleased, hfields⟩ := unbindCompanion_resets hsince.outlasts.typed hc'
    exact ⟨w'', congrArg some hreleased, hfields⟩
  · have hnot : .companion id ∉ w'.listeners context.broadcaster := by
      rcases h with h | h
      · exact fun hmem => Bool.eq_false_iff.mp h
          (List.contains_iff_mem.mpr (hsince.outlasts.heard id hid _ hmem))
      · exact hsince.released h
    exact Bool.eq_false_iff.mpr fun h => hnot (List.contains_iff_mem.mp h)

namespace Gallery

/-- A picture is hung, and a companion made for its frame that the binder does not know. -/
def framing : List Touch :=
  [.move (.deed (.command (.create picture))), .move (.deed (.command (.addSkin 0 day))),
    .make "held" (.keeper frame "FrameThemeBinding") 0 ⟨0, 0⟩]

/-- The frame gets a mat from its owner. -/
def matting : Touch :=
  .move (.deed (.command (.write 0 ["frame", "mat"] (.optional (some (.color ⟨7⟩))))))

/-- The companion is told and released, the skin changes, and the frame gets a mat. -/
def releasing : List Touch :=
  [.apply 0, .release 0, .move (.deed (.command (.activate 0 "day"))), .apply 0, matting]

/-- The companion is cleared, told and released, the skin changes, and the frame gets a mat. -/
def clearing : List Touch :=
  [.clear 0, .apply 0, .release 0, .move (.deed (.command (.activate 0 "day"))), matting]

/-- The color of the mat, if there is one. -/
def mat (w : World) : Option (Option Value) :=
  match w.content? 0 ["frame", "mat"] with
  | some (.optional v) => some v
  | _ => none

/-- The companion is there, and then is released or cleared. -/
def played : Option (World × World × World) :=
  (Touch.runAll (perform 2) framing (.opened .standard 1 [0])).bind fun ⟨_, w⟩ =>
    (Touch.runAll (perform 2) releasing w).bind fun ⟨_, w₁⟩ =>
      (Touch.runAll (perform 2) clearing w).map fun ⟨_, w₂⟩ => (w, w₁, w₂)

/-- The companion listens, and both scenes can be played with it. -/
theorem framed_by_hand : ∃ w w₁ w₂,
    Touch.runAll (perform 2) framing (.opened .standard 1 [0]) = some ((), w) ∧
    w.companions[0]? = some ⟨.keeper frame "FrameThemeBinding", ⟨0, 0⟩,
      some ⟨0, ["frame"], "Frame"⟩⟩ ∧
    w.actives = [] ∧ w.hasListener 0 (.companion 0) = true ∧
    Touch.runAll (perform 2) releasing w = some ((), w₁) ∧ mat w₁ = some (some (.color ⟨7⟩)) ∧
    Touch.runAll (perform 2) clearing w = some ((), w₂) := by
  have hcompanion : played.map (fun r =>
      r.1.companions[0]?.map fun c => (c.entry, c.context, c.target)) =
      some (some (.keeper frame "FrameThemeBinding", ⟨0, 0⟩, some ⟨0, ["frame"], "Frame"⟩)) := by
    decide +kernel
  have hglance : played.map (fun r =>
      (r.1.actives.length, r.1.hasListener 0 (.companion 0), mat r.2.1)) =
      some (0, true, some (some (.color ⟨7⟩))) := by decide +kernel
  obtain ⟨⟨w, w₁, w₂⟩, hplayed, hglance⟩ := Option.map_eq_some_iff.mp hglance
  rw [hplayed, Option.map_some, Option.some_inj] at hcompanion
  simp only [Prod.mk.injEq] at hglance
  obtain ⟨hactives, hlistens, hmat⟩ := hglance
  obtain ⟨⟨entry, context, target⟩, hc, heq⟩ := Option.map_eq_some_iff.mp hcompanion
  simp only [Prod.mk.injEq] at heq
  obtain ⟨rfl, rfl, rfl⟩ := heq
  obtain ⟨⟨_, _⟩, hrun, hplayed⟩ := Option.bind_eq_some_iff.mp hplayed
  obtain ⟨⟨_, _⟩, hrun₁, hplayed⟩ := Option.bind_eq_some_iff.mp hplayed
  obtain ⟨⟨_, _⟩, hrun₂, heq⟩ := Option.map_eq_some_iff.mp hplayed
  simp only [Prod.mk.injEq] at heq
  obtain ⟨rfl, rfl, rfl⟩ := heq
  exact ⟨_, _, _, hrun, hc, List.eq_nil_of_length_eq_zero hactives, hlistens, hrun₁, hmat, hrun₂⟩

end Gallery

/-- The mat of a frame is taken off by a companion that has been released before, and left to the
owner by one that has been cleared. -/
theorem Gallery.mat_left_to_owner :
    Touches types (fun touch => ∃ m, touch = .move m) 2 (perform 2) ∧
    ∃ w w₁ w₂ w₃ w₄,
      Touch.runAll (perform 2) framing (.opened .standard 1 [0]) = some ((), w) ∧
      Typed types w ∧ w.hasListener 0 (.companion 0) = true ∧
      Touch.runAll (perform 2) releasing w = some ((), w₁) ∧ mat w₁ = some (some (.color ⟨7⟩)) ∧
      w₁.hasListener 0 (.companion 0) = false ∧
      (Touch.release 0).run (perform 2) w₁ = some (.ok (), w₂) ∧
      w₂.content? 0 ["frame", "mat"] = some (.optional none) ∧
      Touch.runAll (perform 2) clearing w = some ((), w₃) ∧
      w₃.hasListener 0 (.companion 0) = false ∧
      (Touch.release 0).run (perform 2) w₃ =
        some (.error (.alreadyCleared "FrameThemeBinding"), w₄) ∧
      w₄.targets = w₃.targets ∧ w₄.slots = w₃.slots ∧
      (Touch.apply 0).run (perform 2) w₃ = some (.ok (), w₃) := by
  have hact := perform_touches types 2
  obtain ⟨w, w₁, w₃, hrun, hc, hactives, hlistens, hrun₁, hmat, hrun₃⟩ := framed_by_hand
  have hframe : types.Keeps (.keeper frame "FrameThemeBinding") := ⟨frame, _, .inl rfl, rfl⟩
  have ht : Typed types w := hact.typed
    (by simpa [framing, Touch.Of, Move.Of, Deed.Of, Command.Of, Setting.free, types] using hframe)
    .standard 1 [0] hrun
  obtain ⟨now, -, -, hkept, -, hresets, hleft⟩ := companion_phases hact ht hc
    (by simp [releasing, matting, Touch.Of, Move.Of, Deed.Of, Command.Of]) hrun₁
  obtain rfl := hkept (by simp [releasing, matting]) (by simp) (by simp [hactives])
  obtain ⟨w₂, hrelease, hfields⟩ := hresets _ rfl
  have hnone : w₂.content? 0 ["frame", "mat"] = some (.optional none) :=
    hfields _ (List.mem_cons_of_mem _ List.mem_cons_self) _ rfl
  obtain ⟨now, -, hgone, -, hinert, -, hleft'⟩ := companion_phases hact ht hc
    (by simp [clearing, matting, Touch.Of, Move.Of, Deed.Of, Command.Of]) hrun₃
  obtain ⟨⟨w₄, herror, htargets, hslots⟩, happly⟩ := hinert (hgone (.inr List.mem_cons_self))
  exact ⟨hact, w, w₁, w₂, w₃, w₄, hrun, ht, hlistens, hrun₁, hmat,
    hleft (.inr (by simp [releasing])), hrelease, hnone, hrun₃, hleft' (.inr (by simp [clearing])),
    herror, htargets, hslots, happly⟩

end Live
end Theming
