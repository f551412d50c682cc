/-
# After a release

Once a target has been unbound, whether by the program or by an observer in the middle of an update
of that same target, its fields are cleared and stay as they are until it is bound again: nobody but
its owner writes to them (`Performance.freed_stays`).

Its slots are another matter. What its companion has put aside before it was released is published
all the same, and nothing else is (`Performance.publishes_pending`). So a slot can be set after the
target has been unbound, if an observer of a slot before it has unbound it (`Banner.copy_is_set`).
-/

import Theming.Proofs.Performing

namespace Theming
namespace Live

variable {catalog : Catalog} {code : UserCode catalog} {w : World}

/-! ## Paths that are not written to -/

/-- The owner writes at a path of a target, above it or below it. -/
def Effect.Touches (t : TargetId) (path : List String) : Effect → Prop
  | wrote t' path' _ => t = t' ∧ (path' <+: path ∨ path <+: path')
  | _ => False

theorem Effect.at?_rewrites {t : TargetId} {path : List String} {e : Effect}
    (h : ¬ e.Touches t path) (c : Content) : (e.rewrites t c).at? path = c.at? path := by
  cases e with
  | wrote t' path' change =>
    rw [rewrites]
    split_ifs with ht
    · have hapart : ¬ path' <+: path ∧ ¬ path <+: path' :=
        not_or.mp fun hor => h ⟨ht, hor⟩
      exact Content.at?_modifyAt_apart change hapart.1 hapart.2 c
    · rfl
  | _ => rfl

/-- What the owner does not touch is as it was. -/
theorem at?_rewritten {t : TargetId} {path : List String} {effects : List Effect}
    (h : ∀ e ∈ effects, ¬ e.Touches t path) (c : Content) :
    (rewritten t effects c).at? path = c.at? path := by
  rw [rewritten]
  induction effects generalizing c with
  | nil => rfl
  | cons e rest ih =>
    rw [List.forall_mem_cons] at h
    rw [List.foldl_cons, ih h.2, e.at?_rewrites h.1]

theorem World.content?_root (w : World) (t : TargetId) (path : List String) :
    w.content? t path = (w.content? t []).bind (Content.at? path) := by
  rw [content?, content?]
  cases w.targets[t]? <;> rfl

/-! ## Between an unbind and the next bind -/

/-- At a moment that has come about, an unbind has the outcome that it has in a world with bonds,
and what comes after it is a run. -/
theorem Performance.unbinds (performance : Performance catalog) (boundary : Boundary)
    (broadcasters : Nat) (hosts : List BroadcasterId) {before : List Effect} {t : TargetId}
    {rest : List Errand}
    (h : Runs code (performance.opening boundary broadcasters hosts) before
      ⟨w, .move (.deed (.command (.unbind t))) :: rest⟩) :
    (w.unbind t).1 = .ok () ∧ Parts catalog t w (w.unbind t).2 ∧
      (⟨(w.unbind t).2, rest⟩ : Moment).Of catalog := by
  have hm := h.of (performance.opening_of boundary broadcasters hosts)
  obtain ⟨hok, hparts⟩ := hm.bonds.unbind t
  exact ⟨hok, hparts, hparts.bonds, fun e he => hm.errands e (List.mem_cons_of_mem _ he)⟩

/-- **A target that has been unbound is left to its owner.** What a program comes to is there moment
by moment; and at every moment at which a target is unbound, that succeeds, the bound fields that
its companion kept are cleared, but for slots, and the rest of it is as it was. Until it is bound
again its companion is not brought up to date, and it is as its owner has made it: what the owner
has not written to is as it was when it had been unbound. -/
theorem Performance.freed_stays (code : UserCode catalog) (performance : Performance catalog)
    (boundary : Boundary) (broadcasters : Nat) (hosts : List BroadcasterId) :
    performance.Unfolds code boundary broadcasters hosts ∧
    ∀ before w t rest, Runs code (performance.opening boundary broadcasters hosts) before
        ⟨w, .move (.deed (.command (.unbind t))) :: rest⟩ →
      (w.unbind t).1 = .ok () ∧ Parts catalog t w (w.unbind t).2 ∧
      ∀ T, w.typeOf? t = some T → ∀ effects m, Runs code ⟨(w.unbind t).2, rest⟩ effects m →
        (∀ e ∈ effects, e.binds t = false) →
        m.world.isBound t = false ∧ (∀ e ∈ effects, e ≠ .updated t) ∧
        m.world.content? t [] = ((w.unbind t).2.content? t []).map (rewritten t effects) ∧
        ∀ path, (∀ e ∈ effects, ¬ e.Touches t path) →
          m.world.content? t path = (w.unbind t).2.content? t path := by
  refine ⟨performance.unfolds code boundary broadcasters hosts, fun before w t rest h => ?_⟩
  obtain ⟨hok, hparts, hm⟩ := performance.unbinds boundary broadcasters hosts h
  refine ⟨hok, hparts, fun T hT effects m hruns hbinds => ?_⟩
  have hT' : (w.unbind t).2.typeOf? t = some T := (hparts.spares.types t).trans hT
  obtain ⟨hfree, hcontent, hupdated, -⟩ := hruns.free hm hT' hparts.unbound hbinds
  refine ⟨?_, hupdated, hcontent, fun path hpath => ?_⟩
  · rw [World.isBound, Binder.isBound, hfree]
    rfl
  · rw [m.world.content?_root t path, (w.unbind t).2.content?_root t path, hcontent]
    dsimp only
    cases (w.unbind t).2.content? t [] with
    | none => rfl
    | some c => exact at?_rewritten hpath c

/-- **After an unbind, what was put aside is still published, and nothing else.** Unbinding sets no
slot. Until the target is bound again, what is published for it is what had been put aside for it
when it was unbound, in that order; and no slot is set but by what is published for companions and
by user code. -/
theorem Performance.publishes_pending (code : UserCode catalog) (performance : Performance catalog)
    (boundary : Boundary) (broadcasters : Nat) (hosts : List BroadcasterId) :
    performance.Unfolds code boundary broadcasters hosts ∧
    ∀ before w t rest, Runs code (performance.opening boundary broadcasters hosts) before
        ⟨w, .move (.deed (.command (.unbind t))) :: rest⟩ →
      (w.unbind t).1 = .ok () ∧ (w.unbind t).2.slots = w.slots ∧
      ∀ T, w.typeOf? t = some T → ∀ effects m, Runs code ⟨(w.unbind t).2, rest⟩ effects m →
        (∀ e ∈ effects, e.binds t = false) →
        publishedFor t effects ++ pendingFor t m.errands = pendingFor t rest ∧
        ∀ s < w.slots.length, m.world.reading s = (w.reading s).map (resetBy s effects) := by
  refine ⟨performance.unfolds code boundary broadcasters hosts, fun before w t rest h => ?_⟩
  obtain ⟨hok, hparts, hm⟩ := performance.unbinds boundary broadcasters hosts h
  refine ⟨hok, hparts.slots, fun T hT effects m hruns hbinds => ⟨?_, fun s hs => ?_⟩⟩
  · have hT' : (w.unbind t).2.typeOf? t = some T := (hparts.spares.types t).trans hT
    obtain ⟨-, -, -, hpending⟩ := hruns.free hm hT' hparts.unbound hbinds
    exact hpending
  · have hreading : (w.unbind t).2.reading s = w.reading s := by
      rw [World.reading, World.reading, hparts.slots]
    rw [hruns.readings hm s (by rw [hparts.slots]; exact hs), hreading]

/-! ## A banner that is taken down

A banner has two slots. Whoever sees its art change takes the banner down, and sends a change
himself. -/

/-- The moment after a number of turns, if user code takes actions. -/
def Moment.follow : Nat → Moment → Option (List Effect × Moment)
  | 0, m => some ([], m)
  | _ + 1, ⟨_, []⟩ => none
  | n + 1, ⟨w, errand :: rest⟩ => do
    let upshot := errand.turn (errand.answer w) w
    let (effects, m) ← Moment.follow n ⟨upshot.world, upshot.errands ++ rest⟩
    return (upshot.effect :: effects, m)

theorem Runs.of_follow {n : Nat} {m m' : Moment} {effects : List Effect}
    (h : m.follow n = some (effects, m')) : Runs (.acting catalog) m effects m' := by
  induction n generalizing m effects with
  | zero =>
    obtain ⟨rfl, rfl⟩ := Prod.mk.inj (Option.some.inj h)
    exact .stop m
  | succ n ih =>
    obtain ⟨w, errands⟩ := m
    cases errands with
    | nil => cases h
    | cons errand rest =>
      obtain ⟨⟨effects', m₁⟩, hfollow, h⟩ := Option.bind_eq_some_iff.mp h
      obtain ⟨rfl, rfl⟩ := Prod.mk.inj (Option.some.inj h)
      exact .turn errand.evokes_answer (ih hfollow)

/-- The target that is unbound next. -/
def Moment.unbinding? (m : Moment) : Option TargetId :=
  match m.errands with
  | .move (.deed (.command (.unbind t))) :: _ => some t
  | _ => none

theorem Moment.of_unbinding? {m : Moment} {t : TargetId} (h : m.unbinding? = some t) :
    m = ⟨m.world, .move (.deed (.command (.unbind t))) :: m.errands.tail⟩ := by
  obtain ⟨w, errands⟩ := m
  rw [unbinding?] at h
  split at h
  · obtain rfl := Option.some.inj h
    rename_i herrands
    dsimp only at herrands
    rw [herrands]
    rfl
  · cases h

namespace Banner

/-- The type of banners. -/
def type : TypeDefinition where
  info := .root "Banner" "app::Banner"
  fields := [
    { name := "tint", layout := .optional .color, source := some (.color, 1) },
    { name := "paper", layout := .plain .color, source := some (.color, 2) },
    { name := "art", layout := .reactive .color, source := some (.color, 3) },
    { name := "copy", layout := .reactive .color, source := some (.color, 4) },
    { name := "title", layout := .plain .text }]

/-- The catalog of banners. -/
def types : Catalog where
  has A := A = type
  unique := by rintro A B rfl rfl -; rfl
  names := by rintro A rfl; decide
  parent := by rintro A declared name via up rfl hinfo; cases hinfo

/-- The skin of the day. -/
def day : Skin := { name := "day", colors := [(1, ⟨10⟩), (2, ⟨20⟩), (3, ⟨30⟩), (4, ⟨40⟩)] }

/-- A banner is bound, gets an observer of its art, and a change is sent. -/
def shown : Performance types where
  moves := [.deed (.command (.create type)), .deed (.command (.register type "BannerThemeBinding")),
    .deed (.command (.addSkin 0 day)), .deed (.command (.bind 0 ⟨0, 0⟩)),
    .deed (.command (.observe 2 ⟨"art", .slot, [.unbind 0, .notify 0 "again"]⟩)),
    .deed (.notify 0 "day")]
  of := by simp [Move.Of, Deed.Of, Command.Of, Setting.free, types]

/-- The moment before anything is done. -/
def opening : Moment := shown.opening .standard 1 [0]

/-- What the fields of the banner hold that are no slots. -/
def surface (w : World) : Option (Option Value) × Option Value :=
  (match w.content? 0 ["tint"] with
    | some (.optional v) => some v
    | _ => none,
  match w.content? 0 ["paper"] with
    | some (.plain v) => some v
    | _ => none)

/-- The slot of the copy, what it holds, and how often it has been set. -/
def copy (w : World) : Option SlotId × Option Value × Nat :=
  (w.slotAt? ⟨0, [], "app::Banner"⟩ "copy", w.slots[3]?.bind Slot.value, w.version 3)

/-- The moment at which the banner is taken down, what is done after that, and the last moment. -/
def acts : Option ((List Effect × Moment) × List Effect × Moment) :=
  (opening.follow 10).bind fun before =>
    let released : Moment := ⟨(before.2.world.unbind 0).2, before.2.errands.tail⟩
    (released.follow 6).map fun after => (before, after)

/-- The banner is taken down while its copy is still to be published, and the program goes on to its
end. -/
theorem scene : ∃ before w rest effects m,
    Runs (.acting types) opening before ⟨w, .move (.deed (.command (.unbind 0))) :: rest⟩ ∧
    Runs (.acting types) ⟨(w.unbind 0).2, rest⟩ effects m ∧ (∀ e ∈ effects, e.binds 0 = false) ∧
    (∃ T, w.typeOf? 0 = some T) ∧ w.isBound 0 = true ∧ m.errands.length = 0 ∧
    surface w = (some (some (.color ⟨10⟩)), some (.color ⟨20⟩)) ∧
    surface m.world = (some none, some (.color .transparent)) ∧
    copy (w.unbind 0).2 = (some 3, some (.color ⟨40⟩), 1) ∧
    copy m.world = (some 3, some (.color ⟨40⟩), 2) ∧
    (publishedFor 0 effects).map (fun p => (p.slot, p.value)) = [(3, .color ⟨40⟩)] := by
  have hflags : acts.map (fun r => (r.1.2.unbinding?, r.2.1.any (Effect.binds 0),
      (r.1.2.world.typeOf? 0).isSome, r.1.2.world.isBound 0, r.2.2.errands.length)) =
      some (some 0, false, true, true, 0) := by decide +kernel
  have hsurfaces : acts.map (fun r => (surface r.1.2.world, surface r.2.2.world)) =
      some ((some (some (.color ⟨10⟩)), some (.color ⟨20⟩)),
        (some none, some (.color .transparent))) := by decide +kernel
  have hcopies : acts.map (fun r => (copy (r.1.2.world.unbind 0).2, copy r.2.2.world)) =
      some ((some 3, some (.color ⟨40⟩), 1), (some 3, some (.color ⟨40⟩), 2)) := by
    decide +kernel
  have hpublished : acts.map (fun r => (publishedFor 0 r.2.1).map fun p => (p.slot, p.value)) =
      some [(3, .color ⟨40⟩)] := by decide +kernel
  obtain ⟨⟨⟨before, m₀⟩, effects, m⟩, hacts, hflags⟩ := Option.map_eq_some_iff.mp hflags
  rw [hacts, Option.map_some, Option.some_inj] at hsurfaces hcopies hpublished
  simp only [Prod.mk.injEq] at hflags hsurfaces hcopies
  obtain ⟨hunbinding, hbinds, htype, hbound, hdone⟩ := hflags
  rw [acts, Option.bind_eq_some_iff] at hacts
  obtain ⟨_, hbefore, hacts⟩ := hacts
  obtain ⟨_, hafter, heq⟩ := Option.map_eq_some_iff.mp hacts
  obtain ⟨rfl, rfl⟩ := Prod.mk.inj heq
  have hruns : Runs (.acting types) _ before _ := Runs.of_follow hbefore
  rw [Moment.of_unbinding? hunbinding] at hruns
  refine ⟨before, _, _, effects, m, hruns, Runs.of_follow hafter, fun e he => ?_,
    Option.isSome_iff_exists.mp htype, hbound, hdone, hsurfaces.1, hsurfaces.2, hcopies.1,
    hcopies.2, hpublished⟩
  exact Bool.eq_false_iff.mpr fun h => by
    have hany := List.any_eq_true.mpr ⟨e, he, h⟩
    rw [hbinds] at hany
    cases hany

/-- The program comes to its end. -/
theorem finale : ∃ w, shown.run (perform 3) (.opened .standard 1 [0]) = some ((), w) ∧
    w.isBound 0 = false ∧ surface w = (some none, some (.color .transparent)) ∧
    copy w = (some 3, some (.color ⟨40⟩), 2) := by
  have hglance : (shown.run (perform 3) (.opened .standard 1 [0])).map (fun r =>
      (r.2.isBound 0, copy r.2)) =
      some (false, some 3, some (.color ⟨40⟩), 2) := by decide +kernel
  have hfields : (shown.run (perform 3) (.opened .standard 1 [0])).map (fun r => surface r.2) =
      some (some none, some (.color .transparent)) := by decide +kernel
  obtain ⟨⟨⟨⟩, w⟩, hrun, hglance⟩ := Option.map_eq_some_iff.mp hglance
  obtain ⟨hbound, hcopy⟩ := Prod.mk.inj hglance
  rw [hrun] at hfields
  exact ⟨w, hrun, hbound, Option.some.inj hfields, hcopy⟩

end Banner

/-- The banner is left to its owner when it has been taken down in the middle of its own update, and
so it is when the program is over. -/
theorem Banner.stays_cleared :
    Plays (.acting types) 3 (perform 3) ∧ (UserCode.acting types).Decided ∧
    (∃ w, shown.run (perform 3) (.opened .standard 1 [0]) = some ((), w) ∧
      Concludes (.acting types) opening w ∧
      surface w = (some none, some (.color .transparent))) ∧
    ∃ before w rest effects m,
      Runs (.acting types) opening before ⟨w, .move (.deed (.command (.unbind 0))) :: rest⟩ ∧
      w.isBound 0 = true ∧ (w.unbind 0).1 = .ok () ∧ Parts types 0 w (w.unbind 0).2 ∧
      Runs (.acting types) ⟨(w.unbind 0).2, rest⟩ effects m ∧ m.errands.length = 0 ∧
      (∀ e ∈ effects, e.binds 0 = false) ∧ m.world.isBound 0 = false ∧
      m.world.content? 0 [] = ((w.unbind 0).2.content? 0 []).map (rewritten 0 effects) ∧
      surface m.world = (some none, some (.color .transparent)) := by
  have hact := perform_plays types 3
  obtain ⟨hunfolds, hfreed⟩ := Performance.freed_stays (.acting types) shown .standard 1 [0]
  obtain ⟨w', hrun, -, hend, -⟩ := finale
  obtain ⟨before, w, rest, effects, m, hbefore, hafter, hbinds, ⟨T, hT⟩, hbound, hdone, -,
    hsurface, -⟩ := scene
  obtain ⟨hok, hparts, hstays⟩ := hfreed before w 0 rest hbefore
  obtain ⟨hfree, -, hcontent, -⟩ := hstays T hT effects m hafter hbinds
  exact ⟨hact, UserCode.acting_decided, ⟨w', hrun, hunfolds.result hact hrun, hend⟩, before,
    w, rest, effects, m, hbefore, hbound, hok, hparts, hafter, hdone, hbinds, hfree, hcontent, hsurface⟩

/-- The copy of the banner had been put aside when it was taken down, and is published. -/
theorem Banner.publishes_copy :
    Plays (.acting types) 3 (perform 3) ∧ (UserCode.acting types).Decided ∧
    (∃ w, shown.run (perform 3) (.opened .standard 1 [0]) = some ((), w) ∧
      Concludes (.acting types) opening w ∧ copy w = (some 3, some (.color ⟨40⟩), 2)) ∧
    ∃ before w rest effects m,
      Runs (.acting types) opening before ⟨w, .move (.deed (.command (.unbind 0))) :: rest⟩ ∧
      w.isBound 0 = true ∧ (w.unbind 0).2.slots = w.slots ∧
      Runs (.acting types) ⟨(w.unbind 0).2, rest⟩ effects m ∧ (∀ e ∈ effects, e.binds 0 = false) ∧
      publishedFor 0 effects ++ pendingFor 0 m.errands = pendingFor 0 rest ∧
      (publishedFor 0 effects).length = 1 ∧
      ∀ s < w.slots.length, m.world.reading s = (w.reading s).map (resetBy s effects) := by
  have hact := perform_plays types 3
  obtain ⟨hunfolds, hfreed⟩ := Performance.publishes_pending (.acting types) shown .standard 1 [0]
  obtain ⟨w', hrun, -, -, hend⟩ := finale
  obtain ⟨before, w, rest, effects, m, hbefore, hafter, hbinds, ⟨T, hT⟩, hbound, -, -, -, -, -,
    hpublished⟩ := scene
  obtain ⟨-, hslots, hpending⟩ := hfreed before w 0 rest hbefore
  obtain ⟨hpublishes, hreadings⟩ := hpending T hT effects m hafter hbinds
  have hlength : (publishedFor 0 effects).length = 1 := by
    simpa using congrArg List.length hpublished
  exact ⟨hact, UserCode.acting_decided, ⟨w', hrun, hunfolds.result hact hrun, hend⟩, before,
    w, rest, effects, m, hbefore, hbound, hslots, hafter, hbinds, hpublishes, hlength, hreadings⟩

/-- **A slot is set after its target has been unbound.** An observer of its art takes the banner
down, which succeeds, and after that its copy is set once more, though nobody binds the banner
again. -/
theorem Banner.copy_is_set :
    (∃ before w rest effects m,
      Runs (.acting types) opening before ⟨w, .move (.deed (.command (.unbind 0))) :: rest⟩ ∧
      (w.unbind 0).1 = .ok () ∧ copy (w.unbind 0).2 = (some 3, some (.color ⟨40⟩), 1) ∧
      Runs (.acting types) ⟨(w.unbind 0).2, rest⟩ effects m ∧ (∀ e ∈ effects, e.binds 0 = false) ∧
      (publishedFor 0 effects).map (fun p => (p.slot, p.value)) = [(3, .color ⟨40⟩)] ∧
      copy m.world = (some 3, some (.color ⟨40⟩), 2)) ∧
    ∃ w, shown.run (perform 3) (.opened .standard 1 [0]) = some ((), w) ∧ w.isBound 0 = false ∧
      copy w = (some 3, some (.color ⟨40⟩), 2) := by
  obtain ⟨before, w, rest, effects, m, hbefore, hafter, hbinds, -, -, -, -, -, hcopy, hcopy',
    hpublished⟩ := scene
  obtain ⟨hok, -, -⟩ := shown.unbinds .standard 1 [0] hbefore
  obtain ⟨w', hrun, hreleased, -, hend⟩ := finale
  exact ⟨⟨before, w, rest, effects, m, hbefore, hok, hcopy, hafter, hbinds, hpublished, hcopy'⟩,
    w', hrun, hreleased, hend⟩

end Live
end Theming
