/-
# Listeners are the bound targets

A companion starts to listen when it is made and stops when it is released, while the binder keeps
its own list of active companions. The two agree with what can be told of the turns: `standing` lists
the targets that are bound after some turns, each with the context of its last bind, in the order of
these binds. At the end of every session the live listeners of a broadcaster are the active companions
of the standing targets whose context names it, each once and in that order, and together there are as
many listeners as bound targets (`Session.listeners_standing`).

Each turn keeps active companions and standing targets in step (`Takes.stands`); that listeners follow
the active companions is a part of soundness.
-/

import Mathlib.Algebra.BigOperators.Group.Finset.Basic
import Mathlib.Data.List.Forall2
import Theming.Proofs.Sessions

namespace Theming
namespace Live

variable {setting : Setting} {act : Act} {w w' : World}

/-! ## What turns leave standing -/

/-- The bound targets after one more turn. -/
def stand (bound : List (TargetId × Context)) : Turn → List (TargetId × Context)
  | .bound t context (.ok ()) => bound.filter (·.1 != t) ++ [(t, context)]
  | .unbound t _ => bound.filter (·.1 != t)
  | _ => bound

/-- The targets that are bound after some turns, each with the context of its last bind, the one that
was bound last at the end. -/
def standing (turns : List Turn) : List (TargetId × Context) := turns.foldl stand []

/-- An active companion is that of a bound target, made with the context. -/
def World.Stands (w : World) (x : TargetId × Context) (y : TargetId × CompanionId) : Prop :=
  x.1 = y.1 ∧ w.contextOf? y.2 = some x.2

/-- The active companions are those of the bound targets, in order. -/
def World.StandsFor (w : World) (bound : List (TargetId × Context)) : Prop :=
  List.Forall₂ w.Stands bound w.binder.active.reverse

/-! ## Turns -/

/-- Companions keep their contexts. -/
theorem Takes.contexts (hs : Sound setting w) {turn : Turn} (h : Takes setting w turn w')
    (id : CompanionId) {context : Context} (hid : w.contextOf? id = some context) :
    w'.contextOf? id = some context := by
  cases h with
  | register name hT =>
    rw [World.contextOf?, World.companions_register]
    exact hid
  | resolve hT =>
    rw [resolve_eq, World.contextOf?, (hs.resolving _).companions]
    exact hid
  | bind hT hcontext hrun => exact (hs.binds hT hcontext hrun).contexts id context hid
  | unbind t => exact ((hs.unbind t).contexts id).trans hid

theorem World.StandsFor.of_contexts {bound : List (TargetId × Context)} (h : w.StandsFor bound)
    (hactive : w'.binder.active = w.binder.active)
    (hcontexts : ∀ id context, w.contextOf? id = some context → w'.contextOf? id = some context) :
    w'.StandsFor bound := by
  rw [World.StandsFor, hactive]
  exact h.imp fun x y hxy => ⟨hxy.1, hcontexts y.2 x.2 hxy.2⟩

/-- Without one target the others still stand. -/
theorem World.StandsFor.without {bound : List (TargetId × Context)} (h : w.StandsFor bound)
    (t : TargetId) :
    List.Forall₂ w.Stands (bound.filter (·.1 != t))
      (w.binder.active.filter (·.1 != t)).reverse := by
  rw [← List.filter_reverse]
  refine List.rel_filter (fun x y hxy => ?_) h
  exact Iff.of_eq (congrArg (fun key => (key != t) = true) hxy.1)

/-- **A turn keeps active companions and bound targets in step.** -/
theorem Takes.stands (hs : Sound setting w) {turn : Turn} (h : Takes setting w turn w')
    {bound : List (TargetId × Context)} (hbound : w.StandsFor bound) :
    w'.StandsFor (stand bound turn) := by
  have hcontexts : ∀ id context, w.contextOf? id = some context →
      w'.contextOf? id = some context := fun id _ hid => h.contexts hs id hid
  cases h with
  | register name hT =>
    refine hbound.of_contexts ?_ hcontexts
    rw [World.binder_register]
    rfl
  | resolve hT =>
    refine hbound.of_contexts ?_ hcontexts
    rw [resolve_eq, (hs.resolving _).binder]
  | @bind _ t T context r hT hcontext hrun =>
    have hbinds := hs.binds hT hcontext hrun
    cases r with
    | error e => exact hbound.of_contexts (hbinds.failed e rfl) hcontexts
    | ok _ =>
      obtain ⟨id, hid, hactive⟩ := hbinds.made rfl
      have hothers := (hbound.without t).imp fun x y hxy =>
        (⟨hxy.1, hcontexts y.2 x.2 hxy.2⟩ : w'.Stands x y)
      rw [World.StandsFor, hactive, List.reverse_cons, stand]
      exact List.rel_append hothers (.cons ⟨rfl, hid⟩ .nil)
  | unbind t =>
    rw [World.StandsFor, (hs.unbind t).binder, stand]
    exact (hbound.without t).imp fun x y hxy => ⟨hxy.1, hcontexts y.2 x.2 hxy.2⟩

/-- **What turns leave standing is what is active in the end.** -/
theorem Chronicle.stands {start : World} (hs : Sound setting start)
    (hempty : start.binder.active = []) {turns : List Turn}
    (h : Chronicle setting start turns w) : w.StandsFor (standing turns) := by
  induction h with
  | start =>
    rw [World.StandsFor, hempty]
    exact .nil
  | calm _ hcalm _ ih =>
    refine ih.of_contexts (congrArg Binder.active hcalm.binder) fun id context hid => ?_
    rw [World.contextOf?, hcalm.companions]
    exact hid
  | turn h hturn ih =>
    rw [standing, List.foldl_append]
    exact hturn.stands (h.sound hs) ih

/-! ## Listeners -/

namespace World.StandsFor

variable {bound : List (TargetId × Context)}

/-- The standing targets are those that are bound. -/
theorem keys (h : w.StandsFor bound) :
    bound.map Prod.fst = w.binder.active.reverse.map Prod.fst := by
  rw [World.StandsFor] at h
  generalize w.binder.active.reverse = active at h
  induction h with
  | nil => rfl
  | cons hxy _ ih => rw [List.map_cons, List.map_cons, hxy.1, ih]

theorem isBound_iff (h : w.StandsFor bound) (t : TargetId) :
    w.isBound t = true ↔ t ∈ bound.map Prod.fst := by
  rw [World.isBound, Binder.isBound, lookup_isSome_iff, h.keys, List.map_reverse,
    List.mem_reverse]

/-- The followers of a broadcaster are the active companions of those standing targets whose context
names it. -/
theorem followers (h : w.StandsFor bound) (hkeys : (w.binder.active.map Prod.fst).Nodup)
    (b : BroadcasterId) :
    (w.followers b).map some = (bound.filter (·.2.broadcaster == b)).map fun x =>
      w.binder.active.lookup x.1 := by
  have hfound : ∀ y ∈ w.binder.active.reverse, w.binder.active.lookup y.1 = some y.2 :=
    fun y hy => lookup_of_mem (List.mem_reverse.mp hy) hkeys
  rw [World.followers, ← List.filter_reverse, ← List.map_reverse]
  rw [World.StandsFor] at h
  generalize w.binder.active.reverse = active at h hfound
  induction h with
  | nil => rfl
  | @cons x y bound active hxy _ ih =>
    have hrest := ih fun y hy => hfound y (List.mem_cons_of_mem _ hy)
    have hhears : w.hears b y.2 = (x.2.broadcaster == b) := by
      obtain ⟨c, hc, hcontext⟩ := Option.map_eq_some_iff.mp hxy.2
      rw [World.hears, hc, ← hcontext]
      rfl
    rw [List.map_cons, List.filter_cons, List.filter_cons, hhears]
    split_ifs
    · rw [List.map_cons, List.map_cons, hrest, hxy.1, hfound y List.mem_cons_self]
    · exact hrest

end World.StandsFor

/-- No companion follows a broadcaster twice. -/
theorem Sound.followers_nodup (hs : Sound setting w) (b : BroadcasterId) :
    (w.followers b).Nodup := by
  have hids : (w.binder.active.map Prod.snd).Nodup := by
    refine List.Nodup.map_on (fun x hx y hy heq => ?_) (.of_map _ hs.keys)
    obtain ⟨t, id⟩ := x
    obtain ⟨t', id'⟩ := y
    obtain rfl : id = id' := heq
    rw [hs.owner hx hy]
  exact List.nodup_reverse.mpr (hids.filter _)

/-- The broadcasters with which the active companions were made. -/
def World.airs (w : World) : List BroadcasterId :=
  (w.binder.active.map Prod.snd).filterMap fun id =>
    w.companions[id]?.map fun c => c.context.broadcaster

theorem World.length_followers (w : World) (b : BroadcasterId) :
    (w.followers b).length = w.airs.count b := by
  rw [airs, List.count_filterMap, List.countP_eq_length_filter, followers, List.length_reverse]
  rfl

/-- Every active companion was made with a broadcaster that exists. -/
theorem Sound.made (hs : Sound setting w) {id : CompanionId}
    (hid : id ∈ w.binder.active.map Prod.snd) :
    ∃ b, (w.companions[id]?.map fun c => c.context.broadcaster) = some b ∧
      b < w.broadcasters.length := by
  obtain ⟨⟨t, _⟩, hentry, rfl⟩ := List.mem_map.mp hid
  obtain ⟨c, -, hc, -⟩ := hs.active t _ hentry
  refine ⟨c.context.broadcaster, ?_, hs.reached _ (hs.contexts c (List.mem_of_getElem? hc))⟩
  exact congrArg (Option.map _) hc

/-- **There are as many followers as active companions**: each follows the one broadcaster that it was
made with. -/
theorem Sound.sum_followers (hs : Sound setting w) :
    ∑ b ∈ Finset.range w.broadcasters.length, (w.followers b).length = w.binder.active.length := by
  have hlength : w.airs.length = (w.binder.active.map Prod.snd).length := by
    refine List.filterMap_length_eq_length.mpr fun id hid => ?_
    obtain ⟨b, hb, -⟩ := hs.made hid
    exact Option.isSome_of_eq_some hb
  have hrange : ∀ b ∈ (w.airs : Multiset BroadcasterId),
      b ∈ Finset.range w.broadcasters.length := by
    intro b hb
    obtain ⟨id, hid, heq⟩ := List.mem_filterMap.mp (Multiset.mem_coe.mp hb)
    obtain ⟨b', hb', hlt⟩ := hs.made hid
    obtain rfl := Option.some.inj (heq.symm.trans hb')
    exact Finset.mem_range.mpr hlt
  calc ∑ b ∈ Finset.range w.broadcasters.length, (w.followers b).length
    _ = ∑ b ∈ Finset.range w.broadcasters.length, (w.airs : Multiset BroadcasterId).count b :=
      Finset.sum_congr rfl fun b _ => (w.length_followers b).trans (Multiset.coe_count b _).symm
    _ = w.airs.length := Multiset.sum_count_eq_card hrange
    _ = w.binder.active.length := by rw [hlength, List.length_map]

/-- **Listeners are the bound targets.** Whatever a program and its observers have done to any depth,
in between two deeds of the program it can be told by turns; and for all turns by which it can be
told, the bound targets are those that the turns leave standing, the live listeners of every
broadcaster are the active companions of those among them that were bound last with a context that
names it, each once, in the order of these binds, and the listeners of all broadcasters together are
as many as the bound targets. -/
theorem Session.listeners_standing {catalog : Catalog} {broadcasters : Nat}
    {code : Action → Prop} (session : Session (.shared catalog broadcasters code)) {depth : Nat}
    (hact : Improvises (.shared catalog broadcasters code) depth act) (boundary : Boundary)
    (hosts : List BroadcasterId)
    (hrun : session.run act (.opened boundary broadcasters hosts) = some ((), w)) :
    (∃ turns, Chronicle (.shared catalog broadcasters code)
      (.opened boundary broadcasters hosts) turns w) ∧
    ∀ turns, Chronicle (.shared catalog broadcasters code)
        (.opened boundary broadcasters hosts) turns w →
      (∀ t, w.isBound t = true ↔ t ∈ (standing turns).map Prod.fst) ∧
      (∀ b, (w.liveListeners b).Nodup ∧
        (w.liveListeners b).map some = ((standing turns).filter (·.2.broadcaster == b)).map
          fun x => (w.binder.active.lookup x.1).map Listener.companion) ∧
      ∑ b ∈ Finset.range w.broadcasters.length, (w.liveListeners b).length =
        w.binder.active.length := by
  have hopened := Sound.shared catalog broadcasters code boundary hosts
  refine ⟨session.told hact boundary hosts hrun, fun turns h => ?_⟩
  have hs := h.sound hopened
  have hstands := h.stands hopened rfl
  refine ⟨hstands.isBound_iff, fun b => ⟨?_, ?_⟩, ?_⟩
  · rw [hs.liveListeners]
    exact (hs.followers_nodup b).map fun _ _ => Listener.companion.inj
  · have hfollowers := congrArg (List.map (Option.map Listener.companion))
      (hstands.followers hs.keys b)
    rw [List.map_map, List.map_map] at hfollowers
    rw [hs.liveListeners, List.map_map]
    exact hfollowers
  · rw [← hs.sum_followers]
    refine Finset.sum_congr rfl fun b _ => ?_
    rw [hs.liveListeners, List.length_map]

namespace Desk

/-- A panel and a lamp are bound with two broadcasters. Whoever sees the tint of the panel change
binds the lamp with the broadcaster of the panel, and unbinds the panel. -/
def moving : Session (.acting types 2) where
  deeds := [.command (.create panel), .command (.create lamp),
    .command (.register panel "PanelThemeBinding"), .command (.bind 0 ⟨0, 0⟩),
    .command (.bind 1 ⟨1, 1⟩),
    .command (.observe 2 ⟨"tint", .nothing, [.rebind 1 ⟨0, 0⟩, .unbind 0]⟩),
    .notify 0 "day"]
  of := by
    have hactions : ∀ a ∈ [Action.rebind 1 ⟨0, 0⟩, .unbind 0],
        Action.Permitted (fun context => context.broadcaster < 2) a := by
      intro a ha
      simp only [List.mem_cons, List.not_mem_nil, or_false] at ha
      rcases ha with rfl | rfl
      · exact .rebind (by decide)
      · exact .unbind
    intro d hd
    simp only [List.mem_cons, List.not_mem_nil, or_false] at hd
    rcases hd with rfl | rfl | rfl | rfl | rfl | rfl | rfl
    · exact .inl rfl
    · exact .inr (.inl rfl)
    · exact .inl rfl
    · exact Nat.zero_lt_two
    · exact Nat.one_lt_two
    · exact hactions
    · trivial

/-- The lamp has gone over to the broadcaster of the panel, which the panel has left. -/
theorem lamp_listens :
    Improvises (.acting types 2) 2 (perform 2) ∧
    ∃ w turns, moving.run (perform 2) (.opened .standard 2 [0, 1]) = some ((), w) ∧
      Chronicle (.acting types 2) (.opened .standard 2 [0, 1]) turns w ∧
      w.liveListeners 0 = [.companion 2] ∧ w.liveListeners 1 = [] ∧
      (w.liveListeners 0).map some = ((standing turns).filter (·.2.broadcaster == 0)).map
        (fun x => (w.binder.active.lookup x.1).map Listener.companion) ∧
      0 ∉ (standing turns).map Prod.fst ∧ 1 ∈ (standing turns).map Prod.fst ∧
      ∑ b ∈ Finset.range w.broadcasters.length, (w.liveListeners b).length = 1 := by
  have hact := perform_improvises types 2 2
  have hglance : (moving.run (perform 2) (.opened .standard 2 [0, 1])).map (fun r =>
      (r.2.liveListeners 0, r.2.liveListeners 1, r.2.isBound 0, r.2.isBound 1,
        r.2.binder.active.length)) = some ([.companion 2], [], false, true, 1) := by
    decide +kernel
  obtain ⟨⟨⟨⟩, w⟩, hrun, hglance⟩ := Option.map_eq_some_iff.mp hglance
  simp only [Prod.mk.injEq] at hglance
  obtain ⟨hzero, hone, hpanel, hlamp, hlength⟩ := hglance
  obtain ⟨⟨turns, hturns⟩, hall⟩ := moving.listeners_standing hact .standard [0, 1] hrun
  obtain ⟨hbound, hlisteners, hsum⟩ := hall turns hturns
  refine ⟨hact, w, turns, hrun, hturns, hzero, hone, (hlisteners 0).2, ?_, ?_, hsum.trans hlength⟩
  · rw [← hbound 0, hpanel]
    decide
  · exact (hbound 1).mp hlamp

end Desk

end Live
end Theming
