/-
# Reactive delivery

Every slot of a program has a log at every moment, and the log accounts for the slot
(`Performance.slots_observed`): whatever observers may do when they are called, setting the slot
again and observing it included,

| what | is, at every moment |
| --- | --- |
| the version | the number of calls to set the slot that have begun |
| the value | that of the call that began last |
| what is seen in any field that holds the slot | this value and this version |
| the observers | those who have joined, in order |
| the calls that a setting makes | those of the observers before it began, in order, each once |

A call to set the slot has a result unless an observer has none when it is called, and has then
made all its calls (`SlotLog.sets`): what it has set out to do is a run of turns that leaves the
calls that were due before it as they are.
-/

import Theming.Proofs.Reacting

namespace Theming
namespace Live

variable {catalog : Catalog} {code : UserCode catalog} {w w' : World} {s : SlotId}
  {opening m : Moment} {log : List SlotEvent}

/-- A run with the log of a slot. -/
abbrev SlotLog (code : UserCode catalog) (s : SlotId) (opening : Moment) :
    List SlotEvent → Moment → Prop := Annals code (slotEntries s) opening

/-- A moment from which a program may go on: nothing is left to be done in the middle of a
notification, and nobody has joined a slot. -/
structure Moment.Fresh (catalog : Catalog) (s : SlotId) (m : Moment) : Prop where
  of : m.Of catalog
  served : m.world.Served
  reckons : Reckons s [] m

theorem Performance.opening_fresh (performance : Performance catalog) (boundary : Boundary)
    (broadcasters : Nat) (hosts : List BroadcasterId) (s : SlotId) :
    (performance.opening boundary broadcasters hosts).Fresh catalog s := by
  refine ⟨performance.opening_of boundary broadcasters hosts, fun t _ id _ hid => (nomatch hid),
    rfl, ?_, .nil⟩
  refine List.filterMap_eq_nil_iff.mpr fun e he => ?_
  obtain ⟨m, -, rfl⟩ := List.mem_map.mp he
  rfl

/-! ## What stays due -/

/-- Only an entry that calls an observer makes less due. -/
theorem SlotAccount.due_suffix (log : List SlotEvent) {entered : List SlotEvent}
    (h : ∀ e ∈ entered, ∀ n v o, e ≠ .called n v o) :
    (of log).due <:+ (of (log ++ entered)).due := by
  induction entered using List.reverseRecOn with
  | nil => rw [List.append_nil]
  | append_singleton entered e ih =>
    rw [List.forall_mem_append] at h
    rw [← List.append_assoc, of_concat]
    refine (ih h.1).trans ?_
    cases e with
    | set v => exact List.suffix_append _ _
    | called n v o => exact absurd rfl (h.2 _ List.mem_cons_self n v o)
    | _ => exact List.suffix_rfl

/-- Only a call of an observer is entered as one. -/
theorem slotEntries_ne_called {errand : Errand} (h : errand.call? s = none) :
    ∀ e ∈ slotEntries s log w errand, ∀ n v o, e ≠ .called n v o := by
  rintro e he n v o rfl
  rw [slotEntries] at he
  split_ifs at he
  · rw [Option.mem_toList, Errand.slotEvent?, h] at he
    cases hstores : errand.stores? with
    | some stored =>
      rw [hstores] at he
      dsimp only at he
      split_ifs at he
      cases he
    | none =>
      rw [hstores] at he
      cases hjoins : errand.joins? with
      | some joined =>
        rw [hjoins] at he
        dsimp only at he
        split_ifs at he
        cases he
      | none =>
        rw [hjoins] at he
        cases he
  · cases hslot : (errand.turn [] w).world.slots[s]? with
    | none =>
      rw [hslot] at he
      exact absurd he List.not_mem_nil
    | some x =>
      rw [hslot] at he
      rcases List.mem_cons.mp he with he | he
      · cases he
      · obtain ⟨v', -, hset⟩ := List.mem_map.mp he
        cases hset

theorem Errand.eq_call {errand : Errand} {v : Value} {o : Observer}
    (h : errand.call? s = some (v, o)) : errand = .call s v o := by
  unfold call? at h
  split at h
  · split_ifs at h with hsame
    obtain ⟨rfl, rfl⟩ := Prod.mk.inj (Option.some.inj h)
    rw [hsame]
  · cases h

theorem callsOf_cons_call (s : SlotId) (v : Value) (o : Observer) (errands : List Errand) :
    callsOf s (.call s v o :: errands) = (v, o) :: callsOf s errands :=
  List.filterMap_cons_some (if_pos rfl)

/-- A call of an observer is entered alone, if at all. -/
theorem slotEntries_call (log : List SlotEvent) (w : World) (s : SlotId) (v : Value)
    (o : Observer) : slotEntries s log w (.call s v o) = [] ∨
      ∃ n, slotEntries s log w (.call s v o) = [.called n v o] := by
  rw [slotEntries]
  split_ifs with hs
  · have hevent : (Errand.call s v o).slotEvent? s log =
        (SlotAccount.of log).due.head?.map fun d => .called d.start v o := by
      simp [Errand.slotEvent?, Errand.stores?, Errand.joins?, Errand.call?]
    rw [hevent]
    cases (SlotAccount.of log).due.head? with
    | none => exact .inl rfl
    | some d => exact .inr ⟨d.start, rfl⟩
  · have hnone : ((Errand.call s v o).turn [] w).world.slots[s]? = none :=
      List.getElem?_eq_none (Nat.le_of_not_lt hs)
    rw [hnone]
    exact .inl rfl

namespace SlotLog

variable (hopening : opening.Fresh catalog s)
include hopening

/-- The log accounts for the slot at every moment. -/
theorem reckons (h : SlotLog code s opening log m) : Reckons s log m := by
  induction h with
  | start => exact hopening.reckons
  | @turn log w errand rest moves h hmoves ih =>
    obtain ⟨effects, hruns⟩ := Annals.runs h
    exact ih.turn (hruns.of hopening.of).bonds (hruns.served hopening.of hopening.served) moves

/-- A turn of what comes before other errands leaves the calls among these due. -/
theorem due_turn {errand : Errand} {front rest : List Errand} {due : List Owed}
    (h : SlotLog code s opening log ⟨w, errand :: front ++ rest⟩)
    (hlength : due.length = (callsOf s rest).length) (hdue : due <:+ (SlotAccount.of log).due) :
    due <:+ (SlotAccount.of (log ++ slotEntries s log w errand)).due := by
  cases hcall : errand.call? s with
  | none => exact hdue.trans (SlotAccount.due_suffix log (slotEntries_ne_called hcall))
  | some c =>
    -- The call is the first one that is due, and not one of those that wait.
    obtain ⟨v, o⟩ := c
    obtain rfl := Errand.eq_call hcall
    have howed : (SlotAccount.of log).due.map (fun d => (d.value, d.observer)) =
        (v, o) :: callsOf s (front ++ rest) :=
      (h.reckons hopening).due.symm.trans (callsOf_cons_call s v o _)
    obtain ⟨d, later, hfirst, -, hlater⟩ := List.map_eq_cons_iff.mp howed
    have hlonger := congrArg List.length hlater
    rw [List.length_map, callsOf_append, List.length_append, ← hlength] at hlonger
    rw [hfirst, List.suffix_cons_iff] at hdue
    have hwaits : due <:+ later := hdue.resolve_left fun heq => by
      rw [heq, List.length_cons] at hlonger
      omega
    rcases slotEntries_call log w s v o with hentered | ⟨n, hentered⟩
    · rw [hentered, List.append_nil, hfirst]
      exact hwaits.trans (List.suffix_cons _ _)
    · rw [hentered, SlotAccount.of_concat, SlotAccount.enter, hfirst]
      exact hwaits

/-- **A call to set the slot calls everybody who observed the slot when it began**, in order and
each once, unless an observer has no result when it is called. -/
theorem sets {errand : Errand} {rest : List Errand} {v : Value} {depth : Nat} {act : Act}
    (h : SlotLog code s opening log ⟨w, errand :: rest⟩)
    (hstores : errand.stores? = some (s, v)) (hs : s < w.slots.length)
    (hact : Plays code depth act) :
    Gives (Stalls code act ⟨w, [errand]⟩) (setSlot act s v) w fun _ w' =>
      ∃ more, SlotLog code s opening (log ++ .set v :: more) ⟨w', rest⟩ ∧
        calledFrom log.length (log ++ .set v :: more) = (observersOf log).map fun o => (v, o) := by
  have hreckons := h.reckons hopening
  have hrest := hreckons.rest_due
  rw [Errand.call?_of_stores hstores, Option.toList_none, List.nil_append] at hrest
  have hlength : (SlotAccount.of log).due.length = (callsOf s rest).length := by
    rw [hrest, List.length_map]
  have hevokes : errand.Evokes code w [] := Errand.evokes_nil (errand.action?_of_stores hstores)
  obtain ⟨hworld, herrands⟩ := errand.turn_of_stores hstores [] w
  have hdoes : Does code act (setSlot act s v) w
      ⟨(errand.turn [] w).world, (errand.turn [] w).errands⟩ := by
    rw [hworld, herrands]
    exact setSlot_does hact.realizes (Annals.of h hopening.of).bonds s v (.set s v)
  refine (Gives.widen hdoes fun hstalls => hstalls.turn hevokes).mono fun _ w' hends => ?_
  obtain ⟨effects, hruns⟩ := hends
  have hentered : slotEntries s log w errand = [.set v] := by
    rw [slotEntries, if_pos hs, Errand.slotEvent?, hstores]
    exact congrArg Option.toList (if_pos rfl)
  have hbegun : SlotLog code s opening _ _ := h.turn hevokes
  rw [hentered] at hbegun
  have hstart : (SlotAccount.of log).due <:+ (SlotAccount.of (log ++ [.set v])).due :=
    SlotAccount.due_suffix log (by simp)
  obtain ⟨more, hmore, hdue⟩ :=
    hruns.annals (P := fun log' _ => (SlotAccount.of log).due <:+ (SlotAccount.of log').due)
      hbegun hstart fun _ _ _ _ _ hlog hdue => due_turn hopening hlog hlength hdue
  rw [List.append_assoc, List.singleton_append] at hmore hdue
  refine ⟨more, hmore, ?_⟩
  have hend := reckons hopening hmore
  have hsame : (SlotAccount.of log).due = (SlotAccount.of (log ++ .set v :: more)).due :=
    hdue.eq_of_length (hlength.trans ((congrArg List.length hend.due).trans (List.length_map ..)))
  have hcomplete := hend.fair.complete log.length v (by simp)
  rwa [← hsame, hreckons.fair.calledFrom_length.2, List.append_nil, List.take_left] at hcomplete

end SlotLog

/-! ## At every moment -/

/-- What is so of a slot at a moment with its log. -/
structure Observed (code : UserCode catalog) (s : SlotId) (opening : Moment)
    (log : List SlotEvent) (m : Moment) : Prop where
  version : m.world.version s = (valuesOf log).length
  value : m.world.slots[s]?.bind Slot.value = (valuesOf log).getLast?
  observers : m.world.observers s = observersOf log
  /-- Every field that holds the slot shows the same. -/
  shown : ∀ t p, m.world.content? t p = some (.reactive s) → (m.world.viewTarget t).at? p =
    some (.reactive (valuesOf log).getLast? (valuesOf log).length)
  /-- An observer is called for a call that has begun before, and with its value. -/
  called : ∀ (k n : Nat) v o, log[k]? = some (.called n v o) → n < k ∧ log[n]? = some (.set v)
  /-- A setting calls the observers that the slot had when it began, in order, each once; the first
  of them, as long as it goes on. -/
  ordered : ∀ (n : Nat) v, log[n]? = some (.set v) →
    calledFrom n log <+: (observersOf (log.take n)).map fun o => (v, o)
  /-- All of them, when no call is due any more. -/
  complete : callsOf s m.errands = [] → ∀ (n : Nat) v, log[n]? = some (.set v) →
    calledFrom n log = (observersOf (log.take n)).map fun o => (v, o)
  /-- All of them, when the setting is over, whatever waits behind it; and it has a result unless an
  observer has none when it is called. -/
  sets : ∀ errand rest v, m.errands = errand :: rest → errand.stores? = some (s, v) →
    s < m.world.slots.length → ∀ depth act, Plays code depth act →
      Gives (Stalls code act ⟨m.world, [errand]⟩) (setSlot act s v) m.world fun _ w' =>
        ∃ more, SlotLog code s opening (log ++ .set v :: more) ⟨w', rest⟩ ∧
          calledFrom log.length (log ++ .set v :: more) = (observersOf log).map fun o => (v, o)

theorem Reckons.slots (h : Reckons s log m) :
    m.world.version s = (valuesOf log).length ∧
      m.world.slots[s]?.bind Slot.value = (valuesOf log).getLast? ∧
      m.world.observers s = observersOf log := by
  rw [World.version, World.observers, h.slot, ← SlotAccount.values_of, ← SlotAccount.observers_of]
  cases hslot : (SlotAccount.of log).slot? with
  | none => rw [SlotAccount.eq_nil_of_slot? hslot]; exact ⟨rfl, rfl, rfl⟩
  | some x => rw [SlotAccount.eq_of_slot? hslot]; exact ⟨rfl, rfl, rfl⟩

theorem SlotLog.observed (hopening : opening.Fresh catalog s)
    (h : SlotLog code s opening log m) : Observed code s opening log m := by
  have hreckons := h.reckons hopening
  obtain ⟨hversion, hvalue, hobservers⟩ := hreckons.slots
  refine ⟨hversion, hvalue, hobservers, fun t p hp => ?_, hreckons.fair.called, fun n v hn => ?_,
    fun hnone n v hn => ?_, ?_⟩
  · rw [World.at?_viewTarget hp, World.view, hvalue, hversion]
  · exact ⟨_, hreckons.fair.complete n v hn⟩
  · have hdue : (SlotAccount.of log).due = [] :=
      List.map_eq_nil_iff.mp (hreckons.due.symm.trans hnone)
    rw [← hreckons.fair.complete n v hn, hdue, List.filterMap_nil, List.append_nil]
  · obtain ⟨w, errands⟩ := m
    rintro errand rest v rfl hstores hs depth act hact
    exact h.sets hopening hstores hs hact

/-- **Reactive delivery.** Whatever a program does, and its observers in turn to any depth, it has a
result unless user code has none when it is called. Then each slot has a log of it, at the end of
which nothing is due, and if user code leaves no choice, the log at any moment is a beginning of it.
At every moment with a log, in the middle of a notification or not, and whatever user code may do
next, the log accounts for the slot. -/
theorem Performance.slots_observed (code : UserCode catalog) (performance : Performance catalog)
    (boundary : Boundary) (broadcasters : Nat) (hosts : List BroadcasterId) (s : SlotId) :
    (∀ depth act, Plays code depth act →
      Gives (Stalls code act (performance.opening boundary broadcasters hosts))
        (performance.run act) (.opened boundary broadcasters hosts) fun _ w =>
          (∃ log, SlotLog code s (performance.opening boundary broadcasters hosts) log ⟨w, []⟩) ∧
          (code.Decided → ∀ log m,
            SlotLog code s (performance.opening boundary broadcasters hosts) log m → ∃ more,
              SlotLog code s (performance.opening boundary broadcasters hosts) (log ++ more)
                ⟨w, []⟩)) ∧
    ∀ log m, SlotLog code s (performance.opening boundary broadcasters hosts) log m →
      Observed code s (performance.opening boundary broadcasters hosts) log m := by
  constructor
  · exact fun depth act hact =>
      ((performance.unfolds code boundary broadcasters hosts).concludes hact).mono
        fun _ w hdone => hdone.annals (slotEntries s)
  · exact fun log m h => h.observed (performance.opening_fresh boundary broadcasters hosts s)

namespace Dial

/-- The type of dials. -/
def dial : TypeDefinition where
  info := .root "Dial" "app::Dial"
  fields := [{ name := "level", layout := .reactive .word }]

/-- The catalog of a dial. -/
def types : Catalog where
  has A := A = dial
  unique := by rintro A B rfl rfl -; rfl
  names := by rintro A rfl; decide
  parent := by rintro A declared name via up rfl hinfo; cases hinfo

/-- Two dials share a slot, which has two observers. When the first one is called, it lets another
one join, and turns the dial up once more. -/
def performance : Performance types where
  moves := [.deed (.command (.create dial)), .deed (.command (.create dial)),
    .place ⟨1, [], "Dial"⟩ "level" 0,
    .deed (.command (.observe 0 ⟨"first", .slot,
      [.observe 0 "late" .nothing [], .set 0 (some (.word 2)) 2]⟩)),
    .deed (.command (.observe 0 ⟨"second", .slot, []⟩)),
    .deed (.command (.set 0 (.word 1)))]
  of := by simp [Move.Of, Deed.Of, Command.Of, Setting.free, types]

/-- The tag of an observer that is called. -/
def called? : Occurrence → Option String
  | .observed tag _ _ => some tag
  | _ => none

/-- The inner setting calls all three, and the outer one goes on with those who were there when it
began; both dials show the last level. There is no other way for the program to go. -/
theorem turned_up : Plays (.acting types) 2 (perform 2) ∧ (UserCode.acting types).Decided ∧ ∃ w log,
    performance.run (perform 2) (.opened .standard 0 []) = some ((), w) ∧
    w.trace.filterMap called? = ["first", "first", "second", "late", "second"] ∧
    SlotLog (.acting types) 0 (performance.opening .standard 0 []) log ⟨w, []⟩ ∧
    (valuesOf log).length = 2 ∧ (valuesOf log).getLast? = some (.word 2) ∧
    (w.viewTarget 1).at? ["level"] = some (.reactive (some (.word 2)) 2) ∧
    (∀ (n : Nat) v, log[n]? = some (.set v) →
      calledFrom n log = (observersOf (log.take n)).map fun o => (v, o)) ∧
    ∀ log' m, SlotLog (.acting types) 0 (performance.opening .standard 0 []) log' m → ∃ more,
      SlotLog (.acting types) 0 (performance.opening .standard 0 []) (log' ++ more) ⟨w, []⟩ := by
  have hact := perform_plays types 2
  have hglance : (performance.run (perform 2) (.opened .standard 0 [])).map (fun r =>
      (r.2.trace.filterMap called?, r.2.version 0, r.2.slots[0]?.bind Slot.value,
        r.2.slotAt? ⟨1, [], "Dial"⟩ "level")) =
      some (["first", "first", "second", "late", "second"], 2, some (.word 2), some 0) := by
    decide +kernel
  obtain ⟨⟨⟨⟩, w⟩, hrun, hglance⟩ := Option.map_eq_some_iff.mp hglance
  simp only [Prod.mk.injEq] at hglance
  obtain ⟨htrace, hversion, hvalue, hslot⟩ := hglance
  obtain ⟨hruns, hall⟩ := Performance.slots_observed (.acting types) performance .standard 0 [] 0
  obtain ⟨⟨log, hlog⟩, hothers⟩ := (hruns 2 (perform 2) hact).result hrun
  have hobserved := hall log _ hlog
  have hlength : (valuesOf log).length = 2 := hobserved.version.symm.trans hversion
  have hlast : (valuesOf log).getLast? = some (.word 2) := hobserved.value.symm.trans hvalue
  have hshown := hobserved.shown 1 ["level"]
    (World.content?_eq_of_slot.mp (World.slotAt?_eq_some.mp hslot))
  rw [hlength, hlast] at hshown
  exact ⟨hact, UserCode.acting_decided, w, log, hrun, htrace, hlog, hlength, hlast, hshown,
    hobserved.complete rfl, hothers UserCode.acting_decided⟩

end Dial

end Live
end Theming
