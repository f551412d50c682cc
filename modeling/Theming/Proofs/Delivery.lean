/-
# Delivery

Every run of a program without bindable types has a log of what happens to listeners (`Logs`), and
at each of its moments the ledger of the log says what the world does (`Traced`). So what a log
tells of calls is what happens. A notification has a result unless a listener has none when it is
called; it is a run of turns that leaves the errands after it as they are, and the same
notifications are open when it is over as before, so its own has ended by then and has called its
whole roster (`Logs.notifies`).
-/

import Theming.Proofs.Accounting
import Theming.Proofs.Annals

namespace Theming
namespace Live

variable {code : UserCode .bare} {w w' : World} {l : Ledger} {errand : Errand}

/-! ## Runs -/

/-- What is entered into the log of listeners when an errand is taken up. -/
def listenerEntries (log : List ListenerEvent) (w : World) (errand : Errand) :
    List ListenerEvent :=
  (errand.event? (.of log) w).toList

/-- A run with the log of its listeners. -/
abbrev Logs (code : UserCode .bare) (opening : Moment) : List ListenerEvent → Moment → Prop :=
  Annals code listenerEntries opening

/-- What is so at a moment with a log. -/
structure Traced (log : List ListenerEvent) (m : Moment) : Prop where
  of : m.Of .bare
  kept : Ledger.Kept log
  agrees : Agrees (.of log) m.world m.errands

variable {log : List ListenerEvent} {m : Moment}

theorem Traced.sane (h : Traced log m) : (Ledger.of log).Sane :=
  Ledger.before_length log ▸ (h.kept.course log.length (Nat.le_refl _)).sane

/-- Another turn, and what it enters into the log. -/
theorem Traced.turn {rest : List Errand} {moves : List Move}
    (h : Traced log ⟨w, errand :: rest⟩) (hmoves : errand.Evokes code w moves) :
    Traced (log ++ listenerEntries log w errand)
      ⟨(errand.turn moves w).world, (errand.turn moves w).errands ++ rest⟩ := by
  have henters := h.agrees.turn h.sane h.of.bonds (h.of.errands errand List.mem_cons_self) moves
  refine ⟨h.of.turn hmoves, ?_, ?_⟩
  · rw [listenerEntries]
    cases he : errand.event? (.of log) w with
    | none => exact (List.append_nil log).symm ▸ h.kept
    | some e => exact h.kept.concat (henters.allows e he)
  · rw [Ledger.of, List.foldl_append]
    exact henters.agrees

theorem World.listeners_opened (boundary : Boundary) (broadcasters : Nat)
    (hosts : List BroadcasterId) (b : BroadcasterId) :
    (opened boundary broadcasters hosts).listeners b = [] := by
  rw [listeners, opened, List.getElem?_replicate]
  split_ifs <;> rfl

theorem Performance.opening_traced (performance : Performance .bare) (boundary : Boundary)
    (broadcasters : Nat) (hosts : List BroadcasterId) :
    Traced [] (performance.opening boundary broadcasters hosts) := by
  have hplain : ∀ e ∈ performance.moves.map Errand.move, e.Plain := by
    intro e he
    obtain ⟨m, -, rfl⟩ := List.mem_map.mp he
    trivial
  have hwaits := Waits.none.plains hplain
  rw [List.append_nil] at hwaits
  refine ⟨performance.opening_of _ _ _, nofun, rfl, rfl, hwaits, fun b x hx => ?_, fun b => ?_⟩
  · rw [opening, World.listeners_opened] at hx
    cases hx
  · rw [opening, World.liveListeners, World.listeners_opened]
    rfl

variable {opening m' : Moment}

theorem Logs.traced (hopening : Traced [] opening) (h : Logs code opening log m) :
    Traced log m := by
  induction h with
  | start => exact hopening
  | turn _ hmoves ih => exact ih.turn hmoves

/-! ## Notifications as a whole -/

/-- Where the open notifications have begun, innermost first. -/
def Ledger.starts (l : Ledger) : List Nat := l.rounds.map Round.start

theorem Ledger.starts_enter (l : Ledger) (e : ListenerEvent) : (l.enter e).starts =
    match e with
    | .begun _ => l.size :: l.starts
    | .ended _ => l.starts.tail
    | _ => l.starts := by
  cases e with
  | told n id =>
    change (answered l.rounds).map Round.start = l.rounds.map Round.start
    cases l.rounds <;> rfl
  | ended n => exact List.map_tail
  | _ => rfl

/-- Only a notification that is closed ends. -/
theorem Errand.closings_pos {n : Nat} (h : errand.event? l w = some (.ended n)) :
    0 < closings [errand] := by
  unfold Errand.event? at h
  split at h
  all_goals grind [closings, Option.map_eq_some_iff]

/-- A turn that leaves some notifications to be closed leaves them open. -/
theorem Traced.starts_turn {front rest : List Errand} {old : List Nat}
    (h : Traced log ⟨w, errand :: front ++ rest⟩) (hlength : old.length = closings rest)
    (hold : old <:+ (Ledger.of log).starts) :
    old <:+ (Ledger.of (log ++ listenerEntries log w errand)).starts := by
  have hstarts : (Ledger.of log).starts.length = closings (errand :: front ++ rest) :=
    List.length_map .. |>.trans h.agrees.waits.length_rounds
  rw [listenerEntries]
  cases he : errand.event? (.of log) w with
  | none => exact (List.append_nil log).symm ▸ hold
  | some e =>
    rw [Option.toList_some, Ledger.of_concat, Ledger.starts_enter]
    cases e with
    | begun b => exact hold.trans (List.suffix_cons _ _)
    | ended n =>
      obtain ⟨newer, hnewer⟩ := hold
      have hpos := Errand.closings_pos he
      have hclosings : closings (errand :: front ++ rest) =
          closings [errand] + (closings front + closings rest) := by
        rw [List.cons_append, ← List.singleton_append, closings_append, closings_append]
      rw [← hnewer, List.length_append, hclosings] at hstarts
      cases newer with
      | nil =>
        rw [List.length_nil] at hstarts
        omega
      | cons n newer =>
        rw [← hnewer]
        exact List.suffix_append _ _
    | _ => exact hold

/-- **A notification calls everybody who was live when it began**, in order, and gives their number,
unless a listener has no result when it is called. -/
theorem Logs.notifies {b : BroadcasterId} {skin : String} {rest : List Errand} {depth : Nat}
    {act : Act} (hopening : Traced [] opening)
    (hlog : Logs code opening log ⟨w, .move (.deed (.notify b skin)) :: rest⟩)
    (hact : Plays code depth act) :
    Gives (Stalls code act ⟨w, [.move (.deed (.notify b skin))]⟩) (notify act b skin) w
      fun number w' => ∃ more, Logs code opening (log ++ .begun b :: more) ⟨w', rest⟩ ∧
        Ledger.calls log.length (log ++ .begun b :: more) = (Ledger.of log).live b ∧
        number = (Ledger.calls log.length (log ++ .begun b :: more)).length := by
  have htraced := hlog.traced hopening
  have hclosings : (Ledger.of log).starts.length = closings rest :=
    List.length_map .. |>.trans (htraced.agrees.waits.plain_tail trivial).length_rounds
  refine (notify_does hact.realizes htraced.of.bonds b skin).mono fun number w' hdone => ?_
  obtain ⟨hnumber, effects, hruns⟩ := hdone
  cases hruns with
  | turn hmoves hrest =>
    have hbegun : Logs code opening (log ++ [.begun b]) _ := hlog.turn hmoves
    rw [← List.append_nil (Errand.turn _ _ _).errands] at hbegun
    obtain ⟨more, hmore, hstarts⟩ := hrest.annals
      (P := fun log' _ => (Ledger.of log).starts <:+ (Ledger.of log').starts) hbegun (by
        rw [Ledger.of_concat, Ledger.starts_enter]
        exact List.suffix_cons _ _)
      fun _ _ _ _ _ hlog' hold => (Logs.traced hopening hlog').starts_turn hclosings hold
    rw [List.append_assoc, List.singleton_append] at hmore hstarts
    have hend := Logs.traced hopening hmore
    have hsame : (Ledger.of log).starts = (Ledger.of (log ++ .begun b :: more)).starts :=
      hstarts.eq_of_length (hclosings.trans
        ((List.length_map ..).trans hend.agrees.waits.length_rounds).symm)
    have hat : (log ++ .begun b :: more)[log.length]? = some (.begun b) := by simp
    have hcalls : Ledger.calls log.length (log ++ .begun b :: more) = (Ledger.of log).live b := by
      rcases hend.kept.progress hat with ⟨r, hr, hstart, -, -⟩ | ⟨hcalls, -⟩
      · have hopen : log.length ∈ (Ledger.of log).starts :=
          hsame ▸ hstart ▸ List.mem_map_of_mem hr
        obtain ⟨r', hr', hstart'⟩ := List.mem_map.mp hopen
        have hsize := Ledger.size_before (Nat.le_refl log.length)
        rw [Ledger.before_length] at hsize
        exact absurd (hstart'.trans hsize.symm) (Nat.ne_of_lt (htraced.sane.starts r' hr'))
      · rwa [Ledger.before_append _ _ (Nat.le_refl _), Ledger.before_length] at hcalls
    exact ⟨more, hmore, hcalls, by rw [hcalls, hnumber, htraced.agrees.length_live]⟩

/-- What is so of listeners at a moment with a log. -/
structure Delivers (code : UserCode .bare) (opening : Moment) (log : List ListenerEvent)
    (m : Moment) : Prop where
  delivered : Ledger.Delivered log
  live : ∀ b, m.world.liveListeners b = ((Ledger.of log).live b).map .script
  /-- To count listeners gives the number of live registrations. -/
  counts : ∀ act v b, carryOut act v (.count b) m.world =
    some ((), m.world.record (.counted ((Ledger.of log).live b).length))
  /-- To remove a listener takes away its registrations with the broadcaster, and none else that is
  alive, and says whether there was one. -/
  removes : ∀ act v b name id, m.world.scriptOf? name = some id → ∃ (w' : World) (was : Bool),
    carryOut act v (.ignore b name) m.world = some ((), w'.record (.ignored name was)) ∧
      (was = true ↔ id ∈ (Ledger.of log).live b) ∧
      ∀ b', w'.liveListeners b' = if b' = b
        then (m.world.liveListeners b).filter (· != .script id) else m.world.liveListeners b'
  /-- To notify calls everybody who is live, and gives their number, unless a listener has no result
  when it is called. -/
  notifies : ∀ b skin rest, m.errands = .move (.deed (.notify b skin)) :: rest →
    ∀ depth act, Plays code depth act →
      Gives (Stalls code act ⟨m.world, [.move (.deed (.notify b skin))]⟩)
        (notify act b skin) m.world fun number w' => ∃ more, Logs code opening (log ++ .begun b :: more) ⟨w', rest⟩ ∧
          Ledger.calls log.length (log ++ .begun b :: more) = (Ledger.of log).live b ∧
          number = (Ledger.calls log.length (log ++ .begun b :: more)).length

/-- **Delivery.** Whatever a program does, and its listeners in turn to any depth, it has a result
unless a listener has none when it is called. Then there is a log of it, at the end of which no
notification is open, and if listeners leave no choice, the log at any moment is a beginning of it.
At every moment with a log, whatever listeners may do next, the log tells of deliveries, the live
registrations are those in the ledger, and to count, to remove and to notify gives what the ledger
says. -/
theorem Performance.delivers (code : UserCode .bare) (performance : Performance .bare)
    (boundary : Boundary) (broadcasters : Nat) (hosts : List BroadcasterId) :
    (∀ depth act, Plays code depth act →
      Gives (Stalls code act (performance.opening boundary broadcasters hosts))
        (performance.run act) (.opened boundary broadcasters hosts) fun _ w =>
          (∃ log, Logs code (performance.opening boundary broadcasters hosts) log ⟨w, []⟩ ∧
            (Ledger.of log).rounds = []) ∧
          (code.Decided → ∀ log m,
            Logs code (performance.opening boundary broadcasters hosts) log m → ∃ more,
              Logs code (performance.opening boundary broadcasters hosts) (log ++ more) ⟨w, []⟩)) ∧
    ∀ log m, Logs code (performance.opening boundary broadcasters hosts) log m →
      Delivers code (performance.opening boundary broadcasters hosts) log m := by
  have hopening := performance.opening_traced boundary broadcasters hosts
  constructor
  · intro depth act hact
    refine ((performance.unfolds code boundary broadcasters hosts).concludes hact).mono
      fun _ w hdone => ?_
    obtain ⟨⟨log, hlog⟩, hall⟩ := hdone.annals listenerEntries
    exact ⟨⟨log, hlog, (Logs.traced hopening hlog).agrees.waits.rounds_eq_nil⟩, hall⟩
  · intro log m hlog
    have htraced := Logs.traced hopening hlog
    refine ⟨.of_kept htraced.kept, htraced.agrees.live, fun act v b => ?_,
      fun act v b name id hscript => ?_, ?_⟩
    · exact htraced.agrees.length_live b ▸ rfl
    · refine ⟨m.world.removeListener b (.script id), m.world.hasListener b (.script id), ?_,
        htraced.agrees.hasListener_iff (htraced.agrees.owned_of_script hscript) b,
        m.world.liveListeners_removeListener b (.script id)⟩
      change some ((), World.ignore m.world b name) = _
      rw [World.ignore, hscript]
    · obtain ⟨w, errands⟩ := m
      rintro b skin rest rfl depth act hact
      exact Logs.notifies hopening hlog hact

namespace Hall

/-- A door that is registered twice, with a lamp in between. When it is called it leaves, drops the
lamp, and notifies in its turn. -/
def performance : Performance .bare where
  moves := [.hold ⟨"door", [.ignore 0 "door", .drop "lamp", .notify 0 "night"]⟩,
    .hold ⟨"lamp", []⟩, .listen 0 "door", .listen 0 "lamp", .listen 0 "door",
    .deed (.notify 0 "day"), .deed (.notify 0 "dawn")]
  of m hm := by
    simp only [List.mem_cons, List.not_mem_nil, or_false] at hm
    rcases hm with rfl | rfl | rfl | rfl | rfl | rfl | rfl <;> trivial

/-- The name of a script that is called. -/
def applied? : Occurrence → Option String
  | .applied name => some name
  | _ => none

/-- Both are called as often as they were registered, and the lamp twice more in between; after the
first notification nobody is left. There is no other way for the program to go. -/
theorem door_leaves :
    Plays (.acting .bare) 2 (perform 2) ∧ (UserCode.acting .bare).Decided ∧ ∃ w log,
      performance.run (perform 2) (.opened .standard 1 [0]) = some ((), w) ∧
      w.trace.filterMap applied? = ["door", "lamp", "lamp", "door", "lamp"] ∧
      Logs (.acting .bare) (performance.opening .standard 1 [0]) log ⟨w, []⟩ ∧
      (∀ n b, log[n]? = some (.begun b) →
        Ledger.calls n log = (Ledger.before log n).live b) ∧
      (Ledger.of log).live 0 = [] ∧
      ∀ log' m, Logs (.acting .bare) (performance.opening .standard 1 [0]) log' m → ∃ more,
        Logs (.acting .bare) (performance.opening .standard 1 [0]) (log' ++ more) ⟨w, []⟩ := by
  have hact := perform_plays .bare 2
  have hglance : (performance.run (perform 2) (.opened .standard 1 [0])).map (fun r =>
      (r.2.trace.filterMap applied?, r.2.liveListeners 0)) =
        some (["door", "lamp", "lamp", "door", "lamp"], []) := by
    decide +kernel
  obtain ⟨⟨⟨⟩, w⟩, hrun, hglance⟩ := Option.map_eq_some_iff.mp hglance
  obtain ⟨htrace, hnobody⟩ := Prod.mk.inj hglance
  obtain ⟨hruns, hall⟩ := Performance.delivers (.acting .bare) performance .standard 1 [0]
  obtain ⟨⟨log, hlog, hrounds⟩, hothers⟩ := (hruns 2 (perform 2) hact).result hrun
  have hdelivers := hall log _ hlog
  refine ⟨hact, UserCode.acting_decided, w, log, hrun, htrace, hlog, fun n b hn => ?_, ?_,
    hothers UserCode.acting_decided⟩
  · refine hdelivers.delivered.complete n b hn (by_contra fun hend => ?_)
    obtain ⟨r, hr, -⟩ := hdelivers.delivered.pending n b hn hend
    rw [hrounds] at hr
    cases hr
  · exact List.map_eq_nil_iff.mp ((hdelivers.live 0).symm.trans hnobody)

end Hall

end Live
end Theming
