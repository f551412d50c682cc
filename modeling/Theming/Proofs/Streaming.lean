/-
# The stream of changes

What happens to the skins of a manager, and what its broadcaster sends, makes one log. An activation
of a known skin enters the activation, then what follows from it, and at last its own change:

| call | enters |
| --- | --- |
| `activate`, the skin is known | `activated`, what the listeners do, `sent` |
| `activate`, the skin is not known | |
| `notify` | what the listeners do, `sent` |

A listener may activate a skin as well, and its change is then sent before that of the activation
from which it was called. So a change that is sent by an activation names the skin that is active at
that moment if no other skin has been activated inside (`Performance.announces`), and may name one
that is no longer active if another one has (`Belfry.last_change_is_stale`). Whoever receives all
that has been sent gets it last.
-/

import Theming.Proofs.Accounting
import Theming.Proofs.Annals
import Theming.Proofs.Broadcasting

namespace Theming
namespace Live

variable {catalog : Catalog} {code : UserCode catalog} {w w' : World} {k : ManagerId}
  {b : BroadcasterId} {opening m : Moment} {rest : List Errand}

/-! ## Receiving -/

/-- All that a subscriber gets until there is nothing left. -/
inductive Drains (w : World) : Receiver → List Received → Prop where
  | nothing {r : Receiver} (h : (w.receive r).1 = .nothing) : Drains w r []
  | next {r : Receiver} {got : List Received} (h : (w.receive r).1 ≠ .nothing)
      (hrest : Drains w (w.receive r).2 got) : Drains w r ((w.receive r).1 :: got)

section Receiving

variable {r : Receiver} {name : String}

theorem World.receive_of_kept (hkept : ¬ r.next < (w.changes r.broadcaster).length - changeLimit)
    (hnext : (w.changes r.broadcaster)[r.next]? = some name) :
    w.receive r = (.change name, { r with next := r.next + 1 }) := by
  rw [receive, if_neg hkept, hnext]

theorem World.receive_of_end (h : r.next = (w.changes r.broadcaster).length) :
    w.receive r = (.nothing, r) := by
  have hnone : (w.changes r.broadcaster)[r.next]? = none := List.getElem?_eq_none h.ge
  rw [receive, if_neg (by omega), hnone]

/-- Who has missed nothing gets all changes that are left. -/
theorem drains_kept (hlast : (w.changes b).getLast? = some name) (hb : r.broadcaster = b) (n : Nat)
    (hnext : r.next + n + 1 = (w.changes b).length)
    (hkept : ¬ r.next < (w.changes b).length - changeLimit) :
    ∃ got, Drains w r got ∧ got.getLast? = some (.change name) := by
  induction n generalizing r with
  | zero =>
    subst hb
    have hname : (w.changes r.broadcaster)[r.next]? = some name := by
      rw [← hlast, List.getLast?_eq_getElem?, ← hnext]
      rfl
    have hreceive := World.receive_of_kept hkept hname
    have hend : w.receive { r with next := r.next + 1 } = (.nothing, _) :=
      World.receive_of_end hnext
    refine ⟨[(w.receive r).1], .next (by simp [hreceive]) ?_, by simp [hreceive]⟩
    rw [hreceive]
    exact .nothing (congrArg Prod.fst hend)
  | succ n ih =>
    subst hb
    obtain ⟨other, hother⟩ : ∃ other, (w.changes r.broadcaster)[r.next]? = some other :=
      ⟨_, List.getElem?_eq_getElem (by omega)⟩
    have hreceive := World.receive_of_kept hkept hother
    obtain ⟨got, hgot, hgotlast⟩ := ih (r := { r with next := r.next + 1 }) rfl
      (by dsimp only; omega) (by dsimp only; omega)
    refine ⟨(w.receive r).1 :: got, .next (by simp [hreceive]) (hreceive ▸ hgot), ?_⟩
    rw [List.getLast?_cons, hgotlast]
    rfl

/-- **Who has not yet got the last change gets it last**, whatever has been missed. -/
theorem drains_last (hlast : (w.changes b).getLast? = some name) (hb : r.broadcaster = b)
    (hnext : r.next < (w.changes b).length) :
    ∃ got, Drains w r got ∧ got.getLast? = some (.change name) := by
  by_cases hkept : r.next < (w.changes b).length - changeLimit
  · subst hb
    have hreceive : w.receive r = (.lagged _, { r with next := _ }) := if_pos hkept
    have hlimit : 0 < changeLimit := by decide
    obtain ⟨got, hgot, hgotlast⟩ := drains_kept
      (r := { r with next := (w.changes r.broadcaster).length - changeLimit }) hlast rfl
      ((w.changes r.broadcaster).length - ((w.changes r.broadcaster).length - changeLimit) - 1)
      (by dsimp only; omega) (by dsimp only; omega)
    refine ⟨(w.receive r).1 :: got, .next (by simp [hreceive]) (hreceive ▸ hgot), ?_⟩
    rw [List.getLast?_cons, hgotlast]
    rfl
  · exact drains_kept hlast hb ((w.changes b).length - r.next - 1) (by omega) hkept

end Receiving

/-! ## The log -/

/-- What happens to the skins of a manager, and what its broadcaster sends. -/
inductive StreamEvent where
  | skin (e : SkinEvent)
  | sent (name : String)

/-- What has happened to the skins. -/
def historyOf (log : List StreamEvent) : List SkinEvent :=
  log.filterMap fun
    | .skin e => some e
    | .sent _ => none

/-- What has been sent. -/
def sentOf (log : List StreamEvent) : List String :=
  log.filterMap fun
    | .skin _ => none
    | .sent name => some name

theorem historyOf_append (log more : List StreamEvent) :
    historyOf (log ++ more) = historyOf log ++ historyOf more := List.filterMap_append

theorem mem_historyOf {e : SkinEvent} {log : List StreamEvent} :
    e ∈ historyOf log ↔ .skin e ∈ log := by
  constructor
  · intro he
    obtain ⟨x, hx, heq⟩ := List.mem_filterMap.mp he
    cases x with
    | skin e' => rwa [Option.some.inj heq] at hx
    | sent _ => cases heq
  · exact fun he => List.mem_filterMap.mpr ⟨_, he, rfl⟩

theorem sentOf_append (log more : List StreamEvent) :
    sentOf (log ++ more) = sentOf log ++ sentOf more := List.filterMap_append

/-- What is to be entered of an errand. -/
def streamEntries (k : ManagerId) (b : BroadcasterId) (_log : List StreamEvent) (w : World)
    (errand : Errand) : List StreamEvent :=
  (errand.skinEvent? k w).toList.map .skin ++ (errand.sends? b).toList.map .sent

theorem historyOf_entries (log : List StreamEvent) (w : World) (errand : Errand) :
    historyOf (streamEntries k b log w errand) = (errand.skinEvent? k w).toList := by
  rw [streamEntries, historyOf_append]
  cases errand.skinEvent? k w <;> cases errand.sends? b <;> rfl

theorem sentOf_entries (log : List StreamEvent) (w : World) (errand : Errand) :
    sentOf (streamEntries k b log w errand) = (errand.sends? b).toList := by
  rw [streamEntries, sentOf_append]
  cases errand.skinEvent? k w <;> cases errand.sends? b <;> rfl

/-- A run with the log of a manager and its broadcaster. -/
abbrev StreamLog (code : UserCode catalog) (k : ManagerId) (b : BroadcasterId)
    (opening : Moment) : List StreamEvent → Moment → Prop := Annals code (streamEntries k b) opening

/-- A moment from which a program may go on, with a new manager whose broadcaster has sent
nothing. -/
structure Moment.Blank (catalog : Catalog) (k : ManagerId) (b : BroadcasterId) (m : Moment) :
    Prop where
  of : m.Of catalog
  served : m.world.Served
  manager : m.world.managers[k]? = some ⟨b, [], none⟩
  listed : b < m.world.broadcasters.length
  silent : m.world.changes b = []

theorem Performance.opening_blank (performance : Performance catalog) (boundary : Boundary)
    {broadcasters : Nat} {hosts : List BroadcasterId} (hk : hosts[k]? = some b)
    (hb : b < broadcasters) :
    (performance.opening boundary broadcasters hosts).Blank catalog k b where
  of := performance.opening_of boundary broadcasters hosts
  served := fun t _ id _ hid => (nomatch hid)
  manager := by
    change (hosts.map _)[k]? = _
    rw [List.getElem?_map, hk]
    rfl
  listed := hb.trans_eq (List.length_replicate ..).symm
  silent := by
    change (((List.replicate broadcasters ({} : Broadcaster))[b]?).map _).getD [] = []
    rw [List.getElem?_replicate]
    split_ifs <;> rfl

/-! ## What a manager recalls -/

namespace SkinManager

variable {manager manager' : SkinManager} {events before after : List SkinEvent} {name : String}

theorem broadcaster_replay? (h : manager.replay? events = some manager') :
    manager'.broadcaster = manager.broadcaster := by
  induction events generalizing manager with
  | nil => rw [Option.some.inj h]
  | cons e rest ih =>
    rw [replay?_cons] at h
    obtain ⟨first, hfirst, hrest⟩ := Option.bind_eq_some_iff.mp h
    refine (ih hrest).trans ?_
    cases e with
    | added skin => rw [← Option.some.inj hfirst, add]
    | activated name =>
      obtain ⟨skin, -, rfl⟩ := Option.map_eq_some_iff.mp hfirst
      rfl

/-- A skin stays the active one as long as no other one is activated. -/
theorem active_of_alone (hnew : manager.skins = [])
    (h : manager.replay? (before ++ .activated name :: after) = some manager')
    (halone : ∀ other, .activated other ∈ after → other = name) :
    ∃ skin, manager'.active = some skin ∧ skin.name = name := by
  obtain ⟨between, e, later, hsplit, ⟨last, rfl⟩, hlater⟩ := exists_last_of_mem
    (p := fun e => ∃ other, e = SkinEvent.activated other)
    ⟨.activated name, List.mem_cons_self (l := after), name, rfl⟩
  have hlast : last = name := by
    have hmem : .activated last ∈ SkinEvent.activated name :: after := by
      rw [hsplit]
      exact List.mem_append_right _ List.mem_cons_self
    rcases List.mem_cons.mp hmem with heq | hmem
    · exact SkinEvent.activated.inj heq
    · exact halone last hmem
  rw [hsplit, ← List.append_assoc] at h
  obtain ⟨skin, hadded, hactive⟩ := active_of_last hnew h fun other hother =>
    hlater _ hother ⟨other, rfl⟩
  exact ⟨skin, hactive, hadded.1.trans hlast⟩

end SkinManager

/-! ## At every moment -/

/-- What a log tells of a manager and its broadcaster. -/
structure Told (k : ManagerId) (b : BroadcasterId) (w : World) (log : List StreamEvent)
    (w' : World) : Prop where
  recounts : Recounts k w (historyOf log) w'
  changes : w'.changes b = w.changes b ++ sentOf log
  broadcasters : w'.broadcasters.length = w.broadcasters.length

/-- Whether a skin is switched to. -/
def SkinEvent.isSwitch : SkinEvent → Bool
  | .activated _ => true
  | .added _ => false

/-- How many activations have succeeded. -/
def switches (log : List StreamEvent) : Nat := (historyOf log).countP SkinEvent.isSwitch

/-- Whether a change is to be sent before an errand is done. -/
def Errand.promises (b : BroadcasterId) : Errand → Bool
  | move (.deed (.notify broadcaster _)) => broadcaster = b
  | close _ broadcaster _ => broadcaster = b
  | _ => false

theorem switches_append (log more : List StreamEvent) :
    switches (log ++ more) = switches log + switches more := by
  rw [switches, historyOf_append, List.countP_append]
  rfl

/-- An activation promises a change, and a promise is kept or passed on. -/
theorem Errand.promises_turn (hhost : (w.manager k).broadcaster = b) (moves : List Move)
    (errand : Errand) :
    (errand.skinEvent? k w).toList.countP SkinEvent.isSwitch +
        (if errand.promises b then 1 else 0) ≤
      (errand.sends? b).toList.length + (errand.turn moves w).errands.countP (promises b) := by
  cases errand with
  | move m =>
    cases m with
    | deed d =>
      cases d with
      | command c =>
        cases c with
        | addSkin manager skin =>
          by_cases hk : manager = k <;> simp [skinEvent?, promises, hk, SkinEvent.isSwitch]
        | activate manager name =>
          cases hskin : (w.manager manager).skin? name with
          | none => simp [skinEvent?, promises, hskin]
          | some skin =>
            by_cases hk : manager = k
            · subst hk
              simp [skinEvent?, promises, SkinEvent.isSwitch, hskin, turn, Move.turn, Command.turn,
                hhost]
            · simp [skinEvent?, promises, hk]
        | _ => exact Nat.zero_le _
      | notify broadcaster skin =>
        by_cases hb : broadcaster = b <;>
          simp [skinEvent?, promises, sends?, turn, Move.turn, List.countP_append, hb]
      | _ => exact Nat.zero_le _
    | _ => exact Nat.zero_le _
  | close pinned broadcaster skin =>
    by_cases hb : broadcaster = b <;> simp [skinEvent?, promises, sends?, hb]
  | _ => exact Nat.zero_le _

/-- Since a point in the log, no more activations have succeeded than changes have been sent, or
will be sent by what is to be done. -/
def Covered (b : BroadcasterId) (log log' : List StreamEvent) (front : List Errand) : Prop :=
  switches log' + (sentOf log).length ≤
    (sentOf log').length + switches log + front.countP (Errand.promises b)

theorem Covered.turn {log log' : List StreamEvent} {errand : Errand} {front : List Errand}
    (hhost : (w.manager k).broadcaster = b) (h : Covered b log log' (errand :: front))
    (moves : List Move) : Covered b log (log' ++ streamEntries k b log' w errand)
      ((errand.turn moves w).errands ++ front) := by
  have hpromises := errand.promises_turn hhost moves
  have hentered : switches (streamEntries k b log' w errand) =
      (errand.skinEvent? k w).toList.countP SkinEvent.isSwitch := by
    rw [switches, historyOf_entries]
  rw [Covered, List.countP_cons] at h
  rw [Covered, switches_append, hentered, sentOf_append, sentOf_entries, List.length_append,
    List.countP_append]
  omega

namespace StreamLog

variable {log : List StreamEvent} (hopening : opening.Blank catalog k b)
include hopening

/-- The log tells of every moment. -/
theorem told (h : StreamLog code k b opening log m) : Told k b opening.world log m.world := by
  induction h with
  | start => exact ⟨.still rfl, (List.append_nil _).symm, rfl⟩
  | @turn log w errand rest moves h hmoves ih =>
    obtain ⟨effects, hruns⟩ := Annals.runs h
    have htells : Tells k b w errand _ := Errand.tells (hruns.of hopening.of).bonds
      (hruns.served hopening.of hopening.served) moves errand
    refine ⟨?_, ?_, htells.broadcasters.trans ih.broadcasters⟩
    · rw [historyOf_append, historyOf_entries]
      exact ih.recounts.trans htells.recounts
    · rw [sentOf_append, sentOf_entries, ← List.append_assoc, ← ih.changes]
      exact htells.changes (ih.broadcasters ▸ hopening.listed)

/-- The manager recalls what has happened to its skins. -/
theorem manager (h : StreamLog code k b opening log m) :
    (⟨b, [], none⟩ : SkinManager).replay? (historyOf log) = some (m.world.manager k) ∧
      m.world.managers[k]? = some (m.world.manager k) := by
  obtain ⟨manager, hk, hreplay⟩ := (h.told hopening).recounts _ hopening.manager
  rw [World.manager, hk]
  exact ⟨hreplay, rfl⟩

theorem host (h : StreamLog code k b opening log m) : (m.world.manager k).broadcaster = b :=
  SkinManager.broadcaster_replay? (h.manager hopening).1

theorem changes (h : StreamLog code k b opening log m) : m.world.changes b = sentOf log := by
  rw [(h.told hopening).changes, hopening.silent]
  rfl

/-- **As long as what waits is not begun**, each activation has its change sent, or to be sent. -/
theorem switches_le {effects : List Effect} {m' : Moment}
    (h : StreamLog code k b opening log ⟨m.world, m.errands ++ rest⟩)
    (hruns : Runs code m effects m') (hdone : m'.errands = [])
    (hpromises : m.errands.countP (Errand.promises b) = 0) :
    ∃ inner, StreamLog code k b opening (log ++ inner) ⟨m'.world, rest⟩ ∧
      switches inner ≤ (sentOf inner).length := by
  have hstart : Covered b log log m.errands := by
    rw [Covered, hpromises]
    omega
  obtain ⟨inner, hinner, hcovered⟩ := hruns.annals (P := Covered b log) h hstart
    fun _ _ _ _ moves hlog' hkept => hkept.turn (host hopening hlog') moves
  rw [hdone] at hinner
  rw [hdone, Covered, switches_append, sentOf_append, List.length_append, List.countP_nil]
    at hcovered
  exact ⟨inner, hinner, by omega⟩

end StreamLog

/-! ## Notifications and activations -/

section Calls

variable {log : List StreamEvent} {depth : Nat} {act : Act} {name : String}
  (hopening : opening.Blank catalog k b) (hact : Plays code depth act)
include hopening hact

/-- **A notification** tells the listeners, and is then closed, unless user code has no result when
it is called. -/
theorem StreamLog.notify {broadcaster : BroadcasterId}
    (h : StreamLog code k b opening log ⟨w, .move (.deed (.notify broadcaster name)) :: rest⟩) :
    Gives (Stalls code act ⟨w, [.move (.deed (.notify broadcaster name))]⟩)
      (Live.notify act broadcaster name) w fun _ w' => ∃ inner w₁,
        StreamLog code k b opening (log ++ inner)
          ⟨w₁, .close w.pinned broadcaster name :: rest⟩ ∧
        switches inner ≤ (sentOf inner).length ∧
        w' = ({ w₁ with pinned := w.pinned } : World).send broadcaster name := by
  have hleads := move_leads (m := .deed (.notify broadcaster name))
    (Annals.of h hopening.of).bonds trivial
  have hbegun : StreamLog code k b opening _ ⟨_, _ ++ rest⟩ := h.turn (Errand.evokes_nil rfl)
  have hentered : streamEntries k b log w (.move (.deed (.notify broadcaster name))) = [] := rfl
  rw [hentered, List.append_nil, Errand.turn, Move.turn, List.append_assoc] at hbegun
  have htold := tells_does hact.realizes hleads.bonds (w.liveListeners broadcaster)
  refine Gives.get_bind (Gives.get_bind (Gives.modify_bind (Gives.modify_bind ?_)))
  refine (Gives.widen htold fun hstalls => .turn (Errand.evokes_nil rfl)
    (hstalls.append _)).bind fun _ w₁ h₁ => Gives.modify_bind (Gives.pure ?_)
  obtain ⟨effects, hruns⟩ := h₁
  obtain ⟨inner, hinner, hswitches⟩ := StreamLog.switches_le hopening hbegun hruns rfl
    (by simp [List.countP_eq_zero, Errand.promises])
  exact ⟨inner, w₁, hinner, hswitches, rfl⟩

/-- **An activation of a known skin** switches to it, and is then a notification. -/
theorem StreamLog.activate {skin : Skin} (hskin : (w.manager k).skin? name = some skin)
    (h : StreamLog code k b opening log
      ⟨w, .move (.deed (.command (.activate k name))) :: rest⟩) :
    Gives (Stalls code act ⟨w, [.move (.deed (.command (.activate k name)))]⟩)
      (Live.activate act k name) w fun r w' => (∃ n, r = .ok n) ∧ ∃ inner w₁,
        StreamLog code k b opening (log ++ .skin (.activated name) :: inner)
          ⟨w₁, .close w.pinned b name :: rest⟩ ∧
        switches inner ≤ (sentOf inner).length ∧
        w' = ({ w₁ with pinned := w.pinned } : World).send b name := by
  have hbegun : StreamLog code k b opening _ ⟨_, _ ++ rest⟩ := h.turn (Errand.evokes_nil rfl)
  have hentered : streamEntries k b log w (.move (.deed (.command (.activate k name)))) =
      [.skin (.activated name)] := by
    simp [streamEntries, Errand.skinEvent?, Errand.sends?, hskin]
  have hswitch : Stalls code act ⟨_, [.move (.deed (.notify b name))]⟩ →
      Stalls code act ⟨w, [.move (.deed (.command (.activate k name)))]⟩ := fun hstalls => by
    refine .turn (Errand.evokes_nil rfl) ?_
    rw [Errand.turn, Move.turn, Command.turn, hskin, h.host hopening]
    exact hstalls
  rw [hentered, Errand.turn, Move.turn, Command.turn, hskin, h.host hopening] at hbegun
  refine Gives.get_bind ?_
  dsimp only
  rw [hskin, h.host hopening]
  refine Gives.modify_bind (Gives.modify_bind ?_)
  have hnotifies := Gives.widen (hbegun.notify hopening hact) fun hstalls => hswitch hstalls
  refine hnotifies.bind fun n w' h' => Gives.pure ⟨⟨n, rfl⟩, ?_⟩
  obtain ⟨inner, w₁, hinner, hswitches, rfl⟩ := h'
  rw [List.append_assoc, List.singleton_append] at hinner
  exact ⟨inner, w₁, hinner, hswitches, rfl⟩

end Calls

/-! ## The stream -/

/-- What is so when an activation of a skin sends its change, in `w`, and has come to an end. The
log before and what followed from the activation are given. -/
structure Announces (code : UserCode catalog) (k : ManagerId) (b : BroadcasterId) (opening : Moment)
    (before inner : List StreamEvent) (name : String) (pinned : List Listener) (rest : List Errand)
    (w w' : World) : Prop where
  sends : StreamLog code k b opening (before ++ .skin (.activated name) :: inner)
    ⟨w, .close pinned b name :: rest⟩
  ends : StreamLog code k b opening (before ++ .skin (.activated name) :: inner ++ [.sent name])
    ⟨w', rest⟩
  changes : w'.changes b = w.changes b ++ [name]
  /-- If no other skin has been activated inside, the change names the skin that is active, when it
  is sent and afterwards. -/
  active : (∀ other, .skin (.activated other) ∈ inner → other = name) →
    ∃ skin, skin.name = name ∧ (w.manager k).active = some skin ∧
      (w'.manager k).active = some skin
  /-- No skin at all has been activated inside if no other change has been sent. -/
  alone : sentOf inner = [] → ∀ other, .skin (.activated other) ∉ inner
  /-- Every subscriber who goes on to receive gets the change last. -/
  received : ∀ r : Receiver, r.broadcaster = b → r.next ≤ (w.changes b).length →
    ∃ got, Drains w' r got ∧ got.getLast? = some (.change name)

/-- What is so at a moment with the log of a manager and its broadcaster. -/
structure Streams (code : UserCode catalog) (k : ManagerId) (b : BroadcasterId)
    (opening : Moment) (log : List StreamEvent) (m : Moment) : Prop where
  host : (m.world.manager k).broadcaster = b
  recalls : (m.world.manager k).Recalls (historyOf log)
  changes : m.world.changes b = sentOf log
  /-- An unknown skin is refused, and nothing is done. -/
  unknown : ∀ name act, (m.world.manager k).skin? name = none →
    activate act k name m.world = some (.error (.unknownSkin name), m.world)
  /-- A known skin is switched to, and announced, unless user code has no result when it is
  called. -/
  activates : ∀ name rest skin, m.errands = .move (.deed (.command (.activate k name))) :: rest →
    (m.world.manager k).skin? name = some skin → ∀ depth act, Plays code depth act →
      Gives (Stalls code act ⟨m.world, [.move (.deed (.command (.activate k name)))]⟩)
        (activate act k name) m.world fun r w' => (∃ n, r = .ok n) ∧
          ∃ inner w, Announces code k b opening log inner name m.world.pinned rest w w'
  /-- Who notifies directly says what is sent. -/
  notifies : ∀ name rest, m.errands = .move (.deed (.notify b name)) :: rest →
    ∀ depth act, Plays code depth act →
      Gives (Stalls code act ⟨m.world, [.move (.deed (.notify b name))]⟩)
        (notify act b name) m.world fun _ w' => ∃ inner, StreamLog code k b opening (log ++ inner ++ [.sent name]) ⟨w', rest⟩

/-- A notification that is closed has its change sent. -/
theorem StreamLog.close {log : List StreamEvent} {name : String} {pinned : List Listener}
    (h : StreamLog code k b opening log ⟨w, .close pinned b name :: rest⟩) :
    StreamLog code k b opening (log ++ [.sent name])
      ⟨({ w with pinned } : World).send b name, rest⟩ := by
  have hentered : streamEntries k b log w (.close pinned b name) = [.sent name] := by
    simp [streamEntries, Errand.skinEvent?, Errand.sends?]
  have hends : StreamLog code k b opening _ ⟨_, [] ++ rest⟩ := h.turn (Errand.evokes_nil rfl)
  rwa [hentered] at hends

theorem StreamLog.closes {before inner : List StreamEvent} {name : String}
    {pinned : List Listener} (hopening : opening.Blank catalog k b)
    (h : StreamLog code k b opening (before ++ .skin (.activated name) :: inner)
      ⟨w, .close pinned b name :: rest⟩) (hswitches : switches inner ≤ (sentOf inner).length) :
    Announces code k b opening before inner name pinned rest w
      (({ w with pinned } : World).send b name) := by
  have hchanges : (({ w with pinned } : World).send b name).changes b = w.changes b ++ [name] := by
    refine changes_send (w := { w with pinned }) ?_ name
    exact hopening.listed.trans_eq (h.told hopening).broadcasters.symm
  refine ⟨h, h.close, hchanges, fun hsame => ?_, fun hsilent other hother => ?_,
    fun r hr hnext => ?_⟩
  · have hreplay := (h.manager hopening).1
    rw [historyOf_append] at hreplay
    have halone : ∀ other, .activated other ∈ historyOf inner → other = name :=
      fun other hother => hsame other (mem_historyOf.mp hother)
    obtain ⟨skin, hactive, hname⟩ := SkinManager.active_of_alone rfl hreplay halone
    exact ⟨skin, hname, hactive, hactive⟩
  · have hnone : switches inner = 0 := by
      rw [hsilent] at hswitches
      exact Nat.le_zero.mp hswitches
    exact absurd rfl (List.countP_eq_zero.mp hnone _ (mem_historyOf.mpr hother))
  · refine drains_last (b := b) (by rw [hchanges, List.getLast?_concat]) hr ?_
    rw [hchanges, List.length_append]
    exact Nat.lt_succ_of_le hnext

theorem StreamLog.streams {log : List StreamEvent} (hopening : opening.Blank catalog k b)
    (h : StreamLog code k b opening log m) : Streams code k b opening log m := by
  obtain ⟨w, errands⟩ := m
  refine ⟨h.host hopening, SkinManager.recalls_of_replay? rfl rfl (h.manager hopening).1,
    h.changes hopening, fun name act hnone => activate_of_unknown hnone, ?_, ?_⟩
  · rintro name rest skin rfl hskin depth act hact
    refine (h.activate hopening hact hskin).mono fun r w' hdone => ?_
    obtain ⟨hok, inner, w₁, hinner, hswitches, rfl⟩ := hdone
    exact ⟨hok, inner, w₁, hinner.closes hopening hswitches⟩
  · rintro name rest rfl depth act hact
    refine (h.notify hopening hact).mono fun n w' hdone => ?_
    obtain ⟨inner, w₁, hinner, -, rfl⟩ := hdone
    exact ⟨inner, hinner.close⟩

/-- **Changes name the active skin.** Whatever a program and its listeners do, activations at any
depth included, the program comes to each point between two of its moves unless user code has no
result when it is called, and there is a log of a manager then; and at every moment with a log, in
the middle of a notification or not, and whatever user code may do next, an activation announces the
skin that it switches to. -/
theorem Performance.announces (code : UserCode catalog) (performance : Performance catalog)
    (boundary : Boundary) {broadcasters : Nat} {hosts : List BroadcasterId}
    (hk : hosts[k]? = some b) (hb : b < broadcasters) :
    (∀ before after, performance.moves = before ++ after → ∀ depth act, Plays code depth act →
      Gives (Stalls code act ⟨.opened boundary broadcasters hosts, before.map .move⟩)
        (before.forM (Move.run act)) (.opened boundary broadcasters hosts) fun _ w =>
          ∃ log, StreamLog code k b (performance.opening boundary broadcasters hosts) log
            ⟨w, after.map .move⟩) ∧
    ∀ log m, StreamLog code k b (performance.opening boundary broadcasters hosts) log m →
      Streams code k b (performance.opening boundary broadcasters hosts) log m := by
  constructor
  · intro before after hsplit depth act hact
    have hof : ∀ m ∈ before, m.Of catalog := fun m hm =>
      performance.of m (hsplit ▸ List.mem_append_left after hm)
    refine (moves_does hact.realizes hof
      (.opened catalog boundary broadcasters hosts)).mono fun _ w hends => ?_
    obtain ⟨effects, hruns⟩ := hends
    have hframed := hruns.frame (after.map .move)
    rw [← List.map_append, ← hsplit] at hframed
    exact hframed.exists_annals (streamEntries k b)
  · exact fun log m h => h.streams (performance.opening_blank boundary hk hb)

namespace Belfry

/-- A skin for the day. -/
def day : Skin := { name := "day" }

/-- A skin for the night. -/
def night : Skin := { name := "night" }

/-- Two skins, and a bell that is told of changes. -/
def hung (actions : List Action) : List Move :=
  [.deed (.command (.addSkin 0 day)), .deed (.command (.addSkin 0 night)), .hold ⟨"bell", actions⟩,
    .listen 0 "bell"]

/-- The bell switches to the night as soon as it is told, and the day is activated. -/
def nightfall : Performance .bare where
  moves := hung [.ignore 0 "bell", .activate 0 "night"] ++ [.deed (.command (.activate 0 "day"))]
  of := by simp [hung, Move.Of, Deed.Of, Command.Of]

/-- The last change is of the day, and the night is active. -/
theorem last_change_is_stale :
    ((nightfall.run (perform 2) (.opened .standard 1 [0])).map fun r =>
      (r.2.changes 0, (r.2.manager 0).active)) = some (["night", "day"], some night) := by
  decide +kernel

/-- The bell counts who is told, and a notification names another skin. -/
def eve : List Move := hung [.count 0] ++ [.deed (.notify 0 "dusk")]

/-- Then the night is activated. -/
def vigil : Performance .bare where
  moves := eve ++ [.deed (.command (.activate 0 "night"))]
  of := by simp [eve, hung, Move.Of, Deed.Of, Command.Of]

/-- The night is announced: whoever has received nothing before gets it last. -/
theorem night_is_announced : Plays (.acting .bare) 2 (perform 2) ∧ [0][0]? = some 0 ∧ 0 < 1 ∧
    ∃ w log w', eve.forM (Move.run (perform 2)) (.opened .standard 1 [0]) = some ((), w) ∧
      Streams (.acting .bare) 0 0 (vigil.opening .standard 1 [0]) log
        ⟨w, [.move (.deed (.command (.activate 0 "night")))]⟩ ∧
      activate (perform 2) 0 "night" w = some (.ok 1, w') ∧
      w'.changes 0 = ["dusk", "night"] ∧
      (∃ skin, skin.name = "night" ∧ (w'.manager 0).active = some skin) ∧
      ∃ got, Drains w' ⟨0, 0⟩ got ∧ got.getLast? = some (.change "night") := by
  have hact := perform_plays .bare 2
  have hglance : (eve.forM (Move.run (perform 2)) (.opened .standard 1 [0])).map (fun r =>
      (r.2.changes 0, (r.2.manager 0).skin? "night",
        (activate (perform 2) 0 "night" r.2).map fun r' => (r'.1.toOption, r'.2.changes 0))) =
      some (["dusk"], some night, some (some 1, ["dusk", "night"])) := by
    decide +kernel
  obtain ⟨⟨⟨⟩, w⟩, hrun, hglance⟩ := Option.map_eq_some_iff.mp hglance
  simp only [Prod.mk.injEq] at hglance
  obtain ⟨hbefore, hskin, hactivate⟩ := hglance
  obtain ⟨⟨r, w'⟩, hactivate, hafter⟩ := Option.map_eq_some_iff.mp hactivate
  obtain ⟨hanswer, hafter⟩ := Prod.mk.inj hafter
  have hfirst : [0][0]? = some 0 := rfl
  obtain ⟨hlogs, hall⟩ := Performance.announces (.acting .bare) vigil .standard hfirst Nat.one_pos
  obtain ⟨log, hlog⟩ :=
    (hlogs eve [.deed (.command (.activate 0 "night"))] rfl 2 (perform 2) hact).result hrun
  have hstreams := hall log _ hlog
  obtain ⟨⟨n, rfl⟩, inner, w₁, hannounces⟩ :=
    (hstreams.activates "night" [] night rfl hskin 2 (perform 2) hact).result hactivate
  obtain rfl : n = 1 := Option.some.inj hanswer
  -- Nothing else has been sent, so nothing else has been activated.
  have hsent : w₁.changes 0 = sentOf log ++ sentOf inner := by
    rw [(hall _ _ hannounces.sends).changes, sentOf_append]
    rfl
  have hlogged : ["dusk"] = sentOf log := hbefore.symm.trans hstreams.changes
  have hinner : sentOf inner = [] := by
    have hboth := hafter.symm.trans hannounces.changes
    rw [hsent, ← hlogged] at hboth
    simpa using hboth
  obtain ⟨skin, hname, -, hactive⟩ := hannounces.active fun other hother =>
    absurd hother (hannounces.alone hinner other)
  exact ⟨hact, rfl, Nat.one_pos, w, log, w', hrun, hstreams, hactivate, hafter,
    ⟨skin, hname, hactive⟩, hannounces.received ⟨0, 0⟩ rfl (Nat.zero_le _)⟩

end Belfry

end Live
end Theming
