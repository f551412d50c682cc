/-
# Notifications against the ledger

The moments of a program without bindable types: all listeners are scripts, and whatever else it
does is of no matter to them (`Aloof`). Each errand makes at most one entry in the log of listeners.

| errand | entry |
| --- | --- |
| a script is held, or dropped | `held`, `dropped` |
| one is registered with a broadcaster that there is | `listened` |
| one is removed | `ignored`, with what the broadcaster says |
| a notification begins | `begun` |
| a script is told | `told`, by the innermost notification |
| a notification is closed | `ended` |

The errands of a moment have those still to be told by each open notification before its end
(`Waits`). The ledger says what the world does if it has the same owners, open notifications and
live registrations (`Agrees`); each turn keeps it so, with the entry that it makes (`Agrees.turn`).
-/

import Theming.Proofs.Ledger
import Theming.Proofs.Performing

namespace Theming

/-- The catalog of a program without types. -/
def Catalog.bare : Catalog where
  has _ := False
  unique := nofun
  names := nofun
  parent := nofun

namespace Live

variable {w w' : World} {l : Ledger} {e : ListenerEvent} {errand : Errand} {errands : List Errand}

/-! ## What is of no matter to listeners -/

/-- Nothing is done to listeners, nor to those who hold them. -/
structure Aloof (w w' : World) : Prop where
  listeners : ∀ b, w'.listeners b = w.listeners b
  scripts : w'.scripts.length = w.scripts.length
  held : w'.held = w.held
  pinned : w'.pinned = w.pinned

theorem Aloof.of_eq (hbroadcasters : w'.broadcasters = w.broadcasters)
    (hscripts : w'.scripts = w.scripts) (hheld : w'.held = w.held)
    (hpinned : w'.pinned = w.pinned) : Aloof w w' where
  listeners b := by rw [World.listeners, World.listeners, hbroadcasters]
  scripts := by rw [hscripts]
  held := hheld
  pinned := hpinned

/-- An errand that neither tells a listener nor closes a notification. -/
def Errand.Plain : Errand → Prop
  | tell _ | close _ _ _ => False
  | _ => True

/-- A turn after which only plain errands follow, and that is of no matter to listeners. -/
structure Upshot.Aloof (w : World) (u : Upshot) : Prop where
  world : Live.Aloof w u.world
  errands : ∀ e ∈ u.errands, e.Plain

/-- A turn from which nothing follows. -/
theorem Upshot.Aloof.quiet {effect : Effect} (h : Live.Aloof w w') :
    ({ effect, world := w' } : Upshot).Aloof w := ⟨h, List.forall_mem_nil _⟩

theorem Upshot.Aloof.silent (h : Live.Aloof w w') : (Upshot.silent w').Aloof w := .quiet h

section Bare

variable (hb : Bonds .bare w)
include hb

/-- There are no targets. -/
theorem Bonds.typeOf?_bare (t : TargetId) : w.typeOf? t = none := by
  cases hT : w.typeOf? t with
  | none => rfl
  | some T => exact (hb.types t T hT).elim

/-- Nothing is bound. -/
theorem Bonds.unbound_bare (t : TargetId) : w.binder.active.lookup t = none := by
  cases hid : w.binder.active.lookup t with
  | none => rfl
  | some id =>
    obtain ⟨c, handle, hc, htarget, -⟩ := hb.active t id (mem_of_lookup hid)
    obtain ⟨T, -, -, hT, -⟩ := (hb.attached id c handle hc htarget).1
    rw [hb.typeOf?_bare] at hT
    cases hT

/-- No command of a program without types is of any matter to listeners, until somebody is
notified. -/
theorem command_aloof {c : Command} (hc : c.Of (.free .bare)) : (c.turn w).Aloof w := by
  cases c with
  | create T => exact hc.elim
  | register T name => exact hc.elim
  | addSkin m skin =>
    refine .silent ?_
    rw [World.addSkin]
    split_ifs <;> exact .of_eq rfl rfl rfl rfl
  | activate m name =>
    rw [Command.turn]
    cases (w.manager m).skin? name with
    | none => exact .silent (.of_eq rfl rfl rfl rfl)
    | some skin =>
      refine ⟨.of_eq rfl rfl rfl rfl, fun e he => ?_⟩
      rw [List.mem_singleton.mp he]
      trivial
  | bind t context =>
    rw [Command.turn, bind_of_absent (hb.typeOf?_bare t)]
    exact .quiet (.of_eq rfl rfl rfl rfl)
  | unbind t =>
    obtain ⟨level, message, hunbind⟩ := unbind_of_unbound (hb.unbound_bare t)
    rw [Command.turn, hunbind]
    exact .silent (.of_eq rfl rfl rfl rfl)
  | observe s o => exact .silent (.of_eq rfl rfl rfl rfl)
  | write t path content => exact .quiet (.of_eq rfl rfl rfl rfl)
  | renew part field =>
    refine .quiet ?_
    rw [World.renew]
    cases w.slotAt? part field <;> exact .of_eq rfl rfl rfl rfl
  | set s v =>
    refine ⟨.of_eq rfl rfl rfl rfl, fun e he => ?_⟩
    obtain ⟨o, -, rfl⟩ := List.mem_map.mp he
    trivial

end Bare

/-! ## Entries -/

/-- The number of the innermost open notification. -/
def Ledger.current (l : Ledger) : Nat := (l.rounds.head?.map Round.start).getD 0

/-- What is entered into the log when an errand is taken up. -/
def Errand.event? (l : Ledger) (w : World) : Errand → Option ListenerEvent
  | move (.hold script) => some (.held script.name w.scripts.length)
  | move (.drop name) => some (.dropped name)
  | move (.listen b name) =>
    if b < w.broadcasters.length then (w.scriptOf? name).map (.listened b) else none
  | move (.ignore b name) =>
    (w.scriptOf? name).map fun id => .ignored b id (w.hasListener b (.script id))
  | move (.deed (.notify b _)) => some (.begun b)
  | tell (.script id) => (w.scripts[id]?).map fun _ => .told l.current id
  | close _ _ _ => some (.ended l.current)
  | _ => none

/-! ## Who has still to be told -/

/-- The errands at a moment: in each open notification those waiting are still to be told before it
is closed, and those who were pinned before it began are pinned again. -/
inductive Waits : List Round → List Listener → List Errand → Prop where
  | none : Waits [] [] []
  | plain {rounds : List Round} {pinned : List Listener} {errand : Errand}
      {errands : List Errand} (herrand : errand.Plain) (h : Waits rounds pinned errands) :
      Waits rounds pinned (errand :: errands)
  | round {rounds : List Round} {pinned : List Listener} {errands : List Errand} (r : Round)
      (b : BroadcasterId) (skin : String) (hroster : r.waiting ⊆ r.roster)
      (h : Waits rounds pinned errands) :
      Waits (r :: rounds) (r.roster.map .script ++ pinned)
        (r.waiting.map (fun id => .tell (.script id)) ++ .close pinned b skin :: errands)

/-- How many notifications are still to be closed. -/
def closings (errands : List Errand) : Nat :=
  errands.countP fun
    | .close _ _ _ => true
    | _ => false

theorem closings_append (front rest : List Errand) :
    closings (front ++ rest) = closings front + closings rest := List.countP_append

namespace Waits

variable {rounds : List Round} {pinned : List Listener}

/-- Open notifications are those that are still to be closed. -/
theorem length_rounds (h : Waits rounds pinned errands) : rounds.length = closings errands := by
  induction h with
  | none => rfl
  | @plain _ _ errand errands herrand _ ih =>
    rw [ih, closings, closings, List.countP_cons_of_neg]
    cases errand <;> first | exact herrand.elim | exact Bool.false_ne_true
  | @round _ _ errands r b skin _ _ ih =>
    have htells : closings (r.waiting.map fun id => .tell (.script id)) = 0 := by
      rw [closings, List.countP_map]
      exact List.countP_eq_zero.mpr fun _ _ => Bool.false_ne_true
    rw [closings_append, htells, Nat.zero_add, List.length_cons, ih]
    exact (List.countP_cons_of_pos rfl).symm

theorem plains {more : List Errand} (hmore : ∀ e ∈ more, e.Plain)
    (h : Waits rounds pinned errands) : Waits rounds pinned (more ++ errands) := by
  induction more with
  | nil => exact h
  | cons errand more ih =>
    rw [List.forall_mem_cons] at hmore
    exact .plain hmore.1 (ih hmore.2)

/-- Those in the rosters of open notifications are pinned. -/
theorem pinned_eq (h : Waits rounds pinned errands) :
    pinned = (rounds.flatMap fun r => r.roster).map .script := by
  induction h with
  | none => rfl
  | plain _ _ ih => exact ih
  | round r b skin _ _ ih => rw [List.flatMap_cons, List.map_append, ← ih]

theorem rounds_eq_nil (h : Waits rounds pinned []) : rounds = [] := by
  generalize herrands : ([] : List Errand) = errands at h
  cases h with
  | none => rfl
  | plain _ _ => cases herrands
  | round r b skin _ _ => cases hw : r.waiting <;> simp [hw] at herrands

theorem plain_tail (h : Waits rounds pinned (errand :: errands)) (herrand : errand.Plain) :
    Waits rounds pinned errands := by
  generalize herrands : errand :: errands = all at h
  cases h with
  | none => cases herrands
  | plain _ h =>
    obtain ⟨rfl, rfl⟩ := List.cons.inj herrands
    exact h
  | round r b skin _ _ =>
    cases hw : r.waiting with
    | nil =>
      rw [hw] at herrands
      obtain ⟨rfl, -⟩ := List.cons.inj herrands
      exact herrand.elim
    | cons id waiting =>
      rw [hw] at herrands
      obtain ⟨rfl, -⟩ := List.cons.inj herrands
      exact herrand.elim

/-- Whoever is told is the first one waiting in the innermost notification. -/
theorem of_tell {x : Listener} (h : Waits rounds pinned (.tell x :: errands)) :
    ∃ r rest id waiting, x = .script id ∧ rounds = r :: rest ∧ r.waiting = id :: waiting ∧
      id ∈ r.roster ∧ Waits ({ r with waiting } :: rest) pinned errands := by
  generalize herrands : Errand.tell x :: errands = all at h
  cases h with
  | none => cases herrands
  | plain herrand _ =>
    obtain ⟨rfl, -⟩ := List.cons.inj herrands
    exact herrand.elim
  | @round rounds pinned errands r b skin hroster h =>
    cases hw : r.waiting with
    | nil =>
      rw [hw] at herrands
      cases (List.cons.inj herrands).1
    | cons id waiting =>
      rw [hw] at herrands
      obtain ⟨hx, rfl⟩ := List.cons.inj herrands
      rw [hw, List.cons_subset] at hroster
      exact ⟨r, rounds, id, waiting, Errand.tell.inj hx, rfl, hw, hroster.1,
        .round { r with waiting } b skin hroster.2 h⟩

/-- What is closed is the innermost notification, in which nobody waits. -/
theorem of_close {before : List Listener} {b : BroadcasterId} {skin : String}
    (h : Waits rounds pinned (.close before b skin :: errands)) :
    ∃ r rest, rounds = r :: rest ∧ r.waiting = [] ∧ Waits rest before errands := by
  generalize herrands : Errand.close before b skin :: errands = all at h
  cases h with
  | none => cases herrands
  | plain herrand _ =>
    obtain ⟨rfl, -⟩ := List.cons.inj herrands
    exact herrand.elim
  | @round rounds pinned errands r b skin hroster h =>
    cases hw : r.waiting with
    | nil =>
      rw [hw] at herrands
      obtain ⟨hclose, rfl⟩ := List.cons.inj herrands
      obtain ⟨rfl, -, -⟩ := Errand.close.inj hclose
      exact ⟨r, rounds, rfl, hw, h⟩
    | cons id waiting =>
      rw [hw] at herrands
      cases (List.cons.inj herrands).1

end Waits

/-! ## The ledger and the world -/

/-- The registrations of every broadcaster after a change that leaves the empty list empty. -/
theorem World.listeners_changed (w : World) (b : BroadcasterId)
    {g : List Listener → List Listener} (hg : g [] = []) (b' : BroadcasterId) :
    (w.modifyBroadcaster b fun x => { x with listeners := g x.listeners }).listeners b' =
      if b' = b then g (w.listeners b) else w.listeners b' := by
  rcases Nat.lt_or_ge b w.broadcasters.length with hlt | hge
  · exact World.listeners_modifyBroadcaster hlt g b'
  · have hsame : w.broadcasters.modify b (fun x => { x with listeners := g x.listeners }) =
        w.broadcasters := List.modify_eq_self hge
    have hnone : w.listeners b = [] := by
      rw [World.listeners, List.getElem?_eq_none hge]
      rfl
    rw [World.modifyBroadcaster, hsame]
    split_ifs with hb
    · rw [hb, hnone, hg]
    · rfl

theorem World.listeners_send (w : World) (b : BroadcasterId) (skin : String) (b' : BroadcasterId) :
    (w.send b skin).listeners b' = w.listeners b' := by
  rw [listeners, send, modifyBroadcaster, List.getElem?_modify, listeners]
  cases w.broadcasters[b']? with
  | none => rfl
  | some x => by_cases hb : b = b' <;> simp [hb]

/-- Removing a listener takes away its registrations, and no live one of others. -/
theorem World.liveListeners_removeListener (w : World) (b : BroadcasterId) (x : Listener)
    (b' : BroadcasterId) : (w.removeListener b x).liveListeners b' =
      if b' = b then (w.liveListeners b).filter (· != x) else w.liveListeners b' := by
  have halive : (w.removeListener b x).isAlive = w.isAlive := rfl
  rw [liveListeners, halive, removeListener,
    w.listeners_changed b (g := fun ls => ls.filter fun l => l != x && w.isAlive l) rfl]
  split_ifs
  · rw [liveListeners, List.filter_filter, List.filter_filter]
    refine List.filter_congr fun l _ => ?_
    cases w.isAlive l <;> simp
  · rfl

/-- What passes a second test that implies the first has to pass only that one. -/
theorem filter_filter_of_imp {α : Type} {xs : List α} {p q : α → Bool}
    (h : ∀ x ∈ xs, q x = true → p x = true) : (xs.filter p).filter q = xs.filter q := by
  rw [List.filter_filter]
  refine List.filter_congr fun x hx => ?_
  cases hq : q x with
  | false => rfl
  | true => exact h x hx hq

/-- Of each broadcaster all registrations are left, or all that are alive. -/
def World.Retains (w w' : World) : Prop :=
  ∀ b, w'.listeners b = w.listeners b ∨ w'.listeners b = w.liveListeners b

namespace World.Retains

variable (h : w.Retains w') (b : BroadcasterId)
include h

theorem subset : w'.listeners b ⊆ w.listeners b := by
  rcases h b with hall | hlive
  · exact hall ▸ List.Subset.refl _
  · exact hlive ▸ List.filter_subset_self ..

theorem filter_isAlive : (w'.listeners b).filter w.isAlive = w.liveListeners b := by
  rcases h b with hall | hlive
  · rw [hall, liveListeners]
  · rw [hlive, liveListeners, List.filter_filter]
    exact List.filter_congr fun x _ => Bool.and_self _

end World.Retains

/-- At a moment the ledger says what the world does. -/
structure Agrees (l : Ledger) (w : World) (errands : List Errand) : Prop where
  owned : l.owned = w.held
  scripts : l.scripts = w.scripts.length
  waits : Waits l.rounds w.pinned errands
  listeners : ∀ b, ∀ x ∈ w.listeners b, ∃ id < l.scripts, x = .script id
  live : ∀ b, w.liveListeners b = (l.live b).map .script

namespace Agrees

variable {errands' : List Errand} {id : ScriptId}

theorem isAlive_eq (howned : l.owned = w.held) (hwaits : Waits l.rounds w.pinned errands)
    (id : ScriptId) : w.isAlive (.script id) = l.alive id := by
  rw [World.isAlive, Ledger.alive, howned, hwaits.pinned_eq]
  refine congrArg _ (Bool.eq_iff_iff.mpr ?_)
  simp [List.mem_flatMap, List.any_eq_true]

section Turn

variable (h : Agrees l w errands)
include h

theorem alive (id : ScriptId) : w.isAlive (.script id) = l.alive id := isAlive_eq h.owned h.waits id

theorem mem_live_iff {b : BroadcasterId} : .script id ∈ w.liveListeners b ↔ id ∈ l.live b := by
  rw [h.live, List.mem_map]
  exact ⟨fun ⟨id', hid, heq⟩ => Listener.script.inj heq ▸ hid, fun hid => ⟨id, hid, rfl⟩⟩

theorem length_live (b : BroadcasterId) : (w.liveListeners b).length = (l.live b).length := by
  rw [h.live, List.length_map]

/-- A script that goes by a name has an owner. -/
theorem owned_of_script {name : String} (hscript : w.scriptOf? name = some id) :
    id ∈ l.owned.map Prod.snd := by
  rw [h.owned]
  exact List.mem_map.mpr ⟨_, mem_of_lookup hscript, rfl⟩

/-- A script that has an owner is registered just if it is so in the ledger. -/
theorem hasListener_iff (hid : id ∈ l.owned.map Prod.snd) (b : BroadcasterId) :
    w.hasListener b (.script id) = true ↔ id ∈ l.live b := by
  have halive : w.isAlive (.script id) = true :=
    (h.alive id).trans (Ledger.alive_iff.mpr (.inl hid))
  rw [← h.mem_live_iff, World.hasListener, List.contains_iff_mem, World.liveListeners,
    List.mem_filter, and_iff_left halive]

/-- The live registrations when only scripts that were alive before still are. -/
theorem live_of_fewer {l' : Ledger} (hs : l.Sane) (hregistered : l'.registered = l.registered)
    (hretains : w.Retains w')
    (halive : ∀ id, w'.isAlive (.script id) = l'.alive id)
    (hfewer : ∀ id < l.scripts, l'.alive id = true → l.alive id = true) (b : BroadcasterId) :
    w'.liveListeners b = (l'.live b).map .script := by
  have hworld : w'.liveListeners b = (w.liveListeners b).filter w'.isAlive := by
    rw [World.liveListeners, ← hretains.filter_isAlive b, filter_filter_of_imp]
    intro x hx hx'
    obtain ⟨id, hid, rfl⟩ := h.listeners b x (hretains.subset b hx)
    rw [halive] at hx'
    rw [h.alive]
    exact hfewer id hid hx'
  have hledger : l'.live b = (l.live b).filter l'.alive := by
    rw [Ledger.live, hregistered, Ledger.live, filter_filter_of_imp]
    intro id hid
    obtain ⟨p, hp, rfl⟩ := List.mem_map.mp hid
    exact hfewer p.2 (hs.registered p (List.mem_of_mem_filter hp))
  rw [hworld, h.live, hledger, List.filter_map]
  exact congrArg _ (congrArg (List.filter · (l.live b)) (funext halive))

/-- What is of no matter to listeners keeps the ledger right. -/
theorem aloof (hs : l.Sane) (haloof : Aloof w w') (hwaits : Waits l.rounds w.pinned errands') :
    Agrees l w' errands' := by
  have howned : l.owned = w'.held := h.owned.trans haloof.held.symm
  have hwaits' : Waits l.rounds w'.pinned errands' := haloof.pinned ▸ hwaits
  exact ⟨howned, h.scripts.trans haloof.scripts.symm, hwaits',
    fun b => haloof.listeners b ▸ h.listeners b,
    h.live_of_fewer hs rfl (fun b => .inl (haloof.listeners b)) (isAlive_eq howned hwaits')
      fun _ _ hid => hid⟩

/-- **An entry that makes no registration** keeps the ledger right: nobody comes to life by it who
is registered. -/
theorem enter (hs : l.Sane) (he : l.Allows e) (hregistered : (l.enter e).registered = l.registered)
    (hretains : w.Retains w') (howned : (l.enter e).owned = w'.held)
    (hscripts : (l.enter e).scripts = w'.scripts.length)
    (hwaits : Waits (l.enter e).rounds w'.pinned errands') : Agrees (l.enter e) w' errands' where
  owned := howned
  scripts := hscripts
  waits := hwaits
  listeners b x hx := by
    obtain ⟨id, hid, rfl⟩ := h.listeners b x (hretains.subset b hx)
    exact ⟨id, Nat.lt_of_lt_of_le hid (l.scripts_le_enter e), rfl⟩
  live := h.live_of_fewer hs hregistered hretains (isAlive_eq howned hwaits)
    fun _ hid halive => Ledger.alive_of_enter he hid halive

/-- A registration of a script that has an owner. -/
theorem listened (hs : l.Sane) {b : BroadcasterId} (hrange : b < w.broadcasters.length)
    (hid : id ∈ l.owned.map Prod.snd) (hwaits : Waits l.rounds w.pinned errands') :
    Agrees (l.enter (.listened b id)) (w.addListener b (.script id)) errands' := by
  have halive : l.alive id = true := Ledger.alive_iff.mpr (.inl hid)
  have hlisteners : ∀ b', (w.addListener b (.script id)).listeners b' =
      if b' = b then w.listeners b ++ [.script id] else w.listeners b' :=
    World.listeners_modifyBroadcaster hrange fun (ls : List Listener) => ls ++ [Listener.script id]
  have hworld : ∀ b', (w.addListener b (.script id)).liveListeners b' =
      if b' = b then w.liveListeners b ++ [.script id] else w.liveListeners b' := by
    intro b'
    rw [World.liveListeners, hlisteners]
    split_ifs
    · rw [List.filter_append]
      exact congrArg _ (List.filter_cons_of_pos ((h.alive id).trans halive))
    · rfl
  have hledger : ∀ b', (l.enter (.listened b id)).live b' =
      if b' = b then l.live b ++ [id] else l.live b' := by
    intro b'
    change ((((l.registered ++ [(b, id)]).filter (·.1 == b')).map Prod.snd).filter l.alive) = _
    rw [List.filter_append, List.map_append, List.filter_append]
    split_ifs with hb
    · subst hb
      simp [Ledger.live, halive]
    · have hne : (b == b') = false := beq_eq_false_iff_ne.mpr (Ne.symm hb)
      simp [Ledger.live, hne]
  refine ⟨h.owned, h.scripts, hwaits, fun b' x hx => ?_, fun b' => ?_⟩
  · rw [hlisteners] at hx
    split_ifs at hx
    · rcases List.mem_append.mp hx with hx | hx
      · exact h.listeners b x hx
      · obtain ⟨p, hp, rfl⟩ := List.mem_map.mp hid
        exact ⟨p.2, hs.owned p hp, List.mem_singleton.mp hx⟩
    · exact h.listeners b' x hx
  · rw [hworld, hledger]
    split_ifs
    · rw [h.live, List.map_append]
      rfl
    · exact h.live b'

/-- A script that has an owner is removed. -/
theorem ignored (b : BroadcasterId) (was : Bool)
    (hwaits : Waits l.rounds w.pinned errands') (o : Occurrence) :
    Agrees (l.enter (.ignored b id was)) ((w.removeListener b (.script id)).record o) errands' := by
  have hledger : ∀ b', (l.enter (.ignored b id was)).live b' =
      if b' = b then (l.live b).filter (· != id) else l.live b' := by
    intro b'
    have hothers : (l.registered.filter (· != (b, id))).filter (·.1 == b') =
        (l.registered.filter (·.1 == b')).filter
          ((fun id' => b' != b || id' != id) ∘ Prod.snd) := by
      rw [List.filter_filter, List.filter_filter]
      refine List.filter_congr fun p _ => ?_
      grind
    change (((l.registered.filter (· != (b, id))).filter (·.1 == b')).map Prod.snd).filter
      l.alive = _
    rw [hothers, ← List.filter_map, List.filter_filter, Ledger.live, Ledger.live]
    split_ifs with hb
    · rw [List.filter_filter, hb]
      refine List.filter_congr fun id' _ => ?_
      rw [bne_self_eq_false, Bool.false_or, Bool.and_comm]
    · refine List.filter_congr fun id' _ => ?_
      rw [bne_iff_ne.mpr hb, Bool.true_or, Bool.and_true]
  have hlisteners : ∀ b', (w.removeListener b (.script id)).listeners b' ⊆ w.listeners b' := by
    intro b'
    rw [World.removeListener, w.listeners_changed b
      (g := fun ls => ls.filter fun l => l != .script id && w.isAlive l) rfl]
    split_ifs with hb
    · exact hb ▸ List.filter_subset_self _
    · exact List.Subset.refl _
  refine ⟨h.owned, h.scripts, hwaits, fun b' x hx => h.listeners b' x (hlisteners b' hx),
    fun b' => ?_⟩
  refine (w.liveListeners_removeListener b (.script id) b').trans ?_
  rw [hledger]
  split_ifs
  · rw [h.live, List.filter_map]
    refine congrArg _ (List.filter_congr fun id' _ => ?_)
    rw [Function.comp_apply, Bool.eq_iff_iff, bne_iff_ne, bne_iff_ne, Ne, Listener.script.injEq]
  · exact h.live b'

end Turn
end Agrees

/-! ## Turns -/

/-- The turn of an errand makes an entry that there may be, if any, and the ledger stays right. -/
structure Enters (l : Ledger) (rest : List Errand) (e? : Option ListenerEvent) (u : Upshot) :
    Prop where
  allows : ∀ e, e? = some e → l.Allows e
  agrees : Agrees (e?.toList.foldl Ledger.enter l) u.world (u.errands ++ rest)

section Turns

variable {rest : List Errand} {b : BroadcasterId} {name skin : String} (hs : l.Sane)
include hs

theorem Agrees.silent {u : Upshot} (h : Agrees l w (errand :: rest)) (herrand : errand.Plain)
    (haloof : u.Aloof w) : Enters l rest none u :=
  ⟨nofun, h.aloof hs haloof.world ((h.waits.plain_tail herrand).plains haloof.errands)⟩

/-- A script is held. -/
theorem Agrees.hold {script : Script} (h : Agrees l w (.move (.hold script) :: rest)) :
    Enters l rest (some (.held script.name w.scripts.length)) (.silent (w.hold script)) := by
  have hallows : l.Allows (.held script.name w.scripts.length) := h.scripts.symm
  refine ⟨fun e he => Option.some.inj he ▸ hallows, ?_⟩
  refine h.enter hs hallows rfl (fun _ => .inl rfl) ?_ ?_ (h.waits.plain_tail trivial)
  · exact congrArg (World.named script.name w.scripts.length) h.owned
  · have hlength : (w.hold script).scripts.length = w.scripts.length + 1 := List.length_append
    exact (congrArg (· + 1) h.scripts).trans hlength.symm

/-- A script is dropped. -/
theorem Agrees.drop (h : Agrees l w (.move (.drop name) :: rest)) :
    Enters l rest (some (.dropped name)) (.silent (w.drop name)) :=
  ⟨fun _ he => Option.some.inj he ▸ trivial,
    h.enter hs trivial rfl (fun _ => .inl rfl) (congrArg (World.unnamed name) h.owned) h.scripts
      (h.waits.plain_tail trivial)⟩

/-- A notification begins. -/
theorem Agrees.begin (h : Agrees l w (.move (.deed (.notify b skin)) :: rest)) :
    Enters l rest (some (.begun b)) ((Move.deed (.notify b skin)).turn w) := by
  have hretains : w.Retains ((Move.deed (.notify b skin)).turn w).world := by
    intro b'
    have hswept := w.listeners_changed b (g := fun ls => ls.filter w.isAlive) rfl b'
    split_ifs at hswept with hb
    · exact .inr (hswept.trans (hb ▸ rfl))
    · exact .inl hswept
  have hwaits := Waits.round ⟨l.size, l.live b, l.live b⟩ b skin (List.Subset.refl _)
    (h.waits.plain_tail trivial)
  refine ⟨fun e he => Option.some.inj he ▸ trivial,
    h.enter hs trivial rfl hretains h.owned h.scripts ?_⟩
  rw [Move.turn, h.live, List.map_map, List.append_assoc]
  exact hwaits

/-- The first script that waits is told. -/
theorem Agrees.told {x : Listener} (h : Agrees l w (.tell x :: rest)) :
    Enters l rest ((Errand.tell x).event? l w) (x.turn w) := by
  obtain ⟨r, outer, id, waiting, rfl, hrounds, hwaiting, hroster, hwaits⟩ := h.waits.of_tell
  have hid : id < w.scripts.length :=
    h.scripts ▸ hs.rosters r (hrounds ▸ List.mem_cons_self) id hroster
  have hscript : w.scripts[id]? = some w.scripts[id] := List.getElem?_eq_getElem hid
  have hcurrent : l.current = r.start := by rw [Ledger.current, hrounds]; rfl
  have hallows : l.Allows (.told r.start id) := ⟨r, outer, waiting, hrounds, rfl, hwaiting⟩
  rw [Errand.event?, Listener.turn, hscript, hcurrent]
  refine ⟨fun e he => Option.some.inj he ▸ hallows,
    h.enter hs hallows rfl (fun _ => .inl rfl) h.owned h.scripts ?_⟩
  rw [Ledger.rounds_told hrounds hwaiting]
  refine hwaits.plains fun e he => ?_
  obtain ⟨a, -, rfl⟩ := List.mem_map.mp he
  trivial

/-- A notification ends. -/
theorem Agrees.close {pinned : List Listener} (h : Agrees l w (.close pinned b skin :: rest)) :
    Enters l rest (some (.ended l.current))
      (.silent (({ w with pinned } : World).send b skin)) := by
  obtain ⟨r, outer, hrounds, hwaiting, hwaits⟩ := h.waits.of_close
  have hcurrent : l.current = r.start := by rw [Ledger.current, hrounds]; rfl
  have hallows : l.Allows (.ended l.current) := ⟨r, outer, hrounds, hcurrent.symm, hwaiting⟩
  refine ⟨fun e he => Option.some.inj he ▸ hallows,
    h.enter hs hallows rfl (fun b' => .inl (World.listeners_send _ b skin b')) h.owned h.scripts ?_⟩
  rw [Ledger.rounds_ended hrounds]
  exact hwaits

/-- A script is registered, if there is one of the name. -/
theorem Agrees.listen (h : Agrees l w (.move (.listen b name) :: rest)) :
    Enters l rest ((Errand.move (.listen b name)).event? l w) (.silent (w.listen b name)) := by
  have hnone : Aloof w (w.listen b name) → Enters l rest none (.silent (w.listen b name)) :=
    fun haloof => h.silent hs trivial (.silent haloof)
  rw [Errand.event?]
  cases hscript : w.scriptOf? name with
  | none =>
    rw [Option.map_none, ite_self]
    refine hnone ?_
    rw [World.listen, hscript]
    exact .of_eq rfl rfl rfl rfl
  | some id =>
    have hid := h.owned_of_script hscript
    split_ifs with hrange
    · refine ⟨fun e he => Option.some.inj he ▸ hid, ?_⟩
      rw [World.listen, hscript]
      exact h.listened hs hrange hid (h.waits.plain_tail trivial)
    · refine hnone (.of_eq ?_ ?_ ?_ ?_) <;> rw [World.listen, hscript]
      · exact List.modify_eq_self (Nat.le_of_not_lt hrange)
      all_goals rfl

/-- A script is removed, if there is one of the name. -/
theorem Agrees.ignore (h : Agrees l w (.move (.ignore b name) :: rest)) :
    Enters l rest ((Errand.move (.ignore b name)).event? l w) (.silent (w.ignore b name)) := by
  rw [Errand.event?, World.ignore]
  cases hscript : w.scriptOf? name with
  | none => exact h.silent hs trivial (.silent (.of_eq rfl rfl rfl rfl))
  | some id =>
    have hid := h.owned_of_script hscript
    exact ⟨fun e he => Option.some.inj he ▸ ⟨hid, h.hasListener_iff hid b⟩,
      h.ignored b _ (h.waits.plain_tail trivial) _⟩

/-- **Each turn keeps the ledger right.** -/
theorem Agrees.turn (h : Agrees l w (errand :: rest)) (hb : Bonds .bare w) (hof : errand.Of .bare)
    (moves : List Move) : Enters l rest (errand.event? l w) (errand.turn moves w) := by
  cases errand with
  | move m =>
    cases m with
    | deed d =>
      cases d with
      | command c => exact h.silent hs trivial (command_aloof hb hof)
      | notify b skin => exact h.begin hs
      | resolve T => exact hof.elim
      | record o => exact h.silent hs trivial (.silent (.of_eq rfl rfl rfl rfl))
    | place part field slot =>
      refine h.silent hs trivial (.quiet ?_)
      rw [World.place]
      cases w.slotAt? part field <;> exact .of_eq rfl rfl rfl rfl
    | hold script => exact h.hold hs
    | listen b name => exact h.listen hs
    | ignore b name => exact h.ignore hs
    | drop name => exact h.drop hs
  | hear =>
    refine h.silent hs trivial ⟨.of_eq rfl rfl rfl rfl, fun e he => ?_⟩
    obtain ⟨m, -, rfl⟩ := List.mem_map.mp he
    trivial
  | call s v o =>
    refine h.silent hs trivial ⟨.of_eq rfl rfl rfl rfl, fun e he => ?_⟩
    obtain ⟨a, -, rfl⟩ := List.mem_map.mp he
    trivial
  | publish t p =>
    refine h.silent hs trivial ⟨.of_eq rfl rfl rfl rfl, fun e he => ?_⟩
    obtain ⟨o, -, rfl⟩ := List.mem_map.mp he
    trivial
  | tell x => exact h.told hs
  | close pinned b skin => exact h.close hs

end Turns

end Live
end Theming
