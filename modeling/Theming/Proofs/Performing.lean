/-
# Programs run from moment to moment

What the runtime does when it calls user code is the turns of an errand (`Realizes`): whatever it
comes to, the errand with all that follows from it comes to (`Ends`), and it has a result unless the
errand comes to a call of user code that has none (`Stalls`). This is proved of one function of the
runtime after the other, given that user code is called as `hear` says and makes moves of its own,
that call user code again but less deeply (`Plays`).

| what the runtime does | errand |
| --- | --- |
| it calls an observer, or tells a listener | `call`, `tell` |
| it sets a slot for a companion, or for the program | `publish`, `move` |
| it notifies, activates a skin, or takes any other command | `move` |

So the run of a program is there from its first moment on, and comes to the world that the program
comes to (`Performance.unfolds`). The actions of the model make moves that are decided by the
action and the world (`perform_plays`, `UserCode.acting_decided`).
-/

import Theming.Proofs.Effects

namespace Theming
namespace Live

variable {catalog : Catalog} {code : UserCode catalog} {act inner : Act} {w w' w'' : World}

/-! ## Errands that are done -/

/-- What is to be done at a moment, with all that follows from it, can be done and comes to a
world. -/
def Ends (code : UserCode catalog) (m : Moment) (w : World) : Prop :=
  ∃ effects, Runs code m effects ⟨w, []⟩

/-- Doing what is to be done at a moment can come to a call of user code that has no result. -/
def Stalls (code : UserCode catalog) (act : Act) (m : Moment) : Prop :=
  ∃ effects w v a rest, Runs code m effects ⟨w, .hear v a :: rest⟩ ∧ act v a w = none

variable {errands errands' : List Errand} {errand : Errand} {moves : List Move}

namespace Ends

theorem nil (w : World) : Ends code ⟨w, []⟩ w := ⟨[], .stop _⟩

/-- One after the other. -/
theorem append (h : Ends code ⟨w, errands⟩ w') (h' : Ends code ⟨w', errands'⟩ w'') :
    Ends code ⟨w, errands ++ errands'⟩ w'' := by
  obtain ⟨effects, hruns⟩ := h
  obtain ⟨effects', hruns'⟩ := h'
  exact ⟨effects ++ effects', (hruns.frame errands').append hruns'⟩

/-- An errand is done when all that follows from it is done. -/
theorem turn (hmoves : errand.Evokes code w moves)
    (h : Ends code ⟨(errand.turn moves w).world, (errand.turn moves w).errands⟩ w') :
    Ends code ⟨w, [errand]⟩ w' := by
  obtain ⟨effects, hruns⟩ := h
  refine ⟨(errand.turn moves w).effect :: effects, .turn hmoves ?_⟩
  rw [List.append_nil]
  exact hruns

/-- An errand from which nothing follows is done in one turn. -/
theorem once {effect : Effect} (hmoves : errand.Evokes code w [])
    (hturn : errand.turn [] w = ⟨effect, w', []⟩) : Ends code ⟨w, [errand]⟩ w' := by
  refine turn hmoves ?_
  rw [hturn]
  exact nil w'

theorem bonds (h : Ends code ⟨w, errands⟩ w') (hb : Bonds catalog w)
    (hof : ∀ e ∈ errands, e.Of catalog) : Bonds catalog w' := by
  obtain ⟨effects, hruns⟩ := h
  exact (hruns.of ⟨hb, hof⟩).bonds

end Ends

namespace Stalls

theorem here {v : Option Value} {a : Action} (h : act v a w = none) :
    Stalls code act ⟨w, [.hear v a]⟩ := ⟨[], w, v, a, [], .stop _, h⟩

/-- In something that comes later. -/
theorem later (h : Ends code ⟨w, errands⟩ w') (h' : Stalls code act ⟨w', errands'⟩) :
    Stalls code act ⟨w, errands ++ errands'⟩ := by
  obtain ⟨effects, hruns⟩ := h
  obtain ⟨effects', w₁, v, a, rest, hruns', hnone⟩ := h'
  exact ⟨effects ++ effects', w₁, v, a, rest, (hruns.frame errands').append hruns', hnone⟩

/-- Before other things are done. -/
theorem append (h : Stalls code act ⟨w, errands⟩) (errands' : List Errand) :
    Stalls code act ⟨w, errands ++ errands'⟩ := by
  obtain ⟨effects, w₁, v, a, rest, hruns, hnone⟩ := h
  exact ⟨effects, w₁, v, a, rest ++ errands', hruns.frame errands', hnone⟩

/-- In something that follows from an errand. -/
theorem turn (hmoves : errand.Evokes code w moves)
    (h : Stalls code act ⟨(errand.turn moves w).world, (errand.turn moves w).errands⟩) :
    Stalls code act ⟨w, [errand]⟩ := by
  obtain ⟨effects, w₁, v, a, rest, hruns, hnone⟩ := h
  refine ⟨(errand.turn moves w).effect :: effects, w₁, v, a, rest, .turn hmoves ?_, hnone⟩
  rw [List.append_nil]
  exact hruns

end Stalls

/-- A computation in a world does what is to be done at a moment. -/
def Does {α : Type} (code : UserCode catalog) (act : Act) (x : Step α) (w : World) (m : Moment) :
    Prop :=
  Gives (Stalls code act m) x w fun _ w' => Ends code m w'

/-- What follows from an errand is done, so the errand is. -/
theorem Does.turn {α : Type} {x : Step α} (hmoves : errand.Evokes code w moves)
    (h : Does code act x w' ⟨(errand.turn moves w).world, (errand.turn moves w).errands⟩) :
    Does code act x w' ⟨w, [errand]⟩ :=
  (Gives.widen h (Stalls.turn hmoves)).mono fun _ _ hends => hends.turn hmoves

/-- Whatever follows from an errand, a computation does the errand. -/
def Realizes (code : UserCode catalog) (act : Act) (x : Step Unit) (errand : Errand) : Prop :=
  ∀ w, Bonds catalog w → Does code act x w ⟨w, [errand]⟩

/-- **A loop is realized by one errand after the other.** -/
theorem forM_does {β : Type} {f : β → Step PUnit} (errand : β → Errand) {items : List β}
    (hof : ∀ i ∈ items, (errand i).Of catalog)
    (hf : ∀ i ∈ items, Realizes code act (f i) (errand i)) (hb : Bonds catalog w) :
    Does code act (items.forM f) w ⟨w, items.map errand⟩ := by
  refine Gives.forM (fun done w' => Ends code ⟨w, done.map errand⟩ w') (.nil w)
    fun done i rest hitems w₁ h₁ => ?_
  have hdone : ∀ e ∈ done.map errand, e.Of catalog := by
    intro e he
    obtain ⟨j, hj, rfl⟩ := List.mem_map.mp he
    exact hof j (hitems ▸ List.mem_append_left _ hj)
  have hi : i ∈ items := hitems ▸ List.mem_append_right _ List.mem_cons_self
  have hsplit : items.map errand = done.map errand ++ ([errand i] ++ rest.map errand) := by
    rw [hitems, List.map_append]
    rfl
  refine (Gives.widen (hf i hi w₁ (h₁.bonds hb hdone)) fun hstalls => ?_).mono fun _ w₂ h₂ => ?_
  · rw [hsplit]
    exact .later h₁ (hstalls.append _)
  · rw [List.map_append]
    exact h₁.append h₂

/-! ## Computations that call user code -/

section Calls

variable (hact : ∀ v a, Realizes code act (act v a) (.hear v a))
include hact

/-- User code takes its actions one after the other. -/
theorem actions_does (v : Option Value) (actions : List Action) (hb : Bonds catalog w) :
    Does code act (actions.forM (act v)) w ⟨w, actions.map (.hear v)⟩ :=
  forM_does (.hear v) (fun _ _ => trivial) (fun a _ => hact v a) hb

theorem call_realizes (s : SlotId) (v : Value) (o : Observer) :
    Realizes code act (o.call act s v) (.call s v o) := fun w hb =>
  Gives.modify_bind (Does.turn rfl (actions_does hact (some v) o.actions (hb.steady (.record w _))))

/-- A slot is set, and its observers are called. -/
theorem setSlot_does (hb : Bonds catalog w) (s : SlotId) (v : Value) (effect : Effect) :
    Does code act (setSlot act s v) w
      ⟨(Upshot.stored effect w s v).world, (Upshot.stored effect w s v).errands⟩ := by
  refine Gives.modify_bind (Gives.get_bind ?_)
  exact forM_does (.call s v) (fun _ _ => trivial) (fun o _ => call_realizes hact s v o)
    (hb.steady (.store w s v))

theorem publish_realizes (t : TargetId) (p : Pending) :
    Realizes code act (setSlot act p.slot p.value) (.publish t p) := fun _ hb =>
  .turn rfl (setSlot_does hact hb p.slot p.value (.published t p))

theorem updateTheme_realizes (id : CompanionId) :
    Realizes code act (updateTheme act id) (.tell (.companion id)) := by
  intro w hb
  rcases hb.told id with hdetached | ⟨A, name, context, handle, hc, -, hsuited, hnames⟩
  · exact Gives.of_eq (updateTheme_of_detached hdetached)
      (.once rfl (Listener.turn_of_detached hdetached))
  · obtain ⟨-, hrefreshed⟩ :=
      updateFields_refreshed w handle context.manager A.bound hsuited hnames
    rw [Does, Gives, updateTheme_eq hc rfl rfl]
    refine Does.turn (Errand.evokes_nil rfl) ?_
    change Does code act _ _ ⟨((Listener.companion id).turn w).world,
      ((Listener.companion id).turn w).errands⟩
    rw [Listener.turn_of_keeper hc]
    exact forM_does (.publish handle.target) (fun _ _ => trivial)
      (fun p _ => publish_realizes hact handle.target p) (hb.steady hrefreshed.steady)

/-- **Telling a listener is realized by the errand.** -/
theorem apply_realizes (l : Listener) : Realizes code act (l.apply act) (.tell l) := by
  cases l with
  | companion id => exact updateTheme_realizes hact id
  | script id =>
    intro w hb
    refine Gives.get_bind ?_
    have hturn : ((Errand.tell (.script id)).turn [] w) = (Listener.script id).turn w := rfl
    cases hs : w.scripts[id]? with
    | none =>
      have hidle : (Listener.script id).turn w = .silent w := by rw [Listener.turn, hs]
      exact Gives.pure (.once rfl (hturn.trans hidle))
    | some s =>
      refine Gives.modify_bind (Does.turn (Errand.evokes_nil rfl) ?_)
      rw [hturn, Listener.turn, hs]
      exact actions_does hact none s.actions (hb.steady (.record w _))

/-- Listeners are told one after the other. -/
theorem tells_does (hb : Bonds catalog w) (listeners : List Listener) :
    Does code act (listeners.forM fun l => l.apply act) w ⟨w, listeners.map .tell⟩ :=
  forM_does .tell (fun _ _ => trivial) (fun l _ => apply_realizes hact l) hb

/-- **A notification is realized by telling its listeners and closing it**, and gives their
number. -/
theorem notify_does (hb : Bonds catalog w) (b : BroadcasterId) (skin : String) :
    Gives (Stalls code act ⟨w, [.move (.deed (.notify b skin))]⟩) (notify act b skin) w
      fun n w' => n = (w.liveListeners b).length ∧
        Ends code ⟨w, [.move (.deed (.notify b skin))]⟩ w' := by
  have hleads := move_leads (m := .deed (.notify b skin)) hb trivial
  have htold := tells_does hact hleads.bonds (w.liveListeners b)
  refine Gives.get_bind (Gives.get_bind (Gives.modify_bind (Gives.modify_bind ?_)))
  refine (Gives.widen htold fun hstalls => ?_).bind fun _ w₁ h₁ =>
    Gives.modify_bind (Gives.pure ⟨rfl, ?_⟩)
  · exact .turn (Errand.evokes_nil rfl) (hstalls.append _)
  · exact .turn (Errand.evokes_nil rfl) (h₁.append (.once rfl rfl))

/-- An activation is realized by the switch and the notification. -/
theorem activate_does (hb : Bonds catalog w) (m : ManagerId) (name : String) :
    Does code act (activate act m name) w
      ⟨w, [.move (.deed (.command (.activate m name)))]⟩ := by
  have hturn : (Errand.move (.deed (.command (.activate m name)))).turn [] w =
    (Command.activate m name).turn w := rfl
  refine Gives.get_bind ?_
  dsimp only
  cases hskin : (w.manager m).skin? name with
  | none =>
    have hidle : (Command.activate m name).turn w = .silent w := by rw [Command.turn, hskin]
    exact Gives.pure (.once rfl (hturn.trans hidle))
  | some skin =>
    have hswitch : Steady w (w.modifyManager m fun x => { x with active := some skin }) :=
      .modifyManager fun _ => ⟨rfl, rfl⟩
    have htell := hswitch.trans (.tell _ .info ("Activated skin " ++ name))
    refine Gives.modify_bind (Gives.modify_bind (Does.turn (Errand.evokes_nil rfl) ?_))
    rw [hturn, Command.turn, hskin]
    exact (notify_does hact (hb.steady htell) _ name).bind fun _ _ h => Gives.pure h.2

/-! ## Moves and performances -/

theorem command_realizes (c : Command) :
    Realizes code act (c.run act) (.move (.deed (.command c))) := by
  intro w hb
  cases c with
  | activate m name => exact (activate_does hact hb m name).bind fun _ _ h => Gives.pure h
  | bind t context =>
    obtain ⟨r, w', hrun, hturn, -⟩ := hb.bind_turn t context
    exact Gives.of_eq (Step.bind_eq (hrun act)) (.once rfl hturn)
  | set s v => exact .turn rfl (setSlot_does hact hb s v (.set s v))
  | _ => exact Gives.modify (.once rfl rfl)

theorem move_realizes (m : Move) : Realizes code act (m.run act) (.move m) := by
  intro w hb
  cases m with
  | deed d =>
    cases d with
    | command c => exact command_realizes hact c w hb
    | notify b skin => exact (notify_does hact hb b skin).bind fun _ _ h => Gives.pure h.2
    | _ => exact Gives.modify (.once rfl rfl)
  | _ => exact Gives.modify (.once rfl rfl)

/-- Moves are made one after the other. -/
theorem moves_does {moves : List Move} (hof : ∀ m ∈ moves, m.Of catalog) (hb : Bonds catalog w) :
    Does code act (moves.forM (Move.run act)) w ⟨w, moves.map .move⟩ :=
  forM_does .move hof (fun m _ => move_realizes hact m) hb

end Calls

/-! ## Performances -/

/-- What a program does, move by move. -/
structure Performance (catalog : Catalog) where
  moves : List Move
  of : ∀ m ∈ moves, m.Of catalog

/-- Makes all moves. -/
def Performance.run (performance : Performance catalog) (act : Act) : Step Unit :=
  performance.moves.forM (Move.run act)

/-- The moment at which nothing has been done yet. -/
def Performance.opening (performance : Performance catalog) (boundary : Boundary)
    (broadcasters : Nat) (hosts : List BroadcasterId) : Moment :=
  ⟨.opened boundary broadcasters hosts, performance.moves.map .move⟩

theorem Performance.opening_of (performance : Performance catalog) (boundary : Boundary)
    (broadcasters : Nat) (hosts : List BroadcasterId) :
    (performance.opening boundary broadcasters hosts).Of catalog := by
  refine ⟨.opened catalog boundary broadcasters hosts, fun e he => ?_⟩
  obtain ⟨m, hm, rfl⟩ := List.mem_map.mp he
  exact performance.of m hm

/-- What user code comes to, the moves that it may make come to, in which user code acts less
deeply. -/
def Plays (code : UserCode catalog) : Nat → Act → Prop :=
  Deepens fun inner v a w w' => Bonds catalog w →
    ∃ moves, code.makes v a w moves ∧ moves.forM (Move.run inner) w = some ((), w')

/-- **User code is heard**, however deep its calls nest. -/
theorem Plays.realizes {depth : Nat} (h : Plays code depth act) (v : Option Value) (a : Action) :
    Realizes code act (act v a) (.hear v a) := by
  refine Deepens.elim (P := fun act => ∀ v a, Realizes code act (act v a) (.hear v a))
    (fun v a w _ => Stalls.here rfl) (fun inner act _ hinner hact v a w hb => ?_) h v a
  cases hrun : act v a w with
  | none =>
    rw [Does, Gives, hrun]
    exact .here hrun
  | some r =>
    obtain ⟨moves, hmakes, hmoves⟩ := hact v a w r.2 hrun hb
    have hends := moves_does hinner (code.of hmakes) hb
    rw [Does, Gives, hmoves] at hends
    exact Gives.of_eq hrun (.turn hmakes hends)

/-- A world is what a program comes to: from its first moment a run comes to it with nothing left to
do, and if user code leaves no choice, every run from there is on its way to it. -/
structure Concludes (code : UserCode catalog) (opening : Moment) (w : World) : Prop where
  ends : Ends code opening w
  all : code.Decided → ∀ effects m, Runs code opening effects m →
    ∃ rest, Runs code m rest ⟨w, []⟩

theorem Ends.concludes {opening : Moment} (h : Ends code opening w) : Concludes code opening w := by
  refine ⟨h, fun hcode effects m hbegun => ?_⟩
  obtain ⟨_, hruns⟩ := h
  obtain ⟨rest, -, hafter⟩ := hruns.resume hcode rfl hbegun
  exact ⟨rest, hafter⟩

/-- A program is carried out moment by moment: it comes to a world, unless user code has no result
where a run calls it, and that is the world to which runs come. -/
structure Performance.Unfolds (code : UserCode catalog) (performance : Performance catalog)
    (boundary : Boundary) (broadcasters : Nat) (hosts : List BroadcasterId) : Prop where
  concludes : ∀ {depth act}, Plays code depth act →
    Gives (Stalls code act (performance.opening boundary broadcasters hosts))
      (performance.run act) (.opened boundary broadcasters hosts)
      fun _ w => Concludes code (performance.opening boundary broadcasters hosts) w

theorem Performance.Unfolds.result {performance : Performance catalog} {boundary : Boundary}
    {broadcasters : Nat} {hosts : List BroadcasterId}
    (h : performance.Unfolds code boundary broadcasters hosts) {depth : Nat}
    (hact : Plays code depth act)
    (hrun : performance.run act (.opened boundary broadcasters hosts) = some ((), w)) :
    Concludes code (performance.opening boundary broadcasters hosts) w :=
  (h.concludes hact).result hrun

/-- **Every program is carried out moment by moment.** -/
theorem Performance.unfolds (code : UserCode catalog) (performance : Performance catalog)
    (boundary : Boundary) (broadcasters : Nat) (hosts : List BroadcasterId) :
    performance.Unfolds code boundary broadcasters hosts where
  concludes hact := (moves_does (Plays.realizes hact) performance.of
    (.opened catalog boundary broadcasters hosts)).mono fun _ _ h => h.concludes

/-! ## Actions -/

/-- What user code does that takes an action: moves, and what is taken down of them. -/
def Action.answer (act : Act) (observed : Option Value) (w : World) : Action → List Move
  | bind t context => .deed (.command (.bind t context)) ::
      (Live.bind act t context w).toList.map fun r => .deed (.record (.bound r.1))
  | unbind t => [.deed (.command (.unbind t)), .deed (.record (.unbound (w.unbind t).1))]
  | rebind t context => .deed (.command (.bind t context)) ::
      (Live.bind act t context w).toList.map fun r => .deed (.record (.rebound r.1))
  | activate m skin => [.deed (.command (.activate m skin))]
  | set s value limit =>
    match value.or observed with
    | some value => if w.version s < limit then [.deed (.command (.set s value))] else []
    | none => []
  | observe s tag glance actions => [.deed (.command (.observe s ⟨tag, glance, actions⟩))]
  | notify b skin => [.deed (.notify b skin)]
  | listen b name => [.listen b name]
  | ignore b name => [.ignore b name]
  | drop name => [.drop name]
  | count b => [.deed (.record (.counted (w.liveListeners b).length))]

theorem Action.answer_of (v : Option Value) (w : World) (a : Action) :
    ∀ m ∈ a.answer act v w, m.Of catalog := by
  cases a with
  | bind t context | rebind t context =>
    refine List.forall_mem_cons.mpr ⟨trivial, fun m hm => ?_⟩
    obtain ⟨r, -, rfl⟩ := List.mem_map.mp hm
    trivial
  | set s value limit =>
    rw [answer]
    cases value.or v with
    | none => exact nofun
    | some value => dsimp only; split_ifs <;> simp [Move.Of, Deed.Of, Command.Of]
  | _ => simp [answer, Move.Of, Deed.Of, Command.Of, Setting.free]

/-- A move whose result is taken down. -/
theorem recorded_eq {m : Move} {x : Step (Except BindingError Unit)}
    (hm : m.run act = (do let _ ← x)) (o : Except BindingError Unit → Occurrence) (w : World) :
    (do let r ← x; modify fun w => w.record (o r) : Step Unit) w =
      (m :: (x w).toList.map fun r => .deed (.record (o r.1))).forM (Move.run act) w := by
  change _ = (m.run act >>= fun _ => List.forM _ (Move.run act)) w
  rw [hm, bind_assoc]
  cases hx : x w with
  | none => rw [Step.bind_eq_none hx, Step.bind_eq_none hx]
  | some r => rw [Step.bind_eq hx, Step.bind_eq hx]; rfl

/-- One move alone. -/
theorem forM_move (m : Move) : [m].forM (Move.run act) = m.run act := bind_pure _

/-- **An action comes to what its answer comes to.** -/
theorem carryOut_eq (act : Act) (v : Option Value) (a : Action) (w : World) :
    carryOut act v a w = (a.answer act v w).forM (Move.run act) w := by
  cases a with
  | bind t context => exact recorded_eq (m := .deed (.command (.bind t context))) rfl .bound w
  | unbind t => rfl
  | rebind t context => exact recorded_eq (m := .deed (.command (.bind t context))) rfl .rebound w
  | set s value limit =>
    rw [carryOut, Action.answer]
    cases value.or v with
    | none => rfl
    | some value =>
      change (if w.version s < limit then setSlot act s value else pure ()) w = _
      dsimp only
      split_ifs
      · rw [forM_move]; rfl
      · rfl
  | _ => rw [Action.answer, forM_move]; rfl

/-- What an action does does not depend on the user code that is called then. -/
theorem Bonds.answer_eq (hb : Bonds catalog w) (act : Act) (v : Option Value) (a : Action) :
    a.answer act v w = a.answer mute v w := by
  cases a with
  | bind t context | rebind t context =>
    obtain ⟨r, w', hrun, -⟩ := hb.bind_turn t context
    rw [Action.answer, Action.answer, hrun, hrun]
  | _ => rfl

/-- Actions as user code: what they do in a world is decided. -/
def UserCode.acting (catalog : Catalog) : UserCode catalog where
  makes v a w moves := moves = a.answer mute v w
  of {v a w _} h := h ▸ a.answer_of v w

/-- What user code answers in a turn, if it takes actions. -/
def Errand.answer (w : World) : Errand → List Move
  | hear v a => a.answer mute v w
  | _ => []

theorem Errand.evokes_answer (errand : Errand) :
    errand.Evokes (.acting catalog) w (errand.answer w) := by
  cases errand <;> rfl

theorem UserCode.acting_decided : (acting catalog).Decided := fun h h' => h.trans h'.symm

/-- **Actions play.** -/
theorem perform_plays (catalog : Catalog) (depth : Nat) :
    Plays (.acting catalog) depth (perform depth) := by
  refine Deepens.of_tower rfl (fun depth v a w w' hrun hb => ⟨a.answer mute v w, rfl, ?_⟩) depth
  rw [← hb.answer_eq (perform depth), ← carryOut_eq]
  exact hrun

end Live
end Theming
