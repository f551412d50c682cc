/-
# A run, moment by moment

A moment is a world and what is still to be done in it, the next thing first. Each turn takes up the
next errand, does one thing, and puts what follows from it before the rest:

| errand | what is done | what follows |
| --- | --- | --- |
| `move` | a move of a program, up to the first listener or observer | `tell`, `close`, `call` |
| `hear` | user code is called for an action | the moves that it makes |
| `tell` | a companion brings its fields up to date, or a script is called | `publish`, `hear` |
| `publish` | what was put aside for a slot is stored in it | `call` |
| `call` | an observer takes down what it sees | `hear` |
| `close` | a change is sent at the end of a notification | |

So all moments of a program are there, those in the middle of a notification included, and at each
of them it can be said what has been done to a target since another one (`Effect`). Nothing is
assumed of user code but that it keeps to the types of the program: it may also share slots, and
listen itself. What it does when it is called is for the user code to say (`UserCode`), given who is
called, with which value and in which world, and for nobody else: in all other turns everything is
done by the runtime. If the user code leaves no choice, there is one run (`Runs.resume`), and it is
what the program does (`Performance.unfolds`).
-/

import Theming.Proofs.Joining
import Theming.Proofs.Sessions

namespace Theming
namespace Live

variable {catalog : Catalog} {w w' w'' : World}

/-! ## Moves -/

namespace World

/-- Puts a slot into a field that holds one. -/
def place (w : World) (part : Handle) (field : String) (slot : SlotId) : World :=
  match w.slotAt? part field with
  | some _ => w.assign part field (.reactive slot)
  | none => w

/-- Registers the script that is held under a name. -/
def listen (w : World) (broadcaster : BroadcasterId) (name : String) : World :=
  match w.scriptOf? name with
  | some id => w.addListener broadcaster (.script id)
  | none => w

/-- Removes the registrations of the script that is held under a name. -/
def ignore (w : World) (broadcaster : BroadcasterId) (name : String) : World :=
  match w.scriptOf? name with
  | some id => (w.removeListener broadcaster (.script id)).record
      (.ignored name (w.hasListener broadcaster (.script id)))
  | none => w

end World

/-- What a program, an observer or a listener of its own does. -/
inductive Move where
  | deed (d : Deed)
  /-- Puts a slot that other fields may hold as well into a field. -/
  | place (part : Handle) (field : String) (slot : SlotId)
  | hold (script : Script)
  | listen (broadcaster : BroadcasterId) (script : String)
  | ignore (broadcaster : BroadcasterId) (script : String)
  | drop (script : String)

/-- Makes a move. -/
def Move.run (act : Act) : Move → Step Unit
  | deed d => d.run act
  | place part field slot => modify fun w => w.place part field slot
  | hold script => modify fun w => w.hold script
  | listen broadcaster script => modify fun w => w.listen broadcaster script
  | ignore broadcaster script => modify fun w => w.ignore broadcaster script
  | drop script => modify fun w => w.drop script

/-- The setting of a program that may do anything with its types. -/
def Setting.free (catalog : Catalog) : Setting where
  catalog := catalog
  contexts _ := True
  actions _ := True

/-- A move that keeps to the types of the program. -/
def Move.Of (catalog : Catalog) : Move → Prop
  | deed d => d.Of (.free catalog)
  | _ => True

/-- User code: the moves that it may make for an action when it is called in a world, with the value
that an observer has got. They keep to the types of the program. -/
structure UserCode (catalog : Catalog) where
  makes : Option Value → Action → World → List Move → Prop
  of : ∀ {v a w moves}, makes v a w moves → ∀ m ∈ moves, m.Of catalog

/-- User code that leaves no choice. -/
def UserCode.Decided (code : UserCode catalog) : Prop :=
  ∀ {v a w moves moves'}, code.makes v a w moves → code.makes v a w moves' → moves = moves'

/-! ## Turns -/

/-- Something to be done. -/
inductive Errand where
  | move (m : Move)
  /-- User code is called for an action, by an observer with the value that it got. -/
  | hear (value : Option Value) (action : Action)
  | call (slot : SlotId) (value : Value) (observer : Observer)
  /-- Sets a slot for the companion of a target. -/
  | publish (target : TargetId) (pending : Pending)
  | tell (listener : Listener)
  | close (pinned : List Listener) (broadcaster : BroadcasterId) (skin : String)

/-- What is done to targets and slots in a turn. -/
inductive Effect where
  | nothing
  | bound (target : TargetId) (result : Except BindingError Unit)
  /-- The owner changes what lies at a path. -/
  | wrote (target : TargetId) (path : List String) (change : Content → Content)
  /-- The companion of a target brings the fields up to date that are no slots. -/
  | updated (target : TargetId)
  /-- A slot is set for the companion of a target. -/
  | published (target : TargetId) (pending : Pending)
  /-- User code sets a slot. -/
  | set (slot : SlotId) (value : Value)

/-- A world and what is still to be done in it. -/
structure Moment where
  world : World
  errands : List Errand

/-- What a turn comes to: what is done, and what follows from it. -/
structure Upshot where
  effect : Effect := .nothing
  world : World
  errands : List Errand := []

namespace Upshot

/-- Nothing is done to a target or a slot that is there, and nothing follows. -/
def silent (w : World) : Upshot where
  world := w

/-- A slot is set, and its observers are to be called. -/
def stored (effect : Effect) (w : World) (s : SlotId) (v : Value) : Upshot where
  effect := effect
  world := w.store s v
  errands := ((w.store s v).observers s).map (.call s v)

/-- The owner puts a slot into a field, which is done if it holds one. -/
def seated (w : World) (part : Handle) (field : String) (slot : SlotId) (w' : World) : Upshot where
  effect :=
    match w.slotAt? part field with
    | some _ => .wrote part.target (part.path ++ [field]) fun _ => .reactive slot
    | none => .nothing
  world := w'

end Upshot

/-- A command is begun. -/
def Command.turn (w : World) : Command → Upshot
  | create type => .silent (w.addTarget type).2
  | register type name => .silent (w.register (.keeper type name))
  | addSkin manager skin => .silent (w.addSkin manager skin)
  | activate manager name =>
    match (w.manager manager).skin? name with
    | none => .silent w
    | some skin =>
      { world := (w.modifyManager manager fun m => { m with active := some skin }).tell .info
          ("Activated skin " ++ name)
        errands := [.move (.deed (.notify (w.manager manager).broadcaster name))] }
  | bind target context =>
    match Live.bind (fun _ _ => pure ()) target context w with
    | some (result, w) => { effect := .bound target result, world := w }
    | none => .silent w
  | unbind target => .silent (w.unbind target).2
  | observe slot observer => .silent (w.observe slot observer)
  | write target path content =>
    { effect := .wrote target path content.overwrite
      world := w.modifyContent target path content.overwrite }
  | renew part field => .seated w part field w.addSlot.1 (w.renew part field)
  | set slot value => .stored (.set slot value) w slot value

/-- A move is begun. -/
def Move.turn (w : World) : Move → Upshot
  | deed (.command c) => c.turn w
  | deed (.notify broadcaster skin) =>
    let live := w.liveListeners broadcaster
    { world := ({ (w.sweep broadcaster) with pinned := live ++ w.pinned } : World).tell .debug
        ("Theme changed to " ++ skin ++ "; notifying " ++ toString live.length ++ " listeners")
      errands := live.map .tell ++ [.close w.pinned broadcaster skin] }
  | deed (.resolve type) => .silent (w.resolve type.info).2
  | deed (.record o) => .silent (w.record o)
  | place part field slot => .seated w part field slot (w.place part field slot)
  | hold script => .silent (w.hold script)
  | listen broadcaster script => .silent (w.listen broadcaster script)
  | ignore broadcaster script => .silent (w.ignore broadcaster script)
  | drop script => .silent (w.drop script)

/-- A listener is told. -/
def Listener.turn (w : World) : Listener → Upshot
  | .companion id =>
    match w.companions[id]? with
    | some ⟨⟨_, _, _, _, _, .keep fields⟩, context, some target⟩ =>
      let (pending, w) := w.updateFields target context.manager fields
      { effect := .updated target.target
        world := w
        errands := pending.map (.publish target.target) }
    | _ => .silent w
  | .script id =>
    match w.scripts[id]? with
    | some s =>
      { world := w.record (.applied s.name), errands := s.actions.map (.hear none) }
    | none => .silent w

/-- An errand is taken up; the moves are those that user code makes if it is called. -/
def Errand.turn (moves : List Move) (w : World) : Errand → Upshot
  | move m => m.turn w
  | hear _ _ => { world := w, errands := moves.map .move }
  | call slot value observer =>
    { world := w.record (.observed observer.tag value (observer.glance.sight w slot))
      errands := observer.actions.map (.hear (some value)) }
  | publish target pending =>
    .stored (.published target pending) w pending.slot pending.value
  | tell listener => listener.turn w
  | close pinned broadcaster skin => .silent (({ w with pinned } : World).send broadcaster skin)

/-- The moves that can be made when an errand is taken up: those of user code if it is called, and
none otherwise. -/
def Errand.Evokes (code : UserCode catalog) (w : World) : Errand → List Move → Prop
  | hear value action, moves => code.makes value action w moves
  | _, moves => moves = []

/-- The action for which an errand calls user code. -/
def Errand.action? : Errand → Option Action
  | hear _ action => some action
  | _ => none

/-- In its own turns the runtime calls no user code. -/
theorem Errand.evokes_nil {code : UserCode catalog} {errand : Errand} (h : errand.action? = none) :
    errand.Evokes code w [] := by
  cases errand with
  | hear v a => cases h
  | _ => rfl

/-- A run of turns, in which user code does what the given one may do. -/
inductive Runs (code : UserCode catalog) : Moment → List Effect → Moment → Prop where
  | stop (m : Moment) : Runs code m [] m
  | turn {w : World} {errand : Errand} {rest : List Errand} {moves : List Move}
      {effects : List Effect} {m : Moment} (hmoves : errand.Evokes code w moves)
      (hrest : Runs code ⟨(errand.turn moves w).world, (errand.turn moves w).errands ++ rest⟩
        effects m) :
      Runs code ⟨w, errand :: rest⟩ ((errand.turn moves w).effect :: effects) m

/-- An errand that keeps to the types of the program. -/
def Errand.Of (catalog : Catalog) : Errand → Prop
  | move m => m.Of catalog
  | _ => True

/-- What an errand publishes for the companion of a target. -/
def Errand.pending? (t : TargetId) : Errand → Option Pending
  | publish t' p => if t' = t then some p else none
  | _ => none

/-- What has been published for the companion of a target. -/
def Effect.published? (t : TargetId) : Effect → Option Pending
  | published t' p => if t' = t then some p else none
  | _ => none

/-- No companion does anything in a turn, nor puts anything aside. -/
structure Upshot.Idle (catalog : Catalog) (u : Upshot) : Prop where
  errands : ∀ e ∈ u.errands, e.Of catalog ∧ ∀ t, e.pending? t = none
  effect : ∀ t, u.effect.published? t = none ∧ u.effect ≠ .updated t

namespace Upshot.Idle

theorem silent (w : World) : (Upshot.silent w).Idle catalog := ⟨nofun, fun _ => ⟨rfl, nofun⟩⟩

theorem seated (w w' : World) (part : Handle) (field : String) (slot : SlotId) :
    (Upshot.seated w part field slot w').Idle catalog := by
  refine ⟨nofun, fun t => ?_⟩
  rw [Upshot.seated]
  cases w.slotAt? part field <;> exact ⟨rfl, nofun⟩

end Upshot.Idle

theorem Command.turn_idle (w : World) (c : Command) : (c.turn w).Idle catalog := by
  cases c with
  | activate manager name =>
    rw [turn]
    cases (w.manager manager).skin? name with
    | none => exact .silent w
    | some skin =>
      refine ⟨fun e he => ?_, fun _ => ⟨rfl, nofun⟩⟩
      rw [List.mem_singleton.mp he]
      exact ⟨trivial, fun _ => rfl⟩
  | bind target context =>
    rw [turn]
    cases Live.bind (fun _ _ => pure ()) target context w with
    | none => exact .silent w
    | some r => exact ⟨nofun, fun _ => ⟨rfl, nofun⟩⟩
  | renew part field => exact .seated w _ part field _
  | write target path content => exact ⟨nofun, fun _ => ⟨rfl, nofun⟩⟩
  | set slot value =>
    refine ⟨fun e he => ?_, fun _ => ⟨rfl, nofun⟩⟩
    obtain ⟨o, -, rfl⟩ := List.mem_map.mp he
    exact ⟨trivial, fun _ => rfl⟩
  | _ => exact .silent _

theorem Move.turn_idle (w : World) (m : Move) : (m.turn w).Idle catalog := by
  cases m with
  | deed d =>
    cases d with
    | command c => exact c.turn_idle w
    | notify b skin =>
      refine ⟨fun e he => ?_, fun _ => ⟨rfl, nofun⟩⟩
      rcases List.mem_append.mp he with he | he
      · obtain ⟨l, -, rfl⟩ := List.mem_map.mp he
        exact ⟨trivial, fun _ => rfl⟩
      · rw [List.mem_singleton.mp he]
        exact ⟨trivial, fun _ => rfl⟩
    | _ => exact .silent _
  | place part field slot => exact .seated w _ part field slot
  | _ => exact .silent _

/-- When a script is told, it is called. -/
theorem Listener.script_idle (w : World) (id : ScriptId) :
    ((Listener.script id).turn w).Idle catalog := by
  rw [turn]
  cases w.scripts[id]? with
  | none => exact .silent w
  | some s =>
    refine ⟨fun e he => ?_, fun _ => ⟨rfl, nofun⟩⟩
    obtain ⟨a, -, rfl⟩ := List.mem_map.mp he
    exact ⟨trivial, fun _ => rfl⟩

/-- What follows from a turn keeps to the types of the program as well. -/
theorem Errand.of_turn {code : UserCode catalog} {moves : List Move} {errand : Errand}
    (hmoves : errand.Evokes code w moves) :
    ∀ e ∈ (errand.turn moves w).errands, e.Of catalog := by
  cases errand with
  | move m => exact fun e he => ((m.turn_idle w).errands e he).1
  | hear v a =>
    intro e he
    obtain ⟨x, hx, rfl⟩ := List.mem_map.mp he
    exact code.of hmoves x hx
  | call s v o => simp [turn, Of]
  | publish t p => simp [turn, Upshot.stored, Of]
  | tell l =>
    cases l with
    | companion id =>
      change ∀ e ∈ ((Listener.companion id).turn w).errands, e.Of catalog
      rw [Listener.turn]
      split <;> simp [Upshot.silent, Of]
    | script id => exact fun e he => ((Listener.script_idle w id).errands e he).1
  | close pinned b skin => exact nofun

/-- What user code leaves no choice in, the errand does not either. -/
theorem Errand.Evokes.unique {code : UserCode catalog} (hcode : code.Decided) {errand : Errand}
    {moves moves' : List Move} (h : errand.Evokes code w moves)
    (h' : errand.Evokes code w moves') : moves = moves' := by
  cases errand with
  | hear v a => exact hcode h h'
  | _ => exact Eq.trans h (Eq.symm h')

namespace Runs

variable {code : UserCode catalog} {m m' m'' : Moment} {effects effects' : List Effect}

theorem append (h : Runs code m effects m') (h' : Runs code m' effects' m'') :
    Runs code m (effects ++ effects') m'' := by
  induction h with
  | stop => exact h'
  | turn hmoves _ ih => exact .turn hmoves (ih h')

/-- What comes later waits. -/
theorem frame (h : Runs code m effects m') (rest : List Errand) :
    Runs code ⟨m.world, m.errands ++ rest⟩ effects ⟨m'.world, m'.errands ++ rest⟩ := by
  induction h with
  | stop => exact .stop _
  | turn hmoves _ ih =>
    dsimp only at ih
    rw [List.append_assoc] at ih
    exact .turn hmoves ih

/-- **There is one run** if user code leaves no choice: what has begun goes on to the end to which
the run comes, with nothing else done on the way. -/
theorem resume (hcode : code.Decided) (h : Runs code m effects m') (hdone : m'.errands = [])
    (hbegun : Runs code m effects' m'') :
    ∃ rest, effects = effects' ++ rest ∧ Runs code m'' rest m' := by
  induction hbegun generalizing effects with
  | stop => exact ⟨effects, rfl, h⟩
  | turn hmoves _ ih =>
    cases h with
    | stop => cases hdone
    | turn hmoves' hrest =>
      obtain rfl := hmoves.unique hcode hmoves'
      obtain ⟨rest, rfl, hafter⟩ := ih hrest
      exact ⟨rest, rfl, hafter⟩

end Runs

end Live
end Theming
