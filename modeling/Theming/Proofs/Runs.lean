/-
# Runs of a program

A program declares types and registers their companions, adds skins and activates them, creates
targets, binds and unbinds them, observes slots, and writes to fields and slots of its own accord.
It may put a new slot into a field that holds one, but not one slot into two fields. Whatever it
does in whatever order, the world is in order between two commands (`run_sound`).
-/

import Theming.Proofs.Growth
import Theming.Proofs.Chronicle

namespace Theming

/-- A field with something put into it by its owner; it stays a field of its kind, and a slot or a
part stays the one it is. -/
def Content.overwrite (new old : Content) : Content :=
  if new.kind = old.kind ∧ old.kind ≠ .part then new else old

namespace Live

variable {setting : Setting} {short : Prop} {act : Act} {w : World}

/-! ## Commands -/

/-- What a program does. -/
inductive Command where
  | create (type : TypeDefinition)
  /-- Makes the companion of a type known. -/
  | register (type : TypeDefinition) (name : String)
  | addSkin (manager : ManagerId) (skin : Skin)
  | activate (manager : ManagerId) (skin : String)
  | bind (target : TargetId) (context : Context)
  | unbind (target : TargetId)
  | observe (slot : SlotId) (observer : Observer)
  /-- Puts something into a field of a target. -/
  | write (target : TargetId) (path : List String) (content : Content)
  /-- Puts a new slot into a field that holds a slot. -/
  | renew (part : Handle) (field : String)
  | set (slot : SlotId) (value : Value)

/-- Puts a new slot into a field that holds one. -/
def World.renew (w : World) (part : Handle) (field : String) : World :=
  match w.slotAt? part field with
  | some _ => w.addSlot.2.assign part field (.reactive w.addSlot.1)
  | none => w

/-- Carries out a command. -/
def Command.run (act : Act) : Command → Step Unit
  | create type => modify fun w => (w.addTarget type).2
  | register type name => modify fun w => w.register (.keeper type name)
  | addSkin manager skin => modify fun w => w.addSkin manager skin
  | activate manager skin => do
    let _ ← Live.activate act manager skin
  | bind target context => do
    let _ ← Live.bind act target context
  | unbind target => modify fun w => (w.unbind target).2
  | observe slot observer => modify fun w => w.observe slot observer
  | write target path content => modify fun w => w.modifyContent target path content.overwrite
  | renew part field => modify fun w => w.renew part field
  | set slot value => setSlot act slot value

/-- A command of a program: its types are declared, its contexts are those with which it binds, and
its observers do what they may do. -/
def Command.Of (setting : Setting) : Command → Prop
  | create type => setting.catalog.has type
  | register type _ => setting.catalog.has type
  | bind _ context => setting.contexts context
  | observe _ observer => ∀ a ∈ observer.actions, setting.actions a
  | _ => True

/-- The world before the first command: one manager, its broadcaster, and a binder. -/
def World.start (boundary : Boundary) : World where
  broadcasters := [{}]
  managers := [⟨0, [], none⟩]
  binder := { resolver := { boundary } }

/-- The world before the first command, with any number of broadcasters and, for each manager, the
broadcaster that it notifies. -/
def World.opened (boundary : Boundary) (broadcasters : Nat) (hosts : List BroadcasterId) : World where
  broadcasters := List.replicate broadcasters {}
  managers := hosts.map fun b => ⟨b, [], none⟩
  binder := { resolver := { boundary } }

theorem Sound.opened (boundary : Boundary) {broadcasters : Nat} (hosts : List BroadcasterId)
    (h : ∀ context, setting.contexts context → context.broadcaster < broadcasters) :
    Sound setting (.opened boundary broadcasters hosts) where
  types t T hT := by cases hT
  shapes t T hT := by cases hT
  ranged t p s hp := by cases hp
  apart t p t' p' s hp := by cases hp
  acts x hx := by cases hx
  finds := ⟨nofun, nofun⟩
  keys := .nil
  attached id c handle hc := by cases hc
  active t id hmem := by cases hmem
  contexts c hc := by cases hc
  reached context hcontext := by
    rw [World.opened, List.length_replicate]
    exact h context hcontext
  listening b := by
    rw [World.listeners, World.opened, List.getElem?_replicate]
    split_ifs <;> rfl

theorem Sound.start (boundary : Boundary)
    (h : ∀ context, setting.contexts context → context.broadcaster = 0) :
    Sound setting (.start boundary) :=
  Sound.opened boundary [0] fun context hcontext => (h context hcontext).symm ▸ Nat.one_pos

theorem Sound.addSkin (hs : Sound setting w) (m : ManagerId) (skin : Skin) :
    Sound setting (w.addSkin m skin) := by
  have hmodified : ∀ w : World, Sound setting w →
      Sound setting (w.modifyManager m fun x => x.add skin) := fun w hs => { hs with }
  rw [World.addSkin]
  split_ifs
  · exact hmodified w hs
  · exact hmodified _ (hs.steady (.tell _ _ _))

theorem addSkin_calm (w : World) (m : ManagerId) (skin : Skin) : Calm w (w.addSkin m skin) := by
  have hmodified : ∀ w : World, Calm w (w.modifyManager m fun x => x.add skin) := by
    refine fun w => ⟨rfl, rfl, fun _ => rfl, fun _ _ h => h, fun m' => ?_⟩
    rw [World.manager, World.modifyManager, List.getElem?_modify, World.manager]
    cases w.managers[m']? with
    | none => rfl
    | some x => by_cases h : m = m' <;> simp [h, SkinManager.add]
  rw [World.addSkin]
  split_ifs
  · exact hmodified w
  · exact (Steady.tell w _ _).calm.trans (hmodified _)

/-- A new target is one more. -/
theorem addTarget_calm (w : World) (T : TypeDefinition) : Calm w (w.addTarget T).2 := by
  obtain ⟨n, c, hworld, -, -⟩ := w.addTarget_eq T
  rw [hworld]
  exact ⟨rfl, rfl, fun _ => rfl, fun _ _ => World.typeOf?_grown, fun _ => rfl⟩

theorem observe_calm (w : World) (s : SlotId) (o : Observer) : Calm w (w.observe s o) :=
  ⟨rfl, rfl, fun _ => rfl, fun _ _ h => h, fun _ => rfl⟩

theorem Sound.observe (hs : Sound setting w) (s : SlotId) {o : Observer}
    (ho : ∀ a ∈ o.actions, setting.actions a) : Sound setting (w.observe s o) := by
  have hlength : (w.observe s o).slots.length = w.slots.length := List.length_modify ..
  exact
    { hs with
      ranged := by
        intro t p s' hp
        rw [hlength]
        exact hs.ranged t p s' hp
      acts := by
        intro x hx o' ho'
        obtain ⟨i, hi⟩ := List.mem_iff_getElem?.mp hx
        rw [World.observe, List.getElem?_modify, Option.map_eq_map, Option.map_eq_some_iff] at hi
        obtain ⟨y, hy, rfl⟩ := hi
        have hold := hs.acts y (List.mem_of_getElem? hy)
        by_cases hs' : s = i
        · rw [if_pos hs'] at ho'
          rcases List.mem_append.mp ho' with hmem | hmem
          · exact hold o' hmem
          · rw [List.mem_singleton.mp hmem]
            exact ho
        · rw [if_neg hs'] at ho'
          exact hold o' ho' }

theorem write_steady (w : World) (t : TargetId) (path : List String) (content : Content) :
    Steady w (w.modifyContent t path content.overwrite) := by
  refine .modifyContent fun c _ r => ?_
  rw [Content.overwrite]
  split_ifs with h
  · exact Content.kindAt?_eq_of_leaf h.1 (h.1 ▸ h.2) r
  · rfl

/-- **Every command can be told** if what observers do can be. -/
theorem command_lives (hact : Keeping setting short (Lives setting) act) (hs : Sound setting w)
    {c : Command} (hc : c.Of setting) :
    Gives short (c.run act) w fun _ w' => Lives setting w w' := by
  cases c with
  | create T =>
    refine Gives.modify (.of_calm ?_ (hs.addTarget hc))
    exact addTarget_calm w T
  | register T name => exact Gives.modify (.of_turn (.register name hc))
  | addSkin m skin => exact Gives.modify (.of_calm (addSkin_calm w m skin) (hs.addSkin m skin))
  | activate m skin =>
    exact (activate_keeping (.ofLives setting) hact hs m skin).bind fun _ _ h => Gives.pure h
  | bind t context =>
    have hbind : Gives short (Live.bind act t context) w fun _ w' => Lives setting w w' := by
      cases hT : w.typeOf? t with
      | none =>
        have ht : w.targets[t]? = none := by simpa [World.typeOf?] using hT
        refine Gives.get_bind ?_
        rw [ht]
        exact Gives.pure ⟨[], .start⟩
      | some T =>
        obtain ⟨r, w', hrun, -⟩ := hs.bind hT hc
        exact Gives.of_eq (hrun act) (.of_turn (.bind hT hc hrun))
    exact hbind.bind fun _ _ h => Gives.pure h
  | unbind t => exact Gives.modify (.of_turn (.unbind w t))
  | observe s o => exact Gives.modify (.of_calm (observe_calm w s o) (hs.observe s hc))
  | write t path content =>
    exact Gives.modify ((Course.ofLives setting).steady hs (write_steady w t path content))
  | renew part field =>
    refine Gives.modify ?_
    rw [World.renew]
    cases hslot : w.slotAt? part field with
    | none => exact ⟨[], .start⟩
    | some s =>
      refine .of_calm ⟨rfl, rfl, fun _ => rfl, fun t T hT => ?_, fun _ => rfl⟩
        (hs.giveSlot (World.slotAt?_eq_some.mp hslot))
      exact (Steady.typeOf?_modifyContent w.addSlot.2 _ t _ _).trans hT
  | set s v => exact setSlot_keeping (.ofLives setting) hact hs s v

/-- **Every command keeps the world in order**, and whom managers notify. -/
theorem command_sound (hact : Orderly setting short act) (hs : Sound setting w) {c : Command}
    (hc : c.Of setting) :
    Gives short (c.run act) w fun _ w' => Sound setting w' ∧
      ∀ m, (w'.manager m).broadcaster = (w.manager m).broadcaster := by
  refine (command_lives (hact.keeping (.ofLives setting)) hs hc).mono fun _ w' h => ?_
  obtain ⟨turns, h⟩ := h
  exact ⟨h.sound hs, h.hosts hs⟩

/-- A program: its commands in the order in which it gives them. -/
structure Program (setting : Setting) where
  commands : List Command
  of : ∀ c ∈ commands, c.Of setting

/-- Carries out the commands of a program. -/
def Program.run (program : Program setting) (act : Act) : Step Unit :=
  program.commands.forM (Command.run act)

/-- **Between two commands of a run the world is in order.** -/
theorem run_sound (hact : Orderly setting short act) (boundary : Boundary)
    (hcontexts : ∀ context, setting.contexts context → context.broadcaster = 0)
    (program : Program setting) :
    Gives short (program.run act) (.start boundary) fun _ w => Sound setting w ∧
      ∀ m, (w.manager m).broadcaster = 0 := by
  have hstart : ∀ m, ((World.start boundary).manager m).broadcaster = 0 := by
    intro m
    cases m <;> rfl
  refine Gives.forM (fun _ w => Sound setting w ∧ ∀ m, (w.manager m).broadcaster = 0)
    ⟨.start boundary hcontexts, hstart⟩ fun done c rest hc w hw => ?_
  have hmem : c ∈ program.commands := by
    rw [hc]
    exact List.mem_append_right _ List.mem_cons_self
  exact (command_sound hact hw.1 (program.of c hmem)).mono fun _ w' h =>
    ⟨h.1, fun m => (h.2 m).trans (hw.2 m)⟩

end Live
end Theming
