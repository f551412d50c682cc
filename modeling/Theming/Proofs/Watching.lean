/-
# Watching companions

A binder works with companions that somebody else wrote. Here they are any code at all that works
on a state of its own and does not reach the binder (`Binder.Code`): making one may fail at some
calls and not at others, and so may releasing it. Such code is watched: every companion that is made
gets a number, and every call on it is logged (`Binder.Code.watched`).

The binder is none the wiser: without numbers and log the watched binder and its companions are
those that nobody watches (`Binder.runCalls_watched`).
-/

import Theming.Binder
import Theming.Proofs.Association

namespace Theming
namespace Binder

/-- The code of companions of a kind `κ`, which works on a state `σ` and does not reach the
binder. A context is handed to it when a companion is made. -/
structure Code (σ κ γ : Type) extends Craft (StateM σ) κ where
  construct : CompanionEntry → Handle → γ → StateM σ (Except BindingError κ)

/-- A companion, with the target it was made for and the number of its making. -/
structure Numbered (κ : Type) where
  target : TargetId
  number : Nat
  companion : κ

/-- A call on a companion that a binder made, or something it told. -/
inductive Event where
  | made (target : TargetId) (number : Nat)
  | unbound (target : TargetId) (number : Nat)
  | cleared (target : TargetId) (number : Nat)
  | told (notice : Notice)
deriving DecidableEq, Repr

namespace Event

/-- The target for which a call was made. -/
def target? : Event → Option TargetId
  | made target _ | unbound target _ | cleared target _ => some target
  | told _ => none

/-- Whether a companion was made. -/
def isMade : Event → Bool
  | made _ _ => true
  | _ => false

/-- Whether the event is a call on a companion, or tells that one became active while another one
was. -/
def matters : Event → Bool
  | told (.boundConcurrently _) => true
  | told _ => false
  | _ => true

end Event

/-- The calls made for a target. -/
def callsFor (target : TargetId) (log : List Event) : List Event :=
  log.filter fun e => e.target? == some target

variable {σ κ γ α β : Type}

/-- A computation with what is seen of its result in the log. -/
def logged (x : StateM σ α) (seen : α → List Event) : StateM (σ × List Event) α := fun p =>
  ((x p.1).1, (x p.1).2, p.2 ++ seen (x p.1).1)

/-- The code with every call logged. A companion gets the number of those made before it. -/
def Code.watched (code : Code σ κ γ) : Code (σ × List Event) (Numbered κ) γ where
  unbind k := logged (code.unbind k.companion) fun _ => [.unbound k.target k.number]
  clear k := logged (code.clear k.companion) fun _ => [.cleared k.target k.number]
  label k := logged (code.label k.companion) fun _ => []
  tell notice := logged (code.tell notice) fun _ => [.told notice]
  construct entry handle context := fun p =>
    match code.construct entry handle context p.1 with
    | (.error e, s) => (.error e, s, p.2)
    | (.ok companion, s) =>
      let number := p.2.countP (·.isMade)
      (.ok ⟨handle.target, number, companion⟩, s, p.2 ++ [.made handle.target number])

/-- The methods of companions beside a binder that they do not reach. -/
def Craft.beside {n : Type → Type} [Monad n] (craft : Craft n κ) :
    Craft (StateT (Binder κ) n) κ where
  unbind k := StateT.lift (craft.unbind k)
  clear k := StateT.lift (craft.clear k)
  label k := StateT.lift (craft.label k)
  tell notice := StateT.lift (craft.tell notice)

/-- What a program does with a binder, and what it does meanwhile to the state of the
companions. -/
inductive Call (σ γ : Type) where
  | bind (info : TypeInfo) (target : TargetId) (context : γ)
  | unbind (name : String) (target : TargetId)
  | register (entry : CompanionEntry)
  | meanwhile (change : σ → σ)

/-- A computation on a binder beside the state of companions. -/
abbrev Beside (σ κ α : Type) := StateT (Binder κ) (StateM σ) α

/-- Carries out a call. -/
def Call.run (code : Code σ κ γ) : Call σ γ → Beside σ κ Unit
  | .bind info target context => do
    let _ ← Binder.bind code.beside
      (fun entry handle => StateT.lift (code.construct entry handle context)) info target
  | .unbind name target => do
    let _ ← Binder.unbind code.beside name target
  | .register entry => modifyThe (Binder κ) fun b => b.register entry
  | .meanwhile change => StateT.lift (modify change)

/-- The call on companions whose every call is logged. -/
def Call.onLogged : Call σ γ → Call (σ × List Event) γ
  | .bind info target context => .bind info target context
  | .unbind name target => .unbind name target
  | .register entry => .register entry
  | .meanwhile change => .meanwhile fun p => (change p.1, p.2)

/-- A new binder and the state of its companions after calls. -/
def runCalls (code : Code σ κ γ) (resolver : Resolver) (s : σ) (calls : List (Call σ γ)) :
    Binder κ × σ :=
  let r := (calls.forM (Call.run code)).run { resolver } s
  (r.1.2, r.2)

/-- A new binder after calls, with its companions numbered, and the log of what it did. -/
def watch (code : Code σ κ γ) (resolver : Resolver) (s : σ) (calls : List (Call σ γ)) :
    Binder (Numbered κ) × List Event :=
  let r := runCalls code.watched resolver (s, []) (calls.map Call.onLogged)
  (r.1, r.2.2)

/-! ## Nothing changes by watching -/

/-- The binder without the numbers of its companions. -/
def forget (b : Binder (Numbered κ)) : Binder κ :=
  ⟨b.resolver, b.active.map fun entry => (entry.1, entry.2.companion)⟩

/-- A computation on numbered companions does the same as one on companions that nobody watches,
and their results are related. -/
def Shadows (R : α → β → Prop) (x : Beside (σ × List Event) (Numbered κ) α) (y : Beside σ κ β) :
    Prop :=
  ∀ b p, R (x b p).1.1 (y (forget b) p.1).1.1 ∧ (y (forget b) p.1).1.2 = forget (x b p).1.2 ∧
    (y (forget b) p.1).2 = (x b p).2.1

section Shadows

variable {α' β' : Type} {R : α → α' → Prop} {S : β → β' → Prop}

theorem Shadows.bind {x : Beside (σ × List Event) (Numbered κ) α} {y : Beside σ κ α'}
    {h : α → Beside (σ × List Event) (Numbered κ) β} {k : α' → Beside σ κ β'}
    (hx : Shadows R x y) (hh : ∀ a c, R a c → Shadows S (h a) (k c)) :
    Shadows S (x >>= h) (y >>= k) := by
  intro b p
  obtain ⟨hresult, hbinder, hstate⟩ := hx b p
  have hbind : (y >>= k) (forget b) p.1 =
      k (y (forget b) p.1).1.1 (y (forget b) p.1).1.2 (y (forget b) p.1).2 := rfl
  rw [hbind, hbinder, hstate]
  exact hh _ _ hresult _ _

theorem Shadows.pure {a : α} {c : α'} (h : R a c) :
    Shadows R (Pure.pure a : Beside (σ × List Event) (Numbered κ) α)
      (Pure.pure c : Beside σ κ α') :=
  fun _ _ => ⟨h, rfl, rfl⟩

end Shadows

theorem lookup_forget (b : Binder (Numbered κ)) (target : TargetId) :
    (forget b).active.lookup target = (b.active.lookup target).map (·.companion) := by
  obtain ⟨resolver, active⟩ := b
  induction active with
  | nil => rfl
  | cons entry active ih =>
    obtain ⟨t, k⟩ := entry
    simp only [forget, List.map_cons, lookup_cons_ite] at ih ⊢
    split_ifs
    · rfl
    · exact ih

theorem filter_forget (b : Binder (Numbered κ)) (target : TargetId) :
    (forget b).active.filter (·.1 != target) =
      (b.active.filter (·.1 != target)).map fun entry => (entry.1, entry.2.companion) := by
  rw [forget, List.filter_map]
  rfl

/-- A companion and what is left of it without its number. -/
def Unnumbered (k : Option (Numbered κ)) (k' : Option κ) : Prop := k' = k.map (·.companion)

theorem remove_shadows (target : TargetId) :
    Shadows Unnumbered (remove target : Beside (σ × List Event) (Numbered κ) (Option (Numbered κ)))
      (remove target : Beside σ κ (Option κ)) :=
  fun b _ => ⟨lookup_forget b target, congrArg (Binder.mk b.resolver) (filter_forget b target), rfl⟩

theorem insert_shadows (target : TargetId) (k : Numbered κ) :
    Shadows Unnumbered (insert target k : Beside (σ × List Event) (Numbered κ) _)
      (insert target k.companion : Beside σ κ _) :=
  fun b _ => ⟨lookup_forget b target,
    congrArg (fun l => Binder.mk b.resolver ((target, k.companion) :: l)) (filter_forget b target),
    rfl⟩

variable (code : Code σ κ γ)

theorem unbind_shadows (k : Numbered κ) :
    Shadows Eq (code.watched.beside.unbind k) (code.beside.unbind k.companion) :=
  fun _ _ => ⟨rfl, rfl, rfl⟩

theorem clear_shadows (k : Numbered κ) :
    Shadows Eq (code.watched.beside.clear k) (code.beside.clear k.companion) :=
  fun _ _ => ⟨rfl, rfl, rfl⟩

theorem label_shadows (k : Numbered κ) :
    Shadows Eq (code.watched.beside.label k) (code.beside.label k.companion) :=
  fun _ _ => ⟨rfl, rfl, rfl⟩

theorem tell_shadows (notice : Notice) :
    Shadows Eq (code.watched.beside.tell notice) (code.beside.tell notice) :=
  fun _ _ => ⟨rfl, rfl, rfl⟩

/-- The same companion is made, or the same error is given. -/
def Made : Except BindingError (Numbered κ) → Except BindingError κ → Prop
  | .ok k, .ok k' => k' = k.companion
  | .error e, .error e' => e' = e
  | _, _ => False

theorem construct_shadows (entry : CompanionEntry) (handle : Handle) (context : γ) :
    Shadows Made
      (StateT.lift (code.watched.construct entry handle context) :
        Beside (σ × List Event) (Numbered κ) _)
      (StateT.lift (code.construct entry handle context) : Beside σ κ _) := by
  intro b p
  change Made (code.watched.construct entry handle context p).1
    (code.construct entry handle context p.1).1 ∧ forget b = forget b ∧
      (code.construct entry handle context p.1).2 =
        (code.watched.construct entry handle context p).2.1
  rcases hmake : code.construct entry handle context p.1 with ⟨e | k, s⟩
  all_goals
    simp only [Code.watched, hmake, Made]
    trivial

theorem release_shadows (k : Numbered κ) :
    Shadows Eq (release code.watched.beside k) (release code.beside k.companion) :=
  (unbind_shadows code k).bind fun _ _ hr => (clear_shadows code k).bind fun _ _ _ => .pure hr

theorem releaseOrTell_shadows (k : Numbered κ) (complaint : BindingError → Notice) :
    Shadows Eq (releaseOrTell code.watched.beside k complaint)
      (releaseOrTell code.beside k.companion complaint) := by
  refine (release_shadows code k).bind fun r _ hr => ?_
  subst hr
  cases r with
  | ok _ => exact .pure rfl
  | error e => exact tell_shadows code _

theorem tellAll_shadows (steps : List String) :
    Shadows Eq (steps.forM fun step => code.watched.beside.tell (.resolving step))
      (steps.forM fun step => code.beside.tell (.resolving step)) := by
  induction steps with
  | nil => exact .pure rfl
  | cons step steps ih => exact (tell_shadows code _).bind fun _ _ _ => ih

theorem resolve_shadows (info : TypeInfo) :
    Shadows Eq (resolve code.watched.beside info) (resolve code.beside info) := by
  have hget : Shadows Eq
      (modifyGet fun b => (b.resolver.resolve info,
        { b with resolver := (b.resolver.resolve info).resolver }) :
        Beside (σ × List Event) (Numbered κ) _)
      (modifyGet fun b => (b.resolver.resolve info,
        { b with resolver := (b.resolver.resolve info).resolver }) : Beside σ κ _) :=
    fun _ _ => ⟨rfl, rfl, rfl⟩
  refine hget.bind fun resolution _ hr => ?_
  subst hr
  exact (tellAll_shadows code _).bind fun _ _ _ => .pure rfl

theorem prepare_shadows (info : TypeInfo) (target : TargetId) :
    Shadows Eq (prepare code.watched.beside info target) (prepare code.beside info target) := by
  refine (resolve_shadows code info).bind fun r _ hr => ?_
  subst hr
  rcases r with e | _ | entry
  all_goals exact .pure rfl

theorem releaseActive_shadows (info : TypeInfo) (target : TargetId) :
    Shadows Eq (releaseActive code.watched.beside info target)
      (releaseActive code.beside info target) := by
  refine (remove_shadows target).bind fun previous _ hr => ?_
  subst hr
  cases previous with
  | none => exact .pure rfl
  | some k =>
    refine (label_shadows code k).bind fun label _ hl => ?_
    subst hl
    exact (tell_shadows code _).bind fun _ _ _ => releaseOrTell_shadows code k _

theorem install_shadows (info : TypeInfo) (target : TargetId) (k : Numbered κ) :
    Shadows Eq (install code.watched.beside info target k)
      (install code.beside info target k.companion) := by
  refine (insert_shadows target k).bind fun raced _ hr => ?_
  subst hr
  cases raced with
  | none => exact .pure rfl
  | some k' => exact (tell_shadows code _).bind fun _ _ _ => releaseOrTell_shadows code k' _

theorem bind_shadows (info : TypeInfo) (target : TargetId) (context : γ) :
    Shadows Eq
      (Binder.bind code.watched.beside
        (fun entry handle => StateT.lift (code.watched.construct entry handle context)) info target)
      (Binder.bind code.beside
        (fun entry handle => StateT.lift (code.construct entry handle context)) info target) := by
  refine (prepare_shadows code info target).bind fun r _ hr => ?_
  subst hr
  rcases r with e | ⟨entry, handle⟩
  · exact .pure rfl
  refine (releaseActive_shadows code info target).bind fun _ _ _ => ?_
  refine (construct_shadows code entry handle context).bind fun made made' hmade => ?_
  rcases made with e | k <;> rcases made' with e' | k' <;> cases hmade
  · exact .pure rfl
  · exact (install_shadows code info target k).bind fun _ _ _ =>
      (tell_shadows code _).bind fun _ _ _ => .pure rfl

theorem unbindTarget_shadows (name : String) (target : TargetId) :
    Shadows Eq (Binder.unbind code.watched.beside name target)
      (Binder.unbind code.beside name target) := by
  refine (remove_shadows target).bind fun previous _ hr => ?_
  subst hr
  cases previous with
  | none => exact (tell_shadows code _).bind fun _ _ _ => .pure rfl
  | some k => exact release_shadows code k

theorem call_shadows (call : Call σ γ) :
    Shadows Eq (call.onLogged.run code.watched) (call.run code) := by
  cases call with
  | bind info target context =>
    exact (bind_shadows code info target context).bind fun _ _ _ => .pure rfl
  | unbind name target =>
    exact (unbindTarget_shadows code name target).bind fun _ _ _ => .pure rfl
  | register entry => exact fun _ _ => ⟨rfl, rfl, rfl⟩
  | meanwhile change => exact fun _ _ => ⟨rfl, rfl, rfl⟩

/-- **Watching changes nothing.** Without the numbers and the log, a watched binder and the state
of its companions are what they are when nobody watches. -/
theorem runCalls_watched (resolver : Resolver) (s : σ) (calls : List (Call σ γ)) :
    let watched := runCalls code.watched resolver (s, []) (calls.map Call.onLogged)
    (forget watched.1, watched.2.1) = runCalls code resolver s calls := by
  intro watched
  have hcalls : Shadows Eq ((calls.map Call.onLogged).forM (Call.run code.watched))
      (calls.forM (Call.run code)) := by
    induction calls with
    | nil => exact .pure rfl
    | cons call rest ih => exact (call_shadows code call).bind fun _ _ _ => ih
  obtain ⟨-, hbinder, hstate⟩ := hcalls { resolver } (s, [])
  exact Prod.ext hbinder.symm hstate.symm

end Binder
end Theming
