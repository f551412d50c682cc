/-
# User code that activates skins

Observers of a program may come to do whatever they like, as long as it comes to activations of
skins, made one after the other, each with user code that activates less deeply (`Activates`).
Actions that activate skins are such user code (`perform_activates`), and so is code that decides by
the values it gets (`reacting_activates`). All of it is steady (`Activates.orderly`).
-/

import Theming.Proofs.Steadiness

namespace Theming
namespace Live

/-- What is done by recording and by activating skins, one after the other. -/
inductive Activations (act : Act) : World → World → Prop where
  | done (w : World) : Activations act w w
  | record {w w' : World} (os : List Occurrence)
      (rest : Activations act { w with trace := w.trace ++ os } w') : Activations act w w'
  | activate {w w₁ w' : World} {name : String} {r : Except SkinError Nat}
      (h : activate act 0 name w = some (r, w₁)) (rest : Activations act w₁ w') :
      Activations act w w'

/-- The given user code does nothing but to record and to activate skins, and these calls nest at
most to a given depth. -/
def Activates (code : Action → Prop) : Nat → Act → Prop :=
  Deepens fun inner _ a w w' => code a → Activations inner w w'

/-- The setting of a program that binds with one context and whose observers run the given user
code. -/
def Setting.open (catalog : Catalog) (code : Action → Prop) : Setting where
  catalog := catalog
  contexts context := context = ⟨0, 0⟩
  actions := code

variable {catalog : Catalog} {code : Action → Prop} {act inner : Act} {w w' : World}

theorem activations_of_activate {name : String}
    (h : (do let _ ← activate inner 0 name : Step Unit) w = some ((), w')) :
    Activations inner w w' := by
  have hgives : Gives True (do let _ ← activate inner 0 name : Step Unit) w
      fun _ w' => ∃ r, activate inner 0 name w = some (r, w') := by
    refine Gives.bind (Gives.granted.mpr fun r w₁ h => ?_) fun r w₁ h => Gives.pure h
    exact ⟨r, h⟩
  obtain ⟨r, hr⟩ := Gives.granted.mp hgives () w' h
  exact .activate hr (.done w')

/-- **The actions that activate skins** are such user code. -/
theorem perform_activates (depth : Nat) :
    Activates (fun a => ∃ name, a = .activate 0 name) depth (perform depth) := by
  refine Deepens.of_tower rfl (fun depth v a w w' hrun => ?_) depth
  rintro ⟨name, rfl⟩
  exact activations_of_activate hrun

/-- User code that answers some of the values that its observers get by activating a skin. -/
def reacting (choose : Option Value → Option String) : Nat → Act
  | 0, _, _ => fun _ => none
  | depth + 1, v, _ =>
    match choose v with
    | some name => do let _ ← activate (reacting choose depth) 0 name
    | none => pure ()

theorem reacting_activates (choose : Option Value → Option String) (depth : Nat) :
    Activates code depth (reacting choose depth) := by
  refine Deepens.of_tower rfl (fun depth v a w w' hrun _ => ?_) depth
  rw [reacting] at hrun
  cases hchoose : choose v with
  | none =>
    rw [hchoose] at hrun
    obtain rfl : w = w' := congrArg Prod.snd (Option.some.inj hrun)
    exact .done w
  | some name =>
    rw [hchoose] at hrun
    exact activations_of_activate hrun

theorem Activations.steady (hinner : Orderly (.open catalog code) True inner)
    (hs : Sound (.open catalog code) w) (h : Activations inner w w') : Steady w w' := by
  induction h with
  | done w => exact .refl w
  | @record w w' os rest ih =>
    have hfirst : Steady w { w with trace := w.trace ++ os } := .retrace w _
    exact hfirst.trans (ih (hs.steady hfirst))
  | @activate w w₁ w' name r h rest ih =>
    have hfirst : Steady w w₁ := Gives.granted.mp (activate_steady hinner hs 0 name) r w₁ h
    exact hfirst.trans (ih (hs.steady hfirst))

/-- **User code that activates skins is steady**, however deep its calls nest. -/
theorem Activates.orderly {depth : Nat} (h : Activates code depth act) :
    Orderly (.open catalog code) True act := by
  refine Deepens.elim (fun _ _ _ _ _ => trivial) (fun inner act _ hinner hact => ?_) h
  refine fun a ha v w hs => Gives.granted.mpr fun _ w' hrun => ?_
  exact (hact v a w w' hrun ha).steady hinner hs

end Live
end Theming
