/-
# What a computation on the world comes to

`Gives short x w post` says that `x`, started in `w`, comes to a result and a world with `post`; if
`short` holds, it may run out of fuel instead. With `short := False` this promises a result, with
`short := True` it speaks of the results there are. The rules below are the same for both, so what a
step keeps is proved once.

User code is called in the middle of what user code does, but not without end: `Deepens` bounds how
deep its calls nest, whatever the kind of things that it does. What is so of user code if it is so
of the user code that it calls is proved by one induction (`Deepens.elim`).
-/

import Theming.Live.Action

namespace Theming
namespace Live

variable {α β : Type} {short : Prop}

/-- A computation comes to a result and a world as said, or runs out of fuel where that is
granted. -/
def Gives (short : Prop) (x : Step α) (w : World) (post : α → World → Prop) : Prop :=
  match x w with
  | none => short
  | some (a, w') => post a w'

/-- What comes first goes on in the world that it leaves. -/
theorem Step.bind_eq {x : Step α} {f : α → Step β} {w w' : World} {a : α}
    (h : x w = some (a, w')) : (x >>= f) w = f a w' := by
  change (x w >>= fun r => f r.1 r.2) = _
  rw [h]
  rfl

theorem Step.bind_eq_none {x : Step α} {f : α → Step β} {w : World} (h : x w = none) :
    (x >>= f) w = none := by
  change (x w >>= fun r => f r.1 r.2) = _
  rw [h]
  rfl

namespace Gives

variable {x : Step α} {w : World} {post : α → World → Prop}

theorem total : Gives False x w post ↔ ∃ a w', x w = some (a, w') ∧ post a w' := by
  unfold Gives
  constructor
  · intro h
    cases hx : x w with
    | none => rw [hx] at h; exact h.elim
    | some r => rw [hx] at h; exact ⟨r.1, r.2, rfl, h⟩
  · rintro ⟨a, w', hx, h⟩
    rw [hx]
    exact h

theorem granted : Gives True x w post ↔ ∀ a w', x w = some (a, w') → post a w' := by
  unfold Gives
  constructor
  · intro h a w' hx
    rw [hx] at h
    exact h
  · intro h
    cases hx : x w with
    | none => trivial
    | some r => exact h r.1 r.2 hx

/-- What is so of the result if there is one. -/
theorem result {a : α} {w' : World} (h : Gives short x w post) (hx : x w = some (a, w')) :
    post a w' := by
  unfold Gives at h
  rw [hx] at h
  exact h

theorem of_eq {a : α} {w' : World} (hx : x w = some (a, w')) (h : post a w') :
    Gives short x w post := by
  unfold Gives
  rw [hx]
  exact h

theorem mono {post' : α → World → Prop} (h : Gives short x w post)
    (himp : ∀ a w', post a w' → post' a w') : Gives short x w post' := by
  unfold Gives at h ⊢
  cases hx : x w with
  | none => rw [hx] at h; exact h
  | some r => rw [hx] at h; exact himp r.1 r.2 h

/-- What may be the reason for there being no result may be seen in a wider way. -/
theorem widen {short' : Prop} (h : Gives short x w post) (hshort : short → short') :
    Gives short' x w post := by
  unfold Gives at h ⊢
  cases hx : x w with
  | none => rw [hx] at h; exact hshort h
  | some r => rw [hx] at h; exact h

/-- A computation has one outcome, so what is known of it in two ways is known together. -/
theorem and {post' : α → World → Prop} (h : Gives short x w post) (h' : Gives short x w post') :
    Gives short x w fun a w' => post a w' ∧ post' a w' := by
  unfold Gives at h h' ⊢
  cases hx : x w with
  | none => rw [hx] at h; exact h
  | some r => rw [hx] at h h'; exact ⟨h, h'⟩

theorem pure {a : α} (h : post a w) : Gives short (Pure.pure a) w post := h

theorem bind {f : α → Step β} {post' : β → World → Prop} (hx : Gives short x w post)
    (hf : ∀ a w', post a w' → Gives short (f a) w' post') : Gives short (x >>= f) w post' := by
  have hrun : (x >>= f) w = (x w).bind fun r => f r.1 r.2 := by
    change (x w >>= fun r => f r.1 r.2) = _
    cases x w <;> rfl
  unfold Gives at hx ⊢
  rw [hrun]
  cases h : x w with
  | none => rw [h] at hx; exact hx
  | some r => rw [h] at hx; exact hf r.1 r.2 hx

theorem modify {f : World → World} {post : PUnit → World → Prop} (h : post ⟨⟩ (f w)) :
    Gives short (modify f : Step PUnit) w post := h

/-- What is read is the world as it is. -/
theorem get_bind {f : World → Step β} {post : β → World → Prop} (h : Gives short (f w) w post) :
    Gives short (get >>= f) w post := h

theorem modify_bind {g : World → World} {f : PUnit → Step β} {post : β → World → Prop}
    (h : Gives short (f ⟨⟩) (g w) post) :
    Gives short (MonadState.modifyGet (fun w => (⟨⟩, g w)) >>= f) w post := h

/-- **A loop keeps an invariant** that says how far it has come. -/
theorem forM {f : β → Step PUnit} {items : List β} (inv : List β → World → Prop)
    (hinit : inv [] w)
    (hstep : ∀ done item rest, items = done ++ item :: rest → ∀ w, inv done w →
      Gives short (f item) w fun _ w' => inv (done ++ [item]) w') :
    Gives short (items.forM f) w fun _ w' => inv items w' := by
  have hloop : ∀ rest done w, items = done ++ rest → inv done w →
      Gives short (rest.forM f) w fun _ w' => inv items w' := by
    intro rest
    induction rest with
    | nil =>
      intro done w hitems hinv
      rw [List.append_nil] at hitems
      exact pure (hitems ▸ hinv)
    | cons item rest ih =>
      intro done w hitems hinv
      refine (hstep done item rest hitems w hinv).bind fun _ w' hinv' => ?_
      exact ih (done ++ [item]) w' (by rw [hitems, List.append_assoc, List.singleton_append]) hinv'
  exact hloop items [] w rfl hinit

end Gives

/-! ## User code that user code calls -/

/-- User code that never has a result. -/
def mute : Act := fun _ _ _ => none

/-- User code whose calls nest at most to a given depth: what it does is of a kind, given the user
code that is called in the middle of it, and this nests less deeply; in the end there is none. -/
def Deepens (kind : Act → Option Value → Action → World → World → Prop) : Nat → Act → Prop
  | 0, act => ∀ v a w w', act v a w = some ((), w') → kind mute v a w w'
  | depth + 1, act => ∃ inner, Deepens kind depth inner ∧
      ∀ v a w w', act v a w = some ((), w') → kind inner v a w w'

namespace Deepens

variable {kind : Act → Option Value → Action → World → World → Prop} {act : Act} {depth : Nat}

/-- **Whatever is so of user code if it is so of the user code that it calls**, is so however deep
its calls nest. -/
theorem elim {P : Act → Prop} (hmute : P mute)
    (hcalls : ∀ inner act, (∃ depth, Deepens kind depth inner) → P inner →
      (∀ v a w w', act v a w = some ((), w') → kind inner v a w w') → P act)
    (h : Deepens kind depth act) : P act := by
  induction depth generalizing act with
  | zero => exact hcalls mute act ⟨0, nofun⟩ hmute h
  | succ depth ih =>
    obtain ⟨inner, hinner, hact⟩ := h
    exact hcalls inner act ⟨depth, hinner⟩ (ih hinner) hact

/-- User code that is given depth by depth. -/
theorem of_tower {tower : Nat → Act} (hzero : tower 0 = mute)
    (hsucc : ∀ depth v a w w', tower (depth + 1) v a w = some ((), w') →
      kind (tower depth) v a w w') (depth : Nat) : Deepens kind depth (tower depth) := by
  induction depth with
  | zero => exact hzero ▸ nofun
  | succ depth ih => exact ⟨tower depth, ih, hsucc depth⟩

end Deepens
end Live
end Theming
