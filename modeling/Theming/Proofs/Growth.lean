/-
# New targets keep the world in order

New content has slots of its own, numbered from the first free one on. That is proved along the
layout, with its list of fields beside it (`fresh_grown`). The new target comes after those that are
there (`World.addTarget_eq`), so all that is said of a target that has a type goes on to hold
(`World.types_grown`, `World.shapes_grown`), whatever else is asked of the world.
-/

import Theming.Proofs.Sound

namespace Theming

namespace Content

/-- The slots of a content are numbered from `lo` up to `hi`, and each is at one path. -/
structure Owns (c : Content) (lo hi : Nat) : Prop where
  ranged : ∀ p (s : Nat), c.kindAt? p = some (.reactive s) → lo ≤ s ∧ s < hi
  apart : ∀ p p' s, c.kindAt? p = some (.reactive s) → c.kindAt? p' = some (.reactive s) → p = p'

theorem Owns.of_leaf {c : Content} (hleaf : c.kind ≠ .part) {lo hi : Nat}
    (h : ∀ s : Nat, c.kind = .reactive s → lo ≤ s ∧ s < hi) : c.Owns lo hi := by
  have hroot : ∀ p s, c.kindAt? p = some (.reactive s) → p = [] ∧ c.kind = .reactive s := by
    intro p s hp
    rw [kindAt?] at hp
    by_cases hnil : p = []
    · subst hnil
      exact ⟨rfl, Option.some.inj hp⟩
    · rw [at?_of_leaf hleaf hnil] at hp
      cases hp
  refine ⟨fun p s hp => h s (hroot p s hp).2, fun p p' s hp hp' => ?_⟩
  rw [(hroot p s hp).1, (hroot p' s hp').1]

/-- What lies in the fields of an object is in the first field or in the others. -/
theorem kindAt?_part_cons (name n : String) (c : Content) (rest : List (String × Content))
    (p : List String) :
    (part ((name, c) :: rest)).kindAt? (n :: p) =
      if n = name then c.kindAt? p else (part rest).kindAt? (n :: p) := by
  rw [kindAt?, kindAt?, kindAt?, at?, at?, field?, field?, lookup_cons_ite]
  split_ifs <;> rfl

theorem Owns.cons {name : String} {c : Content} {rest : List (String × Content)}
    {lo mid hi : Nat} (hc : c.Owns lo mid) (hrest : (part rest).Owns mid hi) (hlo : lo ≤ mid)
    (hhi : mid ≤ hi) : (part ((name, c) :: rest)).Owns lo hi := by
  refine ⟨fun p s hp => ?_, fun p p' s hp hp' => ?_⟩
  · cases p with
    | nil => cases hp
    | cons n p =>
      rw [kindAt?_part_cons] at hp
      split_ifs at hp
      · have h := hc.ranged p s hp
        omega
      · have h := hrest.ranged (n :: p) s hp
        omega
  · cases p with
    | nil => cases hp
    | cons n p =>
      cases p' with
      | nil => cases hp'
      | cons n' p' =>
        rw [kindAt?_part_cons] at hp hp'
        split_ifs at hp hp' with hn hn' hn'
        · rw [hn, hn', hc.apart p p' s hp hp']
        · have h := hc.ranged p s hp
          have h' := hrest.ranged (n' :: p') s hp'
          omega
        · have h := hrest.ranged (n :: p) s hp
          have h' := hc.ranged p' s hp'
          omega
        · exact hrest.apart (n :: p) (n' :: p') s hp hp'

theorem fits_leaf {c : Content} {l : Layout} (h : c.kind.Suits l)
    (hl : ∀ name p, l.at? (name :: p) = none) : c.Fits l := by
  intro p m hm
  cases p with
  | nil =>
    obtain rfl := Option.some.inj hm
    exact ⟨c.kind, rfl, h⟩
  | cons name p =>
    rw [hl] at hm
    cases hm

theorem Fits.cons {name : String} {c : Content} {l : Layout} {rest : List (String × Content)}
    {fields : List (String × Layout)} (hc : c.Fits l) (hrest : (part rest).Fits (.part fields)) :
    (part ((name, c) :: rest)).Fits (.part ((name, l) :: fields)) := by
  intro p m hm
  cases p with
  | nil =>
    obtain rfl := Option.some.inj hm
    exact ⟨.part, rfl, trivial⟩
  | cons n p =>
    rw [Layout.at?, lookup_cons_ite] at hm
    rw [kindAt?_part_cons]
    split_ifs at hm ⊢ with hn
    · exact hc p m hm
    · refine hrest (n :: p) m ?_
      rw [Layout.at?]
      exact hm

end Content

namespace Live

/-- Content was made with new slots for it alone, as a layout asks for. -/
structure Grown (w : World) (l : Layout) (c : Content) (w' : World) (n : Nat) : Prop where
  world : w' = { w with slots := w.slots ++ List.replicate n {} }
  fits : c.Fits l
  owns : c.Owns w.slots.length (w.slots.length + n)

theorem World.growth_trans (w : World) (n k : Nat) :
    ({ w with slots := (w.slots ++ List.replicate n {}) ++ List.replicate k {} } : World) =
      { w with slots := w.slots ++ List.replicate (n + k) {} } := by
  rw [List.append_assoc, List.replicate_append_replicate]

mutual

theorem fresh_grown (w : World) (l : Layout) :
    ∃ n, Grown w l (w.fresh l).1 (w.fresh l).2 n := by
  cases l with
  | plain form =>
    rw [World.fresh]
    exact ⟨0, by simp, Content.fits_leaf trivial fun _ _ => rfl,
      .of_leaf (c := .plain _) nofun nofun⟩
  | optional form =>
    rw [World.fresh]
    exact ⟨0, by simp, Content.fits_leaf trivial fun _ _ => rfl,
      .of_leaf (c := .optional _) nofun nofun⟩
  | journal =>
    rw [World.fresh]
    exact ⟨0, by simp, Content.fits_leaf trivial fun _ _ => rfl,
      .of_leaf (c := .journal _) nofun nofun⟩
  | reactive form =>
    rw [World.fresh]
    refine ⟨1, rfl, Content.fits_leaf trivial fun _ _ => rfl,
      .of_leaf (c := .reactive _) nofun fun s hs => ?_⟩
    obtain rfl := Content.Kind.reactive.inj hs
    exact ⟨le_rfl, Nat.lt_succ_self _⟩
  | part fields =>
    rw [World.fresh]
    exact freshAll_grown w fields

theorem freshAll_grown (w : World) (fields : List (String × Layout)) :
    ∃ n, Grown w (.part fields) (.part (w.freshAll fields).1) (w.freshAll fields).2 n := by
  cases fields with
  | nil =>
    rw [World.freshAll]
    refine ⟨0, by simp, fun p m hm => ?_, fun p s hp => ?_, fun p p' s hp => ?_⟩
    · cases p with
      | nil => exact ⟨.part, rfl, by cases hm; trivial⟩
      | cons _ _ => cases hm
    · cases p <;> cases hp
    · cases p <;> cases hp
  | cons field rest =>
    obtain ⟨name, l⟩ := field
    obtain ⟨n, hworld, hfits, howns⟩ := fresh_grown w l
    rw [World.freshAll]
    generalize w.fresh l = r at hworld hfits howns ⊢
    obtain ⟨c, w₁⟩ := r
    dsimp only at hworld hfits howns ⊢
    obtain ⟨k, hworld', hfits', howns'⟩ := freshAll_grown w₁ rest
    generalize w₁.freshAll rest = r at hworld' hfits' howns' ⊢
    obtain ⟨others, w₂⟩ := r
    dsimp only at hworld' hfits' howns' ⊢
    have hlength : w₁.slots.length = w.slots.length + n := by
      rw [hworld, List.length_append, List.length_replicate]
    rw [hlength, Nat.add_assoc] at howns'
    refine ⟨n + k, ?_, hfits.cons hfits', howns.cons howns' (by omega) (by omega)⟩
    rw [hworld', hworld]
    exact w.growth_trans n k

end

/-! ## New targets -/

/-- A target comes after those that are there, and its slots after theirs. -/
def World.grown (w : World) (T : TypeDefinition) (c : Content) (n : Nat) : World :=
  { w with
    slots := w.slots ++ List.replicate n {}
    targets := w.targets ++ [⟨T, c⟩] }

variable {setting : Setting} {w : World} {T T' : TypeDefinition} {c : Content} {n : Nat}
  {t : TargetId} {p : List String}

namespace World

/-- **A new target comes after those that are there**, with slots of its own. -/
theorem addTarget_eq (w : World) (T : TypeDefinition) :
    ∃ n c, (w.addTarget T).2 = w.grown T c n ∧ c.Fits T.layout ∧
      c.Owns w.slots.length (w.slots.length + n) := by
  obtain ⟨n, hworld, hfits, howns⟩ := fresh_grown w T.layout
  have hadded : (w.addTarget T).2 = { (w.fresh T.layout).2 with
      targets := (w.fresh T.layout).2.targets ++ [⟨T, (w.fresh T.layout).1⟩] } := rfl
  refine ⟨n, (w.fresh T.layout).1, ?_, hfits, howns⟩
  rw [hadded, hworld, grown]

theorem targets_grown : (w.grown T c n).targets[t]? =
    if t = w.targets.length then some ⟨T, c⟩ else w.targets[t]? := by
  have htargets : (w.grown T c n).targets = w.targets ++ [⟨T, c⟩] := rfl
  rw [htargets, List.getElem?_append]
  split_ifs with hlt heq heq
  · exact absurd heq (Nat.ne_of_lt hlt)
  · rfl
  · rw [heq, Nat.sub_self]
    rfl
  · have hlast : t - w.targets.length ≠ 0 := fun h =>
      heq (Nat.le_antisymm (Nat.sub_eq_zero_iff_le.mp h) (Nat.le_of_not_lt hlt))
    rw [List.getElem?_singleton, if_neg hlast, List.getElem?_eq_none (Nat.le_of_not_lt hlt)]

theorem content?_grown : (w.grown T c n).content? t p =
    if t = w.targets.length then c.at? p else w.content? t p := by
  rw [content?, targets_grown]
  split_ifs <;> rfl

theorem kindAt?_grown : (w.grown T c n).kindAt? t p =
    if t = w.targets.length then c.kindAt? p else w.kindAt? t p := by
  rw [kindAt?, content?_grown]
  split_ifs <;> rfl

theorem slots_length_grown : (w.grown T c n).slots.length = w.slots.length + n := by
  rw [grown, List.length_append, List.length_replicate]

/-- A target with a type is not the next one. -/
theorem ne_length_of_typeOf? (h : w.typeOf? t = some T) : t ≠ w.targets.length := by
  obtain ⟨x, hx, -⟩ := Option.map_eq_some_iff.mp h
  exact Nat.ne_of_lt (List.getElem?_eq_some_iff.mp hx).1

theorem typeOf?_grown (h : w.typeOf? t = some T') : (w.grown T c n).typeOf? t = some T' := by
  rw [typeOf?, targets_grown, if_neg (ne_length_of_typeOf? h)]
  exact h

/-- A target that is there now is the new one, or it was there before. -/
theorem of_typeOf?_grown (h : (w.grown T c n).typeOf? t = some T') :
    (t = w.targets.length ∧ T' = T) ∨ (t ≠ w.targets.length ∧ w.typeOf? t = some T') := by
  rw [typeOf?, targets_grown] at h
  split_ifs at h with ht
  · exact .inl ⟨ht, (Option.some.inj h).symm⟩
  · exact .inr ⟨ht, h⟩

/-- All targets are of types of a catalog, if the new one is. -/
theorem types_grown {catalog : Catalog} (h : ∀ t T, w.typeOf? t = some T → catalog.has T)
    (hT : catalog.has T) : ∀ t T', (w.grown T c n).typeOf? t = some T' → catalog.has T' := by
  intro t T' hT'
  rcases of_typeOf?_grown hT' with ⟨-, rfl⟩ | ⟨-, hold⟩
  · exact hT
  · exact h t T' hold

/-- All fields hold what their layouts ask for, if those of the new target do. -/
theorem shapes_grown (h : ∀ t T, w.typeOf? t = some T → ∀ p l, T.layout.at? p = some l →
      ∃ k, w.kindAt? t p = some k ∧ k.Suits l) (hfits : c.Fits T.layout) :
    ∀ t T', (w.grown T c n).typeOf? t = some T' → ∀ p l, T'.layout.at? p = some l →
      ∃ k, (w.grown T c n).kindAt? t p = some k ∧ k.Suits l := by
  intro t T' hT' p l hl
  rw [kindAt?_grown]
  rcases of_typeOf?_grown hT' with ⟨rfl, rfl⟩ | ⟨ht, hold⟩
  · rw [if_pos rfl]
    exact hfits p l hl
  · rw [if_neg ht]
    exact h t T' hold p l hl

/-- Companions stay with their targets. -/
theorem Attached.grown {catalog : Catalog} {companion : Companion} {handle : Handle}
    (h : w.Attached catalog companion handle) :
    (w.grown T c n).Attached catalog companion handle := by
  obtain ⟨T', A, name, hT', hrest⟩ := h
  exact ⟨T', A, name, typeOf?_grown hT', hrest⟩

end World

/-- **A new target keeps the world in order.** -/
theorem Sound.addTarget (hs : Sound setting w) (hT : setting.catalog.has T) :
    Sound setting (w.addTarget T).2 := by
  obtain ⟨n, c, hworld, hfits, howns⟩ := w.addTarget_eq T
  rw [hworld]
  exact
    { hs with
      types := World.types_grown hs.types hT
      shapes := World.shapes_grown hs.shapes hfits
      ranged := by
        intro t p s hp
        rw [World.kindAt?_grown] at hp
        rw [World.slots_length_grown]
        split_ifs at hp
        · exact (howns.ranged p s hp).2
        · exact Nat.lt_add_right n (hs.ranged t p s hp)
      apart := by
        intro t p t' p' s hp hp'
        rw [World.kindAt?_grown] at hp hp'
        split_ifs at hp hp' with ht ht' ht'
        · exact ⟨ht.trans ht'.symm, howns.apart p p' s hp hp'⟩
        · exact absurd (hs.ranged t' p' s hp') (Nat.not_lt.mpr (howns.ranged p s hp).1)
        · exact absurd (hs.ranged t p s hp) (Nat.not_lt.mpr (howns.ranged p' s hp').1)
        · exact hs.apart t p t' p' s hp hp'
      acts := by
        intro x hx
        rcases List.mem_append.mp hx with hx | hx
        · exact hs.acts x hx
        · rw [List.eq_of_mem_replicate hx]
          intro o ho
          cases ho
      attached := by
        intro id companion h hc htarget
        exact (hs.attached id companion h hc htarget).grown }

end Live
end Theming
