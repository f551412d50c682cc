/-
# Checks in a row

A list is checked item by item, and the first fault ends it.

| the check of a list | |
| --- | --- |
| accepts | iff it accepts each item, and gives what it gives for each (`Except.mapM_eq_ok`) |
| reports a fault | iff it reports it for an item and accepts all before it (`Except.mapM_eq_error`) |
-/

import Theming.Proofs.Coverage

namespace Theming

/-- Whatever is in a list stands against something in a list that goes with it. -/
theorem exists_of_forall₂ {α β : Type} {R : α → β → Prop} {as : List α} {bs : List β}
    (h : List.Forall₂ R as bs) {a : α} (ha : a ∈ as) : ∃ b ∈ bs, R a b := by
  induction h with
  | nil => cases ha
  | @cons a' b as bs hab _ ih =>
    rcases List.mem_cons.mp ha with rfl | ha
    · exact ⟨b, List.mem_cons_self, hab⟩
    · obtain ⟨b', hb', hab'⟩ := ih ha
      exact ⟨b', List.mem_cons_of_mem _ hb', hab'⟩

namespace Except

variable {α β ε : Type}

/-- What two checks in a row report, one of them reports. -/
theorem bind_eq_error {x : Except ε α} {f : α → Except ε β} {e : ε} :
    (x >>= f) = .error e ↔ x = .error e ∨ ∃ a, x = .ok a ∧ f a = .error e := by
  cases x with
  | error e' => exact ⟨fun h => .inl (by cases h; rfl), by rintro (h | ⟨_, h, -⟩) <;> cases h; rfl⟩
  | ok a =>
    constructor
    · exact fun h => .inr ⟨a, rfl, h⟩
    · rintro (h | ⟨_, h, hf⟩)
      · cases h
      · cases h
        exact hf

theorem mapError_eq_ok {ε' : Type} {x : Except ε α} {g : ε → ε'} {a : α} :
    x.mapError g = .ok a ↔ x = .ok a := by
  cases x <;> simp [Except.mapError]

theorem mapError_eq_error {ε' : Type} {x : Except ε α} {g : ε → ε'} {e' : ε'} :
    x.mapError g = .error e' ↔ ∃ e, x = .error e ∧ g e = e' := by
  cases x <;> simp [Except.mapError]

theorem toOption_eq_some {x : Except ε α} {a : α} : x.toOption = some a ↔ x = .ok a := by
  cases x <;> simp [Except.toOption]

variable {f : α → Except ε β} {items : List α}

/-- **A list is accepted iff each of its items is.** -/
theorem mapM_eq_ok {found : List β} :
    items.mapM f = .ok found ↔ List.Forall₂ (fun item b => f item = .ok b) items found := by
  induction items generalizing found with
  | nil =>
    rw [List.forall₂_nil_left_iff, List.mapM_nil]
    exact ⟨fun h => (Except.ok.inj h).symm, fun h => congrArg _ h.symm⟩
  | cons item rest ih =>
    rw [List.mapM_cons, List.forall₂_cons_left_iff]
    constructor
    · intro h
      obtain ⟨b, hb, h⟩ := bind_eq_ok h
      obtain ⟨others, hothers, h⟩ := bind_eq_ok h
      exact ⟨b, others, hb, ih.mp hothers, (Except.ok.inj h).symm⟩
    · rintro ⟨b, others, hb, hothers, rfl⟩
      rw [hb, ih.mpr hothers]
      rfl

/-- **The fault of a list is that of its first item with a fault.** -/
theorem mapM_eq_error {e : ε} : items.mapM f = .error e ↔
    ∃ before item after, items = before ++ item :: after ∧
      (∀ a ∈ before, ∃ b, f a = .ok b) ∧ f item = .error e := by
  induction items with
  | nil =>
    constructor
    · intro h
      cases h
    · rintro ⟨before, item, after, h, -⟩
      cases before <;> cases h
  | cons first rest ih =>
    rw [List.mapM_cons, bind_eq_error]
    simp only [List.cons_eq_append_iff]
    constructor
    · rintro (hfirst | ⟨b, hb, h⟩)
      · exact ⟨[], first, rest, .inl ⟨rfl, rfl⟩, List.forall_mem_nil _, hfirst⟩
      · rcases bind_eq_error.mp h with hrest | ⟨_, -, h⟩
        · obtain ⟨before, item, after, rfl, hbefore, hitem⟩ := ih.mp hrest
          refine ⟨first :: before, item, after, .inr ⟨before, rfl, rfl⟩, ?_, hitem⟩
          exact List.forall_mem_cons.mpr ⟨⟨b, hb⟩, hbefore⟩
        · cases h
    · rintro ⟨before, item, after, ⟨rfl, h⟩ | ⟨before, rfl, rfl⟩, hbefore, hitem⟩
      · obtain ⟨rfl, -⟩ := List.cons.inj h
        exact .inl hitem
      · obtain ⟨⟨b, hb⟩, hbefore⟩ := List.forall_mem_cons.mp hbefore
        exact .inr ⟨b, hb, bind_eq_error.mpr (.inl (ih.mpr ⟨_, _, _, rfl, hbefore, hitem⟩))⟩

theorem exists_mapM_eq_ok (h : ∀ item ∈ items, ∃ b, f item = .ok b) :
    ∃ found, items.mapM f = .ok found := by
  cases hfound : items.mapM f with
  | ok found => exact ⟨found, rfl⟩
  | error e =>
    obtain ⟨before, item, after, rfl, -, hitem⟩ := mapM_eq_error.mp hfound
    obtain ⟨b, hb⟩ := h item (List.mem_append_right _ List.mem_cons_self)
    cases hb.symm.trans hitem

end Except
end Theming
