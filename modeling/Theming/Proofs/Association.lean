/-
# Association lists with one entry a key

The registry, the table of a resolver and the active companions of a binder are lists of pairs in
which a new pair takes the place of the one with its key. Looking up after such a change gives the
new value at that key and the old one everywhere else (`lookup_filter_ne`, `lookup_put`). So the last
one counts of all that were put under a key (`exists_last_of_mem`).
-/

import Mathlib.Data.List.Nodup

namespace Theming

variable {α β : Type} [BEq α] [LawfulBEq α]

/-- What can be looked up is in a pair. -/
theorem mem_of_lookup {a : α} {v : β} {l : List (α × β)} (h : l.lookup a = some v) :
    (a, v) ∈ l := by
  obtain ⟨before, after, rfl, -⟩ := List.lookup_eq_some_iff.mp h
  exact List.mem_append_right _ List.mem_cons_self

variable [DecidableEq α]

/-- Looking up stops at the first pair with the key. -/
theorem lookup_cons_ite (k a : α) (v : β) (l : List (α × β)) :
    ((k, v) :: l).lookup a = if a = k then some v else l.lookup a := by
  rw [List.lookup_cons]
  split <;> simp_all

/-- What can be looked up is what has a pair. -/
theorem lookup_isSome_iff (a : α) (l : List (α × β)) :
    (l.lookup a).isSome = true ↔ a ∈ l.map Prod.fst := by
  induction l with
  | nil => simp
  | cons p l ih =>
    obtain ⟨k, v⟩ := p
    rw [lookup_cons_ite, List.map_cons, List.mem_cons]
    split_ifs with h
    · simp [h]
    · simp [h, ih]

/-- With one pair a key, every pair can be looked up. -/
theorem lookup_of_mem {a : α} {v : β} {l : List (α × β)} (h : (a, v) ∈ l)
    (hkeys : (l.map Prod.fst).Nodup) : l.lookup a = some v := by
  induction l with
  | nil => cases h
  | cons p l ih =>
    obtain ⟨k, u⟩ := p
    rw [List.map_cons, List.nodup_cons] at hkeys
    rw [lookup_cons_ite]
    rcases List.mem_cons.mp h with heq | hmem
    · obtain ⟨rfl, rfl⟩ := Prod.mk.inj heq
      rw [if_pos rfl]
    · have hne : a ≠ k := fun hak => hkeys.1 (hak ▸ List.mem_map.mpr ⟨_, hmem, rfl⟩)
      rw [if_neg hne, ih hmem hkeys.2]

/-- Removing a key leaves the other keys as they are. -/
theorem lookup_filter_ne (k a : α) (l : List (α × β)) :
    (l.filter (·.1 != k)).lookup a = if a = k then none else l.lookup a := by
  induction l with
  | nil => simp
  | cons p l ih =>
    obtain ⟨b, v⟩ := p
    by_cases hb : b = k
    · rw [List.filter_cons_of_neg (by simp [hb]), ih, lookup_cons_ite, hb]
      split_ifs <;> rfl
    · rw [List.filter_cons_of_pos (by simp [hb]), lookup_cons_ite, lookup_cons_ite, ih]
      split_ifs with hab hak <;> simp_all

/-- Where nothing has been put under a key, there is nothing to remove. -/
theorem filter_ne_of_lookup {k : α} {l : List (α × β)} (h : l.lookup k = none) :
    l.filter (·.1 != k) = l := by
  refine List.filter_eq_self.mpr fun entry hentry => bne_iff_ne.mpr fun hkey => ?_
  have hsome := (lookup_isSome_iff k l).mpr (hkey ▸ List.mem_map_of_mem hentry)
  rw [h] at hsome
  cases hsome

/-- A key holds the value last put under it. -/
theorem lookup_put (k a : α) (v : β) (l : List (α × β)) :
    ((k, v) :: l.filter (·.1 != k)).lookup a = if a = k then some v else l.lookup a := by
  rw [lookup_cons_ite, lookup_filter_ne]
  split_ifs <;> rfl

omit [BEq α] [LawfulBEq α] [DecidableEq α] in
/-- Of the members of a list that have a property there is a last one. -/
theorem exists_last_of_mem {p : α → Prop} {xs : List α} (h : ∃ x ∈ xs, p x) :
    ∃ before x after, xs = before ++ x :: after ∧ p x ∧ ∀ y ∈ after, ¬ p y := by
  induction xs with
  | nil =>
    obtain ⟨x, hx, -⟩ := h
    cases hx
  | cons first rest ih =>
    by_cases hrest : ∃ x ∈ rest, p x
    · obtain ⟨before, x, after, rfl, hx, hafter⟩ := ih hrest
      exact ⟨first :: before, x, after, rfl, hx, hafter⟩
    · obtain ⟨x, hx, hpx⟩ := h
      have hnone : ∀ y ∈ rest, ¬ p y := fun y hy hpy => hrest ⟨y, hy, hpy⟩
      rcases List.mem_cons.mp hx with rfl | hx
      · exact ⟨[], x, rest, rfl, hpx, hnone⟩
      · exact absurd hpx (hnone x hx)

end Theming
