/-
# Fields and slots of the world

What lies at a path of a target after a field has been assigned: the new content at that path, and
the old one at every path that does not lead there. The kinds of contents (`World.kindAt?`) change
at that path only, and not at all if the new content is of the kind of the old one.
-/

import Theming.Live.Companions
import Theming.Proofs.Contents

namespace Theming
namespace Live
namespace World

variable {w : World} {t t' : TargetId} {p q : List String} {f : Content → Content}

/-- The kind of what lies at a path of a target. -/
def kindAt? (w : World) (t : TargetId) (path : List String) : Option Content.Kind :=
  (w.content? t path).map Content.kind

theorem kindAt?_eq_some {k : Content.Kind} :
    w.kindAt? t p = some k ↔ ∃ c, w.content? t p = some c ∧ c.kind = k := by
  rw [kindAt?, Option.map_eq_some_iff]

/-- Contents are only there for targets that are there. -/
theorem kindAt?_eq_of_target {target : Target} (h : w.targets[t]? = some target) :
    w.kindAt? t p = target.content.kindAt? p := by
  rw [kindAt?, content?, h]
  rfl

theorem content?_modifyContent (w : World) (t t' : TargetId) (p q : List String)
    (f : Content → Content) :
    (w.modifyContent t p f).content? t' q =
      if t' = t then w.targets[t]?.bind fun x => (x.content.modifyAt f p).at? q
      else w.content? t' q := by
  rw [content?, modifyContent, content?]
  simp only [List.getElem?_modify]
  by_cases h : t' = t
  · subst h
    rw [if_pos rfl]
    cases w.targets[t']? <;> simp
  · rw [if_neg h]
    have hne : t ≠ t' := fun h' => h h'.symm
    cases w.targets[t']? <;> simp [hne]

theorem content?_modifyContent_self :
    (w.modifyContent t p f).content? t p = (w.content? t p).map f := by
  rw [content?_modifyContent, if_pos rfl, content?]
  cases w.targets[t]? with
  | none => rfl
  | some x => exact Content.at?_modifyAt_self f p x.content

/-- A change of a leaf leaves alone what does not contain it. -/
theorem content?_modifyContent_of_leaf
    (hleaf : ∀ c, w.content? t p = some c → c.kind ≠ .part ∧ (f c).kind ≠ .part)
    (h : t' = t → ¬ q <+: p) : (w.modifyContent t p f).content? t' q = w.content? t' q := by
  rw [content?_modifyContent]
  by_cases ht : t' = t
  · subst ht
    rw [if_pos rfl, content?]
    cases hx : w.targets[t']? with
    | none => rfl
    | some x =>
      refine Content.at?_modifyAt_of_leaf (fun c hc => hleaf c ?_) (h rfl)
      rw [content?, hx]
      exact hc
  · rw [if_neg ht]

/-- A change that keeps kinds where it is made keeps all kinds. -/
theorem kindAt?_modifyContent
    (h : ∀ c, w.content? t p = some c → ∀ r, (f c).kindAt? r = c.kindAt? r) :
    (w.modifyContent t p f).kindAt? t' q = w.kindAt? t' q := by
  rw [kindAt?, kindAt?, content?_modifyContent]
  by_cases ht : t' = t
  · subst ht
    rw [if_pos rfl, content?]
    cases hx : w.targets[t']? with
    | none => rfl
    | some x =>
      refine Content.kindAt?_modifyAt (c := x.content) (fun c hc => h c ?_) q
      rw [content?, hx]
      exact hc
  · rw [if_neg ht]

/-! ## Assigning a field -/

section Assign

variable {handle : Handle} {field : String} {c old : Content}

theorem content?_assign_self (h : w.content? handle.target (handle.path ++ [field]) = some old) :
    (w.assign handle field c).content? handle.target (handle.path ++ [field]) = some c := by
  rw [assign, content?_modifyContent_self, h, Option.map_some]

theorem content?_assign_of_leaf
    (h : w.content? handle.target (handle.path ++ [field]) = some old)
    (hold : old.kind ≠ .part) (hnew : c.kind ≠ .part)
    (hq : t' = handle.target → ¬ q <+: handle.path ++ [field]) :
    (w.assign handle field c).content? t' q = w.content? t' q := by
  refine content?_modifyContent_of_leaf (fun d hd => ?_) hq
  rw [h] at hd
  obtain rfl := Option.some.inj hd
  exact ⟨hold, hnew⟩

theorem kindAt?_assign (h : w.kindAt? handle.target (handle.path ++ [field]) = some c.kind)
    (hleaf : c.kind ≠ .part) : (w.assign handle field c).kindAt? t' q = w.kindAt? t' q := by
  obtain ⟨old, hold, hkind⟩ := kindAt?_eq_some.mp h
  refine kindAt?_modifyContent fun d hd => ?_
  rw [hold] at hd
  obtain rfl := Option.some.inj hd
  exact Content.kindAt?_eq_of_leaf hkind.symm hleaf

/-- A leaf in place of another changes the kind where it is put. -/
theorem kindAt?_assign_leaf
    (h : w.content? handle.target (handle.path ++ [field]) = some old)
    (hold : old.kind ≠ .part) (hnew : c.kind ≠ .part) (t' : TargetId) (q : List String) :
    (w.assign handle field c).kindAt? t' q =
      if t' = handle.target ∧ q = handle.path ++ [field] then some c.kind
      else w.kindAt? t' q := by
  by_cases ht : t' = handle.target
  · subst ht
    rw [kindAt?, assign, content?_modifyContent, if_pos rfl]
    rw [content?] at h
    cases hx : w.targets[handle.target]? with
    | none => rw [hx] at h; cases h
    | some x =>
      rw [hx, Option.bind_some] at h
      rw [kindAt?_eq_of_target hx, Option.bind_some]
      simp only [true_and]
      exact Content.kindAt?_modifyAt_leaf h hold hnew q
  · rw [if_neg fun hand => ht hand.1, kindAt?, assign, content?_modifyContent, if_neg ht]
    rfl

end Assign

/-! ## Slots -/

theorem slots_store (w : World) (s s' : SlotId) (v : Value) :
    (w.store s v).slots[s']? =
      if s' = s then w.slots[s]?.map fun x => { x with value := some v, version := x.version + 1 }
      else w.slots[s']? := by
  rw [store, List.getElem?_modify]
  by_cases h : s' = s
  · subst h
    simp
  · have hne : s ≠ s' := fun h' => h h'.symm
    cases w.slots[s']? <;> simp [h, hne]

theorem slotAt?_eq_some {handle : Handle} {field : String} {s : SlotId} :
    w.slotAt? handle field = some s ↔
      w.kindAt? handle.target (handle.path ++ [field]) = some (.reactive s) := by
  rw [slotAt?, kindAt?]
  cases h : w.content? handle.target (handle.path ++ [field]) with
  | none => simp
  | some c => cases c <;> simp [Content.kind]

end World
end Live
end Theming
