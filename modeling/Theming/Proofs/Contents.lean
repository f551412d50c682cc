/-
# Contents at paths

Changing what lies at a path changes nothing that lies elsewhere. Of two paths, one leads into what
the other leads to, or they part ways at some field; the three lemmas on `Content.modifyAt` are
these three cases, and each is by induction on the path that is changed.

The kind of a content is all that the rest of the world relies on: whether there is a value, an
option or a part, and which slot. A change that keeps kinds at its own path keeps them everywhere.
-/

import Mathlib.Data.List.Infix
import Theming.Proofs.Association
import Theming.Target

namespace Theming

/-- Of two fields of one object that have other names, none lies in the other. -/
theorem not_prefix_of_name_ne {p : List String} {a b : String} (h : a ≠ b) :
    ¬ p ++ [a] <+: p ++ [b] := by
  rw [List.prefix_append_right_inj]
  intro hab
  exact h (List.cons_prefix_cons.mp hab).1

namespace Content

/-! ## What lies where -/

theorem lookup_modifyField (name n : String) (f : Content → Content)
    (fields : List (String × Content)) :
    (modifyField name f fields).lookup n =
      if n = name then (fields.lookup n).map f else fields.lookup n := by
  induction fields with
  | nil => simp [modifyField]
  | cons entry rest ih =>
    obtain ⟨m, c⟩ := entry
    rw [modifyField]
    by_cases hm : m = name
    · rw [if_pos hm, lookup_cons_ite, lookup_cons_ite]
      by_cases hn : n = m
      · rw [if_pos hn, if_pos hn, if_pos (hn.trans hm), Option.map_some]
      · rw [if_neg hn, if_neg hn, if_neg fun h => hn (h.trans hm.symm)]
    · rw [if_neg hm, lookup_cons_ite, lookup_cons_ite, ih]
      by_cases hn : n = m
      · rw [if_pos hn, if_pos hn, if_neg fun h => hm (hn.symm.trans h)]
      · rw [if_neg hn, if_neg hn]

/-- Beyond what holds no fields, nothing lies. -/
theorem field?_modifyAt_cons (f : Content → Content) (name n : String) (path : List String)
    (c : Content) :
    (c.modifyAt f (name :: path)).field? n =
      if n = name then (c.field? n).map (modifyAt f path) else c.field? n := by
  cases c with
  | part fields => exact lookup_modifyField name n (modifyAt f path) fields
  | plain _ => simp [modifyAt, field?]
  | optional _ => simp [modifyAt, field?]
  | reactive _ => simp [modifyAt, field?]
  | journal _ => simp [modifyAt, field?]

theorem at?_append (p q : List String) (c : Content) :
    c.at? (p ++ q) = (c.at? p).bind (at? q) := by
  induction p generalizing c with
  | nil => rfl
  | cons name p ih =>
    rw [List.cons_append, at?, at?]
    cases c.field? name with
    | none => rfl
    | some d => exact ih d

/-- Below the path of a change lies what the change made of it. -/
theorem at?_modifyAt_append (f : Content → Content) (p q : List String) (c : Content) :
    (c.modifyAt f p).at? (p ++ q) = (c.at? p).bind fun d => (f d).at? q := by
  induction p generalizing c with
  | nil => rfl
  | cons name p ih =>
    rw [List.cons_append, at?, at?, field?_modifyAt_cons, if_pos rfl]
    cases c.field? name with
    | none => rfl
    | some d => exact ih d

theorem at?_modifyAt_self (f : Content → Content) (p : List String) (c : Content) :
    (c.modifyAt f p).at? p = (c.at? p).map f := by
  have h := at?_modifyAt_append f p [] c
  rw [List.append_nil] at h
  rw [h]
  cases c.at? p <;> rfl

/-- Above the path of a change lies what was there, changed inside. -/
theorem at?_modifyAt_above (f : Content → Content) (p q : List String) (c : Content) :
    (c.modifyAt f (p ++ q)).at? p = (c.at? p).map (modifyAt f q) := by
  induction p generalizing c with
  | nil => rfl
  | cons name p ih =>
    rw [List.cons_append, at?, at?, field?_modifyAt_cons, if_pos rfl]
    cases c.field? name with
    | none => rfl
    | some d => exact ih d

/-- Where the paths part ways, nothing changes. -/
theorem at?_modifyAt_apart (f : Content → Content) {p q : List String} (hpq : ¬ p <+: q)
    (hqp : ¬ q <+: p) (c : Content) : (c.modifyAt f p).at? q = c.at? q := by
  induction p generalizing q c with
  | nil => exact absurd List.nil_prefix hpq
  | cons name p ih =>
    cases q with
    | nil => exact absurd List.nil_prefix hqp
    | cons n q =>
      rw [at?, at?, field?_modifyAt_cons]
      by_cases hn : n = name
      · subst hn
        rw [List.cons_prefix_cons] at hpq hqp
        rw [if_pos rfl]
        cases c.field? n with
        | none => rfl
        | some d => exact ih (fun h => hpq ⟨rfl, h⟩) (fun h => hqp ⟨rfl, h⟩) d
      · rw [if_neg hn]

/-! ## Kinds -/

/-- What kind of thing a field holds; of a slot, which one. -/
inductive Kind where
  | plain
  | optional
  | reactive (slot : SlotId)
  | journal
  | part
deriving DecidableEq

/-- The kind of a content. -/
def kind : Content → Kind
  | .plain _ => .plain
  | .optional _ => .optional
  | .reactive slot => .reactive slot
  | .journal _ => .journal
  | .part _ => .part

theorem kind_modifyAt_cons (f : Content → Content) (name : String) (path : List String)
    (c : Content) : (c.modifyAt f (name :: path)).kind = c.kind := by
  cases c <;> rfl

/-- Nothing lies inside what is no part. -/
theorem at?_of_leaf {c : Content} (h : c.kind ≠ .part) {q : List String} (hq : q ≠ []) :
    c.at? q = none := by
  cases q with
  | nil => exact absurd rfl hq
  | cons name q =>
    cases c with
    | part _ => exact absurd rfl h
    | plain _ => rfl
    | optional _ => rfl
    | reactive _ => rfl
    | journal _ => rfl

/-- The kind of what lies at a path. -/
def kindAt? (c : Content) (path : List String) : Option Kind := (c.at? path).map kind

/-- Two contents that hold no fields have the same kinds at all paths if they are of one kind. -/
theorem kindAt?_eq_of_leaf {c d : Content} (h : c.kind = d.kind)
    (hleaf : c.kind ≠ .part) (r : List String) : c.kindAt? r = d.kindAt? r := by
  rw [kindAt?, kindAt?]
  by_cases hr : r = []
  · subst hr
    exact congrArg some h
  · rw [at?_of_leaf hleaf hr, at?_of_leaf (h ▸ hleaf) hr]

/-- A change keeps the kinds of all that does not lie in what it changes. -/
theorem kindAt?_modifyAt_outside (f : Content → Content) {p q : List String} (h : ¬ p <+: q)
    (c : Content) : (c.modifyAt f p).kindAt? q = c.kindAt? q := by
  rw [kindAt?, kindAt?]
  by_cases hqp : q <+: p
  · obtain ⟨r, rfl⟩ := hqp
    cases r with
    | nil => exact absurd (by rw [List.append_nil]) h
    | cons name r =>
      rw [at?_modifyAt_above, Option.map_map]
      exact congrArg (fun g => (c.at? q).map g) (funext fun d => kind_modifyAt_cons f name r d)
  · rw [at?_modifyAt_apart f h hqp]

/-- **A change that keeps the kinds of what it changes keeps all kinds.** -/
theorem kindAt?_modifyAt {f : Content → Content} {p : List String} {c : Content}
    (h : ∀ d, c.at? p = some d → ∀ r, (f d).kindAt? r = d.kindAt? r) (q : List String) :
    (c.modifyAt f p).kindAt? q = c.kindAt? q := by
  by_cases hpq : p <+: q
  · obtain ⟨r, rfl⟩ := hpq
    rw [kindAt?, kindAt?, at?_modifyAt_append, at?_append]
    cases hd : c.at? p with
    | none => rfl
    | some d => exact h d hd r
  · exact kindAt?_modifyAt_outside f hpq c

/-- A leaf in place of another changes the kind at its own path at most. -/
theorem kindAt?_modifyAt_leaf {f : Content → Content} {p : List String} {c old : Content}
    (hold : c.at? p = some old) (hleaf : old.kind ≠ .part) (hnew : (f old).kind ≠ .part)
    (q : List String) :
    (c.modifyAt f p).kindAt? q = if q = p then some (f old).kind else c.kindAt? q := by
  by_cases hpq : p <+: q
  · obtain ⟨r, rfl⟩ := hpq
    rw [kindAt?, kindAt?, at?_modifyAt_append, at?_append, hold, Option.bind_some,
      Option.bind_some]
    by_cases hr : r = []
    · subst hr
      rw [if_pos (List.append_nil p)]
      rfl
    · rw [if_neg (by simpa using hr), at?_of_leaf hleaf hr, at?_of_leaf hnew hr]
  · have hne : q ≠ p := fun h => hpq (h ▸ List.prefix_rfl)
    rw [if_neg hne, kindAt?_modifyAt_outside f hpq c]

/-- Where a leaf is changed, nothing changes at paths that do not lead to it. -/
theorem at?_modifyAt_of_leaf {f : Content → Content} {p q : List String} {c : Content}
    (hleaf : ∀ d, c.at? p = some d → d.kind ≠ .part ∧ (f d).kind ≠ .part) (h : ¬ q <+: p) :
    (c.modifyAt f p).at? q = c.at? q := by
  by_cases hpq : p <+: q
  · obtain ⟨r, rfl⟩ := hpq
    have hr : r ≠ [] := fun hr => h (by rw [hr, List.append_nil])
    rw [at?_modifyAt_append, at?_append]
    cases hd : c.at? p with
    | none => rfl
    | some d =>
      obtain ⟨hold, hnew⟩ := hleaf d hd
      rw [Option.bind_some, Option.bind_some, at?_of_leaf hold hr, at?_of_leaf hnew hr]
  · exact at?_modifyAt_apart f hpq h c

end Content

/-! ## Layouts -/

/-- Whether a kind of content is what a layout asks for. -/
def Content.Kind.Suits : Content.Kind → Layout → Prop
  | .plain, .plain _ => True
  | .optional, .optional _ => True
  | .reactive _, .reactive _ => True
  | .journal, .journal => True
  | .part, .part _ => True
  | _, _ => False

theorem Layout.at?_append (p q : List String) (l : Layout) :
    l.at? (p ++ q) = (l.at? p).bind (Layout.at? q) := by
  induction p generalizing l with
  | nil => rfl
  | cons name p ih =>
    cases l with
    | part fields =>
      rw [List.cons_append, Layout.at?, Layout.at?]
      cases fields.lookup name with
      | none => rfl
      | some m => exact ih m
    | plain _ => rfl
    | optional _ => rfl
    | reactive _ => rfl
    | journal => rfl

/-- A content that has what a layout asks for, at every path. -/
def Content.Fits (c : Content) (l : Layout) : Prop :=
  ∀ q m, l.at? q = some m → ∃ k, c.kindAt? q = some k ∧ k.Suits m

end Theming
