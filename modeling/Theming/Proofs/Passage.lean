/-
# A pass, type by type

A pass takes each type once, in order, from the tree that the types before it have left. What
becomes of the types is its outcomes; all that is reported can be told from them
(`emitAll_records`).

An outcome puts a text at a location if its companion is written there. Since trees only grow, the
locations of files can be told from the tree at the end of the pass.

| at a location | is found after the pass |
| --- | --- |
| nothing was put | what was there (`at?_of_unput`) |
| texts were put | the last one of them (`at?_of_last`) |

From the tree that a pass has left, another pass comes to the same (`outcomes_again`).
-/

import Theming.Proofs.Collisions
import Theming.Proofs.Saving

namespace Theming
namespace Emission

/-- What became of a type. -/
structure Outcome where
  type : DeclaringType
  /-- The file of its companion, unless it failed. -/
  result : Except EmitError String

namespace Outcome

/-- What is reported of a type whose companion was written. -/
def written? (o : Outcome) : Option EmittedCompanion :=
  match o.result with
  | .ok file => some ⟨o.type.qualifiedName, o.type.companionPath, file⟩
  | .error _ => none

/-- What is reported of a type that failed. -/
def failure? (o : Outcome) : Option (String × EmitError) :=
  match o.result with
  | .ok _ => none
  | .error e => some (o.type.qualifiedName, e)

theorem written?_eq_some {o : Outcome} {c : EmittedCompanion} : o.written? = some c ↔
    o.result = .ok c.file ∧ c.declaring = o.type.qualifiedName ∧
      c.companion = o.type.companionPath := by
  obtain ⟨type, file | e⟩ := o
  · simp [written?]
  · obtain ⟨declaring, companion, file⟩ := c
    simp only [written?, Option.some.injEq, EmittedCompanion.mk.injEq, Except.ok.injEq]
    tauto

theorem failure?_eq_some {o : Outcome} {f : String × EmitError} : o.failure? = some f ↔
    o.result = .error f.2 ∧ f.1 = o.type.qualifiedName := by
  obtain ⟨type, e | file⟩ := o
  · obtain ⟨declaring, error⟩ := f
    simp only [failure?, Option.some.injEq, Prod.mk.injEq, Except.error.injEq]
    tauto
  · simp [failure?]

end Outcome
end Emission

namespace Emitter

open Emission

variable {emitter : Emitter} {tree tree' : FileTree}

/-- What becomes of types, one after the other. -/
def outcomes (emitter : Emitter) : List DeclaringType → FileTree → List Outcome
  | [], _ => []
  | ty :: rest, tree =>
    ⟨ty, (emitter.emit ty tree).1⟩ :: outcomes emitter rest (emitter.emit ty tree).2

/-- The tree that types leave, one after the other. -/
def treeAfter (emitter : Emitter) (tys : List DeclaringType) (tree : FileTree) : FileTree :=
  tys.foldl (fun tree ty => (emitter.emit ty tree).2) tree

theorem treeAfter_cons (emitter : Emitter) (ty : DeclaringType) (rest : List DeclaringType)
    (tree : FileTree) :
    emitter.treeAfter (ty :: rest) tree = emitter.treeAfter rest (emitter.emit ty tree).2 := rfl

/-- Each type has one outcome, in order. -/
theorem outcomes_types (emitter : Emitter) (tys : List DeclaringType) (tree : FileTree) :
    (emitter.outcomes tys tree).map Outcome.type = tys := by
  induction tys generalizing tree with
  | nil => rfl
  | cons ty rest ih => rw [outcomes, List.map_cons, ih]

theorem treeAfter_grows (emitter : Emitter) (tys : List DeclaringType) (tree : FileTree) :
    tree.Grows (emitter.treeAfter tys tree) := by
  induction tys generalizing tree with
  | nil => exact .refl tree
  | cons ty rest ih => exact (emitter.emit_grows ty tree).trans (ih _)

/-- An outcome is that of a type in a tree which the pass comes by. -/
theorem exists_emit_of_mem {tys : List DeclaringType} {o : Outcome}
    (ho : o ∈ emitter.outcomes tys tree) :
    ∃ passed, tree.Grows passed ∧ o.result = (emitter.emit o.type passed).1 ∧
      (emitter.emit o.type passed).2.Grows (emitter.treeAfter tys tree) := by
  induction tys generalizing tree with
  | nil => cases ho
  | cons ty rest ih =>
    rw [outcomes] at ho
    rcases List.mem_cons.mp ho with rfl | ho
    · exact ⟨tree, .refl tree, rfl, emitter.treeAfter_grows rest _⟩
    · obtain ⟨passed, hgrows, hresult, hrest⟩ := ih ho
      exact ⟨passed, (emitter.emit_grows ty tree).trans hgrows, hresult, hrest⟩

theorem file_of_mem {tys : List DeclaringType} {o : Outcome}
    (ho : o ∈ emitter.outcomes tys tree) {file : String} (h : o.result = .ok file) :
    emitter.companionFile o.type = file := by
  obtain ⟨passed, -, hresult, -⟩ := exists_emit_of_mem ho
  exact emit_file (hresult.symm.trans h)

end Emitter

/-! ## What is reported -/

namespace Emission
namespace Pass

/-- What a pass has taken down, and the tree it has come by, from another pass on. -/
structure Records (pass : Pass) (os : List Outcome) (tree : FileTree) (pass' : Pass) : Prop where
  written : pass'.report.written = pass.report.written ++ os.filterMap Outcome.written?
  failed : pass'.report.failed = pass.report.failed ++ os.filterMap Outcome.failure?
  tree : pass'.tree = tree

theorem claim_records (pass : Pass) (companion declaring : String) :
    pass.Records [] pass.tree (pass.claim companion declaring) := by
  rw [claim]
  cases pass.claimed.lookup companion <;>
    exact ⟨(List.append_nil _).symm, (List.append_nil _).symm, rfl⟩

theorem record_records (pass : Pass) (ty : DeclaringType) (result : Except EmitError String) :
    pass.Records [⟨ty, result⟩] pass.tree
      (pass.record ty.companionPath ty.qualifiedName result) := by
  cases result
  · exact ⟨(List.append_nil _).symm, rfl, rfl⟩
  · exact ⟨rfl, (List.append_nil _).symm, rfl⟩

theorem Records.trans {pass pass' pass'' : Pass} {os others : List Outcome} {tree tree' : FileTree}
    (h : pass.Records os tree pass') (h' : pass'.Records others tree' pass'') :
    pass.Records (os ++ others) tree' pass'' :=
  ⟨by rw [h'.written, h.written, List.filterMap_append, List.append_assoc],
    by rw [h'.failed, h.failed, List.filterMap_append, List.append_assoc], h'.tree⟩

/-- One type: its outcome is taken down, and the pass goes on with the tree it leaves. -/
theorem step_records (emitter : Emitter) (pass : Pass) (ty : DeclaringType) :
    pass.Records [⟨ty, (emitter.emit ty pass.tree).1⟩] (emitter.emit ty pass.tree).2
      (pass.step emitter ty) := by
  have hclaim := pass.claim_records ty.companionPath ty.qualifiedName
  rw [step]
  generalize pass.claim ty.companionPath ty.qualifiedName = claimed at hclaim ⊢
  rw [hclaim.tree]
  obtain ⟨result, tree⟩ := emitter.emit ty pass.tree
  have hrecord := record_records { claimed with tree } ty result
  have hwritten : pass.Records [] tree { claimed with tree } := ⟨hclaim.written, hclaim.failed, rfl⟩
  exact hwritten.trans hrecord

/-- All types, one after the other. -/
theorem foldl_records (emitter : Emitter) (tys : List DeclaringType) (pass : Pass) :
    pass.Records (emitter.outcomes tys pass.tree) (emitter.treeAfter tys pass.tree)
      (tys.foldl (step emitter) pass) := by
  induction tys generalizing pass with
  | nil => exact ⟨(List.append_nil _).symm, (List.append_nil _).symm, rfl⟩
  | cons ty rest ih =>
    have hstep := pass.step_records emitter ty
    have hrest := ih (pass.step emitter ty)
    rw [hstep.tree] at hrest
    exact hstep.trans hrest

end Pass
end Emission

namespace Emitter

open Emission

variable {emitter : Emitter} {tree tree' : FileTree} {tys : List DeclaringType}

/-- **What a pass reports can be told from the outcomes of its types.** -/
theorem emitAll_records (emitter : Emitter) (models : List DeclaringType) (tree : FileTree) :
    let tys := models.flatMap DeclaringType.qualifying
    let os := emitter.outcomes tys tree
    let pass := emitter.emitAll models tree
    pass.report = {
      written := os.filterMap Outcome.written?
      failed := os.filterMap Outcome.failure?
      collisions := (collisions [] tys).map Collision.companion } ∧
    pass.tree = emitter.treeAfter tys tree := by
  have hrecords := Pass.foldl_records emitter (models.flatMap DeclaringType.qualifying) { tree }
  have hreports := (emitter.emitAll_reports models tree).1
  rw [emitAll, Pass.close] at hreports ⊢
  generalize List.foldl .. = pass at hrecords hreports ⊢
  obtain ⟨tree', ⟨written, failed, collisions⟩, claimed, log⟩ := pass
  obtain rfl : written = _ := hrecords.written
  obtain rfl : failed = _ := hrecords.failed
  obtain rfl : collisions = _ := hreports
  exact ⟨rfl, hrecords.tree⟩

/-! ## Again -/

/-- **Once more the same becomes of all types**, and the tree gets no folder and no file that it
does not have. -/
theorem outcomes_again
    (hfound : ∀ o ∈ emitter.outcomes tys tree, ∀ e, o.result = .error e → ¬ e.IsMissing)
    (hgrows : (emitter.treeAfter tys tree).Grows tree') :
    emitter.outcomes tys tree' = emitter.outcomes tys tree ∧
      (emitter.treeAfter tys tree').Grows tree' := by
  induction tys generalizing tree tree' with
  | nil => exact ⟨rfl, .refl tree'⟩
  | cons ty rest ih =>
    rw [treeAfter_cons] at hgrows ⊢
    rw [outcomes] at hfound ⊢
    obtain ⟨hresult, hback⟩ := emit_again (hfound _ List.mem_cons_self)
      ((emitter.treeAfter_grows rest _).trans hgrows)
    obtain ⟨hrest, hrestBack⟩ := ih (fun o ho => hfound o (List.mem_cons_of_mem _ ho))
      (hgrows.trans (emitter.emit_grows ty tree'))
    rw [outcomes, hresult, hrest]
    exact ⟨rfl, hrestBack.trans hback⟩

/-! ## What is found where -/

/-- The companion of an outcome is written, with a text, at a location. -/
structure Puts (emitter : Emitter) (o : Outcome) (tree : FileTree) (location : Location)
    (text : String) : Prop where
  real : emitter.dryRun = false
  render : Companion.render Companion.defaultVisibility o.type = .ok (some text)
  locate : ∃ file, o.result = .ok file ∧ tree.locate file = .ok location

variable {location : Location} {text : String}

theorem Puts.grows {o : Outcome} (h : emitter.Puts o tree location text)
    (hgrows : tree.Grows tree') : emitter.Puts o tree' location text := by
  obtain ⟨file, hresult, hlocate⟩ := h.locate
  exact ⟨h.real, h.render, file, hresult, hgrows.locate hlocate nofun⟩

/-- What is written is put somewhere. -/
theorem exists_puts {o : Outcome} (ho : o ∈ emitter.outcomes tys tree)
    (hreal : emitter.dryRun = false)
    (hrender : Companion.render Companion.defaultVisibility o.type = .ok (some text))
    {file : String} (h : o.result = .ok file) :
    ∃ location, emitter.Puts o (emitter.treeAfter tys tree) location text := by
  obtain ⟨passed, -, hresult, hgrows⟩ := exists_emit_of_mem ho
  obtain ⟨location, hlocate, -, -⟩ := emit_written hreal hrender (hresult.symm.trans h)
  exact ⟨location, hreal, hrender, file, h, hgrows.locate hlocate nofun⟩

/-- A text that is put is found. -/
theorem emit_put {ty : DeclaringType}
    (h : emitter.Puts ⟨ty, (emitter.emit ty tree).1⟩ tree' location text)
    (hgrows : (emitter.emit ty tree).2.Grows tree') :
    (emitter.emit ty tree).2.at? location = some (.file text.toUTF8) := by
  obtain ⟨file, hresult, hlocate⟩ := h.locate
  obtain ⟨there, hthere, hentry, -⟩ := emit_written h.real h.render hresult
  have hsame := (hgrows.locate hthere nofun).symm.trans hlocate
  rw [← Except.ok.inj hsame, hentry]

/-- Where nothing is put, everything is kept. -/
theorem emit_unput {ty : DeclaringType} {entry : Entry}
    (h : ∀ text, ¬ emitter.Puts ⟨ty, (emitter.emit ty tree).1⟩ tree' location text)
    (hgrows : (emitter.emit ty tree).2.Grows tree') (hentry : tree.at? location = some entry) :
    (emitter.emit ty tree).2.at? location = some entry := by
  cases hresult : (emitter.emit ty tree).1 with
  | error e => exact (emit_failed hresult).entries hentry
  | ok file =>
    rcases emitter.emit_cases ty with ⟨hreal, text, hrender⟩ | hunsaved
    · obtain ⟨there, hthere, -, hother⟩ := emit_written hreal hrender hresult
      refine hother location entry (fun heq => ?_) hentry
      subst heq
      exact h text ⟨hreal, hrender, file, hresult, hgrows.locate hthere nofun⟩
    · rw [hunsaved]
      exact hentry

/-- **Where no type puts anything, a pass leaves what is there.** -/
theorem at?_of_unput {entry : Entry}
    (h : ∀ o ∈ emitter.outcomes tys tree, ∀ text,
      ¬ emitter.Puts o (emitter.treeAfter tys tree) location text)
    (hentry : tree.at? location = some entry) :
    (emitter.treeAfter tys tree).at? location = some entry := by
  induction tys generalizing tree with
  | nil => exact hentry
  | cons ty rest ih =>
    rw [treeAfter_cons] at h ⊢
    rw [outcomes] at h
    refine ih (fun o ho => h o (List.mem_cons_of_mem _ ho)) ?_
    exact emit_unput (h _ List.mem_cons_self) (emitter.treeAfter_grows rest _) hentry

/-- **Where types put texts, a pass leaves the last one.** -/
theorem at?_of_last {before after : List Outcome} {o : Outcome}
    (hos : emitter.outcomes tys tree = before ++ o :: after)
    (hputs : emitter.Puts o (emitter.treeAfter tys tree) location text)
    (hlast : ∀ o ∈ after, ∀ text, ¬ emitter.Puts o (emitter.treeAfter tys tree) location text) :
    (emitter.treeAfter tys tree).at? location = some (.file text.toUTF8) := by
  induction tys generalizing tree before with
  | nil => simp [outcomes] at hos
  | cons ty rest ih =>
    rw [treeAfter_cons] at hputs hlast ⊢
    rw [outcomes] at hos
    cases before with
    | nil =>
      obtain ⟨rfl, rfl⟩ := List.cons.inj hos
      exact at?_of_unput hlast (emit_put hputs (emitter.treeAfter_grows rest _))
    | cons first before =>
      exact ih (List.cons.inj hos).2 hputs hlast

end Emitter
end Theming
