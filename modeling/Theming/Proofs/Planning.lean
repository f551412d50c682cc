/-
# What a dry run tells

A dry run makes all sources and writes none. So it comes to the same as a real run would, if no
folder and no file were in the way.

| in a real run a type | in a dry run |
| --- | --- |
| is written to a file | is told with that file |
| fails because its source cannot be made | fails in the same way |
| fails because of a folder or a file | is told with the file it would have |

Claims are made before anything is written, so the collisions are the same (`emitAll_dryRun`).
-/

import Theming.Proofs.Passage

namespace Theming

/-- Whether a companion failed for its source, and not for a folder or a file. -/
def EmitError.isModel : EmitError → Bool
  | .model _ => true
  | .io .. => false

namespace Emission

/-- The outcome of a type if no folder and no file were in the way of its companion. -/
def Outcome.forgiven (emitter : Emitter) (o : Outcome) : Outcome :=
  match o.result with
  | .error (.io _ _) => { o with result := .ok (emitter.companionFile o.type) }
  | _ => o

theorem Outcome.forgiven_eq_self {emitter : Emitter} {o : Outcome}
    (h : ∀ f, o.failure? = some f → f.2.isModel = true) : o.forgiven emitter = o := by
  rw [forgiven]
  split
  · rename_i path fault hresult
    exact absurd (h (_, .io path fault) (failure?_eq_some.mpr ⟨hresult, rfl⟩)) nofun
  · rfl

/-- Failures of sources are not forgiven, and no others stay. -/
theorem Outcome.failure?_forgiven (emitter : Emitter) (o : Outcome) :
    (o.forgiven emitter).failure? = o.failure?.filter fun f => f.2.isModel := by
  obtain ⟨type, (e | ⟨path, fault⟩) | file⟩ := o <;> rfl

end Emission

namespace Emitter

open Emission

/-- Whether a run is dry has no bearing on what is planned. -/
theorem forgiven_planned (outDir : String) (ty : DeclaringType) :
    Outcome.forgiven ⟨outDir, false⟩ ⟨ty, planned ⟨outDir, false⟩ ty⟩ =
      ⟨ty, planned ⟨outDir, true⟩ ty⟩ := by
  refine Outcome.forgiven_eq_self fun f hf => ?_
  obtain ⟨e, he⟩ := planned_error (Outcome.failure?_eq_some.mp hf).1
  rw [he]
  rfl

/-- What really becomes of a type is what was planned, up to folders and files in the way. -/
theorem forgiven_emit (outDir : String) (ty : DeclaringType) (tree : FileTree) :
    Outcome.forgiven ⟨outDir, false⟩ ⟨ty, (emit ⟨outDir, false⟩ ty tree).1⟩ =
      ⟨ty, planned ⟨outDir, true⟩ ty⟩ := by
  rw [← forgiven_planned]
  rcases emit_cases ⟨outDir, false⟩ ty with ⟨hreal, text, hrender⟩ | hunsaved
  · obtain ⟨folder, name, hleads, -⟩ := companionFile_leads ⟨outDir, false⟩ ty
    rw [planned_of_render hrender]
    cases hresult : (emit ⟨outDir, false⟩ ty tree).1 with
    | ok file => rw [emit_file hresult]
    | error e =>
      obtain ⟨faulty, fault, rfl⟩ := save_io hleads ((emit_saved_error hrender hreal).mp hresult)
      rfl
  · rw [hunsaved]

/-- **The outcomes of a dry run are those of a real run, up to folders and files in the way**, from
whatever tree either of them starts. -/
theorem outcomes_dryRun (outDir : String) (tys : List DeclaringType) (tree tree' : FileTree) :
    outcomes ⟨outDir, true⟩ tys tree' =
      (outcomes ⟨outDir, false⟩ tys tree).map (Outcome.forgiven ⟨outDir, false⟩) := by
  induction tys generalizing tree tree' with
  | nil => rfl
  | cons ty rest ih =>
    rw [outcomes, outcomes, List.map_cons, forgiven_emit, ← ih, emit_unsaved (.inl rfl)]

theorem treeAfter_dryRun (outDir : String) (tys : List DeclaringType) (tree : FileTree) :
    treeAfter ⟨outDir, true⟩ tys tree = tree := by
  induction tys with
  | nil => rfl
  | cons ty rest ih => rw [treeAfter_cons, emit_unsaved (.inl rfl), ih]

/-- **A dry run tells what a real run will do.** It leaves the tree as it is. It reports the same
collisions, the same failures for sources, and what is written, together with what fails for a
folder or a file, each type at its place in the pass. So where nothing is in the way it reports the
same. -/
theorem emitAll_dryRun (outDir : String) (models : List DeclaringType) (tree : FileTree) :
    let tys := models.flatMap DeclaringType.qualifying
    let os := outcomes ⟨outDir, false⟩ tys tree
    let real := (emitAll ⟨outDir, false⟩ models tree).report
    let dry := emitAll ⟨outDir, true⟩ models tree
    dry.tree = tree ∧ dry.report.collisions = real.collisions ∧
      dry.report.failed = real.failed.filter (fun f => f.2.isModel) ∧
      os.map Outcome.type = tys ∧
      real.written = os.filterMap Outcome.written? ∧
      real.failed = os.filterMap Outcome.failure? ∧
      dry.report.written =
        (os.map (Outcome.forgiven ⟨outDir, false⟩)).filterMap Outcome.written? ∧
      ((∀ f ∈ real.failed, f.2.isModel = true) → dry.report = real) := by
  intro tys os real dry
  have hreal : real = _ := (emitAll_records ⟨outDir, false⟩ models tree).1
  have hdry : dry.report = _ := (emitAll_records ⟨outDir, true⟩ models tree).1
  have hfailed : (os.map (Outcome.forgiven ⟨outDir, false⟩)).filterMap Outcome.failure? =
      (os.filterMap Outcome.failure?).filter fun f => f.2.isModel := by
    rw [List.filterMap_map, List.filter_filterMap]
    exact congrArg (os.filterMap ·) (funext (Outcome.failure?_forgiven _))
  rw [outcomes_dryRun outDir _ tree tree] at hdry
  have htree := (emitAll_records ⟨outDir, true⟩ models tree).2
  rw [treeAfter_dryRun] at htree
  rw [hdry, hreal]
  refine ⟨htree, rfl, hfailed, outcomes_types .., rfl, rfl, rfl, fun hmodel => ?_⟩
  have hself : ∀ o ∈ os, Outcome.forgiven ⟨outDir, false⟩ o = id o := fun o ho =>
    Outcome.forgiven_eq_self fun f hf => hmodel f (List.mem_filterMap.mpr ⟨o, ho, hf⟩)
  rw [List.map_congr_left hself, List.map_id]

end Emitter
end Theming
