/-
# All types of a manifest or none

A run looks at everything that is listed before it writes anything.

| what is found first | the run | the tree | exit code |
| --- | --- | --- | --- |
| the manifest cannot be loaded | reports why | as it was | 1 |
| a listed type has no model | names the first such type, with its first fault | as it was | 1 |
| neither | reports each type with bound fields as written or failed | what the pass leaves | 0 if nothing failed, else 1 |

So one bad type keeps all the others from being written, wherever it is listed
(`GenerationRequest.run_admits`).
-/

import Theming.CommandLine
import Theming.Proofs.Checks
import Theming.Proofs.Faults
import Theming.Proofs.Products
import Theming.Proofs.Regeneration

namespace Theming

/-! ## Listed types -/

namespace Manifest

open DeclaringType

variable {descs : List TypeDescription}

theorem modelsOf_eq_mapM (descs : List TypeDescription) :
    (modelsOf descs).1 = descs.mapM fun desc => (build desc).mapError (.model desc.name) := by
  induction descs with
  | nil => rfl
  | cons desc rest ih =>
    rw [modelsOf, List.mapM_cons, ← ih]
    cases build desc with
    | error e => rfl
    | ok ty =>
      dsimp only
      cases (modelsOf rest).1 <;> rfl

/-- Listed types have models if each of them has one. -/
theorem modelsOf_eq_ok {models : List DeclaringType} : (modelsOf descs).1 = .ok models ↔
    List.Forall₂ (fun desc ty => build desc = .ok ty) descs models := by
  rw [modelsOf_eq_mapM, Except.mapM_eq_ok]
  simp only [Except.mapError_eq_ok]

/-- Listed types have no models if one of them has none, and the first such type is told of. -/
theorem modelsOf_eq_error {e : ManifestError} : (modelsOf descs).1 = .error e ↔
    ∃ before desc after, descs = before ++ desc :: after ∧
      (∀ d ∈ before, ∃ ty, build d = .ok ty) ∧
        ∃ fault, build desc = .error fault ∧ .model desc.name fault = e := by
  rw [modelsOf_eq_mapM, Except.mapM_eq_error]
  simp only [Except.mapError_eq_ok, Except.mapError_eq_error]

theorem ofToml_ne_model {text name : String} {fault : ModelError} :
    ofToml text ≠ .error (.model name fault) := by
  rw [ofToml]
  split <;> nofun

theorem ofJson_ne_model {text name : String} {fault : ModelError} :
    ofJson text ≠ .error (.model name fault) := by
  rw [ofJson]
  split <;> nofun

/-- Loading tells of no type. -/
theorem load_ne_model {tree : FileTree} {path name : String} {fault : ModelError} :
    load tree path ≠ .error (.model name fault) := by
  intro h
  rw [load] at h
  split_ifs at h
  · cases h
  · rcases Except.bind_eq_error.mp h with hread | ⟨text, -, h⟩
    · obtain ⟨_, -, h⟩ := Except.mapError_eq_error.mp hread
      cases h
    · split at h
      · exact ofToml_ne_model h
      · exact ofJson_ne_model h
      · cases h

end Manifest

/-! ## Types with bound fields -/

/-- A model has as many types with bound fields as its description. -/
theorem DeclaringType.length_qualifying {desc : TypeDescription} {ty : DeclaringType}
    (h : build desc = .ok ty) :
    ty.qualifying.length = (desc.census []).countP fun described => described.2.isAnnotated := by
  rw [List.countP_eq_length_filter]
  exact (buildIn_covers desc.package [] desc h).1.length_eq

/-- Models have as many types with bound fields as their descriptions. -/
theorem Manifest.length_qualifying {descs : List TypeDescription} {models : List DeclaringType}
    (h : List.Forall₂ (fun desc ty => DeclaringType.build desc = .ok ty) descs models) :
    (models.flatMap DeclaringType.qualifying).length =
      (descs.flatMap (TypeDescription.census [])).countP fun described =>
        described.2.isAnnotated := by
  induction h with
  | nil => rfl
  | cons hbuild _ ih =>
    rw [List.flatMap_cons, List.flatMap_cons, List.length_append, List.countP_append, ih,
      DeclaringType.length_qualifying hbuild]

/-- A pass reports each type with bound fields once. -/
theorem Emitter.length_reported (emitter : Emitter) (models : List DeclaringType)
    (tree : FileTree) :
    let report := (emitter.emitAll models tree).report
    report.written.length + report.failed.length =
      (models.flatMap DeclaringType.qualifying).length := by
  intro report
  rw [show report = _ from (emitter.emitAll_records models tree).1]
  rw [Emission.length_written_add_failed, ← List.length_map (f := Emission.Outcome.type),
    emitter.outcomes_types]

/-! ## Runs -/

namespace GenerationRequest

variable {request : GenerationRequest} {tree : FileTree}

/-- A run whose manifest cannot be loaded. -/
theorem run_of_load_error {e : ManifestError} (h : Manifest.load tree request.manifest = .error e) :
    (request.run tree).result = .error e ∧ (request.run tree).tree = tree := by
  rw [run, h]
  exact ⟨rfl, rfl⟩

/-- A run whose manifest lists a type without a model. -/
theorem run_of_models_error {manifest : Manifest} {e : ManifestError}
    (hload : Manifest.load tree request.manifest = .ok manifest)
    (hmodels : manifest.models.1 = .error e) :
    (request.run tree).result = .error e ∧ (request.run tree).tree = tree := by
  rw [run, hload]
  dsimp only
  -- What was logged on the way stands beside the models.
  generalize manifest.models = built at hmodels ⊢
  obtain ⟨_, log⟩ := built
  obtain rfl : _ = Except.error e := hmodels
  exact ⟨rfl, rfl⟩

/-- **A run fails before it has written anything**, for its manifest or for the models of it. -/
theorem run_eq_error {e : ManifestError} : (request.run tree).result = .error e ↔
    Manifest.load tree request.manifest = .error e ∨
      ∃ manifest, Manifest.load tree request.manifest = .ok manifest ∧
        manifest.models.1 = .error e := by
  constructor
  · intro h
    cases hload : Manifest.load tree request.manifest with
    | error e' =>
      cases (run_of_load_error hload).1.symm.trans h
      exact .inl rfl
    | ok manifest =>
      refine .inr ⟨manifest, rfl, ?_⟩
      cases hmodels : manifest.models.1 with
      | error e' =>
        cases (run_of_models_error hload hmodels).1.symm.trans h
        rfl
      | ok models => cases (run_of_load hload hmodels).1.symm.trans h
  · rintro (hload | ⟨manifest, hload, hmodels⟩)
    · exact (run_of_load_error hload).1
    · exact (run_of_models_error hload hmodels).1

theorem tree_of_run_error {e : ManifestError} (h : (request.run tree).result = .error e) :
    (request.run tree).tree = tree := by
  rcases run_eq_error.mp h with hload | ⟨manifest, hload, hmodels⟩
  · exact (run_of_load_error hload).2
  · exact (run_of_models_error hload hmodels).2

end GenerationRequest

/-! ## The command line -/

namespace CommandLine

/-- A long option up to its value. -/
def Key.flag : Key → String
  | .manifest => "--manifest="
  | .out => "--out="

/-- Arguments that ask for a run. -/
def argumentsFor (request : GenerationRequest) : List String :=
  (Key.manifest.flag ++ request.manifest) :: (request.out.map (Key.out.flag ++ ·)).toList ++
    if request.dryRun then ["--dry-run"] else []

/-- A text that starts differently is another text. -/
theorem append_ne {start more other : String} (h : ¬ start.toList <+: other.toList) :
    start ++ more ≠ other := by
  rintro rfl
  refine h ?_
  rw [String.toList_append]
  exact List.prefix_append _ _

theorem argument?_flag (key : Key) (value : String) :
    argument? (key.flag ++ value) = some (.attached key value) := by
  cases key
  all_goals
    rw [argument?.eq_def, Key.flag]
    split
    iterate 3 exact absurd ‹_› (append_ne (by decide))
    dsimp only
    rw [String.toList_append]
    change some (Argument.attached _ (String.ofList value.toList)) = _
    rw [String.ofList_toList]

/-- **Every run can be asked for**, unless a path is empty. -/
theorem parse?_argumentsFor {request : GenerationRequest} (hmanifest : request.manifest ≠ "")
    (hout : request.out ≠ some "") : parse? (argumentsFor request) =
      some { manifest := some request.manifest, out := request.out, dryRun := request.dryRun } := by
  obtain ⟨manifest, out, dryRun⟩ := request
  have hnone : ∀ {value : String}, value ≠ "" → value.isEmpty = false := fun h => by simpa using h
  rw [argumentsFor, parse?, List.cons_append, parseFrom?, argument?_flag]
  dsimp only
  rw [Options.set?, hnone hmanifest]
  cases out with
  | none => cases dryRun <;> rfl
  | some out =>
    have hsome : out ≠ "" := fun h => hout (congrArg some h)
    dsimp only [Option.map_some, Option.toList_some, List.singleton_append]
    change parseFrom? _ _ = _
    rw [parseFrom?, argument?_flag]
    dsimp only
    rw [Options.set?, hnone hsome]
    cases dryRun <;> rfl

/-- What the program does with arguments that it can read: it makes the run that they ask for. -/
theorem run_of_parse {args : List String} {options : Options} (h : parse? args = some options)
    (filter : Option String) (tree : FileTree) :
    let outcome := run args filter tree
    let generation := options.request.run tree
    outcome.tree = generation.tree ∧
      (outcome.code = 0 ↔ ∃ report, generation.result = .ok report ∧ report.failed = []) ∧
      outcome.lines = match generation.result with
        | .ok report => if options.dryRun then report.written.map renderPlanned else []
        | .error _ => [] := by
  intro outcome generation
  have hrun : outcome = run args filter tree := rfl
  rw [run, h] at hrun
  dsimp only at hrun
  rw [hrun, show options.request.run tree = generation from rfl]
  cases generation.result with
  | error e => exact ⟨rfl, ⟨nofun, nofun⟩, rfl⟩
  | ok report =>
    by_cases hfailed : report.failed = []
    · have hsuccess : report.isSuccess = true := List.isEmpty_iff.mpr hfailed
      dsimp only
      rw [if_pos hsuccess]
      exact ⟨rfl, ⟨fun _ => ⟨report, rfl, hfailed⟩, fun _ => rfl⟩, rfl⟩
    · have hsuccess : ¬ report.isSuccess = true := mt List.isEmpty_iff.mp hfailed
      dsimp only
      rw [if_neg hsuccess]
      refine ⟨rfl, ⟨nofun, ?_⟩, rfl⟩
      rintro ⟨_, heq, hnone⟩
      cases heq
      exact absurd hnone hfailed

end CommandLine

/-- The first of the listed types without a model has a name, and a first fault. -/
def Manifest.FirstFault (manifest : Manifest) (name : String) (fault : ModelError) : Prop :=
  ∃ before desc after, manifest.types = before ++ desc :: after ∧
    (∀ d ∈ before, ∃ ty, DeclaringType.build d = .ok ty) ∧
    DeclaringType.build desc = .error fault ∧ desc.faults.head? = some fault ∧ desc.name = name

theorem Manifest.models_eq_error {manifest : Manifest} {e : ManifestError} :
    manifest.models.1 = .error e ↔
      ∃ name fault, e = .model name fault ∧ manifest.FirstFault name fault := by
  have hfirst : ∀ desc fault, DeclaringType.build desc = .error fault →
      desc.faults.head? = some fault := fun desc fault h =>
    ((DeclaringType.buildIn_checks desc.package [] desc).error_iff fault).mp h
  rw [models, modelsOf_eq_error]
  constructor
  · rintro ⟨before, desc, after, htypes, hbefore, fault, hfault, rfl⟩
    exact ⟨desc.name, fault, rfl, before, desc, after, htypes, hbefore, hfault,
      hfirst desc fault hfault, rfl⟩
  · rintro ⟨_, fault, rfl, before, desc, after, htypes, hbefore, hfault, -, rfl⟩
    exact ⟨before, desc, after, htypes, hbefore, fault, hfault, rfl⟩

/-- There are models iff every listed type has one. -/
theorem Manifest.models_fail_iff {manifest : Manifest} : (∃ e, manifest.models.1 = .error e) ↔
    ∃ desc ∈ manifest.types, ∃ fault, DeclaringType.build desc = .error fault := by
  constructor
  · rintro ⟨e, he⟩
    obtain ⟨_, fault, -, before, desc, after, htypes, -, hfault, -⟩ := models_eq_error.mp he
    refine ⟨desc, ?_, fault, hfault⟩
    rw [htypes]
    exact List.mem_append_right _ List.mem_cons_self
  · rintro ⟨desc, hdesc, fault, hfault⟩
    cases hmodels : manifest.models.1 with
    | error e => exact ⟨e, rfl⟩
    | ok models =>
      obtain ⟨ty, -, hty⟩ := exists_of_forall₂ (modelsOf_eq_ok.mp hmodels) hdesc
      cases hfault.symm.trans hty

namespace GenerationRequest

open CommandLine

variable {request : GenerationRequest} {tree : FileTree}

/-- **A run fails iff** the manifest cannot be loaded or lists a type without a model. -/
theorem run_fails_iff : (∃ e, (request.run tree).result = .error e) ↔
    (∃ e, Manifest.load tree request.manifest = .error e) ∨
      ∃ manifest, Manifest.load tree request.manifest = .ok manifest ∧
        ∃ desc ∈ manifest.types, ∃ fault, DeclaringType.build desc = .error fault := by
  simp only [run_eq_error, ← Manifest.models_fail_iff]
  constructor
  · rintro ⟨e, hload | ⟨manifest, hload, hmodels⟩⟩
    · exact .inl ⟨e, hload⟩
    · exact .inr ⟨manifest, hload, e, hmodels⟩
  · rintro (⟨e, hload⟩ | ⟨manifest, hload, e, hmodels⟩)
    · exact ⟨e, .inl hload⟩
    · exact ⟨e, .inr ⟨manifest, hload, hmodels⟩⟩

/-- A run fails for the first listed type without a model, with its first fault. -/
theorem run_eq_model_error {name : String} {fault : ModelError} :
    (request.run tree).result = .error (.model name fault) ↔
      ∃ manifest, Manifest.load tree request.manifest = .ok manifest ∧
        manifest.FirstFault name fault := by
  rw [run_eq_error]
  constructor
  · rintro (hload | ⟨manifest, hload, hmodels⟩)
    · exact absurd hload Manifest.load_ne_model
    · obtain ⟨_, _, heq, hfault⟩ := Manifest.models_eq_error.mp hmodels
      cases heq
      exact ⟨manifest, hload, hfault⟩
  · rintro ⟨manifest, hload, hfault⟩
    exact .inr ⟨manifest, hload, Manifest.models_eq_error.mpr ⟨name, fault, rfl, hfault⟩⟩

/-- A run reports each type with bound fields of all listed types, as written or as failed. -/
theorem run_counts {report : EmitReport} (h : (request.run tree).result = .ok report) :
    ∃ manifest models, Manifest.load tree request.manifest = .ok manifest ∧
      List.Forall₂ (fun desc ty => DeclaringType.build desc = .ok ty) manifest.types models ∧
      report.written.length + report.failed.length =
        (models.flatMap DeclaringType.qualifying).length ∧
      report.written.length + report.failed.length =
        (manifest.types.flatMap (TypeDescription.census [])).countP fun described =>
          described.2.isAnnotated := by
  obtain ⟨manifest, models, hload, hmodels⟩ := load_of_run h
  have hbuilt := Manifest.modelsOf_eq_ok.mp hmodels
  obtain rfl := Except.ok.inj (h.symm.trans (run_of_load hload hmodels).1)
  have hlength := Emitter.length_reported ⟨request.outDir manifest, request.dryRun⟩ models tree
  exact ⟨manifest, models, hload, hbuilt, hlength,
    hlength.trans (Manifest.length_qualifying hbuilt)⟩

/-- **Either everything that is listed gets as far as its emission, or nothing is touched.** A run
fails iff its manifest cannot be loaded or lists a type without a model. Then the tree stays as it
is, and if it is for a type, the first listed one without a model is named, with its first fault.
Otherwise every type with bound fields of all listed types is reported, as written or as failed. On
the command line, which can ask for any run with paths that are not empty, the exit code is 0 iff
nothing failed in either way, and a dry run prints a line for each companion that it reports as
written, in this order. -/
theorem run_admits (request : GenerationRequest) (tree : FileTree) :
    let loaded := Manifest.load tree request.manifest
    let generation := request.run tree
    ((∃ e, generation.result = .error e) ↔
      (∃ e, loaded = .error e) ∨ ∃ manifest, loaded = .ok manifest ∧
        ∃ desc ∈ manifest.types, ∃ fault, DeclaringType.build desc = .error fault) ∧
    (∀ e, generation.result = .error e → generation.tree = tree) ∧
    (∀ name fault, generation.result = .error (.model name fault) ↔
      ∃ manifest, loaded = .ok manifest ∧ manifest.FirstFault name fault) ∧
    (∀ report, generation.result = .ok report → ∃ manifest models, loaded = .ok manifest ∧
      List.Forall₂ (fun desc ty => DeclaringType.build desc = .ok ty) manifest.types models ∧
      report.written.length + report.failed.length =
        (models.flatMap DeclaringType.qualifying).length ∧
      report.written.length + report.failed.length =
        (manifest.types.flatMap (TypeDescription.census [])).countP fun described =>
          described.2.isAnnotated) ∧
    (∀ args options filter, parse? args = some options → options.request = request →
      let outcome := CommandLine.run args filter tree
      outcome.tree = generation.tree ∧
      (outcome.code = 0 ↔ ∃ report, generation.result = .ok report ∧ report.failed = []) ∧
      outcome.lines = match generation.result with
        | .ok report => if request.dryRun then report.written.map renderPlanned else []
        | .error _ => []) ∧
    (request.manifest ≠ "" → request.out ≠ some "" →
      ∃ options, parse? (argumentsFor request) = some options ∧ options.request = request) := by
  intro loaded generation
  refine ⟨run_fails_iff, fun _ => tree_of_run_error, fun _ _ => run_eq_model_error,
    fun _ => run_counts, ?_, fun hmanifest hout => ⟨_, parse?_argumentsFor hmanifest hout, rfl⟩⟩
  rintro args options filter hparse rfl
  exact run_of_parse hparse filter tree

end GenerationRequest
end Theming
