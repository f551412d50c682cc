/-
# Generating once more

A run writes companions into files whose names end in `.rs`, so it never writes the manifest it came
from, and another run loads the same models. What the first run has found in its way is still there,
and what it has made or written can be made or written again.

| a location after the first run | after the second run |
| --- | --- |
| a companion was written there | the text of the same, last type |
| no companion was written there | the entry is kept |
| nothing is there | nothing is there: all that is written has a place already |

So both the report and the files are the same again (`GenerationRequest.run_again`), unless
something was missing in the first run. That can only be what a path starts from: it needs a working
directory that is gone, which a companion that goes to another place brings back.
-/

import Theming.Generation
import Theming.Proofs.Passage

namespace Theming

namespace Emitter

open Emission

variable {emitter : Emitter} {tree : FileTree} {tys : List DeclaringType}

/-- **A second pass finds everything as it leaves it.** -/
theorem treeAfter_again
    (hfound : ∀ o ∈ emitter.outcomes tys tree, ∀ e, o.result = .error e → ¬ e.IsMissing)
    (location : Location) :
    (emitter.treeAfter tys (emitter.treeAfter tys tree)).at? location =
      (emitter.treeAfter tys tree).at? location := by
  have hgrows := emitter.treeAfter_grows tys (emitter.treeAfter tys tree)
  obtain ⟨hsame, hback⟩ := outcomes_again hfound (.refl (emitter.treeAfter tys tree))
  by_cases hput : ∃ o ∈ emitter.outcomes tys tree, ∃ text,
      emitter.Puts o (emitter.treeAfter tys tree) location text
  · obtain ⟨before, o, after, hos, ⟨text, hputs⟩, hlast⟩ := exists_last_of_mem hput
    rw [at?_of_last hos hputs fun o ho text h => hlast o ho ⟨text, h⟩,
      at?_of_last (hsame.trans hos) (hputs.grows hgrows)
        fun o ho text h => hlast o ho ⟨text, h.grows hback⟩]
  · cases hentry : (emitter.treeAfter tys tree).at? location with
    | some entry =>
      refine at?_of_unput (fun o ho text h => ?_) hentry
      exact hput ⟨o, hsame ▸ ho, text, h.grows hback⟩
    | none =>
      rw [← Option.not_isSome_iff_eq_none, FileTree.isSome_at?]
      rintro ⟨k, hkind⟩
      have hthere := FileTree.isSome_at?.mpr ⟨k, hback.kinds hkind⟩
      rw [hentry] at hthere
      cases hthere

/-- The failures of a pass are those that it reports. -/
theorem forall_failed_iff (P : EmitError → Prop) (models : List DeclaringType) (tree : FileTree) :
    (∀ f ∈ (emitter.emitAll models tree).report.failed, P f.2) ↔
      ∀ o ∈ emitter.outcomes (models.flatMap DeclaringType.qualifying) tree,
        ∀ e, o.result = .error e → P e := by
  rw [(emitter.emitAll_records models tree).1]
  constructor
  · intro h o ho e he
    exact h (o.type.qualifiedName, e)
      (List.mem_filterMap.mpr ⟨o, ho, Outcome.failure?_eq_some.mpr ⟨he, rfl⟩⟩)
  · intro h f hf
    obtain ⟨o, ho, hfailure⟩ := List.mem_filterMap.mp hf
    exact h o ho f.2 (Outcome.failure?_eq_some.mp hfailure).1

/-- **A second pass reports the same, and leaves all entries as they are**, if nothing was missing
in the first one. -/
theorem emitAll_again (models : List DeclaringType)
    (hfound : ∀ f ∈ (emitter.emitAll models tree).report.failed, ¬ f.2.IsMissing) :
    let pass := emitter.emitAll models tree
    let again := emitter.emitAll models pass.tree
    again.report = pass.report ∧
      ∀ location, again.tree.at? location = pass.tree.at? location := by
  intro pass again
  have houtcomes := (forall_failed_iff (¬ ·.IsMissing) models tree).mp hfound
  obtain ⟨hreport, htree⟩ : pass.report = _ ∧ pass.tree = _ := emitter.emitAll_records models tree
  obtain ⟨hreport', htree'⟩ : again.report = _ ∧ again.tree = _ :=
    emitter.emitAll_records models pass.tree
  rw [hreport', htree', hreport, htree, (outcomes_again houtcomes (.refl _)).1]
  exact ⟨rfl, treeAfter_again houtcomes⟩

/-- What a type puts somewhere has a name that ends in `.rs`. -/
theorem Puts.named {o : Outcome} {location : Location} {text : String}
    (ho : o ∈ emitter.outcomes tys tree)
    (h : emitter.Puts o (emitter.treeAfter tys tree) location text) :
    ∃ name, location.getLast? = some name ∧ ".rs".toList <:+ name.toList := by
  obtain ⟨folder, name, hleads, hname⟩ := emitter.companionFile_leads o.type
  obtain ⟨file, hfile, hlocate⟩ := h.locate
  rw [← file_of_mem ho hfile] at hlocate
  exact ⟨name, FileTree.getLast?_of_locate hleads hlocate, hname⟩

/-- What is missing in a pass is what a path starts from. -/
theorem outcomes_found (hstart : ∀ path, tree.Starts path) :
    ∀ o ∈ emitter.outcomes tys tree, ∀ e, o.result = .error e → ¬ e.IsMissing := by
  intro o ho e he
  obtain ⟨passed, hgrows, hresult, -⟩ := exists_emit_of_mem ho
  exact emit_found ((hstart _).grows hgrows) (hresult.symm.trans he)

end Emitter

/-! ## Manifests -/

namespace Manifest

/-- The manifest at a path is all that loading asks of a tree. -/
theorem load_of_find {tree tree' : FileTree} {path : String}
    (h : tree'.find path = tree.find path) : load tree' path = load tree path := by
  rw [load, load, FileTree.contains, FileTree.contains, FileTree.readText, FileTree.readText, h]

/-- What is loaded is a file, and its path has an extension. -/
theorem find_of_load {tree : FileTree} {path : String} {manifest : Manifest}
    (h : load tree path = .ok manifest) :
    (∃ bytes, tree.find path = .ok (.file bytes)) ∧
      ∃ extension, Path.extension? path = some extension ∧
        (extension = "toml" ∨ extension = "json") := by
  rw [load] at h
  split_ifs at h
  · cases h
  obtain ⟨text, htext, h⟩ := Except.bind_eq_ok h
  constructor
  · rw [FileTree.readText] at htext
    cases hfind : tree.find path with
    | error fault =>
      rw [hfind] at htext
      cases htext
    | ok entry =>
      rw [hfind] at htext
      cases entry with
      | directory => cases htext
      | file bytes => exact ⟨bytes, rfl⟩
  · split at h
    · exact ⟨"toml", by assumption, .inl rfl⟩
    · exact ⟨"json", by assumption, .inr rfl⟩
    · cases h

/-- A text at a path with extension `toml` is read in that format. -/
theorem load_toml {tree : FileTree} {path text : String}
    (hfind : tree.find path = .ok (.file text.toUTF8))
    (hextension : Path.extension? path = some "toml") : load tree path = ofToml text := by
  rw [load, FileTree.contains, FileTree.readText_of_find hfind, hfind, hextension]
  rfl

end Manifest

namespace GenerationRequest

open Emission Emitter

variable {emitter : Emitter} {tree : FileTree}

/-- **No companion is written over a manifest.** -/
theorem load_again {path : String} {manifest : Manifest}
    (h : Manifest.load tree path = .ok manifest) (models : List DeclaringType) :
    Manifest.load (emitter.emitAll models tree).tree path = .ok manifest := by
  rw [(emitter.emitAll_records models tree).2]
  generalize models.flatMap DeclaringType.qualifying = tys
  obtain ⟨⟨bytes, hfind⟩, extension, hpath, hextension⟩ := Manifest.find_of_load h
  obtain ⟨before, last, hparts, hlast⟩ := FileTree.counts_of_find_file hfind
  obtain ⟨hname, hends⟩ := Path.suffix_of_extension hparts hlast hpath
  obtain ⟨folder, hleads⟩ := Path.exists_leads hparts hname
  obtain ⟨location, hlocate, hentry⟩ := FileTree.find_eq_ok.mp hfind
  have hgrows := emitter.treeAfter_grows tys tree
  have hunput : ∀ o ∈ emitter.outcomes tys tree, ∀ text,
      ¬ emitter.Puts o (emitter.treeAfter tys tree) location text := by
    intro o ho text hputs
    obtain ⟨name, hlocation, hsource⟩ := hputs.named ho
    rw [FileTree.getLast?_of_locate hleads hlocate] at hlocation
    obtain rfl := Option.some.inj hlocation
    -- the last characters differ
    obtain ⟨front, hfront⟩ := hsource
    obtain ⟨front', hfront'⟩ := hends
    have hchars := congrArg List.getLast? (hfront'.trans hfront.symm)
    rcases hextension with rfl | rfl <;> simp at hchars
  rw [← h]
  refine Manifest.load_of_find ?_
  rw [hfind]
  exact FileTree.find_eq_ok.mpr ⟨location, hgrows.locate hlocate nofun, at?_of_unput hunput hentry⟩

variable {request : GenerationRequest}

/-- The pass of a run whose manifest is loaded and has models. -/
theorem run_of_load {manifest : Manifest} {models : List DeclaringType}
    (hload : Manifest.load tree request.manifest = .ok manifest)
    (hmodels : manifest.models.1 = .ok models) :
    let pass := emitAll ⟨request.outDir manifest, request.dryRun⟩ models tree
    (request.run tree).result = .ok pass.report ∧ (request.run tree).tree = pass.tree := by
  rw [run, hload]
  dsimp only
  generalize manifest.models = built at hmodels ⊢
  obtain ⟨_, log⟩ := built
  obtain rfl : _ = Except.ok models := hmodels
  exact ⟨rfl, rfl⟩

/-- What gives a report has loaded a manifest with models. -/
theorem load_of_run {report : EmitReport} (h : (request.run tree).result = .ok report) :
    ∃ manifest models, Manifest.load tree request.manifest = .ok manifest ∧
      manifest.models.1 = .ok models := by
  rw [run] at h
  cases hload : Manifest.load tree request.manifest with
  | error e =>
    rw [hload] at h
    cases h
  | ok manifest =>
    rw [hload] at h
    dsimp only at h
    cases hmodels : manifest.models with
    | mk built log =>
      rw [hmodels] at h
      cases built with
      | error e => cases h
      | ok models => exact ⟨manifest, models, rfl, by rw [hmodels]⟩

/-- Nothing is missing in a run whose working directory is there. -/
theorem run_found {report : EmitReport} (hworking : tree.kind? tree.working = some true)
    (h : (request.run tree).result = .ok report) : ∀ f ∈ report.failed, ¬ f.2.IsMissing := by
  obtain ⟨manifest, models, hload, hmodels⟩ := load_of_run h
  obtain ⟨hresult, -⟩ := run_of_load hload hmodels
  obtain rfl := Except.ok.inj (h.symm.trans hresult)
  exact (forall_failed_iff (¬ ·.IsMissing) models tree).mpr
    (outcomes_found (FileTree.starts_of_working hworking))

/-- **Generating once more changes nothing.** A run with the same arguments on the tree that a run
has left gives the same report, whatever failed or collided in it, and leaves every location as it
is, unless something was missing for a companion in the first run. -/
theorem run_again {report : EmitReport} (h : (request.run tree).result = .ok report)
    (hfound : ∀ f ∈ report.failed, ¬ f.2.IsMissing) :
    (request.run (request.run tree).tree).result = .ok report ∧
      ∀ location, (request.run (request.run tree).tree).tree.at? location =
        (request.run tree).tree.at? location := by
  obtain ⟨manifest, models, hload, hmodels⟩ := load_of_run h
  obtain ⟨hresult, htree⟩ := run_of_load hload hmodels
  obtain rfl := Except.ok.inj (h.symm.trans hresult)
  obtain ⟨hresult', htree'⟩ := run_of_load (load_again hload models) hmodels
  obtain ⟨hreport, hentries⟩ := emitAll_again models hfound
  rw [htree, hresult', htree', hreport]
  exact ⟨rfl, hentries⟩

/-- A manifest of one type. -/
def rowText : String :=
  "[[types]]\npackage = \"app\"\nname = \"Row\"\n" ++
    "[[types.fields]]\nname = \"tint\"\ntype = \"u8\"\n" ++
    "[[types.fields.annotations]]\nbind_color = 1\n"

/-- A working directory with that manifest. -/
def rowTree : FileTree where
  entries := [(["work"], .directory), (["work", "row.toml"], .file rowText.toUTF8)]
  working := ["work"]

/-- A run from that manifest may be made again. -/
theorem row_again : let request : GenerationRequest := ⟨"row.toml", none, false⟩
    ∃ report, (request.run rowTree).result = .ok report ∧
      (∀ f ∈ report.failed, ¬ f.2.IsMissing) ∧
      (request.run (request.run rowTree).tree).result = .ok report ∧
      ∀ location, (request.run (request.run rowTree).tree).tree.at? location =
        (request.run rowTree).tree.at? location := by
  intro request
  have hparts : Path.parts "row.toml" = ["row.toml"] := Path.parts_of_notMem (by decide)
  have hlocate : rowTree.locate "row.toml" = .ok ["work", "row.toml"] := by
    rw [FileTree.locate, if_neg (by decide), if_neg (by decide), ← Path.parts, hparts]
    decide +kernel
  have hfind : rowTree.find "row.toml" = .ok (.file rowText.toUTF8) :=
    FileTree.find_eq_ok.mpr ⟨_, hlocate, rfl⟩
  have hextension : Path.extension? "row.toml" = some "toml" := by
    have hstart : Path.splitStart "row.toml" = ("", "row.toml") := by decide
    rw [Path.extension?, Path.fileName?, hstart, Path.significant, hparts]
    decide +kernel
  have hread : (Manifest.ofToml rowText).toOption.map (fun manifest =>
      manifest.models.1.isOk) = some true := by decide +kernel
  obtain ⟨report, hreport⟩ : ∃ report, (request.run rowTree).result = .ok report := by
    cases hmanifest : Manifest.ofToml rowText with
    | error e =>
      rw [hmanifest] at hread
      cases hread
    | ok manifest =>
      rw [hmanifest] at hread
      have hbuilt : manifest.models.1.isOk = true := Option.some.inj hread
      cases hmodels : manifest.models.1 with
      | error e =>
        rw [hmodels] at hbuilt
        cases hbuilt
      | ok models =>
        have hload := (Manifest.load_toml hfind hextension).trans hmanifest
        exact ⟨_, (run_of_load hload hmodels).1⟩
  have hfound := run_found (by decide +kernel) hreport
  exact ⟨report, hreport, hfound, run_again hreport hfound⟩

end GenerationRequest
end Theming
