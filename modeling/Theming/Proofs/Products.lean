/-
# What a pass produces

A pass takes the types with bound fields of all models in order. Each of them has one outcome: it is
written or it fails, and a failure stops nothing.

| at the end of a pass | is |
| --- | --- |
| a file that was written | the source of the last type that was written to it |
| any other file that was there | as it was |
| the number of collisions | the number of types less that of their companion paths |

Files are told apart by their paths here, and a file has one path only if packages and names are
plain: a text like `a/b` or `.` leads to a folder that others lead to as well.

Of two types with one name, one cannot be written and the other fail. They have one file, and what
is in the way of one is in the way of the other (`Emitter.outcomes_alike`). Only where all paths
start from nothing could a later type find what an earlier one missed, but there nothing is written
at all (`Emitter.outcomes_unstarted`).
-/

import Mathlib.Data.List.Dedup
import Theming.Proofs.Passage
import Theming.Proofs.Plain
import Theming.Proofs.Spelling

namespace Theming

/-! ## Sources -/

namespace DeclaringType

mutual

/-- What is searched for companions is what has bound fields. -/
theorem qualifies_of_mem_qualifying (ty : DeclaringType) :
    ∀ q ∈ ty.qualifying, q.qualifies = true := by
  obtain ⟨package, enclosing, name, fields, nested⟩ := ty
  intro q hq
  rw [qualifying] at hq
  rcases List.mem_append.mp hq with hq | hq
  · split_ifs at hq with hempty
    · cases hq
    · obtain rfl := List.mem_singleton.mp hq
      rw [qualifies]
      simpa using hempty
  · exact qualifies_of_mem_allQualifying nested q hq

theorem qualifies_of_mem_allQualifying (tys : List DeclaringType) :
    ∀ q ∈ allQualifying tys, q.qualifies = true := by
  cases tys with
  | nil => exact fun q hq => nomatch hq
  | cons ty rest =>
    intro q hq
    rw [allQualifying] at hq
    rcases List.mem_append.mp hq with hq | hq
    · exact qualifies_of_mem_qualifying ty q hq
    · exact qualifies_of_mem_allQualifying rest q hq

end

end DeclaringType

namespace Companion

open Syntax (Code)

/-- A type with bound fields has a source, or none can be made. -/
theorem render_ne_none {ty : DeclaringType} (h : ty.qualifies = true) (visibility : List Code) :
    render visibility ty ≠ .ok none := by
  have hsource : Source.ofType visibility ty ≠ .ok none := by
    rw [Source.ofType, if_pos h]
    intro hnone
    obtain ⟨_, -, hnone⟩ := Except.bind_eq_ok hnone
    obtain ⟨_, -, hnone⟩ := Except.bind_eq_ok hnone
    obtain ⟨_, -, hnone⟩ := Except.bind_eq_ok hnone
    cases hnone
  rw [render, synthesize]
  cases hof : Source.ofType visibility ty with
  | error e =>
    intro h
    cases h
  | ok source =>
    cases source with
    | none => exact absurd hof hsource
    | some source =>
      intro h
      cases h

/-- If one of two accepted types with one name has a source, the other has one. -/
theorem exists_source_of_name {ty ty' : DeclaringType} {visibility : List Code} {text : String}
    (h : Accepted ty) (hqualifies : ty.qualifies = true) (h' : Accepted ty')
    (hqualifies' : ty'.qualifies = true) (hname : ty.name = ty'.name)
    (hrender : render visibility ty = .ok (some text)) :
    ∃ text', render visibility ty' = .ok (some text') := by
  cases hcompanion : checkIdentifier ty.companionName with
  | error e =>
    rw [(refuses_of_error h hqualifies hcompanion).2] at hrender
    cases hrender
  | ok companion =>
    rw [DeclaringType.companionName, hname] at hcompanion
    obtain ⟨code, text', -, -, hrender'⟩ := emits_of_words h' hqualifies' hcompanion
    exact ⟨text', hrender'⟩

end Companion

namespace Emission

/-- Each outcome is reported once. -/
theorem length_written_add_failed (os : List Outcome) :
    (os.filterMap Outcome.written?).length + (os.filterMap Outcome.failure?).length =
      os.length := by
  induction os with
  | nil => rfl
  | cons o rest ih =>
    obtain ⟨type, e | file⟩ := o
    · have hwritten : (Outcome.mk type (.error e)).written? = none := rfl
      have hfailure : (Outcome.mk type (.error e)).failure? = some (type.qualifiedName, e) := rfl
      rw [List.filterMap_cons_none hwritten, List.filterMap_cons_some hfailure, List.length_cons,
        List.length_cons, ← ih, Nat.add_assoc]
    · have hwritten : (Outcome.mk type (.ok file)).written? =
          some ⟨type.qualifiedName, type.companionPath, file⟩ := rfl
      have hfailure : (Outcome.mk type (.ok file)).failure? = none := rfl
      rw [List.filterMap_cons_some hwritten, List.filterMap_cons_none hfailure, List.length_cons,
        List.length_cons, ← ih, Nat.add_right_comm]

/-- The paths of a pass are the different ones and those that collide. -/
theorem perm_collisions (tys : List DeclaringType) :
    (tys.map DeclaringType.companionPath).Perm
      ((collisions [] tys).map Collision.companion ++
        (tys.map DeclaringType.companionPath).dedup) := by
  rw [List.perm_iff_count]
  intro path
  have hnone : ¬ (List.lookup path ([] : List (String × String))).isSome = true := nofun
  rw [List.count_append, count_collisions, List.count_dedup, if_neg hnone]
  by_cases hmem : path ∈ tys.map DeclaringType.companionPath
  · have hcount := List.one_le_count_iff.mpr hmem
    rw [if_pos hmem]
    omega
  · rw [if_neg hmem, List.count_eq_zero_of_not_mem hmem]

end Emission

namespace Emitter

open Emission

variable {emitter : Emitter} {tree : FileTree} {tys : List DeclaringType}

theorem type_mem {o : Outcome} (ho : o ∈ emitter.outcomes tys tree) : o.type ∈ tys := by
  rw [← emitter.outcomes_types tys tree]
  exact List.mem_map_of_mem ho

/-- What is written has a source. -/
theorem exists_source {o : Outcome} (ho : o ∈ emitter.outcomes tys tree)
    (hqualifies : o.type.qualifies = true) {file : String} (h : o.result = .ok file) :
    ∃ text, Companion.render Companion.defaultVisibility o.type = .ok (some text) := by
  obtain ⟨passed, -, hresult, -⟩ := exists_emit_of_mem ho
  cases hrender : Companion.render Companion.defaultVisibility o.type with
  | error e =>
    rw [emit, hrender, h] at hresult
    cases hresult
  | ok source =>
    cases source with
    | none => exact absurd hrender (Companion.render_ne_none hqualifies _)
    | some text => exact ⟨text, rfl⟩

section Real

variable (hreal : emitter.dryRun = false)
include hreal

/-! ## Written or failed -/

/-- **Types with one file are all written, or fail alike**, if what its path starts from is
there. -/
theorem outcomes_alike {o o' : Outcome} {text text' : String}
    (ho : o ∈ emitter.outcomes tys tree) (ho' : o' ∈ emitter.outcomes tys tree)
    (hrender : Companion.render Companion.defaultVisibility o.type = .ok (some text))
    (hrender' : Companion.render Companion.defaultVisibility o'.type = .ok (some text'))
    (hfile : emitter.companionFile o'.type = emitter.companionFile o.type)
    (hstart : tree.Starts (emitter.companionFile o.type)) : o'.result = o.result := by
  induction tys generalizing tree with
  | nil => cases ho
  | cons ty rest ih =>
    rw [outcomes] at ho ho'
    rcases List.mem_cons.mp ho with rfl | ho <;> rcases List.mem_cons.mp ho' with rfl | ho'
    · rfl
    · obtain ⟨passed, hgrows, hresult, -⟩ := exists_emit_of_mem ho'
      rw [hresult]
      exact emit_same hreal hrender hrender' hfile (fun e => emit_found hstart) hgrows
    · obtain ⟨passed, hgrows, hresult, -⟩ := exists_emit_of_mem ho
      rw [← hfile] at hstart
      rw [hresult]
      exact (emit_same hreal hrender' hrender hfile.symm (fun e => emit_found hstart) hgrows).symm
    · exact ih ho ho' (hstart.grows (emitter.emit_grows ty tree))

/-- **Where no path has anything to start from, nothing is written.** -/
theorem outcomes_unstarted (hstart : ∀ ty ∈ tys, ¬ tree.Starts (emitter.companionFile ty))
    (hqualifies : ∀ ty ∈ tys, ty.qualifies = true) :
    ∀ o ∈ emitter.outcomes tys tree, ∀ file, o.result ≠ .ok file := by
  induction tys with
  | nil => exact fun o ho => absurd ho List.not_mem_nil
  | cons ty rest ih =>
    rw [List.forall_mem_cons] at hstart hqualifies
    obtain ⟨e, hfails⟩ : ∃ e, emitter.emit ty tree = (.error e, tree) := by
      cases hrender : Companion.render Companion.defaultVisibility ty with
      | error e => exact ⟨.model e, by rw [emit, hrender]⟩
      | ok source =>
        cases source with
        | none => exact absurd hrender (Companion.render_ne_none hqualifies.1 _)
        | some text => exact emit_unstarted hreal hrender hstart.1
    rw [outcomes, hfails, List.forall_mem_cons]
    refine ⟨fun file hfile => ?_, ih hstart.2 hqualifies.2⟩
    cases hfile

section Plain

variable (hplain : ∀ ty ∈ tys, ty.IsPlain) (hqualifies : ∀ ty ∈ tys, ty.qualifies = true)
include hplain hqualifies

/-- **No name is both written and failed.** -/
theorem written_ne_failed (haccepted : ∀ ty ∈ tys, Companion.Accepted ty) {o o' : Outcome}
    (ho : o ∈ emitter.outcomes tys tree) (ho' : o' ∈ emitter.outcomes tys tree) {file : String}
    {e : EmitError} (hwritten : o.result = .ok file) (hfailed : o'.result = .error e) :
    o.type.qualifiedName ≠ o'.type.qualifiedName := by
  intro hname
  have hty := type_mem ho
  have hty' := type_mem ho'
  obtain ⟨hpackage, hsimple⟩ := (hplain _ hty).place_eq (hplain _ hty') hname
  have hfile : emitter.companionFile o'.type = emitter.companionFile o.type := by
    rw [companionFile, companionFile, hpackage, hsimple]
  obtain ⟨text, hrender⟩ := exists_source ho (hqualifies _ hty) hwritten
  obtain ⟨text', hrender'⟩ := Companion.exists_source_of_name (haccepted _ hty)
    (hqualifies _ hty) (haccepted _ hty') (hqualifies _ hty') hsimple hrender
  by_cases hstart : tree.Starts (emitter.companionFile o.type)
  · have halike := outcomes_alike hreal ho ho' hrender hrender' hfile hstart
    rw [hwritten, hfailed] at halike
    cases halike
  · have hnothing : ∀ ty ∈ tys, ¬ tree.Starts (emitter.companionFile ty) := by
      intro ty hmem
      rw [FileTree.Starts, start_companionFile (hplain ty hmem).contained]
      rwa [FileTree.Starts, start_companionFile (hplain _ hty).contained] at hstart
    exact outcomes_unstarted hreal hnothing hqualifies o ho file hwritten

/-! ## Files -/

/-- **A file holds the source of the last type that was written to it.** -/
theorem find_of_last {before after : List Outcome} {o : Outcome} {file : String}
    (hos : emitter.outcomes tys tree = before ++ o :: after) (hwritten : o.result = .ok file)
    (hlast : ∀ o' ∈ after, o'.result ≠ .ok file) :
    ∃ text, Companion.render Companion.defaultVisibility o.type = .ok (some text) ∧
      (emitter.treeAfter tys tree).find file = .ok (.file text.toUTF8) := by
  have ho : o ∈ emitter.outcomes tys tree :=
    hos ▸ List.mem_append_right _ List.mem_cons_self
  obtain ⟨text, hrender⟩ := exists_source ho (hqualifies _ (type_mem ho)) hwritten
  obtain ⟨location, hputs⟩ := exists_puts ho hreal hrender hwritten
  obtain ⟨file', hfile', hlocate⟩ := hputs.locate
  obtain rfl := Except.ok.inj (hwritten.symm.trans hfile')
  refine ⟨text, hrender, FileTree.find_eq_ok.mpr ⟨location, hlocate, at?_of_last hos hputs ?_⟩⟩
  intro o' hafter text' hputs'
  have ho' : o' ∈ emitter.outcomes tys tree :=
    hos ▸ List.mem_append_right _ (List.mem_cons_of_mem _ hafter)
  obtain ⟨other, hother, hlocate'⟩ := hputs'.locate
  have hsame := file_of_mem ho hwritten
  have hsame' := file_of_mem ho' hother
  rw [← hsame] at hlocate
  rw [← hsame'] at hlocate'
  have hfile := companionFile_inj (hplain _ (type_mem ho)).contained
    (hplain _ (type_mem ho')).contained hlocate hlocate'
  exact hlast o' hafter (by rw [hother, ← hsame', ← hfile, hsame])

end Plain

end Real

/-- **What a pass produces** for models with plain packages and names. It takes each type with bound
fields once, in order, and reports it as written or failed, and none of them as both. Its collisions
are as many as there are more types than companion paths. Each file that was written holds the
source of the last type written to it, and nothing else that was there is touched. -/
theorem emitAll_products (emitter : Emitter) (hreal : emitter.dryRun = false)
    {models : List DeclaringType}
    (hplain : ∀ ty ∈ models.flatMap DeclaringType.qualifying, ty.IsPlain) (tree : FileTree) :
    let tys := models.flatMap DeclaringType.qualifying
    let os := emitter.outcomes tys tree
    let pass := emitter.emitAll models tree
    (os.map Outcome.type = tys ∧
      pass.report.written = os.filterMap Outcome.written? ∧
      pass.report.failed = os.filterMap Outcome.failure? ∧
      pass.report.written.length + pass.report.failed.length = tys.length ∧
      ((∀ ty ∈ tys, Companion.Accepted ty) →
        ∀ c ∈ pass.report.written, ∀ f ∈ pass.report.failed, c.declaring ≠ f.1)) ∧
    pass.report.collisions.length + (tys.map DeclaringType.companionPath).dedup.length =
      tys.length ∧
    (∀ c ∈ pass.report.written, ∃ before o after, os = before ++ o :: after ∧
      o.result = .ok c.file ∧ (∀ o' ∈ after, o'.result ≠ .ok c.file) ∧
        ∃ text, Companion.render Companion.defaultVisibility o.type = .ok (some text) ∧
          pass.tree.find c.file = .ok (.file text.toUTF8)) ∧
    ∀ location entry, (∀ c ∈ pass.report.written, pass.tree.locate c.file ≠ .ok location) →
      tree.at? location = some entry → pass.tree.at? location = some entry := by
  intro tys os pass
  have hqualifies : ∀ ty ∈ tys, ty.qualifies = true := by
    intro ty hty
    obtain ⟨model, -, hmem⟩ := List.mem_flatMap.mp hty
    exact model.qualifies_of_mem_qualifying ty hmem
  obtain ⟨hreport, htree⟩ := emitter.emitAll_records models tree
  have htypes : os.map Outcome.type = tys := outcomes_types ..
  rw [show pass.report = _ from hreport, show pass.tree = _ from htree]
  refine ⟨⟨htypes, rfl, rfl, ?_, fun haccepted c hc f hf => ?_⟩, ?_, fun c hc => ?_,
    fun location entry hfree hentry => at?_of_unput (fun o ho text hputs => ?_) hentry⟩
  · rw [← htypes, List.length_map]
    exact length_written_add_failed os
  · obtain ⟨o, ho, hwritten⟩ := List.mem_filterMap.mp hc
    obtain ⟨o', ho', hfailure⟩ := List.mem_filterMap.mp hf
    obtain ⟨hresult, hdeclaring, -⟩ := Outcome.written?_eq_some.mp hwritten
    obtain ⟨hresult', hname⟩ := Outcome.failure?_eq_some.mp hfailure
    rw [hdeclaring, hname]
    exact written_ne_failed hreal hplain hqualifies haccepted ho ho' hresult hresult'
  · have hlength := (perm_collisions tys).length_eq
    rw [List.length_map, List.length_append] at hlength
    exact hlength.symm
  · obtain ⟨o, ho, hwritten⟩ := List.mem_filterMap.mp hc
    obtain ⟨before, last, after, hos, hresult, hlast⟩ :=
      exists_last_of_mem (p := fun o : Outcome => o.result = .ok c.file)
        ⟨o, ho, (Outcome.written?_eq_some.mp hwritten).1⟩
    exact ⟨before, last, after, hos, hresult, hlast,
      find_of_last hreal hplain hqualifies hos hresult hlast⟩
  · obtain ⟨file, hresult, hlocate⟩ := hputs.locate
    refine hfree ⟨o.type.qualifiedName, o.type.companionPath, file⟩ ?_ hlocate
    exact List.mem_filterMap.mpr ⟨o, ho, Outcome.written?_eq_some.mpr ⟨hresult, rfl, rfl⟩⟩

open DeclaringType in
/-- A row that is listed twice is reported twice, and collides with itself. -/
theorem row_produced : ∃ row, build (button "Row") = .ok row ∧
    (∀ ty ∈ [row, row].flatMap qualifying, ty.IsPlain) ∧
    (∀ ty ∈ [row, row].flatMap qualifying, Companion.Accepted ty) ∧
    let pass := emitAll ⟨"gen", false⟩ [row, row] .scratch
    pass.report.written.length + pass.report.failed.length = 2 ∧
      (∀ c ∈ pass.report.written, ∀ f ∈ pass.report.failed, c.declaring ≠ f.1) ∧
      pass.report.collisions.length = 1 := by
  have hrow : (build (button "Row")).toOption.map (fun row =>
      (row.package, row.enclosing ++ [row.name], row.qualifies && row.nested.isEmpty)) =
        some ("app", ["Row"], true) := by decide +kernel
  cases hbuild : build (button "Row") with
  | error e =>
    rw [hbuild] at hrow
    cases hrow
  | ok row =>
    rw [hbuild] at hrow
    obtain ⟨hpackage, hrest⟩ := Prod.mk.inj (Option.some.inj hrow)
    obtain ⟨hnames, hflat⟩ := Prod.mk.inj hrest
    rw [Bool.and_eq_true] at hflat
    have htypes : [row, row].flatMap qualifying = [row, row] := by
      rw [List.flatMap_cons, List.flatMap_singleton, qualifying_of_flat hflat.1 hflat.2]
      rfl
    have hsegments : packageSegments "app" = ["app"] := by
      rw [packageSegments, String.splitOn, if_neg (by decide)]
      iterate 3 rw [String.splitOnAux, if_neg (by decide), if_neg (by decide)]
      rw [String.splitOnAux, if_pos (by decide)]
      decide
    have hplain : ∀ ty ∈ [row, row].flatMap qualifying, ty.IsPlain := by
      rw [htypes]
      have hplain : row.IsPlain := by
        refine ⟨?_, ?_⟩
        · rw [hpackage, hsegments]
          decide +kernel
        · rw [hnames]
          decide +kernel
      simpa using hplain
    have hproducts := emitAll_products ⟨"gen", false⟩ rfl hplain .scratch
    obtain ⟨⟨-, -, -, hlength, hdisjoint⟩, hcollisions, -⟩ := hproducts
    have haccepted : ∀ ty ∈ [row, row].flatMap qualifying, Companion.Accepted ty := by
      intro ty hty
      obtain ⟨model, hmodel, hmem⟩ := List.mem_flatMap.mp hty
      have hsame : model = row := by simpa using hmodel
      exact (Companion.accepted_of_buildIn _ _ _ hbuild ty (hsame ▸ hmem)).1
    refine ⟨row, rfl, hplain, haccepted, ?_, hdisjoint haccepted, ?_⟩
    · rw [hlength, htypes]
      rfl
    · have hpaths : (([row, row].flatMap qualifying).map companionPath).dedup =
          [row.companionPath] := by
        rw [htypes]
        exact List.dedup_cons_of_mem List.mem_cons_self
      rw [hpaths, htypes] at hcollisions
      exact Nat.succ.inj hcollisions

end Emitter
end Theming
