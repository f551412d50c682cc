/-
# Collisions of a pass

A pass reports a collision when a companion path is claimed once more, and warns of it, naming who
claimed it before. So a path is reported once less often than it is claimed
(`Emitter.emitAll_collisions`).

| two types of a pass have the same | reported |
| --- | --- |
| companion path | yes |
| file, but not the same companion path | no |

The second case exists. The folders of a file are the segments of the package, and its name is in
snake case, which forgets where the capitals were: the later type overwrites the file of the
earlier one, and nothing tells of it (`Emitter.buttons_overwritten`).
-/

import Theming.Emission
import Theming.Proofs.Association

namespace Theming
namespace Emission

/-- A companion path that is claimed once more. -/
structure Collision where
  companion : String
  /-- The qualified name of the type that claimed it before. -/
  previous : String
  /-- The qualified name of the type that claims it now. -/
  declaring : String

/-- The warning of a collision. -/
def Collision.warning (c : Collision) : Log.Event :=
  event .warn ("Companion " ++ c.companion ++ " is claimed by both " ++ c.previous ++ " and " ++
    c.declaring ++ "; the later one wins")

/-- The collision of a type with the claims before it, if there is one. -/
def collision? (claimed : List (String × String)) (ty : DeclaringType) : Option Collision :=
  (claimed.lookup ty.companionPath).map fun previous =>
    ⟨ty.companionPath, previous, ty.qualifiedName⟩

/-- The collisions of types, in order, after the claims before them. -/
def collisions (claimed : List (String × String)) : List DeclaringType → List Collision
  | [] => []
  | ty :: rest => (collision? claimed ty).toList ++
      collisions ((ty.companionPath, ty.qualifiedName) :: claimed) rest

/-- **A path collides once less often than it is claimed.** -/
theorem count_collisions (path : String) (claimed : List (String × String))
    (tys : List DeclaringType) :
    ((collisions claimed tys).map Collision.companion).count path =
      (tys.map DeclaringType.companionPath).count path -
        if (claimed.lookup path).isSome then 0 else 1 := by
  induction tys generalizing claimed with
  | nil => rw [collisions, List.map_nil, List.map_nil, List.count_nil, Nat.zero_sub]
  | cons ty rest ih =>
    rw [collisions, List.map_append, List.count_append, ih, lookup_cons_ite, List.map_cons,
      List.count_cons]
    by_cases hpath : path = ty.companionPath
    · subst hpath
      cases hlookup : claimed.lookup ty.companionPath <;> simp [collision?, hlookup]
      omega
    · have hne : ¬ ty.companionPath = path := fun h => hpath h.symm
      rw [if_neg hpath]
      cases hlookup : claimed.lookup ty.companionPath <;> simp [collision?, hlookup, hne]

namespace Pass

/-- The warnings of a pass. -/
def warnings (pass : Pass) : List Log.Event := pass.log.filter fun e => e.level = .warn

/-- What a pass has claimed, reported and warned of, from another pass on. -/
structure Reports (pass : Pass) (found : List Collision) (pass' : Pass) : Prop where
  collisions : pass'.report.collisions = pass.report.collisions ++ found.map Collision.companion
  warnings : pass'.warnings = pass.warnings ++ found.map Collision.warning

theorem Reports.trans {pass pass' pass'' : Pass} {found others : List Collision}
    (h : pass.Reports found pass') (h' : pass'.Reports others pass'') :
    pass.Reports (found ++ others) pass'' :=
  ⟨by rw [h'.collisions, h.collisions, List.map_append, List.append_assoc],
    by rw [h'.warnings, h.warnings, List.map_append, List.append_assoc]⟩

/-- An event that is no warning is none. -/
theorem warnings_tell (pass : Pass) (level : Log.Level) (message : String)
    (hlevel : level ≠ .warn) : (pass.tell level message).warnings = pass.warnings := by
  have hevent : [event level message].filter (fun e => e.level = .warn) = [] := by
    simp [event, hlevel]
  rw [warnings, tell, List.filter_append, hevent, List.append_nil, warnings]

theorem warnings_warn (pass : Pass) (message : String) :
    (pass.tell .warn message).warnings = pass.warnings ++ [event .warn message] := by
  rw [warnings, tell, List.filter_append]
  rfl

/-- A claim reports a collision, if there is one. -/
theorem claim_reports (pass : Pass) (ty : DeclaringType) :
    pass.Reports (collision? pass.claimed ty).toList
        (pass.claim ty.companionPath ty.qualifiedName) ∧
      (pass.claim ty.companionPath ty.qualifiedName).claimed =
        (ty.companionPath, ty.qualifiedName) :: pass.claimed := by
  rw [claim, collision?]
  generalize ty.companionPath = companion
  generalize ty.qualifiedName = declaring
  cases pass.claimed.lookup companion with
  | none => exact ⟨⟨(List.append_nil _).symm, (List.append_nil _).symm⟩, rfl⟩
  | some previous =>
    dsimp only
    refine ⟨⟨rfl, ?_⟩, rfl⟩
    rw [warnings_warn]
    rfl

/-- What becomes of a type is no collision. -/
theorem record_reports (pass : Pass) (companion declaring : String)
    (outcome : Except EmitError String) :
    pass.Reports [] (pass.record companion declaring outcome) ∧
      (pass.record companion declaring outcome).claimed = pass.claimed := by
  cases outcome with
  | ok file =>
    refine ⟨⟨(List.append_nil _).symm, ?_⟩, rfl⟩
    rw [record, warnings_tell _ .debug _ nofun, List.map_nil, List.append_nil]
    rfl
  | error e =>
    refine ⟨⟨(List.append_nil _).symm, ?_⟩, rfl⟩
    rw [record, warnings_tell _ .error _ nofun, List.map_nil, List.append_nil]
    rfl

/-- One type: its claim is all that is reported of it. -/
theorem step_reports (emitter : Emitter) (pass : Pass) (ty : DeclaringType) :
    pass.Reports (collision? pass.claimed ty).toList (pass.step emitter ty) ∧
      (pass.step emitter ty).claimed = (ty.companionPath, ty.qualifiedName) :: pass.claimed := by
  obtain ⟨hclaim, hclaimed⟩ := pass.claim_reports ty
  rw [step]
  generalize pass.claim ty.companionPath ty.qualifiedName = pass₁ at hclaim hclaimed ⊢
  obtain ⟨outcome, tree⟩ := emitter.emit ty pass₁.tree
  obtain ⟨hrecord, hkept⟩ :=
    record_reports { pass₁ with tree } ty.companionPath ty.qualifiedName outcome
  have hwritten : pass₁.Reports [] (record { pass₁ with tree } ty.companionPath ty.qualifiedName
      outcome) := ⟨hrecord.collisions, hrecord.warnings⟩
  refine ⟨?_, hkept.trans hclaimed⟩
  rw [← List.append_nil (collision? pass.claimed ty).toList]
  exact hclaim.trans hwritten

/-- All types, one after the other. -/
theorem foldl_reports (emitter : Emitter) (tys : List DeclaringType) (pass : Pass) :
    pass.Reports (Emission.collisions pass.claimed tys) (tys.foldl (step emitter) pass) := by
  induction tys generalizing pass with
  | nil => exact ⟨(List.append_nil _).symm, (List.append_nil _).symm⟩
  | cons ty rest ih =>
    obtain ⟨hstep, hclaimed⟩ := pass.step_reports emitter ty
    rw [Emission.collisions, ← hclaimed, List.foldl_cons]
    exact hstep.trans (ih _)

end Pass
end Emission

namespace Emitter

open Emission

/-- What a pass reports and warns of does not depend on what becomes of the files. -/
theorem emitAll_reports (emitter : Emitter) (models : List DeclaringType) (tree : FileTree) :
    (emitter.emitAll models tree).report.collisions =
        (collisions [] (models.flatMap DeclaringType.qualifying)).map Collision.companion ∧
      (emitter.emitAll models tree).warnings =
        (collisions [] (models.flatMap DeclaringType.qualifying)).map Collision.warning := by
  obtain ⟨hcollisions, hwarnings⟩ :=
    Pass.foldl_reports emitter (models.flatMap DeclaringType.qualifying) { tree }
  refine ⟨hcollisions, ?_⟩
  rw [emitAll, Pass.close, Pass.warnings_tell _ .info _ nofun, hwarnings]
  rfl

/-- **A companion path that is claimed again is reported each time, with a warning**, whatever
becomes of the files. -/
theorem emitAll_collisions (emitter : Emitter) (models : List DeclaringType) (tree : FileTree) :
    let found := collisions [] (models.flatMap DeclaringType.qualifying)
    (emitter.emitAll models tree).report.collisions = found.map Collision.companion ∧
      (emitter.emitAll models tree).warnings = found.map Collision.warning ∧
      ∀ path, (emitter.emitAll models tree).report.collisions.count path =
        ((models.flatMap DeclaringType.qualifying).map DeclaringType.companionPath).count path -
          1 := by
  obtain ⟨hcollisions, hwarnings⟩ := emitter.emitAll_reports models tree
  refine ⟨hcollisions, hwarnings, fun path => ?_⟩
  rw [hcollisions]
  exact count_collisions path [] _

/-- Nothing is reported where no two companion paths are the same. -/
theorem emitAll_of_nodup (emitter : Emitter) {models : List DeclaringType} (tree : FileTree)
    (h : ((models.flatMap DeclaringType.qualifying).map DeclaringType.companionPath).Nodup) :
    (emitter.emitAll models tree).report.collisions = [] ∧
      (emitter.emitAll models tree).warnings = [] := by
  obtain ⟨hcollisions, hwarnings⟩ := emitter.emitAll_reports models tree
  have hnone : (collisions [] (models.flatMap DeclaringType.qualifying)).map
      Collision.companion = [] := by
    refine List.eq_nil_iff_forall_not_mem.mpr fun path => ?_
    have honce := List.nodup_iff_count_le_one.mp h path
    rw [← List.count_eq_zero, count_collisions]
    exact Nat.sub_eq_zero_of_le honce
  rw [hcollisions, hwarnings, hnone, List.map_eq_nil_iff.mp hnone]
  exact ⟨rfl, rfl⟩

/-- Types of one package have the same file if their stems are the same. -/
theorem companionFile_eq (emitter : Emitter) {ty ty' : DeclaringType}
    (hpackage : ty.package = ty'.package)
    (hstem : Naming.companionFileStem ty.name = Naming.companionFileStem ty'.name) :
    emitter.companionFile ty = emitter.companionFile ty' := by
  rw [companionFile, companionFileOf, hpackage, hstem]
  rfl

/-- A dry run gives the file of every type whose source can be made. -/
theorem emit_dryRun {emitter : Emitter} (hdry : emitter.dryRun = true) {ty : DeclaringType}
    (h : (Companion.render Companion.defaultVisibility ty).isOk = true) (tree : FileTree) :
    emitter.emit ty tree = (.ok (emitter.companionFile ty), tree) := by
  rw [emit]
  cases hrender : Companion.render Companion.defaultVisibility ty with
  | error e =>
    rw [hrender] at h
    cases h
  | ok source =>
    cases source with
    | none => rfl
    | some text => exact if_pos hdry

/-- A dry run takes down the files of all types whose source can be made. -/
theorem files_of_dryRun {emitter : Emitter} (hdry : emitter.dryRun = true)
    {models : List DeclaringType}
    (h : ∀ ty ∈ models.flatMap DeclaringType.qualifying,
      (Companion.render Companion.defaultVisibility ty).isOk = true) (tree : FileTree) :
    (emitter.emitAll models tree).report.written.map EmittedCompanion.file =
      (models.flatMap DeclaringType.qualifying).map emitter.companionFile := by
  have hloop : ∀ (tys : List DeclaringType) (pass : Pass),
      (∀ ty ∈ tys, (Companion.render Companion.defaultVisibility ty).isOk = true) →
      (tys.foldl (Pass.step emitter) pass).report.written.map EmittedCompanion.file =
        pass.report.written.map EmittedCompanion.file ++ tys.map emitter.companionFile := by
    intro tys
    induction tys with
    | nil => exact fun pass _ => (List.append_nil _).symm
    | cons ty rest ih =>
      intro pass hsources
      have hclaim : (pass.claim ty.companionPath ty.qualifiedName).report.written =
          pass.report.written := by
        rw [Pass.claim]
        generalize ty.companionPath = companion
        cases pass.claimed.lookup companion <;> rfl
      have hstep : (pass.step emitter ty).report.written.map EmittedCompanion.file =
          pass.report.written.map EmittedCompanion.file ++ [emitter.companionFile ty] := by
        rw [Pass.step, emit_dryRun hdry (hsources ty List.mem_cons_self), ← hclaim]
        generalize emitter.companionFile ty = file
        exact List.map_append ..
      rw [List.foldl_cons, ih _ fun ty hty => hsources ty (List.mem_cons_of_mem _ hty), hstep,
        List.append_assoc, List.map_cons, List.singleton_append]
  exact hloop _ { tree } h

end Emitter

namespace DeclaringType

/-- A type that holds no other one is the only one of it that may get a companion. -/
theorem qualifying_of_flat {ty : DeclaringType} (hfields : ty.qualifies = true)
    (hnested : ty.nested.isEmpty = true) : ty.qualifying = [ty] := by
  obtain ⟨package, enclosing, name, fields, nested⟩ := ty
  obtain rfl := List.isEmpty_iff.mp hnested
  have hbound : ¬ fields.isEmpty = true := by simpa [qualifies] using hfields
  rw [qualifying, if_neg hbound]
  rfl

/-- A button with a tint. -/
def button (name : String) : TypeDescription where
  package := "app"
  name := name
  fields := [{ name := "tint", type := "Option<Color>", annotations := [.bindColor 1] }]

/-- Where the companion of a type goes, and whether it is one type with a source. -/
def outline (ty : DeclaringType) : (String × String × String) × Bool :=
  ((ty.package, ty.companionPath, Naming.companionFileStem ty.name),
    ty.qualifies && ty.nested.isEmpty &&
      (Companion.render Companion.defaultVisibility ty).isOk)

theorem of_outline {desc : TypeDescription} {package path stem : String}
    (h : (build desc).toOption.map outline = some ((package, path, stem), true)) :
    ∃ ty, build desc = .ok ty ∧ ty.package = package ∧ ty.companionPath = path ∧
      Naming.companionFileStem ty.name = stem ∧ ty.qualifying = [ty] ∧
      (Companion.render Companion.defaultVisibility ty).isOk = true := by
  cases hbuild : build desc with
  | error e =>
    rw [hbuild] at h
    cases h
  | ok ty =>
    rw [hbuild] at h
    obtain ⟨hplace, hshape⟩ := Prod.mk.inj (Option.some.inj h)
    obtain ⟨hpackage, hplace⟩ := Prod.mk.inj hplace
    obtain ⟨hpath, hstem⟩ := Prod.mk.inj hplace
    rw [Bool.and_eq_true, Bool.and_eq_true] at hshape
    exact ⟨ty, rfl, hpackage, hpath, hstem, qualifying_of_flat hshape.1.1 hshape.1.2, hshape.2⟩

end DeclaringType

open DeclaringType in
/-- **A file may be overwritten without a word**: two buttons of one package whose names differ in
the case of letters go to one file, and nothing is reported or warned of. -/
theorem Emitter.buttons_overwritten :
    ∃ former latter, build (button "HTTPButton") = .ok former ∧
      build (button "HttpButton") = .ok latter ∧
      [former, latter].flatMap qualifying = [former, latter] ∧
      ∀ (emitter : Emitter) (tree : FileTree),
        emitter.companionFile former = emitter.companionFile latter ∧
        (emitter.dryRun = true → (emitter.emitAll [former, latter] tree).report.written.map
          EmittedCompanion.file = [emitter.companionFile former, emitter.companionFile latter]) ∧
        (emitter.emitAll [former, latter] tree).report.collisions = [] ∧
        (emitter.emitAll [former, latter] tree).warnings = [] := by
  have hupper : (build (button "HTTPButton")).toOption.map outline =
      some (("app", "app::HTTPButtonThemeBinding", "http_button_theme_binding"), true) := by
    decide +kernel
  have hlower : (build (button "HttpButton")).toOption.map outline =
      some (("app", "app::HttpButtonThemeBinding", "http_button_theme_binding"), true) := by
    decide +kernel
  obtain ⟨former, hformer, hpackage, hpath, hstem, honly, hsource⟩ := of_outline hupper
  obtain ⟨latter, hlatter, hpackage', hpath', hstem', honly', hsource'⟩ := of_outline hlower
  have hall : [former, latter].flatMap qualifying = [former, latter] := by
    rw [List.flatMap_cons, List.flatMap_cons, honly, honly']
    rfl
  refine ⟨former, latter, hformer, hlatter, hall, fun emitter tree => ⟨?_, fun hdry => ?_, ?_⟩⟩
  · exact emitter.companionFile_eq (hpackage.trans hpackage'.symm) (hstem.trans hstem'.symm)
  · have hsources : ∀ ty ∈ [former, latter].flatMap qualifying,
        (Companion.render Companion.defaultVisibility ty).isOk = true := by
      simp [hall, hsource, hsource']
    have hfiles := files_of_dryRun hdry hsources tree
    rw [hall] at hfiles
    exact hfiles
  · refine emitter.emitAll_of_nodup tree ?_
    rw [hall, List.map_cons, List.map_cons, hpath, hpath']
    decide

end Theming
