/-
# Where companions are laid out

The documented file of a companion is `<out>/<package folders>/<stem>.rs`: below the output
directory there is one component for each segment of the package, and one for the file. Segments and
stem are joined to the path as they are spelled, so this holds if all of them are names.

| a segment of the package, or the name of the type | the file |
| --- | --- |
| names | below the output directory, as documented |
| the segment is `.` or holds a slash | the components are not those of the package |
| the segment is `..` | leads out of the directory above it |
| starts with a slash | is not below the output directory at all |

A segment is any text, and a name may have slashes in the comments around its identifier. So what a
model accepts need not stay in the output directory (`Emitter.widget_escapes`); what does so can be
told from package and name alone (`Emitter.layout_iff`).
-/

import Theming.Proofs.Collisions
import Theming.Proofs.Saving

namespace Theming

/-! ## Slashes in stems -/

namespace Text

theorem ofNat_ne_slash {n : Nat} (h : 48 ≤ n) : Char.ofNat n ≠ '/' := by
  by_cases hvalid : n.isValidChar
  · intro heq
    rw [Char.ofNat, dif_pos hvalid] at heq
    have hcode : n = '/'.toNat := congrArg Char.toNat heq
    have hslash : '/'.toNat = 47 := rfl
    omega
  · rw [Char.ofNat, dif_neg hvalid]
    decide

theorem lowerShift_bound {n : Nat} (h : 128 ≤ n) : 48 ≤ ((n : Int) + lowerShift n).toNat := by
  have hruns : ∀ run ∈ lowerRuns, 48 ≤ (run.1 : Int) + run.2.2.2 := by decide +kernel
  rw [lowerShift]
  split
  · rename_i lo hi step d hfind
    have hlow := hruns _ (List.mem_of_find?_eq_some hfind)
    have hin := List.find?_some hfind
    simp only [Bool.and_eq_true, decide_eq_true_eq] at hlow hin
    omega
  · omega

/-- No capital becomes a slash. -/
theorem slash_notMem_toLower {c : Char} (h : isUpper c = true) : '/' ∉ toLower c := by
  rw [toLower]
  split_ifs with hascii hcapital hdotted
  · have hA : 'A'.toNat = 65 := rfl
    have hlow : 'A'.toNat ≤ c.toNat := hcapital.1
    rw [List.mem_singleton]
    exact (ofNat_ne_slash (by omega)).symm
  · rw [isUpper, if_pos hascii, decide_eq_true_eq] at h
    exact absurd h hcapital
  · decide
  · rw [List.mem_singleton]
    exact (ofNat_ne_slash (lowerShift_bound (by omega))).symm

end Text

namespace Naming

theorem slash_mem_snakeAfter (prev : Option Char) (cs : List Char) :
    '/' ∈ snakeAfter prev cs ↔ '/' ∈ cs := by
  induction cs generalizing prev with
  | nil => rfl
  | cons c rest ih =>
    rw [snakeAfter]
    by_cases hupper : Text.isUpper c = true
    · have hne : '/' ≠ c := by
        rintro rfl
        exact absurd hupper (by decide)
      have hmark : '/' ∉ (if startsWord prev rest.head? then ['_'] else []) := by
        split_ifs <;> decide
      rw [if_pos hupper, List.mem_append, List.mem_append, ih, List.mem_cons,
        or_iff_right (not_or.mpr ⟨hmark, Text.slash_notMem_toLower hupper⟩), or_iff_right hne]
    · rw [if_neg hupper, List.mem_cons, List.mem_cons, ih]

theorem slash_mem_companionFileStem (simple : String) :
    '/' ∈ (companionFileStem simple).toList ↔ '/' ∈ simple.toList := by
  have hsuffix : '/' ∉ companionSuffix.toList := by decide
  rw [companionFileStem, snakeCase, String.toList_ofList, slash_mem_snakeAfter, companionName,
    String.toList_append, List.mem_append, or_iff_left hsuffix]

end Naming

/-! ## Components -/

/-- The segments of its package are names of folders, and its own name is one of a file. -/
structure DeclaringType.Contained (ty : DeclaringType) : Prop where
  package : ∀ segment ∈ Emitter.packageSegments ty.package, Path.IsName segment
  name : '/' ∉ ty.name.toList

namespace Emitter

variable {emitter : Emitter} {ty ty' : DeclaringType} {tree : FileTree} {location : Location}

/-- The name of the file of a type. -/
def fileName (ty : DeclaringType) : String := Naming.companionFileStem ty.name ++ ".rs"

/-- What the file of a type has below the output directory: its package, and its own name. -/
def below (ty : DeclaringType) : List String := packageSegments ty.package ++ [fileName ty]

/-- The file of a type is the output directory, extended by its package and by its own name, and
does not lead upwards from there. -/
structure LaysOut (emitter : Emitter) (ty : DeclaringType) : Prop where
  components : Path.components (emitter.companionFile ty) =
    Path.components emitter.outDir ++ below ty
  down : ".." ∉ below ty

theorem companionFile_eq_foldl (emitter : Emitter) (ty : DeclaringType) :
    emitter.companionFile ty = (below ty).foldl Path.join emitter.outDir := by
  rw [below, List.foldl_append]
  rfl

theorem slash_mem_fileName (ty : DeclaringType) :
    '/' ∈ (fileName ty).toList ↔ '/' ∈ ty.name.toList := by
  have hends : '/' ∉ ".rs".toList := by decide
  rw [fileName, String.toList_append, List.mem_append, or_iff_left hends,
    Naming.slash_mem_companionFileStem]

/-- Package and name of a type are fine if all that its file has below the output directory is. -/
theorem contained_iff (ty : DeclaringType) :
    ty.Contained ↔ ∀ part ∈ below ty, Path.IsName part := by
  have hfile : Path.IsName (fileName ty) ↔ '/' ∉ ty.name.toList := by
    refine ⟨fun h => mt (slash_mem_fileName ty).mpr h.slash, fun h => ?_⟩
    refine Path.isName_of_length (mt (slash_mem_fileName ty).mp h) ?_
    have hlength : ".rs".toList.length = 3 := rfl
    rw [fileName, String.toList_append, List.length_append, hlength]
    omega
  rw [below, List.forall_mem_append, List.forall_mem_singleton, hfile]
  exact ⟨fun h => ⟨h.package, h.name⟩, fun h => ⟨h.1, h.2⟩⟩

theorem laysOut_of_contained (h : ty.Contained) (emitter : Emitter) : emitter.LaysOut ty := by
  have hnames := (contained_iff ty).mp h
  refine ⟨?_, fun hup => (hnames _ hup).down rfl⟩
  rw [companionFile_eq_foldl, Path.components_foldl hnames]

theorem contained_of_laysOut (hout : emitter.outDir ≠ "") (h : emitter.LaysOut ty) :
    ty.Contained := by
  rw [contained_iff]
  intro part hpart
  have hname := Path.mem_names_of_components (Path.components_ne_nil hout) h.components hpart
  obtain ⟨hparts, hcounts⟩ := Path.mem_names.mp hname
  exact ⟨Path.notMem_of_mem_parts hparts, hcounts, fun hup => h.down (hup ▸ hpart)⟩

/-! ## Locations -/

/-- Names lead to a location below the one they start from. -/
theorem eq_append_of_walk {parts : List String} (h : ∀ part ∈ parts, Path.IsName part)
    {base : Location} (hwalk : parts.foldlM tree.step base = .ok location) :
    location = base ++ parts := by
  induction parts generalizing base with
  | nil =>
    cases hwalk
    exact (List.append_nil _).symm
  | cons part rest ih =>
    rw [List.forall_mem_cons] at h
    rw [List.foldlM_cons] at hwalk
    obtain ⟨next, hstep, hwalk⟩ := Except.bind_eq_ok hwalk
    rw [ih h.2 hwalk, FileTree.eq_append_of_step h.1 hstep, List.append_assoc]
    rfl

/-- The file of a contained type starts where the output directory does. -/
theorem start_companionFile (h : ty.Contained) (emitter : Emitter) (tree : FileTree) :
    tree.start (emitter.companionFile ty) = tree.start emitter.outDir := by
  refine FileTree.start_eq ?_ rfl
  rw [companionFile_eq_foldl, Path.isAbsolute_foldl ((contained_iff ty).mp h)]

/-- The file of a contained type is found below the output directory. -/
theorem locate_companionFile (h : ty.Contained)
    (hlocate : tree.locate (emitter.companionFile ty) = .ok location) :
    ∃ base, (Path.names emitter.outDir).foldlM tree.step (tree.start emitter.outDir) = .ok base ∧
      location = base ++ below ty := by
  have hnames := (contained_iff ty).mp h
  have hparts : Path.names (emitter.companionFile ty) =
      Path.names emitter.outDir ++ below ty := by
    rw [companionFile_eq_foldl, Path.names_foldl hnames]
  obtain ⟨folder, name, hleads, -⟩ := emitter.companionFile_leads ty
  rw [FileTree.locate_eq _ hleads, hparts, List.foldlM_append,
    start_companionFile h] at hlocate
  split_ifs at hlocate
  obtain ⟨base, hbase, hwalk⟩ := Except.bind_eq_ok hlocate
  exact ⟨base, hbase, eq_append_of_walk hnames hwalk⟩

/-- **Where types are found at one location they have one file.** -/
theorem companionFile_inj (h : ty.Contained) (h' : ty'.Contained)
    (hlocate : tree.locate (emitter.companionFile ty) = .ok location)
    (hlocate' : tree.locate (emitter.companionFile ty') = .ok location) :
    emitter.companionFile ty = emitter.companionFile ty' := by
  obtain ⟨base, hbase, hlocation⟩ := locate_companionFile h hlocate
  obtain ⟨base', hbase', hlocation'⟩ := locate_companionFile h' hlocate'
  obtain rfl := Except.ok.inj (hbase.symm.trans hbase')
  rw [companionFile_eq_foldl, companionFile_eq_foldl,
    List.append_cancel_left (hlocation.symm.trans hlocation')]

/-- **A companion is laid out as documented iff package and name hold names only**, wherever the
output directory is. -/
theorem layout_iff (ty : DeclaringType) :
    (ty.Contained → ∀ emitter : Emitter, emitter.LaysOut ty) ∧
      ∀ emitter : Emitter, emitter.outDir ≠ "" → emitter.LaysOut ty → ty.Contained :=
  ⟨fun h emitter => laysOut_of_contained h emitter, fun _ hout h => contained_of_laysOut hout h⟩

open DeclaringType in
/-- **A companion may be written anywhere**: a model accepts a widget with a comment in front of its
name, and its file is not below any output directory. -/
theorem widget_escapes : ∃ ty, build (button "/**/Widget") = .ok ty ∧ ty.qualifying = [ty] ∧
    ∀ emitter : Emitter, emitter.companionFile ty = "/**/widget_theme_binding.rs" ∧
      ¬ emitter.LaysOut ty := by
  have houtline : (build (button "/**/Widget")).toOption.map outline =
      some (("app", "app::/**/WidgetThemeBinding", "/**/widget_theme_binding"), true) := by
    decide +kernel
  obtain ⟨ty, hbuild, -, -, hstem, hqualifying, -⟩ := of_outline houtline
  refine ⟨ty, hbuild, hqualifying, fun emitter => ?_⟩
  have hname : fileName ty = "/**/widget_theme_binding.rs" := by
    rw [fileName, hstem]
    rfl
  have habsolute : Path.isAbsolute "/**/widget_theme_binding.rs" = true :=
    Path.isAbsolute_iff.mpr ⟨"**/widget_theme_binding.rs", rfl⟩
  have hfile : emitter.companionFile ty = "/**/widget_theme_binding.rs" := by
    rw [companionFile_eq_foldl, below, List.foldl_append, List.foldl_cons, List.foldl_nil, hname,
      Path.join, if_pos habsolute]
  refine ⟨hfile, fun h => ?_⟩
  have hlast := congrArg List.getLast? h.components
  rw [hfile, below, hname, ← List.append_assoc, List.getLast?_concat, Path.components, Path.names,
    Path.parts_eq] at hlast
  exact absurd hlast (by decide)

end Emitter
end Theming
