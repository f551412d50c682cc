/-
# Saving companions

What one companion does to the tree. Its file always has a name that ends in `.rs`, so it leads to a
name in a folder.

| the companion | the tree |
| --- | --- |
| fails | may have more folders, and keeps all entries (`emit_failed`) |
| is written | has its text at one location, and keeps all other entries (`emit_written`) |
| is written or fails once more | has the same folders and files as before (`emit_again`) |

What failed because something was missing could succeed later. Only what a path starts from can be
missing (`emit_found`).
-/

import Theming.Emission
import Theming.Proofs.Folders

namespace Theming

/-- A companion failed because something was missing. -/
def EmitError.IsMissing (e : EmitError) : Prop := ∃ path, e = .io path .missing

namespace Emitter

variable {emitter : Emitter} {ty : DeclaringType} {tree tree' : FileTree}

/-! ## The file of a companion -/

/-- The file of a companion leads to a name that ends in `.rs`. -/
theorem companionFile_leads (emitter : Emitter) (ty : DeclaringType) :
    ∃ folder name, Path.Leads (emitter.companionFile ty) folder name ∧
      ".rs".toList <:+ name.toList := by
  have hends : ".rs".toList <:+ (emitter.companionFile ty).toList := by
    refine List.IsSuffix.trans ?_ (Path.suffix_join _ _)
    rw [String.toList_append]
    exact List.suffix_append _ _
  obtain ⟨before, name, hparts, hname⟩ := Path.exists_last hends (by decide)
  have hslash : '/' ∉ name.toList :=
    Path.notMem_of_mem_parts (hparts ▸ List.mem_append_right _ List.mem_cons_self)
  obtain ⟨folder, hleads⟩ :=
    Path.exists_leads hparts (Path.isName_of_length hslash hname.length_le)
  exact ⟨folder, name, hleads, hname⟩

/-- What is to become of a companion: it has a file unless its source cannot be made. -/
def planned (emitter : Emitter) (ty : DeclaringType) : Except EmitError String :=
  match Companion.render Companion.defaultVisibility ty with
  | .error e => .error (.model e)
  | .ok _ => .ok (emitter.companionFile ty)

theorem planned_of_render {source : Option String}
    (h : Companion.render Companion.defaultVisibility ty = .ok source) :
    emitter.planned ty = .ok (emitter.companionFile ty) := by
  rw [planned, h]

theorem planned_error {e : EmitError} (h : emitter.planned ty = .error e) :
    ∃ e', e = .model e' := by
  rw [planned] at h
  split at h
  · exact ⟨_, (Except.error.inj h).symm⟩
  · cases h

theorem planned_file {file : String} (h : emitter.planned ty = .ok file) :
    emitter.companionFile ty = file := by
  rw [planned] at h
  split at h
  · cases h
  · exact Except.ok.inj h

theorem not_isMissing_of_planned {e : EmitError} (h : emitter.planned ty = .error e) :
    ¬ e.IsMissing := by
  obtain ⟨e', rfl⟩ := planned_error h
  rintro ⟨path, heq⟩
  cases heq

/-! ## One file -/

section Save

variable {path folder name text : String}

/-- A file is saved by making its folder and then writing it. -/
theorem save_eq (h : Path.Leads path folder name) (text : String) (tree : FileTree) :
    save path text tree = match tree.makeDirectories folder with
      | (.error fault, made) => (.error (.io folder fault), made)
      | (.ok (), made) => match made.write path text with
        | .ok written => (.ok (), written)
        | .error fault => (.error (.io path fault), made) := by
  rw [save, h.parent]
  dsimp only
  generalize tree.makeDirectories folder = result
  obtain ⟨made | made, tree'⟩ := result <;> rfl

/-- How saving a text to a path in a folder ends: something is in the way of the folder or of the
file, or the text is put at the location of the path. -/
inductive Saves (path folder text : String) (tree : FileTree) :
    Except EmitError Unit × FileTree → Prop
  | blocked {fault : FileFault} {made : FileTree}
      (hmade : tree.makeDirectories folder = (.error fault, made)) :
      Saves path folder text tree (.error (.io folder fault), made)
  | refused {fault : FileFault} {made : FileTree}
      (hmade : tree.makeDirectories folder = (.ok (), made))
      (hwrite : made.write path text = .error fault) :
      Saves path folder text tree (.error (.io path fault), made)
  | saved {made : FileTree} {location : Location}
      (hmade : tree.makeDirectories folder = (.ok (), made))
      (hlocate : made.locate path = .ok location) (hkind : made.kind? location ≠ some true) :
      Saves path folder text tree (.ok (), made.put location (.file text.toUTF8))

theorem saves_save (h : Path.Leads path folder name) (text : String) (tree : FileTree) :
    Saves path folder text tree (save path text tree) := by
  rw [save_eq h]
  cases hmade : tree.makeDirectories folder with
  | mk made? made =>
    cases made? with
    | error fault => exact .blocked hmade
    | ok _ =>
      dsimp only
      cases hwrite : made.write path text with
      | error fault => exact .refused hmade hwrite
      | ok written =>
        obtain ⟨location, hlocate, hkind, rfl⟩ := FileTree.write_eq_ok.mp hwrite
        exact .saved hmade hlocate hkind

/-- A failure leaves folders at most. -/
theorem save_error (h : Path.Leads path folder name) {e : EmitError}
    (hsave : (save path text tree).1 = .error e) : tree.Keeps (save path text tree).2 := by
  have hkeeps := tree.makeDirectories_keeps folder
  have hsaves := saves_save h text tree
  generalize save path text tree = result at hsaves hsave ⊢
  cases hsaves with
  | blocked hmade => rwa [hmade] at hkeeps
  | refused hmade _ => rwa [hmade] at hkeeps
  | saved => cases hsave

/-- A failure names the folder or the file. -/
theorem save_io (h : Path.Leads path folder name) {e : EmitError}
    (hsave : (save path text tree).1 = .error e) : ∃ faulty fault, e = .io faulty fault := by
  have hsaves := saves_save h text tree
  generalize save path text tree = result at hsaves hsave
  cases hsaves with
  | blocked => exact ⟨folder, _, (Except.error.inj hsave).symm⟩
  | refused => exact ⟨path, _, (Except.error.inj hsave).symm⟩
  | saved => cases hsave

/-- **A success puts the text at the location of the path**, and folders above it. -/
theorem save_ok (h : Path.Leads path folder name) (hsave : (save path text tree).1 = .ok ()) :
    ∃ made location, tree.Keeps made ∧ made.locate path = .ok location ∧
      made.kind? location ≠ some true ∧
      (save path text tree).2 = made.put location (.file text.toUTF8) := by
  have hkeeps := tree.makeDirectories_keeps folder
  have hsaves := saves_save h text tree
  generalize save path text tree = result at hsaves hsave ⊢
  cases hsaves with
  | blocked => cases hsave
  | refused => cases hsave
  | saved hmade hlocate hkind =>
    rw [hmade] at hkeeps
    exact ⟨_, _, hkeeps, hlocate, hkind, rfl⟩

theorem save_grows (h : Path.Leads path folder name) (text : String) (tree : FileTree) :
    tree.Grows (save path text tree).2 := by
  cases hsave : (save path text tree).1 with
  | error e => exact (save_error h hsave).grows
  | ok _ =>
    obtain ⟨made, location, hkeeps, -, hkind, htree⟩ := save_ok h hsave
    rw [htree]
    exact hkeeps.grows.trans (FileTree.grows_put_file hkind _)

/-- **Saving to a path once more comes to the same**, whatever is saved, and makes no folder and no
file that is not there. -/
theorem save_again (h : Path.Leads path folder name)
    (hfound : ∀ e, (save path text tree).1 = .error e → ¬ e.IsMissing)
    (hgrows : (save path text tree).2.Grows tree') (text' : String) :
    (save path text' tree').1 = (save path text tree).1 ∧
      (save path text' tree').2.Grows tree' := by
  have hfolders : (tree.makeDirectories folder).2.Grows tree' →
      (tree.makeDirectories folder).1 ≠ .error .missing →
        tree'.makeDirectories folder = ((tree.makeDirectories folder).1, tree') :=
    FileTree.Grows.makeDirectories
  have hsaves := saves_save h text tree
  generalize save path text tree = result at hsaves hfound hgrows ⊢
  rw [save_eq h]
  cases hsaves with
  | @blocked fault made hmade =>
    have hthere : fault ≠ .missing := fun heq => hfound _ rfl ⟨folder, by rw [heq]⟩
    rw [hmade] at hfolders
    rw [hfolders hgrows fun heq => hthere (Except.error.inj heq)]
    exact ⟨rfl, .refl _⟩
  | @refused fault made hmade hwrite =>
    have hthere : fault ≠ .missing := fun heq => hfound _ rfl ⟨path, by rw [heq]⟩
    rw [hmade] at hfolders
    rw [hfolders hgrows nofun]
    dsimp only
    rw [hgrows.write_error hwrite hthere text']
    exact ⟨rfl, .refl _⟩
  | @saved made location hmade hlocate hkind =>
    have hput := FileTree.grows_put_file hkind text.toUTF8
    have hfile : (made.put location (.file text.toUTF8)).kind? location = some false := by
      rw [FileTree.kind?_put_file hkind, if_pos rfl]
    rw [hmade] at hfolders
    rw [hfolders (hput.trans hgrows) nofun]
    dsimp only
    rw [hgrows.write_ok (hput.locate hlocate nofun) hfile text']
    exact ⟨rfl, FileTree.put_file_grows (hgrows.kinds hfile) _⟩

/-- Nothing is missing if what the path starts from is there. -/
theorem save_found (h : Path.Leads path folder name) (hstart : tree.Starts path) {e : EmitError}
    (hsave : (save path text tree).1 = .error e) : ¬ e.IsMissing := by
  have hfolder : tree.Starts folder := by
    rw [FileTree.Starts, FileTree.start_eq h.start rfl]
    exact hstart
  have hfolders := FileTree.makeDirectories_ne_missing hfolder
  have hlocated := FileTree.locate_ne_missing hstart h
  have hsaves := saves_save h text tree
  generalize save path text tree = result at hsaves hsave
  rintro ⟨faulty, rfl⟩
  cases hsaves with
  | blocked hmade =>
    cases hsave
    rw [hmade] at hfolders
    exact hfolders rfl
  | refused hmade hwrite =>
    cases hsave
    rw [hmade] at hlocated
    exact hlocated rfl (FileTree.locate_of_write_missing hwrite)
  | saved => cases hsave

/-- Nothing is saved if what the path starts from is not there. -/
theorem save_unstarted (h : Path.Leads path folder name) (hstart : ¬ tree.Starts path)
    (text : String) : ∃ e, save path text tree = (.error e, tree) := by
  rw [save_eq h]
  by_cases hempty : folder = ""
  · obtain ⟨fault, hlocate⟩ := FileTree.locate_unstarted hstart h
    have hmade : tree.makeDirectories folder = (.ok (), tree) := by
      rw [hempty]
      rfl
    rw [hmade]
    dsimp only
    rw [FileTree.write_of_error hlocate]
    exact ⟨_, rfl⟩
  · have hfolder : ¬ tree.Starts folder := by
      rw [FileTree.Starts, FileTree.start_eq h.start rfl]
      exact hstart
    obtain ⟨fault, hmade⟩ := FileTree.makeDirectories_unstarted hfolder hempty
    rw [hmade]
    exact ⟨_, rfl⟩

end Save

/-! ## One companion -/

section Saved

variable {text : String}
  (hrender : Companion.render Companion.defaultVisibility ty = .ok (some text))
include hrender

/-- A companion is saved if it has a source and is not only planned. -/
theorem emit_saved (hreal : emitter.dryRun = false) (tree : FileTree) :
    emitter.emit ty tree = ((save (emitter.companionFile ty) text tree).1.map fun _ =>
      emitter.companionFile ty, (save (emitter.companionFile ty) text tree).2) := by
  rw [emit, hrender]
  dsimp only
  rw [hreal, if_neg Bool.false_ne_true]

theorem emit_saved_tree (hreal : emitter.dryRun = false) (tree : FileTree) :
    (emitter.emit ty tree).2 = (save (emitter.companionFile ty) text tree).2 := by
  rw [emit_saved hrender hreal]

theorem emit_saved_error (hreal : emitter.dryRun = false) {e : EmitError} :
    (emitter.emit ty tree).1 = .error e ↔
      (save (emitter.companionFile ty) text tree).1 = .error e := by
  rw [emit_saved hrender hreal]
  cases (save (emitter.companionFile ty) text tree).1 <;> simp [Except.map]

theorem emit_saved_ok (hreal : emitter.dryRun = false) {file : String} :
    (emitter.emit ty tree).1 = .ok file ↔
      (save (emitter.companionFile ty) text tree).1 = .ok () ∧ emitter.companionFile ty = file := by
  rw [emit_saved hrender hreal]
  cases (save (emitter.companionFile ty) text tree).1 <;> simp [Except.map]

end Saved

/-- What is not saved is only planned, and does not look at the tree. -/
theorem emit_unsaved (h : emitter.dryRun = true ∨
      ∀ text, Companion.render Companion.defaultVisibility ty ≠ .ok (some text))
    (tree : FileTree) : emitter.emit ty tree = (emitter.planned ty, tree) := by
  rw [emit, planned]
  cases hrender : Companion.render Companion.defaultVisibility ty with
  | error e => rfl
  | ok source =>
    cases source with
    | none => rfl
    | some text =>
      rcases h with hdry | hnone
      · exact if_pos hdry
      · exact absurd hrender (hnone text)

/-- Either a companion is saved, or the tree is of no matter to it and stays as it is. -/
theorem emit_cases (emitter : Emitter) (ty : DeclaringType) :
    (emitter.dryRun = false ∧ ∃ text,
      Companion.render Companion.defaultVisibility ty = .ok (some text)) ∨
    ∀ tree, emitter.emit ty tree = (emitter.planned ty, tree) := by
  by_cases hreal : emitter.dryRun = false
  · by_cases hsome : ∃ text, Companion.render Companion.defaultVisibility ty = .ok (some text)
    · exact .inl ⟨hreal, hsome⟩
    · exact .inr (emit_unsaved (.inr (not_exists.mp hsome)))
  · exact .inr (emit_unsaved (.inl (Bool.not_eq_false _ ▸ hreal)))

/-- A companion only adds to the tree. -/
theorem emit_grows (emitter : Emitter) (ty : DeclaringType) (tree : FileTree) :
    tree.Grows (emitter.emit ty tree).2 := by
  obtain ⟨folder, name, hleads, -⟩ := emitter.companionFile_leads ty
  rcases emitter.emit_cases ty with ⟨hreal, text, hrender⟩ | hunsaved
  · rw [emit_saved_tree hrender hreal]
    exact save_grows hleads text tree
  · rw [hunsaved]
    exact .refl tree

/-- Nothing is missing for a companion if what its path starts from is there. -/
theorem emit_found (hstart : tree.Starts (emitter.companionFile ty)) {e : EmitError}
    (h : (emitter.emit ty tree).1 = .error e) : ¬ e.IsMissing := by
  obtain ⟨folder, name, hleads, -⟩ := emitter.companionFile_leads ty
  rcases emitter.emit_cases ty with ⟨hreal, text, hrender⟩ | hunsaved
  · exact save_found hleads hstart ((emit_saved_error hrender hreal).mp h)
  · rw [hunsaved] at h
    exact not_isMissing_of_planned h

/-- **Once more the same becomes of a companion**, and the tree gets no folder and no file that it
does not have. -/
theorem emit_again (hfound : ∀ e, (emitter.emit ty tree).1 = .error e → ¬ e.IsMissing)
    (hgrows : (emitter.emit ty tree).2.Grows tree') :
    (emitter.emit ty tree').1 = (emitter.emit ty tree).1 ∧
      (emitter.emit ty tree').2.Grows tree' := by
  obtain ⟨folder, name, hleads, -⟩ := emitter.companionFile_leads ty
  rcases emitter.emit_cases ty with ⟨hreal, text, hrender⟩ | hunsaved
  · rw [emit_saved_tree hrender hreal] at hgrows
    obtain ⟨houtcome, hsame⟩ := save_again hleads
      (fun e hsave => hfound e ((emit_saved_error hrender hreal).mpr hsave)) hgrows text
    refine ⟨?_, ?_⟩
    · rw [emit_saved hrender hreal, emit_saved hrender hreal, houtcome]
    · rw [emit_saved_tree hrender hreal]
      exact hsame
  · rw [hunsaved, hunsaved]
    exact ⟨rfl, .refl tree'⟩

/-- A companion that does not fail is in its file. -/
theorem emit_file {file : String} (h : (emitter.emit ty tree).1 = .ok file) :
    emitter.companionFile ty = file := by
  rcases emitter.emit_cases ty with ⟨hreal, text, hrender⟩ | hunsaved
  · exact ((emit_saved_ok hrender hreal).mp h).2
  · rw [hunsaved] at h
    exact planned_file h

section Together

variable {ty' : DeclaringType} {text text' : String} (hreal : emitter.dryRun = false)
  (hrender : Companion.render Companion.defaultVisibility ty = .ok (some text))
include hreal hrender

/-- **Companions with one file are both written or fail alike.** -/
theorem emit_same (hrender' : Companion.render Companion.defaultVisibility ty' = .ok (some text'))
    (hfile : emitter.companionFile ty' = emitter.companionFile ty)
    (hfound : ∀ e, (emitter.emit ty tree).1 = .error e → ¬ e.IsMissing)
    (hgrows : (emitter.emit ty tree).2.Grows tree') :
    (emitter.emit ty' tree').1 = (emitter.emit ty tree).1 := by
  obtain ⟨folder, name, hleads, -⟩ := emitter.companionFile_leads ty
  rw [emit_saved_tree hrender hreal] at hgrows
  obtain ⟨houtcome, -⟩ := save_again hleads
    (fun e hsave => hfound e ((emit_saved_error hrender hreal).mpr hsave)) hgrows text'
  rw [emit_saved hrender' hreal, emit_saved hrender hreal, hfile, houtcome]

/-- No companion is written if what its path starts from is not there. -/
theorem emit_unstarted (hstart : ¬ tree.Starts (emitter.companionFile ty)) :
    ∃ e, emitter.emit ty tree = (.error e, tree) := by
  obtain ⟨folder, name, hleads, -⟩ := emitter.companionFile_leads ty
  obtain ⟨e, hsave⟩ := save_unstarted hleads hstart text
  exact ⟨e, by rw [emit_saved hrender hreal, hsave]; rfl⟩

end Together

theorem emit_failed {e : EmitError} (h : (emitter.emit ty tree).1 = .error e) :
    tree.Keeps (emitter.emit ty tree).2 := by
  obtain ⟨folder, name, hleads, -⟩ := emitter.companionFile_leads ty
  rcases emitter.emit_cases ty with ⟨hreal, text, hrender⟩ | hunsaved
  · rw [emit_saved_tree hrender hreal]
    exact save_error hleads ((emit_saved_error hrender hreal).mp h)
  · rw [hunsaved]
    exact .refl tree

/-- **A companion that is written has its text at one location**, and all other entries are kept. -/
theorem emit_written (hreal : emitter.dryRun = false) {text : String}
    (hrender : Companion.render Companion.defaultVisibility ty = .ok (some text)) {file : String}
    (h : (emitter.emit ty tree).1 = .ok file) :
    ∃ location, (emitter.emit ty tree).2.locate file = .ok location ∧
      (emitter.emit ty tree).2.at? location = some (.file text.toUTF8) ∧
      ∀ other entry, other ≠ location → tree.at? other = some entry →
        (emitter.emit ty tree).2.at? other = some entry := by
  obtain ⟨folder, name, hleads, -⟩ := emitter.companionFile_leads ty
  obtain ⟨hsave, rfl⟩ := (emit_saved_ok hrender hreal).mp h
  obtain ⟨made, location, hkeeps, hlocate, hkind, htree⟩ := save_ok hleads hsave
  have hgrows := FileTree.grows_put_file hkind text.toUTF8
  rw [emit_saved_tree hrender hreal, htree]
  generalize emitter.companionFile ty = file at hlocate ⊢
  refine ⟨location, hgrows.locate hlocate nofun, ?_, fun other entry hne hentry => ?_⟩
  · rw [FileTree.at?_put made (FileTree.ne_root hkind), if_pos rfl]
  · rw [FileTree.at?_put made (FileTree.ne_root hkind), if_neg hne, hkeeps.entries hentry]

end Emitter
end Theming
