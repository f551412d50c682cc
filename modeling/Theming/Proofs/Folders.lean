/-
# Folders that are made stay

Nothing is ever removed from a tree, and what is put at a location has the kind of what was there.
So a tree only grows, and what has been found out about a path stays true.

| in the smaller tree | in the tree it grows into |
| --- | --- |
| a location is found, or a part of the path is no directory or no name | the same (`Grows.walk`) |
| folders are made, or something is in the way | the same, and none is made (`Grows.makeAlong`) |
| a file cannot be written | the same (`Grows.write_error`) |
| something is missing | it may be there |

The last case is that of a missing working directory only: whatever else is missing on the way to a
folder is made.
-/

import Theming.FileTree
import Theming.Proofs.Association
import Theming.Proofs.Coverage
import Theming.Proofs.Slashes

namespace Theming

/-- Whether an entry is a directory. -/
def Entry.isDirectory : Entry → Bool
  | .directory => true
  | .file _ => false

namespace FileTree

/-- What is at a location, apart from the contents of a file: whether it is a directory. -/
def kind? (tree : FileTree) (location : Location) : Option Bool :=
  (tree.at? location).map Entry.isDirectory

/-- What a tree has becomes neither more nor less of a directory. -/
structure Grows (tree tree' : FileTree) : Prop where
  working : tree'.working = tree.working
  kinds : ∀ {location k}, tree.kind? location = some k → tree'.kind? location = some k

/-- What a tree has is not touched. -/
structure Keeps (tree tree' : FileTree) : Prop where
  working : tree'.working = tree.working
  entries : ∀ {location entry}, tree.at? location = some entry →
    tree'.at? location = some entry

/-- What a path starts from is there: the root always is, but a working directory may be gone. -/
def Starts (tree : FileTree) (path : String) : Prop := tree.kind? (tree.start path) = some true

variable {tree tree' tree'' : FileTree} {location : Location}

theorem Grows.refl (tree : FileTree) : Grows tree tree := ⟨rfl, id⟩

theorem Grows.trans (h : Grows tree tree') (h' : Grows tree' tree'') : Grows tree tree'' :=
  ⟨h'.working.trans h.working, fun hk => h'.kinds (h.kinds hk)⟩

theorem Keeps.refl (tree : FileTree) : Keeps tree tree := ⟨rfl, id⟩

theorem Keeps.trans (h : Keeps tree tree') (h' : Keeps tree' tree'') : Keeps tree tree'' :=
  ⟨h'.working.trans h.working, fun hk => h'.entries (h.entries hk)⟩

theorem Keeps.grows (h : Keeps tree tree') : Grows tree tree' := by
  refine ⟨h.working, fun {location k} hk => ?_⟩
  obtain ⟨entry, hentry, rfl⟩ := Option.map_eq_some_iff.mp hk
  rw [kind?, h.entries hentry, Option.map_some]

/-! ## Entries -/

/-- Something is at a location if it has a kind. -/
theorem isSome_at? : (tree.at? location).isSome = true ↔ ∃ k, tree.kind? location = some k := by
  rw [← Option.isSome_iff_exists, kind?, Option.isSome_map]

theorem kind?_root (tree : FileTree) : tree.kind? [] = some true := rfl

theorem at?_put (tree : FileTree) {location : Location} (hne : location ≠ []) (entry : Entry)
    (other : Location) :
    (tree.put location entry).at? other =
      if other = location then some entry else tree.at? other := by
  obtain ⟨name, names, rfl⟩ := List.exists_cons_of_ne_nil hne
  cases other with
  | nil => rfl
  | cons part parts => exact lookup_put (name :: names) (part :: parts) entry tree.entries

/-- What is put where nothing was leaves the rest as it is. -/
theorem keeps_put (hnone : tree.at? location = none) (entry : Entry) :
    Keeps tree (tree.put location entry) := by
  refine ⟨rfl, fun {other found} hfound => ?_⟩
  have hne : location ≠ [] := by
    rintro rfl
    cases hnone
  have hother : other ≠ location := by
    rintro rfl
    rw [hnone] at hfound
    cases hfound
  rw [at?_put tree hne, if_neg hother, hfound]

theorem kind?_made (hnone : tree.at? location = none) :
    (tree.put location .directory).kind? location = some true := by
  have hne : location ≠ [] := by
    rintro rfl
    cases hnone
  rw [kind?, at?_put tree hne, if_pos rfl]
  rfl

/-- A file may be put where there is no directory. -/
theorem ne_root (hkind : tree.kind? location ≠ some true) : location ≠ [] := by
  rintro rfl
  exact hkind (kind?_root tree)

theorem kind?_put_file (hkind : tree.kind? location ≠ some true) (bytes : ByteArray)
    (other : Location) : (tree.put location (.file bytes)).kind? other =
      if other = location then some false else tree.kind? other := by
  rw [kind?, at?_put tree (ne_root hkind), kind?]
  split_ifs <;> rfl

theorem grows_put_file (hkind : tree.kind? location ≠ some true) (bytes : ByteArray) :
    Grows tree (tree.put location (.file bytes)) := by
  refine ⟨rfl, fun {other k} hk => ?_⟩
  rw [kind?_put_file hkind]
  split_ifs with hother
  · subst hother
    cases k
    · rfl
    · exact absurd hk hkind
  · exact hk

/-- A file that takes the place of a file is all that is new. -/
theorem put_file_grows (hkind : tree.kind? location = some false) (bytes : ByteArray) :
    Grows (tree.put location (.file bytes)) tree := by
  refine ⟨rfl, fun {other k} hk => ?_⟩
  rw [kind?_put_file (by rw [hkind]; nofun)] at hk
  split_ifs at hk with hother
  · rw [hother, hkind, hk]
  · exact hk

/-! ## Going along a path -/

theorem requireDirectory_eq (tree : FileTree) (location : Location) :
    tree.requireDirectory location = match tree.kind? location with
      | some true => .ok ()
      | some false => .error .notDirectory
      | none => .error .missing := by
  rw [requireDirectory, kind?]
  cases tree.at? location with
  | none => rfl
  | some entry => cases entry <;> rfl

theorem requireDirectory_ok : tree.requireDirectory location = .ok () ↔
    tree.kind? location = some true := by
  rw [requireDirectory_eq]
  split <;> simp_all

/-- What is required of a location is settled when something is found there. -/
theorem Grows.requireDirectory (h : Grows tree tree') {r : Except FileFault Unit}
    (hr : tree.requireDirectory location = r) (hfound : r ≠ .error .missing) :
    tree'.requireDirectory location = r := by
  rw [requireDirectory_eq] at hr
  cases hkind : tree.kind? location with
  | none =>
    rw [hkind] at hr
    exact absurd hr.symm hfound
  | some k =>
    rw [hkind] at hr
    rw [requireDirectory_eq, h.kinds hkind, hr]

theorem Grows.step (h : Grows tree tree') {part : String} {r : Except FileFault Location}
    (hr : tree.step location part = r) (hfound : r ≠ .error .missing) :
    tree'.step location part = r := by
  rw [FileTree.step] at hr ⊢
  cases hdirectory : tree.requireDirectory location with
  | error fault =>
    rw [hdirectory] at hr
    subst hr
    rw [h.requireDirectory hdirectory fun heq => hfound (congrArg _ (Except.error.inj heq))]
  | ok _ =>
    rw [hdirectory] at hr
    rw [h.requireDirectory hdirectory nofun]
    exact hr

/-- **Where a path leads is settled** unless something is missing on the way. -/
theorem Grows.walk (h : Grows tree tree') {parts : List String} {r : Except FileFault Location}
    (hr : parts.foldlM tree.step location = r) (hfound : r ≠ .error .missing) :
    parts.foldlM tree'.step location = r := by
  induction parts generalizing location with
  | nil => exact hr
  | cons part rest ih =>
    rw [List.foldlM_cons] at hr ⊢
    cases hstep : tree.step location part with
    | error fault =>
      rw [hstep] at hr
      subst hr
      rw [h.step hstep fun heq => hfound (congrArg _ (Except.error.inj heq))]
      rfl
    | ok next =>
      rw [hstep] at hr
      rw [h.step hstep nofun]
      exact ih hr

theorem step_of_directory (h : tree.kind? location = some true) (part : String) :
    tree.step location part = if Path.isTrivial part then .ok location
      else if part = ".." then .ok location.dropLast
      else if isName part then .ok (location ++ [part]) else .error .invalidName := by
  rw [step, requireDirectory_ok.mpr h]
  change (if Path.isTrivial part then _ else if (part == "..") = true then _ else _) = _
  simp only [beq_iff_eq]
  rfl

theorem start_eq {path path' : String} (h : Path.isAbsolute path = Path.isAbsolute path')
    (hworking : tree'.working = tree.working) : tree'.start path = tree.start path' := by
  rw [start, start, ← Path.isAbsolute, ← Path.isAbsolute, h, hworking]

theorem Starts.grows {path : String} (h : tree.Starts path) (hgrows : Grows tree tree') :
    tree'.Starts path := by
  rw [Starts, start_eq rfl hgrows.working]
  exact hgrows.kinds h

/-- Where the working directory is there, all paths start. -/
theorem starts_of_working (h : tree.kind? tree.working = some true) (path : String) :
    tree.Starts path := by
  rw [Starts, start]
  split_ifs
  · exact kind?_root tree
  · exact h

theorem Grows.locate (h : Grows tree tree') {path : String} {r : Except FileFault Location}
    (hr : tree.locate path = r) (hfound : r ≠ .error .missing) : tree'.locate path = r := by
  rw [FileTree.locate] at hr ⊢
  rw [start_eq rfl h.working]
  split_ifs at hr ⊢
  · exact hr
  · exact hr
  · exact h.walk hr hfound

/-! ## Parts that do not count -/

theorem step_of_isTrivial {part : String} (h : Path.isTrivial part = true) :
    tree.step location part = (tree.requireDirectory location).map fun _ => location := by
  have htrivial : (part.isEmpty || part == ".") = true := h
  rw [step, if_pos htrivial]
  cases tree.requireDirectory location <;> rfl

theorem step_error {part : String} {fault : FileFault}
    (h : tree.requireDirectory location = .error fault) :
    tree.step location part = .error fault := by
  rw [step, h]
  rfl

theorem walk_error {parts : List String} {fault : FileFault}
    (h : tree.requireDirectory location = .error fault) (hne : parts ≠ []) :
    parts.foldlM tree.step location = .error fault := by
  obtain ⟨part, rest, rfl⟩ := List.exists_cons_of_ne_nil hne
  rw [List.foldlM_cons, step_error h]
  rfl

theorem makeAlong_error {parts : List String} {fault : FileFault}
    (h : tree.requireDirectory location = .error fault) :
    tree.makeAlong location parts = (.error fault, tree) := by
  cases parts with
  | nil => rw [makeAlong, h]
  | cons part rest => rw [makeAlong, step_error h]

/-- On the way to a part that counts, the others are of no matter. -/
theorem walk_filter (tree : FileTree) (parts : List String) (last : String) (location : Location) :
    (parts ++ [last]).foldlM tree.step location =
      ((parts.filter fun part => !Path.isTrivial part) ++ [last]).foldlM tree.step location := by
  induction parts generalizing location with
  | nil => rfl
  | cons part rest ih =>
    rw [List.cons_append, List.foldlM_cons]
    by_cases hpart : Path.isTrivial part = true
    · rw [List.filter_cons_of_neg (by simp [hpart]), step_of_isTrivial hpart]
      cases hdirectory : tree.requireDirectory location with
      | error fault => exact (walk_error hdirectory (List.concat_ne_nil _ _)).symm
      | ok _ => exact ih location
    · rw [List.filter_cons_of_pos (by simp [hpart]), List.cons_append, List.foldlM_cons]
      simp only [ih]

theorem makeAlong_filter (parts : List String) (tree : FileTree) (location : Location) :
    tree.makeAlong location parts =
      tree.makeAlong location (parts.filter fun part => !Path.isTrivial part) := by
  induction parts generalizing tree location with
  | nil => rfl
  | cons part rest ih =>
    rw [makeAlong]
    by_cases hpart : Path.isTrivial part = true
    · rw [List.filter_cons_of_neg (by simp [hpart]), step_of_isTrivial hpart]
      cases hdirectory : tree.requireDirectory location with
      | error fault => exact (makeAlong_error hdirectory).symm
      | ok _ =>
        have hsome : (tree.at? location).isSome = true :=
          isSome_at?.mpr ⟨_, requireDirectory_ok.mp hdirectory⟩
        exact (if_pos hsome).trans (ih tree location)
    · rw [List.filter_cons_of_pos (by simp [hpart]), makeAlong]
      simp only [ih]

variable {path folder name : String}

/-- A path that leads to a name is looked up name by name. -/
theorem locate_eq (tree : FileTree) (h : Path.Leads path folder name) :
    tree.locate path = if isPath path then
      (Path.names path).foldlM tree.step (tree.start path) else .error .invalidName := by
  obtain ⟨before, hparts⟩ := h.parts
  have hne : ¬ path.isEmpty = true := by
    intro hempty
    have hnames := h.names
    rw [String.isEmpty_iff.mp hempty, Path.names_empty] at hnames
    exact List.concat_ne_nil _ _ hnames.symm
  have hwalk := tree.walk_filter before name (tree.start path)
  rw [← Path.names_of_parts hparts h.isName.counts, ← hparts, Path.parts] at hwalk
  rw [locate, if_neg hne, hwalk]
  cases isPath path <;> rfl

theorem makeDirectories_eq (tree : FileTree) (hne : path ≠ "") :
    tree.makeDirectories path = if isPath path then
      tree.makeAlong (tree.start path) (Path.names path) else (.error .invalidName, tree) := by
  rw [makeDirectories, if_neg (by simpa using hne), Path.names, ← makeAlong_filter, Path.parts]
  cases isPath path <;> rfl

/-! ## Making folders -/

theorem makeAlong_keeps (tree : FileTree) (location : Location) (parts : List String) :
    Keeps tree (tree.makeAlong location parts).2 := by
  fun_induction makeAlong tree location parts with
  | case1 => exact .refl _
  | case2 => exact .refl _
  | case3 tree location part rest next hstep hsome ih => exact ih
  | case4 tree location part rest next hstep hnone ih =>
    exact (keeps_put (by simpa using hnone) .directory).trans ih

/-- **Making folders again makes nothing**, and what was in the way still is. -/
theorem Grows.makeAlong {parts : List String} (h : Grows (tree.makeAlong location parts).2 tree')
    (hfound : (tree.makeAlong location parts).1 ≠ .error .missing) :
    tree'.makeAlong location parts = ((tree.makeAlong location parts).1, tree') := by
  fun_induction FileTree.makeAlong tree location parts with
  | case1 tree location => rw [FileTree.makeAlong, h.requireDirectory rfl hfound]
  | case2 tree location part rest fault hstep =>
    rw [FileTree.makeAlong, h.step hstep fun heq => hfound (congrArg _ (Except.error.inj heq))]
  | case3 tree location part rest next hstep hsome ih =>
    have hgrows := (makeAlong_keeps tree next rest).grows.trans h
    obtain ⟨k, hkind⟩ := isSome_at?.mp hsome
    have hthere : (tree'.at? next).isSome = true := isSome_at?.mpr ⟨k, hgrows.kinds hkind⟩
    rw [FileTree.makeAlong, hgrows.step hstep nofun]
    exact (if_pos hthere).trans (ih h hfound)
  | case4 tree location part rest next hstep hnone ih =>
    have hgrows := (makeAlong_keeps (tree.put next .directory) next rest).grows.trans h
    have hnone := Option.not_isSome_iff_eq_none.mp hnone
    have hput := (keeps_put hnone .directory).grows.trans hgrows
    have hthere : (tree'.at? next).isSome = true :=
      isSome_at?.mpr ⟨true, hgrows.kinds (kind?_made hnone)⟩
    rw [FileTree.makeAlong, hput.step hstep nofun]
    exact (if_pos hthere).trans (ih h hfound)

/-- The folders that have been made lead to a directory. -/
theorem makeAlong_found {parts : List String} (h : (tree.makeAlong location parts).1 = .ok ()) :
    ∃ folder, parts.foldlM (tree.makeAlong location parts).2.step location = .ok folder ∧
      (tree.makeAlong location parts).2.kind? folder = some true := by
  fun_induction FileTree.makeAlong tree location parts with
  | case1 tree location => exact ⟨location, rfl, requireDirectory_ok.mp h⟩
  | case2 => cases h
  | case3 tree location part rest next hstep hsome ih =>
    obtain ⟨folder, hwalk, hfolder⟩ := ih h
    refine ⟨folder, ?_, hfolder⟩
    rw [List.foldlM_cons, (makeAlong_keeps tree next rest).grows.step hstep nofun]
    exact hwalk
  | case4 tree location part rest next hstep hnone ih =>
    obtain ⟨folder, hwalk, hfolder⟩ := ih h
    have hput := keeps_put (Option.not_isSome_iff_eq_none.mp hnone) .directory
    have hgrows := hput.trans (makeAlong_keeps (tree.put next .directory) next rest)
    refine ⟨folder, ?_, hfolder⟩
    rw [List.foldlM_cons, hgrows.grows.step hstep nofun]
    exact hwalk

/-- From a directory on, whatever is missing is made. -/
theorem makeAlong_ne_missing {parts : List String} (h : tree.kind? location = some true) :
    (tree.makeAlong location parts).1 ≠ .error .missing := by
  fun_induction FileTree.makeAlong tree location parts with
  | case1 tree location =>
    rw [requireDirectory_ok.mpr h]
    nofun
  | case2 tree location part rest fault hstep =>
    rw [step_of_directory h] at hstep
    split_ifs at hstep
    cases hstep
    nofun
  | case3 tree location part rest next hstep hsome ih =>
    obtain ⟨k, hkind⟩ := isSome_at?.mp hsome
    cases k with
    | true => exact ih hkind
    | false =>
      have hfile : tree.requireDirectory next = .error .notDirectory := by
        rw [requireDirectory_eq, hkind]
      rw [makeAlong_error hfile]
      nofun
  | case4 tree location part rest next hstep hnone ih =>
    exact ih (kind?_made (Option.not_isSome_iff_eq_none.mp hnone))

theorem makeDirectories_keeps (tree : FileTree) (path : String) :
    Keeps tree (tree.makeDirectories path).2 := by
  rw [makeDirectories]
  split_ifs
  · exact .refl _
  · exact .refl _
  · exact makeAlong_keeps _ _ _

theorem Grows.makeDirectories (h : Grows (tree.makeDirectories path).2 tree')
    (hfound : (tree.makeDirectories path).1 ≠ .error .missing) :
    tree'.makeDirectories path = ((tree.makeDirectories path).1, tree') := by
  have hworking := ((makeDirectories_keeps tree path).grows.trans h).working
  rw [FileTree.makeDirectories] at h hfound ⊢
  rw [FileTree.makeDirectories, start_eq rfl hworking]
  split_ifs at h hfound ⊢
  · rfl
  · rfl
  · exact h.makeAlong hfound

theorem makeDirectories_ne_missing (h : tree.Starts path) :
    (tree.makeDirectories path).1 ≠ .error .missing := by
  rw [makeDirectories]
  split_ifs
  · nofun
  · nofun
  · exact makeAlong_ne_missing h

/-- Where the folder of a path has been made, nothing is missing on the way to it. -/
theorem locate_ne_missing (hstart : tree.Starts path) (h : Path.Leads path folder name)
    (hmade : (tree.makeDirectories folder).1 = .ok ()) :
    (tree.makeDirectories folder).2.locate path ≠ .error .missing := by
  have hkeeps := makeDirectories_keeps tree folder
  obtain ⟨there, hwalk, hthere⟩ : ∃ there,
      (Path.names folder).foldlM (tree.makeDirectories folder).2.step
        ((tree.makeDirectories folder).2.start path) = .ok there ∧
      (tree.makeDirectories folder).2.kind? there = some true := by
    rw [start_eq rfl hkeeps.working]
    by_cases hempty : folder = ""
    · subst hempty
      rw [Path.names_empty]
      exact ⟨_, rfl, hkeeps.grows.kinds hstart⟩
    · rw [makeDirectories_eq tree hempty] at hmade ⊢
      rw [start_eq h.start.symm rfl]
      split_ifs at hmade ⊢
      exact makeAlong_found hmade
  rw [locate_eq _ h, h.names, List.foldlM_append, hwalk]
  split_ifs
  · have hlook : [name].foldlM (tree.makeDirectories folder).2.step there ≠ .error .missing := by
      rw [List.foldlM_cons, step_of_directory hthere]
      split_ifs <;> nofun
    exact hlook
  · nofun

/-! ## Starting from nothing -/

theorem requireDirectory_unstarted (h : ¬ tree.Starts path) :
    ∃ fault, tree.requireDirectory (tree.start path) = .error fault := by
  cases hdirectory : tree.requireDirectory (tree.start path) with
  | error fault => exact ⟨fault, rfl⟩
  | ok _ => exact absurd (requireDirectory_ok.mp hdirectory) h

theorem makeDirectories_unstarted (h : ¬ tree.Starts path) (hne : path ≠ "") :
    ∃ fault, tree.makeDirectories path = (.error fault, tree) := by
  obtain ⟨fault, hfault⟩ := requireDirectory_unstarted h
  rw [makeDirectories_eq tree hne]
  split_ifs
  · exact ⟨fault, makeAlong_error hfault⟩
  · exact ⟨_, rfl⟩

theorem locate_unstarted (h : ¬ tree.Starts path) (hleads : Path.Leads path folder name) :
    ∃ fault, tree.locate path = .error fault := by
  obtain ⟨fault, hfault⟩ := requireDirectory_unstarted h
  rw [locate_eq tree hleads, hleads.names]
  split_ifs
  · exact ⟨fault, walk_error hfault (List.concat_ne_nil _ _)⟩
  · exact ⟨_, rfl⟩

/-! ## Names of locations -/

/-- A name leads to the location below. -/
theorem eq_append_of_step (h : Path.IsName name) {next : Location}
    (hstep : tree.step location name = .ok next) : next = location ++ [name] := by
  cases hdirectory : tree.requireDirectory location with
  | error fault =>
    rw [step_error hdirectory] at hstep
    cases hstep
  | ok _ =>
    rw [step_of_directory (requireDirectory_ok.mp hdirectory), if_neg (by simp [h.counts]),
      if_neg h.down] at hstep
    split_ifs at hstep
    cases hstep
    rfl

/-- The last name of a path is the name of its location. -/
theorem getLast?_of_locate (h : Path.Leads path folder name)
    (hlocate : tree.locate path = .ok location) : location.getLast? = some name := by
  rw [locate_eq _ h, h.names, List.foldlM_append] at hlocate
  split_ifs at hlocate
  obtain ⟨there, -, hlocate⟩ := Except.bind_eq_ok hlocate
  rw [List.foldlM_cons] at hlocate
  obtain ⟨next, hstep, hlocate⟩ := Except.bind_eq_ok hlocate
  cases hlocate
  rw [eq_append_of_step h.isName hstep, List.getLast?_concat]

/-! ## Reading -/

theorem find_eq_ok {entry : Entry} : tree.find path = .ok entry ↔
    ∃ location, tree.locate path = .ok location ∧ tree.at? location = some entry := by
  rw [find]
  cases tree.locate path with
  | error fault => simp [bind, Except.bind]
  | ok location =>
    dsimp only [bind, Except.bind]
    cases hfound : tree.at? location <;>
      simp [hfound, pure, Except.pure, throw, throwThe, MonadExceptOf.throw]

theorem readText_of_find {text : String} (h : tree.find path = .ok (.file text.toUTF8)) :
    tree.readText path = .ok text := by
  have hvalid : text.toUTF8.IsValidUTF8 := text.isValidUTF8
  have hread : String.fromUTF8? text.toUTF8 = some text := dif_pos hvalid
  rw [readText, h]
  dsimp only [bind, Except.bind]
  rw [hread]
  rfl

/-- The path of a file ends in a part that counts: the others ask for a directory. -/
theorem counts_of_find_file {bytes : ByteArray} (h : tree.find path = .ok (.file bytes)) :
    ∃ before last, Path.parts path = before ++ [last] ∧ Path.isTrivial last = false := by
  have hparts := (List.dropLast_append_getLast (Path.parts_ne_nil path)).symm
  generalize (Path.parts path).getLast _ = last at hparts
  refine ⟨_, last, hparts, ?_⟩
  obtain ⟨location, hlocate, hentry⟩ := find_eq_ok.mp h
  rw [locate, ← Path.parts, hparts, List.foldlM_append] at hlocate
  split_ifs at hlocate
  obtain ⟨there, -, hlocate⟩ := Except.bind_eq_ok hlocate
  rw [List.foldlM_cons] at hlocate
  obtain ⟨next, hstep, hlocate⟩ := Except.bind_eq_ok hlocate
  cases hlocate
  rw [← Bool.not_eq_true]
  intro htrivial
  rw [step_of_isTrivial htrivial] at hstep
  cases hdirectory : tree.requireDirectory there with
  | error fault =>
    rw [hdirectory] at hstep
    cases hstep
  | ok _ =>
    rw [hdirectory] at hstep
    cases hstep
    have hkind := requireDirectory_ok.mp hdirectory
    rw [kind?, hentry] at hkind
    cases hkind

/-! ## Writing -/

theorem write_of_error {text : String} {fault : FileFault}
    (h : tree.locate path = .error fault) : tree.write path text = .error fault := by
  rw [write, h]
  rfl

theorem write_of_locate {text : String} (h : tree.locate path = .ok location) :
    tree.write path text = if tree.kind? location = some true then .error .isDirectory
      else .ok (tree.put location (.file text.toUTF8)) := by
  rw [write, h, kind?]
  dsimp only [bind, Except.bind]
  cases tree.at? location with
  | none => rfl
  | some entry => cases entry <;> rfl

/-- A file is written at the location of its path. -/
theorem write_eq_ok {text : String} : tree.write path text = .ok tree' ↔
    ∃ location, tree.locate path = .ok location ∧ tree.kind? location ≠ some true ∧
      tree' = tree.put location (.file text.toUTF8) := by
  cases hlocate : tree.locate path with
  | error fault =>
    rw [write_of_error hlocate]
    simp
  | ok location =>
    rw [write_of_locate hlocate]
    by_cases hkind : tree.kind? location = some true
    · simp [hkind]
    · rw [if_neg hkind]
      constructor
      · rintro ⟨⟩
        exact ⟨location, rfl, hkind, rfl⟩
      · rintro ⟨_, ⟨⟩, -, rfl⟩
        rfl

theorem locate_of_write_missing {text : String} (h : tree.write path text = .error .missing) :
    tree.locate path = .error .missing := by
  cases hlocate : tree.locate path with
  | error fault =>
    rw [write_of_error hlocate] at h
    rw [Except.error.inj h]
  | ok location =>
    rw [write_of_locate hlocate] at h
    split_ifs at h
    cases h

/-- A file that cannot be written still cannot be written, whatever is to be in it, unless something
was missing. -/
theorem Grows.write_error (h : Grows tree tree') {text : String} {fault : FileFault}
    (hr : tree.write path text = .error fault) (hfound : fault ≠ .missing) (text' : String) :
    tree'.write path text' = .error fault := by
  cases hlocate : tree.locate path with
  | error fault' =>
    rw [write_of_error hlocate] at hr
    obtain rfl := Except.error.inj hr
    exact write_of_error (h.locate hlocate fun heq => hfound (Except.error.inj heq))
  | ok location =>
    rw [write_of_locate hlocate] at hr
    split_ifs at hr with hkind
    rw [write_of_locate (h.locate hlocate nofun), if_pos (h.kinds hkind), hr]

/-- A file can be written again. -/
theorem Grows.write_ok (h : Grows tree tree') (hlocate : tree.locate path = .ok location)
    (hkind : tree.kind? location = some false) (text : String) :
    tree'.write path text = .ok (tree'.put location (.file text.toUTF8)) := by
  rw [write_of_locate (h.locate hlocate nofun), h.kinds hkind]
  exact if_neg nofun

end FileTree
end Theming
