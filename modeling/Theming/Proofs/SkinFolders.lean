/-
# Skins from a directory

What is loaded from a directory are the skins that stand in it, one after the other.

| what stands in the directory | |
| --- | --- |
| a text that is a skin, under a name with something in front of `.toml` | is added |
| a directory, bytes that are no text, a text that is no skin | is skipped |
| a name without that extension, `.toml` itself | is skipped |

The order is that of the bytes of the names, and not the one in which the directory is listed. Where
a directory cannot be listed, nothing is done (`loadDirectory_loads`).
-/

import Theming.Proofs.Bytewise
import Theming.Proofs.Listing
import Theming.Proofs.SkinTables
import Theming.Proofs.Skins

namespace Theming

namespace Skin

/-- What is loaded is read from a text. -/
theorem load_eq_ok {tree : FileTree} {path : String} {skin : Skin} :
    load tree path = .ok skin ↔ ∃ text, tree.readText path = .ok text ∧ ofToml text = .ok skin := by
  rw [load]
  cases tree.readText path with
  | error fault => simp [Except.mapError, bind, Except.bind]
  | ok text => simp [Except.mapError, bind, Except.bind]

end Skin

namespace Live

variable {tree tree' : FileTree} {directory name : String} {names : List String} {skin : Skin}
  {id : ManagerId} {m : SkinManager} {w w' : World}

/-! ## Skins of a manager -/

namespace SkinManager

/-- The first of the skins becomes active if there was no active one. -/
theorem active_addAll_eq (m : SkinManager) (skins : List Skin) :
    (m.addAll skins).active = m.active.or skins.head? := by
  cases skins with
  | nil => exact Option.or_none.symm
  | cons skin rest =>
    cases hactive : m.active with
    | none =>
      have hfirst : (m.add skin).active = some skin := by
        rw [add, hactive]
        rfl
      exact active_addAll hfirst rest
    | some active => exact active_addAll hactive (skin :: rest)

/-- A name that is added stands for the last of its skins. -/
theorem skin?_addAll_of_last (m : SkinManager) {before after : List Skin}
    (hafter : ∀ other ∈ after, other.name ≠ skin.name) :
    (m.addAll (before ++ skin :: after)).skin? skin.name = some skin := by
  refine skin?_of_lastAdded (m.replay?_added _) ⟨rfl, before.map .added, after.map .added, ?_, ?_⟩
  · rw [List.map_append, List.map_cons]
  · intro other hother
    obtain ⟨_, hmem, heq⟩ := List.mem_map.mp hother
    cases heq
    exact hafter other hmem

/-- Any other name stands for what it stood for. -/
theorem skin?_addAll_of_notMem (m : SkinManager) {skins : List Skin}
    (h : ∀ skin ∈ skins, skin.name ≠ name) : (m.addAll skins).skin? name = m.skin? name := by
  refine skin?_replay?_of_ne (m.replay?_added skins) fun skin hskin => ?_
  obtain ⟨_, hmem, heq⟩ := List.mem_map.mp hskin
  cases heq
  exact h skin hmem

end SkinManager

/-! ## Skin files -/

/-- A skin stands in a directory under a name. -/
structure SkinFile (tree : FileTree) (directory name : String) (skin : Skin) : Prop where
  extension : ∃ stem, stem ≠ "" ∧ name = stem ++ ".toml"
  /-- The path of the file is one that can be opened. -/
  short : FileTree.isPath (Path.join directory name) = true
  text : ∃ location bytes text, tree.locate directory = .ok location ∧
    tree.at? (location ++ [name]) = some (.file bytes) ∧ String.fromUTF8? bytes = some text ∧
    Skin.ofToml text = .ok skin

/-- The skin files of a directory, in order. -/
structure Found (tree : FileTree) (directory : String) (files : List (String × Skin)) : Prop where
  sorted : files.Pairwise fun a b => Text.bytes a.1 < Text.bytes b.1
  mem : ∀ name skin, (name, skin) ∈ files ↔ SkinFile tree directory name skin

/-- There is one way to order the skin files of a directory. -/
theorem Found.unique {files files' : List (String × Skin)} (h : Found tree directory files)
    (h' : Found tree directory files') : files' = files := by
  have hnodup : ∀ {files}, Found tree directory files → files.Nodup := by
    intro files h
    refine List.Pairwise.imp ?_ h.sorted
    rintro a b hlt rfl
    exact List.lt_irrefl _ hlt
  have hperm : files'.Perm files := (List.perm_ext_iff_of_nodup (hnodup h') (hnodup h)).mpr
    fun file => (h'.mem file.1 file.2).trans (h.mem file.1 file.2).symm
  exact hperm.eq_of_pairwise (fun a b _ _ hab hba => absurd hba (List.lt_asymm hab)) h'.sorted
    h.sorted

/-- The skin that is loaded for a name in a directory, if one is. -/
def fileAt? (tree : FileTree) (directory name : String) : Option (String × Skin) :=
  if Path.extension? (Path.join directory name) = some "toml" then
    (Skin.load tree (Path.join directory name)).toOption.map fun skin => (name, skin)
  else none

/-- What is loaded for the names of a directory, in order. -/
def filesAmong (tree : FileTree) (directory : String) (names : List String) :
    List (String × Skin) :=
  (names.mergeSort fun a b => decide (a ≤ b)).filterMap (fileAt? tree directory)

theorem skinsOf_skinFiles (tree : FileTree) (directory : String) (names : List String) :
    skinsOf tree (World.skinFiles directory names) =
      (filesAmong tree directory names).map Prod.snd := by
  rw [World.skinFiles, filesAmong, skinsOf]
  generalize names.mergeSort _ = sorted
  induction sorted with
  | nil => rfl
  | cons name rest ih =>
    rw [List.map_cons, List.filterMap_cons, fileAt?]
    by_cases hext : Path.extension? (Path.join directory name) = some "toml"
    · rw [List.filter_cons_of_pos (by simp [hext]), List.filterMap_cons, if_pos hext, ih]
      cases (Skin.load tree (Path.join directory name)).toOption <;> rfl
    · rw [List.filter_cons_of_neg (by simp [hext]), if_neg hext, ih]

theorem fileAt?_eq_some (hproper : tree.Proper) (hnames : tree.namesIn directory = .ok names)
    (hmem : name ∈ names) {file : String × Skin} : fileAt? tree directory name = some file ↔
      file.1 = name ∧ SkinFile tree directory name file.2 := by
  obtain ⟨location, hlocate, hdirectory, -⟩ := FileTree.namesIn_eq_ok.mp hnames
  obtain ⟨hname, hfits⟩ := FileTree.isName_of_namesIn hproper hnames hmem
  have hext : Path.extension? (Path.join directory name) = some "toml" ↔
      ∃ stem, stem ≠ "" ∧ name = stem ++ ".toml" := by
    rw [Path.extension?_join_iff hname]
    have hdot : '.' ∉ "toml".toList := by decide
    have hend : ∀ stem : String, stem ++ "." ++ "toml" = stem ++ ".toml" := fun stem =>
      String.append_assoc
    simp only [hdot, hend, not_false_eq_true, true_and]
  rw [fileAt?]
  constructor
  · intro h
    split_ifs at h with htoml
    obtain ⟨skin, hskin, rfl⟩ := Option.map_eq_some_iff.mp h
    obtain ⟨text, hread, hparse⟩ := Skin.load_eq_ok.mp (Except.toOption_eq_some.mp hskin)
    obtain ⟨hshort, bytes, hentry, hbytes⟩ :=
      (FileTree.readText_join hlocate hdirectory hname hfits).mp hread
    exact ⟨rfl, hext.mp htoml, hshort, location, bytes, text, hlocate, hentry, hbytes, hparse⟩
  · rintro ⟨hfirst, hfile⟩
    obtain ⟨location', bytes, text, hlocate', hentry, hbytes, hparse⟩ := hfile.text
    obtain rfl := Except.ok.inj (hlocate.symm.trans hlocate')
    have hread := (FileTree.readText_join hlocate hdirectory hname hfits).mpr
      ⟨hfile.short, bytes, hentry, hbytes⟩
    have hload := Except.toOption_eq_some.mpr (Skin.load_eq_ok.mpr ⟨text, hread, hparse⟩)
    rw [if_pos (hext.mpr hfile.extension), hload, Option.map_some, ← hfirst]

/-- **What is loaded are the skin files of the directory**, each under its name. -/
theorem found_filesAmong (hproper : tree.Proper) (hnames : tree.namesIn directory = .ok names) :
    Found tree directory (filesAmong tree directory names) := by
  have hsorted : (names.mergeSort fun a b => decide (a ≤ b)).Pairwise (· < ·) := by
    have hle := Text.pairwise_mergeSort (fun name => name) names
    have hne := (List.mergeSort_perm names fun a b => decide (a ≤ b)).nodup_iff.mpr
      (FileTree.nodup_namesIn hproper hnames)
    exact (hle.and hne).imp fun h => lt_of_le_of_ne h.1 h.2
  have hmem : ∀ {name}, name ∈ names.mergeSort (fun a b => decide (a ≤ b)) → name ∈ names :=
    fun h => List.mem_mergeSort.mp h
  constructor
  · refine List.pairwise_filterMap.mpr
      (hsorted.imp_of_mem fun ha hb hlt file hfile file' hfile' => ?_)
    have hfirst := ((fileAt?_eq_some hproper hnames (hmem ha)).mp hfile).1
    have hsecond := ((fileAt?_eq_some hproper hnames (hmem hb)).mp hfile').1
    rw [hfirst, hsecond]
    exact Text.bytes_lt hlt
  · intro name skin
    rw [filesAmong, List.mem_filterMap]
    constructor
    · rintro ⟨listed, hlisted, hfile⟩
      obtain ⟨rfl, hskin⟩ := (fileAt?_eq_some hproper hnames (hmem hlisted)).mp hfile
      exact hskin
    · intro hskin
      obtain ⟨location, bytes, text, hlocate, hentry, -⟩ := hskin.text
      have hlisted := (FileTree.mem_namesIn hproper hnames hlocate).mpr ⟨_, hentry⟩
      exact ⟨name, List.mem_mergeSort.mpr hlisted,
        (fileAt?_eq_some hproper hnames hlisted).mpr ⟨rfl, hskin⟩⟩

/-! ## Loading -/

/-- What becomes of a manager when skin files are loaded. -/
structure Loads (id : ManagerId) (m : SkinManager) (files : List (String × Skin)) (w : World)
    (loaded : Except SkinError (List String) × World) : Prop where
  /-- The names of the skins, one for each file. -/
  answer : loaded.1 = .ok (files.map fun file => file.2.name)
  /-- The skins are added, and nothing else is done but to tell of it. -/
  adds : Adds id (files.map Prod.snd) w loaded.2
  manager : loaded.2.managers[id]? = some (m.addAll (files.map Prod.snd))
  /-- The active skin stays, and if there was none, it is the first of them. -/
  active : (loaded.2.manager id).active = m.active.or (files.head?.map Prod.snd)
  /-- Of two files with one name the later one counts. -/
  known : ∀ before file after, files = before ++ file :: after →
    (∀ other ∈ after, other.2.name ≠ file.2.name) →
    (loaded.2.manager id).skin? file.2.name = some file.2
  others : ∀ name, (∀ file ∈ files, file.2.name ≠ name) →
    (loaded.2.manager id).skin? name = m.skin? name

/-- Loading a directory, whatever stands in it. -/
structure Loading (tree : FileTree) (directory : String) (id : ManagerId) (m : SkinManager)
    (w : World) : Prop where
  /-- A directory that is not there has no skins. -/
  missing : tree.contains directory = false → (w.loadDirectory tree id directory).1 = .ok [] ∧
    Adds id [] w (w.loadDirectory tree id directory).2
  /-- Where it cannot be listed, nothing is done. -/
  unlisted : ∀ fault, tree.contains directory = true → tree.namesIn directory = .error fault →
    w.loadDirectory tree id directory = (.error (.unreadable directory fault), w)
  listed : ∀ names, tree.namesIn directory = .ok names → ∃ files, Found tree directory files ∧
    Loads id m files w (w.loadDirectory tree id directory)
  /-- What is no skin file makes no difference to any manager. -/
  skips : ∀ tree' names names', tree'.Proper → tree.namesIn directory = .ok names →
    tree'.namesIn directory = .ok names' →
    (∀ name skin, SkinFile tree' directory name skin ↔ SkinFile tree directory name skin) →
    (w.loadDirectory tree' id directory).1 = (w.loadDirectory tree id directory).1 ∧
      (w.loadDirectory tree' id directory).2.managers =
        (w.loadDirectory tree id directory).2.managers
  /-- The order in which the directory is listed makes no difference at all. -/
  unordered : ∀ tree', tree.Reorders tree' →
    w.loadDirectory tree' id directory = w.loadDirectory tree id directory

theorem contains_of_namesIn (hnames : tree.namesIn directory = .ok names) :
    tree.contains directory = true := by
  obtain ⟨location, hlocate, hkind, -⟩ := FileTree.namesIn_eq_ok.mp hnames
  obtain ⟨entry, hentry, -⟩ := Option.map_eq_some_iff.mp hkind
  rw [FileTree.contains, FileTree.find_eq_ok.mpr ⟨location, hlocate, hentry⟩]
  rfl

theorem skinsIn_of_namesIn (hnames : tree.namesIn directory = .ok names) :
    skinsIn tree directory = .ok ((filesAmong tree directory names).map Prod.snd) := by
  rw [skinsIn, if_pos (contains_of_namesIn hnames), hnames, ← skinsOf_skinFiles]

/-- The manager that skins have been added to. -/
theorem Adds.manager {skins : List Skin} (h : Adds id skins w w') (hm : w.managers[id]? = some m) :
    w'.managers[id]? = some (m.addAll skins) := by
  obtain ⟨told, rfl⟩ := h
  rw [List.getElem?_modify, hm]
  simp

theorem loads_of_namesIn (hm : w.managers[id]? = some m)
    (hnames : tree.namesIn directory = .ok names) :
    Loads id m (filesAmong tree directory names) w (w.loadDirectory tree id directory) := by
  obtain ⟨hanswer, hadds⟩ := loadDirectory_adds w tree id directory
  rw [skinsIn_of_namesIn hnames] at hanswer hadds
  have hmanager := hadds.manager hm
  have hthere : (w.loadDirectory tree id directory).2.manager id =
      m.addAll ((filesAmong tree directory names).map Prod.snd) := by
    rw [World.manager, Except.toOption, Option.getD_some] at *
    rw [hmanager]
    rfl
  constructor
  · rw [hanswer, Except.map, List.map_map]
    rfl
  · exact hadds
  · exact hmanager
  · rw [hthere, SkinManager.active_addAll_eq, List.head?_map]
  · rintro before file after hsplit hafter
    rw [hthere, hsplit, List.map_append, List.map_cons]
    refine SkinManager.skin?_addAll_of_last m fun other hother => ?_
    obtain ⟨_, hmem, rfl⟩ := List.mem_map.mp hother
    exact hafter _ hmem
  · intro name hother
    rw [hthere]
    refine SkinManager.skin?_addAll_of_notMem m fun skin hskin => ?_
    obtain ⟨file, hfile, rfl⟩ := List.mem_map.mp hskin
    exact hother file hfile

/-! ## Another order -/

theorem skinFiles_congr (directory : String) {names' : List String} (h : names'.Perm names) :
    World.skinFiles directory names' = World.skinFiles directory names := by
  have hsorted : names'.mergeSort (fun a b => decide (a ≤ b)) =
      names.mergeSort fun a b => decide (a ≤ b) :=
    Text.mergeSort_congr (fun name => name) h fun _ _ _ _ heq => heq
  rw [World.skinFiles, World.skinFiles, hsorted]

theorem loadFiles_congr (h : ∀ path, Skin.load tree' path = Skin.load tree path) (w : World)
    (id : ManagerId) (paths : List String) :
    w.loadFiles tree' id paths = w.loadFiles tree id paths := by
  have hload : ∀ (w : World) path, w.loadSkin tree' id path = w.loadSkin tree id path := by
    intro w path
    rw [World.loadSkin, World.loadSkin, h]
  induction paths generalizing w with
  | nil => rfl
  | cons path rest ih =>
    rw [World.loadFiles, World.loadFiles, hload]
    simp only [ih]

theorem loadDirectory_congr (hproper : tree.Proper) (h : tree.Reorders tree') (w : World)
    (id : ManagerId) (directory : String) :
    w.loadDirectory tree' id directory = w.loadDirectory tree id directory := by
  have hload : ∀ path, Skin.load tree' path = Skin.load tree path := by
    intro path
    rw [Skin.load, Skin.load, h.readText hproper]
  rw [World.loadDirectory, World.loadDirectory, h.contains hproper]
  rcases h.namesIn hproper directory with ⟨fault, hfault, hfault'⟩ | ⟨names, names', hn, hn', hperm⟩
  · rw [hfault, hfault']
  · rw [hn, hn']
    simp only [skinFiles_congr directory hperm, loadFiles_congr hload]

/-- **Loading a directory adds the skins that stand in it**, in the order of the bytes of their
names: those of texts under names with the extension `toml`. The answer has their names in this
order. The first of them becomes active if no skin was, and of two with one name the later one is
known. Nothing else in the directory makes a difference, and neither does the order in which it is
listed. -/
theorem loadDirectory_loads (hproper : tree.Proper) (hm : w.managers[id]? = some m)
    (directory : String) : Loading tree directory id m w where
  missing hnone := by
    have hskins : skinsIn tree directory = .ok [] := by
      rw [skinsIn, if_neg (by simp [hnone])]
    obtain ⟨hanswer, hadds⟩ := loadDirectory_adds w tree id directory
    rw [hskins] at hanswer hadds
    exact ⟨hanswer, hadds⟩
  unlisted fault hthere hfault := by
    rw [World.loadDirectory, if_neg (by simp [hthere]), hfault]
  listed names hnames := ⟨_, found_filesAmong hproper hnames, loads_of_namesIn hm hnames⟩
  skips tree' names names' hproper' hnames hnames' hsame := by
    have hfound := found_filesAmong hproper hnames
    have hfound' := found_filesAmong hproper' hnames'
    have hfiles : filesAmong tree' directory names' = filesAmong tree directory names :=
      hfound.unique
        ⟨hfound'.sorted, fun name skin => (hfound'.mem name skin).trans (hsame name skin)⟩
    have hloads := loads_of_namesIn hm hnames
    have hloads' := loads_of_namesIn hm hnames'
    rw [hfiles] at hloads'
    refine ⟨hloads'.answer.trans hloads.answer.symm, ?_⟩
    obtain ⟨told, htold⟩ := hloads.adds
    obtain ⟨told', htold'⟩ := hloads'.adds
    rw [htold, htold']
  unordered tree' h := loadDirectory_congr hproper h w id directory

/-! ## A folder of skins -/

namespace Shelf

def dayText : String := "name = \"day\"\n"

/-- A folder with a skin, a file that is none, a folder and a name without a stem. -/
def drawer : FileTree where
  entries := [(["work"], .directory), (["work", "skins"], .directory),
    (["work", "skins", "old.toml"], .directory),
    (["work", "skins", "day.toml"], .file dayText.toUTF8),
    (["work", "skins", ".toml"], .file dayText.toUTF8),
    (["work", "skins", "broken.toml"], .file "name".toUTF8)]
  working := ["work"]

theorem day_parsed : Skin.ofToml dayText = .ok { name := "day" } := by
  have hread : (Skin.File.ofToml? dayText).map
      (fun file => (file.name, file.colors, file.drawables)) = some ("day", [], []) := by
    decide +kernel
  obtain ⟨⟨name, colors, drawables⟩, hfile, hvalues⟩ := Option.map_eq_some_iff.mp hread
  cases hvalues
  rw [Skin.ofToml_eq hfile, Skin.ofFile, Skin.tableOf_eq, Skin.tableOf_eq, Skin.sortedByKey,
    Skin.sortedByKey, List.mergeSort_nil, List.mergeSort_nil]
  rfl

theorem drawer_proper : drawer.Proper where
  distinct := by decide
  named := by
    have hall : ∀ entry ∈ drawer.entries, ∀ name ∈ entry.1, ('/' ∉ name.toList ∧
        Path.isTrivial name = false ∧ name ≠ "..") ∧ FileTree.isName name = true := by decide
    intro entry hentry name hname
    obtain ⟨⟨hslash, hcounts, hdown⟩, hfits⟩ := hall entry hentry name hname
    exact ⟨⟨hslash, hcounts, hdown⟩, hfits⟩

theorem locate_drawer : drawer.locate "skins" = .ok ["work", "skins"] := by
  have hparts : Path.parts "skins" = ["skins"] := Path.parts_of_notMem (by decide)
  rw [FileTree.locate, if_neg (by decide), if_neg (by decide), ← Path.parts, hparts]
  decide +kernel

theorem fromUTF8?_toUTF8 (text : String) : String.fromUTF8? text.toUTF8 = some text :=
  dif_pos text.isValidUTF8

theorem found_drawer : Found drawer "skins" [("day.toml", { name := "day" })] where
  sorted := List.pairwise_singleton _ _
  mem name skin := by
    rw [List.mem_singleton, Prod.mk.injEq]
    constructor
    · rintro ⟨rfl, rfl⟩
      exact ⟨⟨"day", by decide, by decide⟩, by decide +kernel, ["work", "skins"], _, dayText,
        locate_drawer, rfl, fromUTF8?_toUTF8 dayText, day_parsed⟩
    · rintro ⟨⟨stem, hstem, hname⟩, -, location, bytes, text, hlocate, hentry, hbytes, hparse⟩
      obtain rfl := Except.ok.inj (hlocate.symm.trans locate_drawer)
      have hmem := (FileTree.mem_at? drawer_proper _ _ _).mp hentry
      simp only [drawer, List.mem_cons, Prod.mk.injEq, Entry.file.injEq, List.cons_append,
        List.nil_append, List.cons.injEq, reduceCtorEq, and_false, true_and, and_true, false_or,
        List.not_mem_nil, or_false] at hmem
      rcases hmem with ⟨rfl, rfl⟩ | ⟨rfl, rfl⟩ | ⟨rfl, rfl⟩
      · obtain rfl := Option.some.inj ((fromUTF8?_toUTF8 dayText).symm.trans hbytes)
        exact ⟨rfl, (Except.ok.inj (day_parsed.symm.trans hparse)).symm⟩
      · exact absurd (String.append_eq_right_iff.mp hname.symm) hstem
      · obtain rfl := Option.some.inj ((fromUTF8?_toUTF8 "name").symm.trans hbytes)
        have hnone : Toml.parse? "name" = none := Option.isNone_iff_eq_none.mp (by decide +kernel)
        rw [Skin.ofToml, hnone] at hparse
        cases hparse

/-- From that folder the one skin is loaded, and becomes active. -/
theorem drawer_loaded : drawer.Proper ∧ bare.managers[0]? = some ⟨0, [], none⟩ ∧
    Loading drawer "skins" 0 ⟨0, [], none⟩ bare ∧
    (bare.loadDirectory drawer 0 "skins").1 = .ok ["day"] ∧
    ((bare.loadDirectory drawer 0 "skins").2.manager 0).active = some { name := "day" } := by
  have hmanager : bare.managers[0]? = some ⟨0, [], none⟩ := rfl
  have hloading := loadDirectory_loads drawer_proper hmanager "skins"
  obtain ⟨files, hfound, hloads⟩ := hloading.listed _
    (FileTree.namesIn_eq_ok.mpr ⟨_, locate_drawer, rfl, rfl⟩)
  obtain rfl := found_drawer.unique hfound
  exact ⟨drawer_proper, hmanager, hloading, hloads.answer, hloads.active⟩

end Shelf

end Live
end Theming
