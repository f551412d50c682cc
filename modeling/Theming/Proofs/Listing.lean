/-
# What stands in a directory

A file system has one entry at a location, and a name below it is one part of a path. Then a
directory is listed without repetitions, and what is listed is found where the name is joined to the
path of the directory (`locate_join`), if that path is not too long.

| | depends on the order of the tree |
| --- | --- |
| what is at a location, where a path leads, what a file holds | no |
| the list of a directory | only its order (`Reorders.namesIn`) |
-/

import Mathlib.Data.List.Nodup
import Theming.Proofs.Checks
import Theming.Proofs.Folders

namespace Theming

namespace Path

variable {name : String}

theorem exists_parts_join (h : IsName name) (base : String) :
    ∃ before, parts (join base name) = before ++ [name] := by
  have hname := parts_of_notMem h.slash
  rcases exists_join base (isAbsolute_of_notMem h.slash) with ⟨-, hjoin⟩ | ⟨above, -, hjoin⟩ |
    ⟨-, hjoin⟩
  · exact ⟨[], by rw [hjoin, hname, List.nil_append]⟩
  · exact ⟨parts above, by rw [hjoin, parts_append_slash, hname]⟩
  · exact ⟨parts base, by rw [hjoin, parts_append_slash, hname]⟩

theorem fileName?_join (h : IsName name) (base : String) :
    fileName? (join base name) = some name := by
  obtain ⟨before, hparts⟩ := exists_parts_join h base
  obtain ⟨rest, hsignificant⟩ := exists_significant hparts h.counts
  rw [fileName?, hsignificant]
  exact if_neg (by simpa using h.down)

/-- **The extension of a name** is what stands behind its last dot, if something stands in front. -/
theorem extension?_join_iff (h : IsName name) {base extension : String} :
    extension? (join base name) = some extension ↔
      ∃ stem, stem ≠ "" ∧ '.' ∉ extension.toList ∧ name = stem ++ "." ++ extension := by
  rw [extension?, fileName?_join h, Option.bind_some, List.span_eq_takeWhile_dropWhile]
  constructor
  · intro hext
    split at hext
    · rename_i read c stem hspan
      obtain rfl := Option.some.inj hext
      obtain ⟨hread, hrest⟩ := Prod.mk.inj hspan
      have hname := List.takeWhile_append_dropWhile (p := (· != '.')) (l := name.toList.reverse)
      rw [hread, hrest] at hname
      have hback := congrArg List.reverse hname
      refine ⟨String.ofList (c :: stem).reverse, by simp, ?_, String.toList_injective ?_⟩
      · rw [String.toList_ofList, List.mem_reverse, ← hread]
        intro hdot
        exact absurd (List.all_eq_true.mp List.all_takeWhile _ hdot) (by decide)
      · simpa using hback.symm
    · cases hext
  · rintro ⟨stem, hstem, hdot, rfl⟩
    have hreverse : (stem ++ "." ++ extension).toList.reverse =
        extension.toList.reverse ++ '.' :: stem.toList.reverse := by simp
    have hall : ∀ c ∈ extension.toList.reverse, (c != '.') = true := fun c hc =>
      bne_iff_ne.mpr fun heq => hdot (heq ▸ List.mem_reverse.mp hc)
    obtain ⟨c, rest, hcons⟩ : ∃ c rest, stem.toList.reverse = c :: rest :=
      List.exists_cons_of_ne_nil (by simpa using hstem)
    rw [hreverse, List.takeWhile_append_of_pos hall, List.dropWhile_append_of_pos hall, hcons]
    simp

end Path

namespace FileTree

/-- A tree as a file system has it: one entry a location, and names that can stand in a
directory. -/
structure Proper (tree : FileTree) : Prop where
  distinct : (tree.entries.map Prod.fst).Nodup
  named : ∀ entry ∈ tree.entries, ∀ name ∈ entry.1, Path.IsName name ∧ isName name = true

/-- Another tree holds the same, in another order. -/
structure Reorders (tree tree' : FileTree) : Prop where
  entries : tree'.entries.Perm tree.entries
  working : tree'.working = tree.working

variable {tree tree' : FileTree} {location : Location} {directory name : String}
  {names : List String}

/-! ## Listing -/

theorem below_eq_some {l : Location} : (if l.dropLast == location then l.getLast? else none) =
    some name ↔ l = location ++ [name] := by
  constructor
  · intro h
    split_ifs at h with hbelow
    rw [← List.dropLast_append_getLast? name h, beq_iff_eq.mp hbelow]
  · rintro rfl
    simp

theorem namesIn_eq_ok : tree.namesIn directory = .ok names ↔
    ∃ location, tree.locate directory = .ok location ∧ tree.kind? location = some true ∧
      names = (tree.entries.map Prod.fst).filterMap fun l =>
        if l.dropLast == location then l.getLast? else none := by
  rw [namesIn]
  cases tree.locate directory with
  | error fault => simp [bind, Except.bind]
  | ok location =>
    dsimp only [bind, Except.bind]
    cases hdirectory : tree.requireDirectory location with
    | error fault =>
      have hnot : ¬ tree.kind? location = some true := fun h => by
        rw [requireDirectory_ok.mpr h] at hdirectory
        cases hdirectory
      simp [hnot]
    | ok _ =>
      have hkind := requireDirectory_ok.mp hdirectory
      simp only [List.filterMap_map]
      constructor
      · intro h
        exact ⟨location, rfl, hkind, (Except.ok.inj h).symm⟩
      · rintro ⟨_, hlocation, -, rfl⟩
        obtain rfl := Except.ok.inj hlocation
        rfl

theorem mem_at? (h : tree.Proper) (location : Location) (name : String) (entry : Entry) :
    tree.at? (location ++ [name]) = some entry ↔ (location ++ [name], entry) ∈ tree.entries := by
  have hat : tree.at? (location ++ [name]) = tree.entries.lookup (location ++ [name]) := by
    cases location <;> rfl
  rw [hat]
  exact ⟨mem_of_lookup, fun hmem => lookup_of_mem hmem h.distinct⟩

/-- What is listed is what stands below. -/
theorem mem_namesIn (h : tree.Proper) (hnames : tree.namesIn directory = .ok names)
    (hlocate : tree.locate directory = .ok location) :
    name ∈ names ↔ ∃ entry, tree.at? (location ++ [name]) = some entry := by
  obtain ⟨location', hlocate', -, rfl⟩ := namesIn_eq_ok.mp hnames
  obtain rfl := Except.ok.inj (hlocate'.symm.trans hlocate)
  simp only [mem_at? h, List.mem_filterMap, List.mem_map, below_eq_some]
  constructor
  · rintro ⟨_, ⟨⟨_, entry⟩, hentry, rfl⟩, rfl⟩
    exact ⟨entry, hentry⟩
  · rintro ⟨entry, hentry⟩
    exact ⟨_, ⟨_, hentry, rfl⟩, rfl⟩

theorem nodup_namesIn (h : tree.Proper) (hnames : tree.namesIn directory = .ok names) :
    names.Nodup := by
  obtain ⟨location, -, -, rfl⟩ := namesIn_eq_ok.mp hnames
  refine h.distinct.filterMap fun l l' name hl hl' => ?_
  rw [below_eq_some.mp hl, below_eq_some.mp hl']

theorem isName_of_namesIn (h : tree.Proper) (hnames : tree.namesIn directory = .ok names)
    (hmem : name ∈ names) : Path.IsName name ∧ isName name = true := by
  obtain ⟨location, hlocate, -⟩ := namesIn_eq_ok.mp hnames
  obtain ⟨entry, hentry⟩ := (mem_namesIn h hnames hlocate).mp hmem
  exact h.named _ ((mem_at? h _ _ _).mp hentry) name (by simp)

/-! ## Below a directory -/

/-- **A name that is joined to the path of a directory leads to what stands below**, unless the path
is too long. -/
theorem locate_join (hlocate : tree.locate directory = .ok location)
    (hdirectory : tree.kind? location = some true) (hname : Path.IsName name)
    (hshort : isName name = true) : tree.locate (Path.join directory name) =
      if isPath (Path.join directory name) then .ok (location ++ [name])
      else .error .invalidName := by
  obtain ⟨before, hparts⟩ := Path.exists_parts_join hname directory
  obtain ⟨folder, hleads⟩ := Path.exists_leads hparts hname
  have habsolute := Path.isAbsolute_of_notMem hname.slash
  have hwalk : (Path.parts directory).foldlM tree.step (tree.start directory) = .ok location := by
    rw [locate] at hlocate
    split_ifs at hlocate
    exact hlocate
  have hstep : tree.step location name = .ok (location ++ [name]) := by
    rw [step_of_directory hdirectory, if_neg (by simp [hname.counts]), if_neg hname.down,
      if_pos hshort]
  rw [locate_eq tree hleads, Path.names_join habsolute, Path.names_of_isName hname, Path.names,
    ← walk_filter, start_eq (Path.isAbsolute_join habsolute directory) rfl, List.foldlM_append,
    hwalk]
  dsimp only [bind, Except.bind]
  rw [List.foldlM_cons, hstep]
  rfl

theorem readText_eq_ok {path text : String} : tree.readText path = .ok text ↔
    ∃ bytes, tree.find path = .ok (.file bytes) ∧ String.fromUTF8? bytes = some text := by
  rw [readText]
  cases tree.find path with
  | error fault => simp [bind, Except.bind]
  | ok entry =>
    cases entry with
    | directory => simp [bind, Except.bind, throw, throwThe, MonadExceptOf.throw]
    | file bytes =>
      dsimp only [bind, Except.bind]
      cases hread : String.fromUTF8? bytes <;>
        simp [hread, pure, Except.pure, throw, throwThe, MonadExceptOf.throw]

/-- **What can be read below a directory**: files that are texts, by paths that are not too long. -/
theorem readText_join {text : String} (hlocate : tree.locate directory = .ok location)
    (hdirectory : tree.kind? location = some true) (hname : Path.IsName name)
    (hshort : isName name = true) : tree.readText (Path.join directory name) = .ok text ↔
      isPath (Path.join directory name) = true ∧
        ∃ bytes, tree.at? (location ++ [name]) = some (.file bytes) ∧
          String.fromUTF8? bytes = some text := by
  simp only [readText_eq_ok, find_eq_ok, locate_join hlocate hdirectory hname hshort]
  split_ifs with hpath <;> simp [hpath]

/-! ## Another order -/

namespace Reorders

variable (h : Reorders tree tree') (hproper : tree.Proper)

include h hproper

theorem at? (location : Location) : tree'.at? location = tree.at? location := by
  cases location with
  | nil => rfl
  | cons name rest =>
    have hdistinct : (tree'.entries.map Prod.fst).Nodup :=
      (h.entries.map Prod.fst).nodup_iff.mpr hproper.distinct
    refine Option.ext fun entry => ⟨fun hentry => ?_, fun hentry => ?_⟩
    · exact lookup_of_mem (h.entries.mem_iff.mp (mem_of_lookup hentry)) hproper.distinct
    · exact lookup_of_mem (h.entries.mem_iff.mpr (mem_of_lookup hentry)) hdistinct

theorem requireDirectory : tree'.requireDirectory = tree.requireDirectory := by
  funext location
  rw [FileTree.requireDirectory, FileTree.requireDirectory, h.at? hproper]

theorem locate (path : String) : tree'.locate path = tree.locate path := by
  have hstep : tree'.step = tree.step := by
    funext location part
    rw [step, step, h.requireDirectory hproper]
  rw [FileTree.locate, FileTree.locate, hstep, start_eq rfl h.working]

theorem find (path : String) : tree'.find path = tree.find path := by
  have hat : tree'.at? = tree.at? := funext (h.at? hproper)
  rw [FileTree.find, FileTree.find, h.locate hproper, hat]

theorem readText (path : String) : tree'.readText path = tree.readText path := by
  rw [FileTree.readText, FileTree.readText, h.find hproper]

theorem contains (path : String) : tree'.contains path = tree.contains path := by
  rw [FileTree.contains, FileTree.contains, h.find hproper]

/-- **A directory is listed in another order.** -/
theorem namesIn (path : String) :
    (∃ fault, tree.namesIn path = .error fault ∧ tree'.namesIn path = .error fault) ∨
      ∃ names names', tree.namesIn path = .ok names ∧ tree'.namesIn path = .ok names' ∧
        names'.Perm names := by
  rw [FileTree.namesIn, FileTree.namesIn, h.locate hproper, h.requireDirectory hproper]
  cases tree.locate path with
  | error fault => exact .inl ⟨fault, rfl, rfl⟩
  | ok location =>
    dsimp only [bind, Except.bind]
    cases tree.requireDirectory location with
    | error fault => exact .inl ⟨fault, rfl, rfl⟩
    | ok _ => exact .inr ⟨_, _, rfl, rfl, h.entries.filterMap _⟩

end Reorders
end FileTree
end Theming
