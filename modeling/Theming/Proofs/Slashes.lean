/-
# Paths and their slashes

A path is a text, and everything done with it asks for the parts between its slashes. The parts that
count are its names; with what it starts with they are its components.

| path | names | components |
| --- | --- | --- |
| `a//b/./` | `a`, `b` | `a`, `b` |
| `/a/..` | `a`, `..` | `/`, `a`, `..` |
| `./a` | `a` | `.`, `a` |
| (empty) | | |

Joining appends the names of one path to those of the other (`names_join`), and the parent of a path
has all its names but the last (`exists_parent`).
-/

import Mathlib.Data.List.DropRight
import Mathlib.Data.List.TakeDrop
import Theming.Path
import Theming.Proofs.Splitting

namespace Theming
namespace Path

/-- The parts that count. -/
def names (path : String) : List String := (parts path).filter fun part => !isTrivial part

/-- What a path starts with, if that is a slash or a `.`, and its names. -/
def components (path : String) : List String :=
  (if (splitStart path).1.isEmpty then [] else [(splitStart path).1]) ++ names path

/-- One name, as a directory holds it: it is no part that stays or leads upwards. -/
structure IsName (part : String) : Prop where
  slash : '/' ∉ part.toList
  counts : isTrivial part = false
  down : part ≠ ".."

/-- A path leads to a name in a folder. -/
structure Leads (path folder name : String) : Prop where
  parts : ∃ before, parts path = before ++ [name]
  isName : IsName name
  parent : parent? path = some folder
  names : names path = names folder ++ [name]
  start : isAbsolute folder = isAbsolute path

/-! ## Between slashes -/

/-- The parts of a path are those of its characters. -/
theorem parts_eq (path : String) : parts path = (path.toList.splitOn '/').map String.ofList :=
  splitOn_singleton (rfl : '/'.utf8Size = 1) path

theorem parts_ne_nil (path : String) : parts path ≠ [] := by
  rw [parts_eq, ne_eq, List.map_eq_nil_iff]
  exact List.splitOn_ne_nil _ _

@[simp] theorem parts_empty : parts "" = [""] := by
  rw [parts_eq]
  rfl

theorem parts_append_slash (a b : String) : parts (a ++ "/" ++ b) = parts a ++ parts b := by
  have hchars : (a ++ "/" ++ b).toList = a.toList ++ '/' :: b.toList := by simp
  rw [parts_eq, parts_eq, parts_eq, hchars, List.splitOn_append_cons_self, List.map_append]

theorem parts_slash (path : String) : parts ("/" ++ path) = "" :: parts path := by
  have hslash := parts_append_slash "" path
  rwa [String.empty_append, parts_empty] at hslash

theorem parts_of_notMem {part : String} (h : '/' ∉ part.toList) : parts part = [part] := by
  rw [parts_eq, List.splitOn_eq_singleton h]
  simp

theorem parts_below (path : String) : parts ("." ++ ("/" ++ path)) = "." :: parts path := by
  rw [← String.append_assoc, parts_append_slash, parts_of_notMem (by decide)]
  rfl

/-- Parts that are put together with slashes come apart again. -/
theorem parts_intercalate {ps : List String} (hne : ps ≠ [])
    (h : ∀ part ∈ ps, '/' ∉ part.toList) : parts ("/".intercalate ps) = ps := by
  have hchars : ("/".intercalate ps).toList = ['/'].intercalate (ps.map String.toList) := by
    rw [String.toList_intercalate]
    rfl
  rw [parts_eq, hchars, List.splitOn_intercalate, List.map_map]
  · simp [Function.comp_def]
  · intro cs hcs
    obtain ⟨part, hpart, rfl⟩ := List.mem_map.mp hcs
    exact h part hpart
  · simpa using hne

theorem intercalate_parts (path : String) : "/".intercalate (parts path) = path := by
  apply String.toList_injective
  rw [String.toList_intercalate, parts_eq, List.map_map]
  simp [Function.comp_def]

theorem notMem_of_mem_splitOn {cs part : List Char} (h : part ∈ cs.splitOn '/') : '/' ∉ part := by
  induction cs generalizing part with
  | nil =>
    rw [List.splitOn_nil, List.mem_singleton] at h
    rw [h]
    exact List.not_mem_nil
  | cons c cs ih =>
    rw [List.splitOn_cons_eq_if_modifyHead] at h
    split_ifs at h with hc
    · rcases List.mem_cons.mp h with rfl | h
      · exact List.not_mem_nil
      · exact ih h
    · obtain ⟨first, rest, hsplit⟩ := List.exists_cons_of_ne_nil (List.splitOn_ne_nil '/' cs)
      rw [hsplit, List.modifyHead_cons] at h
      rcases List.mem_cons.mp h with rfl | h
      · have hfirst : '/' ∉ first := ih (hsplit ▸ List.mem_cons_self)
        simpa [hfirst] using fun heq => hc (beq_iff_eq.mpr heq.symm)
      · exact ih (hsplit ▸ List.mem_cons_of_mem _ h)

theorem notMem_of_mem_parts {path part : String} (h : part ∈ parts path) : '/' ∉ part.toList := by
  rw [parts_eq] at h
  obtain ⟨cs, hcs, rfl⟩ := List.mem_map.mp h
  rw [String.toList_ofList]
  exact notMem_of_mem_splitOn hcs

theorem mem_names {path part : String} :
    part ∈ names path ↔ part ∈ parts path ∧ isTrivial part = false := by
  rw [names, List.mem_filter, Bool.not_eq_true']

theorem names_append_slash (a b : String) : names (a ++ "/" ++ b) = names a ++ names b := by
  rw [names, parts_append_slash, List.filter_append]
  rfl

@[simp] theorem names_empty : names "" = [] := by
  rw [names, parts_empty]
  rfl

theorem names_slash (path : String) : names ("/" ++ path) = names path := by
  rw [names, parts_slash, List.filter_cons_of_neg (by decide), names]

/-! ## Where a path starts -/

/-- What a path can start with, and the text behind it. -/
inductive Start : String → String × String → Prop
  | root (body : String) : Start ("/" ++ body) ("/", body)
  | here : Start "." (".", "")
  | below (body : String) : Start ("." ++ ("/" ++ body)) (".", "/" ++ body)
  | bare (path : String) (habsolute : isAbsolute path = false) (hhere : path ≠ ".")
      (hbelow : ∀ body, path ≠ "." ++ ("/" ++ body)) : Start path ("", path)

theorem isAbsolute_iff {path : String} : isAbsolute path = true ↔ ∃ body, path = "/" ++ body := by
  rw [isAbsolute, String.startsWith_string_iff]
  constructor
  · rintro ⟨cs, hcs⟩
    exact ⟨String.ofList cs, String.toList_injective (by simpa using hcs.symm)⟩
  · rintro ⟨body, rfl⟩
    rw [String.toList_append]
    exact List.prefix_append _ _

theorem isAbsolute_append {base : String} (hne : base ≠ "") (more : String) :
    isAbsolute (base ++ more) = isAbsolute base := by
  obtain ⟨c, cs, hcs⟩ := List.exists_cons_of_ne_nil (mt String.toList_eq_nil_iff.mp hne)
  rw [isAbsolute, isAbsolute, Bool.eq_iff_iff, String.startsWith_string_iff,
    String.startsWith_string_iff, String.toList_append, hcs]
  simp

theorem start_splitStart (path : String) : Start path (splitStart path) := by
  obtain ⟨cs, rfl⟩ := path.exists_eq_ofList
  rw [splitStart, String.toList_ofList]
  split
  · rename_i rest
    have hroot : String.ofList ('/' :: rest) = "/" ++ String.ofList rest :=
      String.toList_injective (by simp)
    rw [hroot]
    exact .root _
  · exact .here
  · rename_i rest
    have hbelow : String.ofList ('.' :: '/' :: rest) = "." ++ ("/" ++ String.ofList rest) :=
      String.toList_injective (by simp)
    have hbody : String.ofList ('/' :: rest) = "/" ++ String.ofList rest :=
      String.toList_injective (by simp)
    rw [hbelow, hbody]
    exact .below _
  · rename_i hroot hhere hbelow
    refine .bare _ ?_ (fun h => hhere ?_) (fun body h => hbelow body.toList ?_)
    · rw [← Bool.not_eq_true, isAbsolute_iff]
      rintro ⟨body, h⟩
      exact hroot body.toList (by simpa using congrArg String.toList h)
    · simpa using congrArg String.toList h
    · simpa using congrArg String.toList h

/-- Where a path starts does not change when something is put behind it; behind a `.` that is a
slash. -/
theorem splitStart_append {base more : String} (hne : base ≠ "")
    (hdot : base = "." → ∃ rest, more = "/" ++ rest) :
    (splitStart (base ++ more)).1 = (splitStart base).1 := by
  obtain ⟨c, cs, hcs⟩ := List.exists_cons_of_ne_nil (mt String.toList_eq_nil_iff.mp hne)
  have hbase : base = String.ofList (c :: cs) := by rw [← hcs, String.ofList_toList]
  by_cases hhere : base = "."
  · obtain ⟨rest, rfl⟩ := hdot hhere
    rw [hhere]
    simp [splitStart]
  · have hcons : (base ++ more).toList = c :: (cs ++ more.toList) := by
      rw [String.toList_append, hcs, List.cons_append]
    rw [splitStart, splitStart, hcons, hcs]
    by_cases hroot : c = '/'
    · subst hroot
      rfl
    · by_cases hc : c = '.'
      · subst hc
        obtain ⟨d, ds, rfl⟩ : ∃ d ds, cs = d :: ds := by
          cases cs with
          | nil => exact absurd hbase hhere
          | cons d ds => exact ⟨d, ds, rfl⟩
        by_cases hbelow : d = '/'
        · subst hbelow
          rfl
        · simp [hbelow]
      · simp [hroot, hc]

theorem splitStart_of_isName {part : String} (h : IsName part) : (splitStart part).1 = "" := by
  have hstart := start_splitStart part
  generalize hsplit : splitStart part = split at hstart
  cases hstart with
  | root body => exact absurd (by simp) h.slash
  | here => exact absurd h.counts (by decide)
  | below body => exact absurd (by simp) h.slash
  | bare => rfl

/-- A path has a component unless it is empty. -/
theorem components_ne_nil {path : String} (h : path ≠ "") : components path ≠ [] := by
  rw [components]
  have hstart := start_splitStart path
  generalize splitStart path = split at hstart ⊢
  cases hstart with
  | root => exact List.cons_ne_nil _ _
  | here => exact List.cons_ne_nil _ _
  | below => exact List.cons_ne_nil _ _
  | bare _ habsolute hhere hbelow =>
    have hbare : (if ("" : String).isEmpty then [] else [""]) = ([] : List String) := rfl
    rw [hbare, List.nil_append]
    intro hnone
    -- then the first part is empty or a dot, and that is how other paths start
    obtain ⟨first, rest, hparts⟩ := List.exists_cons_of_ne_nil (parts_ne_nil path)
    have hpath := intercalate_parts path
    have htrivial : isTrivial first = true := by
      by_contra hcounts
      have hname : first ∈ names path :=
        mem_names.mpr ⟨hparts ▸ List.mem_cons_self, Bool.not_eq_true _ ▸ hcounts⟩
      rw [hnone] at hname
      cases hname
    rw [isTrivial, Bool.or_eq_true, String.isEmpty_iff, beq_iff_eq] at htrivial
    by_cases hnil : rest = []
    · rw [hparts, hnil, String.intercalate_singleton] at hpath
      rcases htrivial with rfl | rfl
      · exact h hpath.symm
      · exact hhere hpath.symm
    · rw [hparts, String.intercalate_cons_of_ne_nil hnil, String.append_assoc] at hpath
      rcases htrivial with rfl | rfl
      · rw [String.empty_append] at hpath
        rw [isAbsolute_iff.mpr ⟨_, hpath.symm⟩] at habsolute
        cases habsolute
      · exact hbelow _ hpath.symm

/-- What stands behind other components is a name. -/
theorem mem_names_of_components {path : String} {above parts : List String} (hne : above ≠ [])
    (h : components path = above ++ parts) {part : String} (hpart : part ∈ parts) :
    part ∈ names path := by
  obtain ⟨first, above, rfl⟩ := List.exists_cons_of_ne_nil hne
  rw [components] at h
  split_ifs at h
  · rw [List.nil_append] at h
    rw [h]
    exact List.mem_append_right _ hpart
  · rw [List.singleton_append, List.cons_append] at h
    rw [(List.cons.inj h).2]
    exact List.mem_append_right _ hpart

/-! ## Joining -/

theorem isAbsolute_of_notMem {path : String} (h : '/' ∉ path.toList) : isAbsolute path = false := by
  rw [← Bool.not_eq_true, isAbsolute_iff]
  rintro ⟨body, rfl⟩
  exact h (by simp)

/-- What joining puts in front of a path that is not absolute. -/
theorem exists_join (base : String) {path : String} (h : isAbsolute path = false) :
    base = "" ∧ join base path = path ∨
      (∃ above, base = above ++ "/" ∧ join base path = above ++ "/" ++ path) ∨
      base ≠ "" ∧ join base path = base ++ "/" ++ path := by
  rw [join, if_neg (by rw [h]; exact Bool.false_ne_true)]
  by_cases hempty : base = ""
  · exact .inl ⟨hempty, by rw [hempty]; simp⟩
  · by_cases hslash : base.endsWith "/" = true
    · obtain ⟨cs, hcs⟩ : "/".toList <:+ base.toList := by
        rw [← String.endsWith_toSlice] at hslash
        simpa using String.Slice.endsWith_string_iff.mp hslash
      have habove : base = String.ofList cs ++ "/" := String.toList_injective (by simp [← hcs])
      exact .inr (.inl ⟨_, habove, by rw [hslash, Bool.or_true, if_pos rfl, ← habove]⟩)
    · refine .inr (.inr ⟨hempty, ?_⟩)
      rw [if_neg (by simp [hempty, hslash])]

/-- **The names of joined paths are those of both.** -/
theorem names_join {path : String} (h : isAbsolute path = false) (base : String) :
    names (join base path) = names base ++ names path := by
  rcases exists_join base h with ⟨rfl, hjoin⟩ | ⟨above, rfl, hjoin⟩ | ⟨-, hjoin⟩
  · rw [hjoin, names_empty, List.nil_append]
  · have hbase : names (above ++ "/") = names above := by
      have hslash := names_append_slash above ""
      rwa [String.append_empty, names_empty, List.append_nil] at hslash
    rw [hjoin, names_append_slash, hbase]
  · rw [hjoin, names_append_slash]

theorem isAbsolute_join {path : String} (h : isAbsolute path = false) (base : String) :
    isAbsolute (join base path) = isAbsolute base := by
  rcases exists_join base h with ⟨rfl, hjoin⟩ | ⟨above, rfl, hjoin⟩ | ⟨hne, hjoin⟩
  · rw [hjoin, h]
    rfl
  · rw [hjoin, isAbsolute_append (by simp)]
  · rw [hjoin, String.append_assoc, isAbsolute_append hne]

theorem names_of_isName {part : String} (h : IsName part) : names part = [part] := by
  rw [names, parts_of_notMem h.slash, List.filter_cons_of_pos (by rw [h.counts]; rfl)]
  rfl

/-- A name that is joined to a path is one more component. -/
theorem components_join {part : String} (h : IsName part) (base : String) :
    components (join base part) = components base ++ [part] := by
  have habsolute := isAbsolute_of_notMem h.slash
  have hstart : (splitStart (join base part)).1 = (splitStart base).1 := by
    rcases exists_join base habsolute with ⟨rfl, hjoin⟩ | ⟨above, rfl, hjoin⟩ |
      ⟨hne, hjoin⟩
    · rw [hjoin, splitStart_of_isName h]
      rfl
    · rw [hjoin]
      refine splitStart_append (by simp) fun hdot => ?_
      have hends := congrArg (fun path => path.toList.getLast?) hdot
      exact absurd hends (by simp)
    · rw [hjoin, String.append_assoc]
      exact splitStart_append hne fun _ => ⟨part, rfl⟩
  rw [components, components, hstart, names_join habsolute, names_of_isName h,
    List.append_assoc]

section Foldl

variable {ps : List String} (h : ∀ part ∈ ps, IsName part) (base : String)
include h

/-- Names that are joined to a path, one after the other, are its last components. -/
theorem components_foldl : components (ps.foldl join base) = components base ++ ps := by
  induction ps generalizing base with
  | nil => exact (List.append_nil _).symm
  | cons part rest ih =>
    rw [List.forall_mem_cons] at h
    rw [List.foldl_cons, ih h.2, components_join h.1, List.append_assoc]
    rfl

theorem names_foldl : names (ps.foldl join base) = names base ++ ps := by
  induction ps generalizing base with
  | nil => exact (List.append_nil _).symm
  | cons part rest ih =>
    rw [List.forall_mem_cons] at h
    rw [List.foldl_cons, ih h.2, names_join (isAbsolute_of_notMem h.1.slash),
      names_of_isName h.1, List.append_assoc]
    rfl

theorem isAbsolute_foldl : isAbsolute (ps.foldl join base) = isAbsolute base := by
  induction ps generalizing base with
  | nil => rfl
  | cons part rest ih =>
    rw [List.forall_mem_cons] at h
    rw [List.foldl_cons, ih h.2, isAbsolute_join (isAbsolute_of_notMem h.1.slash)]

end Foldl

/-! ## Parents -/

/-- What is dropped from the end of a list does not count. -/
theorem filter_rdropWhile (p : String → Bool) (ps : List String) :
    (ps.rdropWhile p).filter (fun part => !p part) = ps.filter fun part => !p part := by
  induction ps using List.reverseRecOn with
  | nil => rfl
  | append_singleton ps part ih =>
    rw [List.rdropWhile_concat]
    split_ifs with hp
    · rw [ih, List.filter_append, List.filter_cons_of_neg (by simp [hp])]
      simp
    · rfl

theorem names_intercalate {ps : List String} (h : ∀ part ∈ ps, '/' ∉ part.toList) :
    names ("/".intercalate (ps.rdropWhile isTrivial)) = ps.filter fun part => !isTrivial part := by
  rw [← filter_rdropWhile]
  by_cases hnil : ps.rdropWhile isTrivial = []
  · rw [hnil]
    simp
  · rw [names, parts_intercalate hnil fun part hpart =>
      h part ((List.rdropWhile_prefix _ _).subset hpart)]

/-- What is left of parts behind a slash is nothing or starts with that slash. -/
theorem starts_slash (ps : List String) :
    "/".intercalate (("" :: ps).rdropWhile isTrivial) = "" ∨
      ∃ rest, "/".intercalate (("" :: ps).rdropWhile isTrivial) = "/" ++ rest := by
  have hlast := List.rdropWhile_last_not isTrivial ("" :: ps)
  rcases List.prefix_cons_iff.mp (List.rdropWhile_prefix isTrivial (l := "" :: ps)) with
    hnil | ⟨kept, hkept, -⟩
  · exact .inl (by rw [hnil]; rfl)
  · rw [hkept] at hlast ⊢
    by_cases hnil : kept = []
    · subst hnil
      exact absurd rfl (hlast (List.cons_ne_nil _ _))
    · exact .inr ⟨_, by rw [String.intercalate_cons_of_ne_nil hnil, String.empty_append]⟩

theorem names_dot {path : String} (h : path = "" ∨ ∃ rest, path = "/" ++ rest) :
    names ("." ++ path) = names path := by
  have hdot : names "." = [] := by
    rw [names, parts_of_notMem (by decide)]
    rfl
  rcases h with rfl | ⟨rest, rfl⟩
  · rw [String.append_empty, hdot, names_empty]
  · rw [← String.append_assoc, names_append_slash, hdot, names_slash, List.nil_append]

section Parent

variable {path last : String} {before : List String}

theorem significant_of_parts {body : String} (h : parts body = before ++ [last])
    (hlast : isTrivial last = false) : significant body = last :: before.reverse := by
  rw [significant, h, List.reverse_append, List.reverse_singleton, List.singleton_append,
    List.dropWhile_cons_of_neg (by simp [hlast])]

theorem names_of_parts (h : parts path = before ++ [last]) (hlast : isTrivial last = false) :
    names path = (before.filter fun part => !isTrivial part) ++ [last] := by
  rw [names, h, List.filter_append, List.filter_cons_of_pos (by rw [hlast]; rfl)]
  rfl

theorem parts_behind {first : String} {rest : List String} (hne : rest ≠ [])
    (h : first :: rest = before ++ [last]) : ∃ before', before = first :: before' ∧
      rest = before' ++ [last] := by
  cases before with
  | nil => exact absurd (List.cons.inj h).2 hne
  | cons part before' =>
    obtain ⟨rfl, hrest⟩ := List.cons.inj h
    exact ⟨before', rfl, hrest⟩

/-- **A parent has all names but the last**, and starts where the path starts. -/
theorem exists_parent (h : parts path = before ++ [last]) (hlast : isTrivial last = false) :
    ∃ folder, parent? path = some folder ∧ names path = names folder ++ [last] ∧
      isAbsolute folder = isAbsolute path := by
  have hnames := names_of_parts h hlast
  have hslash : ∀ part ∈ before, '/' ∉ part.toList := fun part hpart =>
    notMem_of_mem_parts (h ▸ List.mem_append_left _ hpart)
  rw [parent?]
  have hstart := start_splitStart path
  generalize splitStart path = split at hstart ⊢
  cases hstart with
  | root body =>
    rw [parts_slash] at h
    obtain ⟨before', rfl, hbody⟩ := parts_behind (parts_ne_nil body) h
    refine ⟨"/" ++ "/".intercalate (before'.rdropWhile isTrivial), ?_, ?_, ?_⟩
    · dsimp only
      rw [significant_of_parts hbody hlast]
      rfl
    · rw [hnames, names_slash, names_intercalate fun part hpart =>
        hslash part (List.mem_cons_of_mem _ hpart), List.filter_cons_of_neg (by decide)]
    · rw [isAbsolute_append (by decide), isAbsolute_append (by decide)]
  | here =>
    have hdot : parts "." = [] ++ ["."] := parts_of_notMem (by decide)
    obtain ⟨-, hends⟩ := List.append_inj' (h.symm.trans hdot) rfl
    obtain rfl := List.singleton_inj.mp hends
    exact absurd hlast (by decide)
  | below body =>
    rw [parts_below] at h
    obtain ⟨before', rfl, hbody⟩ := parts_behind (parts_ne_nil body) h
    have habove : parts ("/" ++ body) = ("" :: before') ++ [last] := by
      rw [parts_slash, hbody, List.cons_append]
    refine ⟨"." ++ "/".intercalate (("" :: before').rdropWhile isTrivial), ?_, ?_, ?_⟩
    · dsimp only
      rw [significant_of_parts habove hlast]
      rfl
    · rw [hnames, names_dot (starts_slash before'), names_intercalate]
      · rfl
      · intro part hpart
        rcases List.mem_cons.mp hpart with rfl | hpart
        · decide
        · exact hslash part (List.mem_cons_of_mem _ hpart)
    · rw [isAbsolute_append (by decide), isAbsolute_append (by decide)]
  | bare _ habsolute _ _ =>
    refine ⟨"" ++ "/".intercalate (before.rdropWhile isTrivial), ?_, ?_, ?_⟩
    · dsimp only
      rw [significant_of_parts h hlast]
      rfl
    · rw [hnames, String.empty_append, names_intercalate hslash]
    · rw [String.empty_append, habsolute]
      by_cases hempty : "/".intercalate (before.rdropWhile isTrivial) = ""
      · rw [hempty]
        rfl
      · have hkept : before.rdropWhile isTrivial ≠ [] := by
          intro hnil
          rw [hnil] at hempty
          exact hempty rfl
        have hpath := intercalate_parts path
        rw [h, ← List.rdropWhile_append_rtakeWhile (p := isTrivial) (l := before),
          List.append_assoc, String.intercalate_append_of_ne_nil hkept (List.concat_ne_nil _ _),
          String.append_assoc] at hpath
        rw [← habsolute, ← hpath, isAbsolute_append hempty]

theorem exists_leads (h : parts path = before ++ [last]) (hlast : IsName last) :
    ∃ folder, Leads path folder last := by
  obtain ⟨folder, hparent, hnames, hstart⟩ := exists_parent h hlast.counts
  exact ⟨folder, ⟨before, h⟩, hlast, hparent, hnames, hstart⟩

/-- Where the last part counts, it is the last of those behind the start. -/
theorem exists_significant (h : parts path = before ++ [last]) (hlast : isTrivial last = false) :
    ∃ rest, significant (splitStart path).2 = last :: rest := by
  have hstart := start_splitStart path
  generalize splitStart path = split at hstart ⊢
  cases hstart with
  | root body =>
    rw [parts_slash] at h
    obtain ⟨before', -, hbody⟩ := parts_behind (parts_ne_nil body) h
    exact ⟨_, significant_of_parts hbody hlast⟩
  | here =>
    have hdot : parts "." = [] ++ ["."] := parts_of_notMem (by decide)
    obtain ⟨-, hends⟩ := List.append_inj' (h.symm.trans hdot) rfl
    obtain rfl := List.singleton_inj.mp hends
    exact absurd hlast (by decide)
  | below body =>
    rw [parts_below] at h
    obtain ⟨before', -, hbody⟩ := parts_behind (parts_ne_nil body) h
    have habove : parts ("/" ++ body) = ("" :: before') ++ [last] := by
      rw [parts_slash, hbody, List.cons_append]
    exact ⟨_, significant_of_parts habove hlast⟩
  | bare => exact ⟨_, significant_of_parts h hlast⟩

/-- An extension is the end of the last part, if that counts. -/
theorem suffix_of_extension {extension : String} (h : parts path = before ++ [last])
    (hlast : isTrivial last = false) (hextension : extension? path = some extension) :
    IsName last ∧ extension.toList <:+ last.toList := by
  obtain ⟨rest, hsignificant⟩ := exists_significant h hlast
  rw [extension?, fileName?, hsignificant] at hextension
  dsimp only at hextension
  split_ifs at hextension with hup
  · cases hextension
  · refine ⟨⟨notMem_of_mem_parts (h ▸ List.mem_append_right _ List.mem_cons_self), hlast,
      fun heq => hup (beq_iff_eq.mpr heq)⟩, ?_⟩
    rw [Option.bind_some] at hextension
    split at hextension
    · rename_i read first behind hspan
      obtain rfl := Option.some.inj hextension
      rw [List.span_eq_takeWhile_dropWhile] at hspan
      have hread := congrArg Prod.fst hspan
      dsimp only at hread
      rw [String.toList_ofList, ← hread, ← List.reverse_prefix, List.reverse_reverse]
      exact List.takeWhile_prefix _
    · cases hextension

end Parent

/-! ## Endings -/

/-- What is longer than `..` is a name. -/
theorem isName_of_length {part : String} (hslash : '/' ∉ part.toList)
    (hlength : 3 ≤ part.toList.length) : IsName part := by
  have hne : ∀ short : String, short.toList.length < 3 → part ≠ short := by
    rintro short hshort rfl
    omega
  refine ⟨hslash, ?_, hne ".." (by decide)⟩
  rw [isTrivial, Bool.or_eq_false_iff, beq_eq_false_iff_ne, ← Bool.not_eq_true, String.isEmpty_iff]
  exact ⟨hne "" (by decide), hne "." (by decide)⟩

theorem suffix_join (base path : String) : path.toList <:+ (join base path).toList := by
  rw [join]
  split_ifs
  · exact List.suffix_rfl
  · rw [String.toList_append]
    exact List.suffix_append _ _
  · rw [String.toList_append]
    exact List.suffix_append _ _

/-- What a path ends in is in its last part, up to a slash. -/
theorem exists_last {path : String} {ending : List Char} (h : ending <:+ path.toList)
    (hslash : '/' ∉ ending) :
    ∃ before last, parts path = before ++ [last] ∧ ending <:+ last.toList := by
  have hne := parts_ne_nil path
  refine ⟨_, _, (List.dropLast_append_getLast hne).symm, ?_⟩
  have hpath := intercalate_parts path
  rw [← List.dropLast_append_getLast hne] at hpath
  generalize (parts path).getLast hne = last at hpath ⊢
  by_cases hnil : (parts path).dropLast = []
  · rw [hnil, List.nil_append, String.intercalate_singleton] at hpath
    rwa [hpath]
  · rw [String.intercalate_append_of_ne_nil hnil (List.cons_ne_nil _ _),
      String.intercalate_singleton, String.append_assoc] at hpath
    have hbehind : ("/" ++ last).toList = '/' :: last.toList := by simp
    rw [← hpath, String.toList_append, hbehind] at h
    rcases List.suffix_or_suffix_of_suffix h (List.suffix_append _ _) with hends | hends
    · rcases List.suffix_cons_iff.mp hends with heq | hends
      · exact absurd (heq ▸ List.mem_cons_self) hslash
      · exact hends
    · exact absurd (hends.subset List.mem_cons_self) hslash

end Path
end Theming
