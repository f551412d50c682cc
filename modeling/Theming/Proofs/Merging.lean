/-
# Merging of theme attributes

A theme attribute is a sequence of entries with or without a comma behind each (`Spells`), and an
item may have any number of them. What they say together is found in two stages, which go by
different rules.

| member | inside one attribute | over several attributes | over all entries |
| --- | --- | --- | --- |
| name, parent, field of the parent | last entry | last that has it | last entry |
| enclosing modules | last entry | last that is not empty | last entry, if none is empty |

Where no entry is empty, the two stages are one (`merge_ofEntries`): the members do not depend on
how the entries are distributed over attributes. The parent and the field that holds it are compared
once, on what came out.
-/

import Theming.Proofs.Deriving
import Theming.Proofs.Trimming

namespace Theming
namespace Derive

open Syntax (Attribute Code Grammar Tree)

/-! ## Entries as they are written -/

/-- Tokens start with a path, as far as it can be read. -/
def TakesPath (ts : List Tree) (path : List Code) (behind : List Tree) : Prop :=
  ∃ found, (Grammar.forTrees ts).path false (4 * ts.length + 8) ts = some (found, behind) ∧
    found.code = path

/-- Tokens start with an entry: a key, an equals sign and the value. -/
inductive Enters : List Tree → ThemeEntry → List Tree → Prop
  | name {joint : Bool} {literal text : String} {behind : List Tree}
      (value : Syntax.stringValue? literal = some text) :
      Enters (.word "name" :: .punct '=' joint :: .literal literal :: behind) (.name text) behind
  | enclosing {joint : Bool} {literal text : String} {behind : List Tree}
      (value : Syntax.stringValue? literal = some text) :
      Enters (.word "enclosing" :: .punct '=' joint :: .literal literal :: behind)
        (.enclosing (enclosingSegments text)) behind
  | extends' {joint : Bool} {ts : List Tree} {path : List Code} {behind : List Tree}
      (value : TakesPath ts path behind) :
      Enters (.word "extends" :: .punct '=' joint :: ts) (.extends' path) behind
  | via {joint : Bool} {field : String} {behind : List Tree}
      (value : Syntax.isIdentifier field = true) :
      Enters (.word "via" :: .punct '=' joint :: .word field :: behind) (.via field) behind

/-- A text is a sequence of entries, each with or without one comma behind it. -/
inductive Spells : List Tree → List ThemeEntry → Prop
  | none : Spells [] []
  | bare {content behind : List Tree} {entry : ThemeEntry} {later : List ThemeEntry}
      (first : Enters content entry behind) (rest : Spells behind later) :
      Spells content (entry :: later)
  | comma {content behind : List Tree} {entry : ThemeEntry} {later : List ThemeEntry}
      {joint : Bool} (first : Enters content entry (.punct ',' joint :: behind))
      (rest : Spells behind later) : Spells content (entry :: later)

/-- The theme attributes of an item are written as these sequences of entries. -/
def Spelled (attributes : List Attribute) (written : List (List ThemeEntry)) : Prop :=
  List.Forall₂ (fun attr entries => ∃ content, attr.arguments = .list content ∧
    Spells content entries) (attributes.filter fun attr => attr.isNamed "theme") written

/-! ## Paths without arguments -/

/-- A word that can be a segment of a path. -/
def IsSegment (word : String) : Prop :=
  word ∈ ["super", "self", "crate", "try", "Self"] ∨ Syntax.isIdentifier word = true

/-- The tokens of segments behind the first one. -/
def segmentTrees (segments : List String) : List Tree :=
  segments.flatMap fun segment => [.punct ':' true, .punct ':' false, .word segment]

/-- The code of segments behind the first one. -/
def segmentCode (segments : List String) : List Code :=
  segments.flatMap fun segment => [.word "::", .word segment]

section Paths

open Syntax (Reader)
open Syntax.Reader

theorem bind_apply {α β : Type} (r : Reader α) (f : α → Reader β) (ts : List Tree) :
    (r >>= f) ts = (r ts).bind fun read => f read.1 read.2 := rfl

theorem ahead_bind {β : Type} (f : List Tree → Reader β) (ts : List Tree) :
    (ahead >>= f) ts = f ts ts := rfl

variable {g : Grammar} {behind : List Tree}

/-- A segment without arguments is one word. -/
theorem segment_word {word : String} (h : IsSegment word)
    (hbehind : (startsPunct "<" behind ||
      startsPunct "::" behind && startsPunct "<" (behind.drop 2)) = false) (fuel : Nat) :
    g.segment false (fuel + 1) (.word word :: behind) =
      some (⟨[.word word], word, true, true⟩, behind) := by
  have hplain {read : Reader String} (hread : read (.word word :: behind) = some (word, behind)) :
      (read >>= fun w => do
        let ts ← ahead
        let direct := !false && startsPunct "<" ts && !startsPunct "<=" ts && !startsPunct "<<=" ts
        if direct || startsPunct "::" ts && startsPunct "<" (ts.drop 2) then
          return ⟨.word w :: (← g.genericArguments fuel), w, false, true⟩
        else return (⟨[.word w], w, true, true⟩ : Grammar.PathCode)) (.word word :: behind) =
        some (⟨[.word word], word, true, true⟩, behind) := by
    rw [Bool.or_eq_false_iff] at hbehind
    rw [bind_apply, hread, Option.bind_some, ahead_bind, if_neg]
    · rfl
    · simp [hbehind.1, hbehind.2]
  rw [Grammar.segment, ahead_bind]
  split_ifs with hkeyword hself
  · rfl
  · exact hplain rfl
  · refine hplain ?_
    rw [identifier.eq_def]
    refine if_pos (h.resolve_left fun hmem => ?_)
    simp only [List.mem_cons, List.not_mem_nil, or_false] at hmem
    rcases hmem with rfl | rfl | rfl | rfl | rfl
    iterate 4 exact hkeyword rfl
    exact hself rfl

/-- Tokens do not go on with a path. -/
structure EndsPath (behind : List Tree) : Prop where
  colons : startsPunct "::" behind = false
  angle : startsPunct "<" behind = false

/-- Behind a segment without arguments, either comes another one or the path ends. -/
theorem EndsPath.behind_segment (h : EndsPath behind) (others : List String) :
    (startsPunct "<" (segmentTrees others ++ behind) ||
      startsPunct "::" (segmentTrees others ++ behind) &&
        startsPunct "<" ((segmentTrees others ++ behind).drop 2)) = false := by
  cases others with
  | nil =>
    rw [segmentTrees, List.flatMap_nil, List.nil_append, h.colons, h.angle]
    rfl
  | cons => rfl

theorem length_segmentTrees (segments : List String) :
    (segmentTrees segments).length = 3 * segments.length := by
  induction segments with
  | nil => rfl
  | cons segment rest ih =>
    rw [segmentTrees, List.flatMap_cons, List.length_append, ← segmentTrees, ih]
    exact (Nat.add_comm 3 _).trans (Nat.mul_succ 3 _).symm

theorem moreSegments_words (h : EndsPath behind) {others : List String}
    (hothers : ∀ word ∈ others, IsSegment word) (sofar : Grammar.PathCode) {fuel : Nat}
    (hfuel : others.length + 2 ≤ fuel) :
    ∃ found, g.moreSegments false sofar fuel (segmentTrees others ++ behind) =
      some (found, behind) ∧ found.code = sofar.code ++ segmentCode others := by
  obtain ⟨fuel, rfl⟩ : ∃ n, fuel = n + 2 := Nat.exists_eq_add_of_le' (by omega)
  induction others generalizing sofar fuel with
  | nil =>
    refine ⟨sofar, ?_, (List.append_nil _).symm⟩
    rw [Grammar.moreSegments, ahead_bind, segmentTrees, List.flatMap_nil, List.nil_append,
      h.colons]
    rfl
  | cons word rest ih =>
    obtain ⟨hword, hrest⟩ := List.forall_mem_cons.mp hothers
    rw [List.length_cons] at hfuel
    obtain ⟨fuel, rfl⟩ : ∃ n, fuel = n + 1 := Nat.exists_eq_add_of_le' (by omega)
    have hsegment := segment_word (g := g) hword (h.behind_segment rest) (fuel + 1)
    obtain ⟨found, hread, hcode⟩ := ih hrest
      ⟨sofar.code ++ [.word "::"] ++ [.word word], word, sofar.plain && true, false⟩ fuel (by omega)
    refine ⟨found, ?_, by rw [hcode]; simp [segmentCode]⟩
    rw [Grammar.moreSegments, ahead_bind, if_pos (by rfl)]
    exact (congrArg (fun read => Option.bind read _) hsegment).trans hread

/-- **A path without arguments ends where its words end**, with a comma behind it or without. -/
theorem takesPath_words (h : EndsPath behind) {first : String} {others : List String}
    (hfirst : IsSegment first) (hothers : ∀ word ∈ others, IsSegment word) :
    TakesPath (.word first :: segmentTrees others ++ behind)
      (.word first :: segmentCode others) behind := by
  set ts := .word first :: segmentTrees others ++ behind with hts
  have hfuel : others.length + 2 ≤ 4 * ts.length + 7 := by
    rw [hts, List.length_append, List.length_cons]
    have := length_segmentTrees others
    omega
  have hsegment := segment_word (g := Grammar.forTrees ts) hfirst (h.behind_segment others)
    (4 * ts.length + 6)
  obtain ⟨found, hread, hcode⟩ := moreSegments_words (g := Grammar.forTrees ts) h hothers
    ⟨[] ++ [.word first], first, true, true && true⟩ hfuel
  refine ⟨found, ?_, hcode⟩
  rw [Grammar.path, bind_apply]
  exact (congrArg (fun read => Option.bind read _) hsegment).trans hread

end Paths

/-! ## Reading entries -/

/-- An entry is longer than nothing. -/
theorem Enters.length_lt {ts behind : List Tree} {entry : ThemeEntry}
    (h : Enters ts entry behind) : behind.length < ts.length := by
  cases h with
  | extends' value =>
    obtain ⟨found, hread, -⟩ := value
    have hsuffix := (Syntax.Reader.Trims.suffix hread).length_le
    simp only [List.length_cons]
    omega
  | _ =>
    simp only [List.length_cons]
    omega

/-- The value of an entry is read behind its key and the equals sign. -/
theorem entryValue_eq_ok {key : String} {joint : Bool} {ts behind : List Tree}
    {entry : ThemeEntry} : entryValue key ts = .ok (entry, behind) ↔
      Enters (.word key :: .punct '=' joint :: ts) entry behind := by
  constructor
  · intro h
    rw [entryValue.eq_def] at h
    dsimp only at h
    -- each key with a value that could be read, and the other keys
    split at h <;> try (split at h <;> cases h; rename_i hread)
    · split at hread
      · obtain ⟨text, htext, heq⟩ := Option.map_eq_some_iff.mp hread
        cases heq
        exact .name htext
      · cases hread
    · split at hread
      · obtain ⟨text, htext, heq⟩ := Option.map_eq_some_iff.mp hread
        cases heq
        exact .enclosing htext
      · cases hread
    · obtain ⟨⟨path, rest⟩, hpath, heq⟩ := Option.map_eq_some_iff.mp hread
      cases heq
      exact .extends' ⟨path, hpath, rfl⟩
    · obtain ⟨⟨field, rest⟩, hfield, heq⟩ := Option.map_eq_some_iff.mp hread
      cases heq
      rw [Syntax.Reader.identifier.eq_def] at hfield
      split at hfield
      · split_ifs at hfield with hid
        cases hfield
        exact .via hid
      · cases hfield
    · cases h
  · intro h
    cases h with
    | name value => simp [entryValue, value]
    | enclosing value => simp [entryValue, value]
    | extends' value =>
      obtain ⟨found, hread, rfl⟩ := value
      simp [entryValue, hread]
    | via value => simp [entryValue, Syntax.Reader.identifier, value]

/-- The tokens behind a comma, if one comes first. -/
def dropComma (ts : List Tree) : List Tree :=
  match ts with
  | .punct ',' _ :: rest => rest
  | _ => ts

theorem length_dropComma_le (ts : List Tree) : (dropComma ts).length ≤ ts.length := by
  fun_cases dropComma ts
  · exact Nat.le_succ _
  · exact le_rfl

/-- One entry is read, and the others behind it and its comma. -/
theorem entries_succ {fuel : Nat} {key : String} {joint : Bool} {ts : List Tree}
    {es : List ThemeEntry} :
    entries (fuel + 1) (.word key :: .punct '=' joint :: ts) = .ok es ↔
      ∃ entry behind later, Enters (.word key :: .punct '=' joint :: ts) entry behind ∧
        entries fuel (dropComma behind) = .ok later ∧ es = entry :: later := by
  rw [entries]
  constructor
  · intro h
    split_ifs at h
    · cases h
    · obtain ⟨⟨entry, behind⟩, hvalue, h⟩ := Except.bind_eq_ok h
      obtain ⟨later, hlater, h⟩ := Except.bind_eq_ok h
      cases h
      exact ⟨entry, behind, later, entryValue_eq_ok.mp hvalue, hlater, rfl⟩
  · rintro ⟨entry, behind, later, hfirst, hlater, rfl⟩
    have hkey : Syntax.isIdentifier key = true := by
      cases hfirst <;> decide
    rw [if_neg (by rw [hkey]; decide), entryValue_eq_ok.mpr hfirst]
    change (entries fuel (dropComma behind) >>= fun later => .ok (entry :: later)) = _
    rw [hlater]
    rfl

theorem Enters.eq_cons {ts behind : List Tree} {entry : ThemeEntry} (h : Enters ts entry behind) :
    ∃ key joint value, ts = .word key :: .punct '=' joint :: value := by
  cases h <;> exact ⟨_, _, _, rfl⟩

/-- Where entries begin, no comma stands. -/
theorem Spells.dropComma_eq {content : List Tree} {es : List ThemeEntry} (h : Spells content es) :
    dropComma content = content := by
  cases h with
  | none => rfl
  | bare first _ =>
    obtain ⟨key, joint, value, rfl⟩ := first.eq_cons
    rfl
  | comma first _ =>
    obtain ⟨key, joint, value, rfl⟩ := first.eq_cons
    rfl

/-- The others come behind the first entry and its comma, if it has one. -/
theorem spells_cons {content : List Tree} {entry : ThemeEntry} {later : List ThemeEntry} :
    Spells content (entry :: later) ↔
      ∃ behind, Enters content entry behind ∧ Spells (dropComma behind) later := by
  constructor
  · intro h
    cases h with
    | bare first rest => exact ⟨_, first, by rwa [rest.dropComma_eq]⟩
    | comma first rest => exact ⟨_, first, rest⟩
  · rintro ⟨behind, first, rest⟩
    revert first rest
    fun_cases dropComma behind
    · exact .comma
    · exact .bare

/-- **The entries of a text are the ones that it spells.** -/
theorem entries_eq_ok {fuel : Nat} {content : List Tree} {es : List ThemeEntry}
    (hfuel : content.length < fuel) : entries fuel content = .ok es ↔ Spells content es := by
  induction fuel generalizing content es with
  | zero => exact absurd hfuel (Nat.not_lt_zero _)
  | succ fuel ih =>
    constructor
    · intro h
      by_cases hkey : ∃ key joint ts, content = .word key :: .punct '=' joint :: ts
      · obtain ⟨key, joint, ts, rfl⟩ := hkey
        obtain ⟨entry, behind, later, first, hlater, rfl⟩ := entries_succ.mp h
        refine spells_cons.mpr ⟨behind, first, (ih ?_).mp hlater⟩
        have hshorter := first.length_lt
        have hrest := length_dropComma_le behind
        omega
      · rw [entries.eq_def] at h
        split at h
        · cases h
          exact .none
        · cases h
        · exact absurd ⟨_, _, _, rfl⟩ hkey
        · cases h
    · intro h
      cases es with
      | nil =>
        cases h
        rfl
      | cons entry later =>
        obtain ⟨behind, first, rest⟩ := spells_cons.mp h
        obtain ⟨key, joint, value, rfl⟩ := first.eq_cons
        refine entries_succ.mpr ⟨entry, behind, later, first, (ih ?_).mpr rest, rfl⟩
        have hshorter := first.length_lt
        have hrest := length_dropComma_le behind
        omega

theorem ofAttribute_eq_ok {attr : Attribute} {part : ThemeAttributes} :
    ofAttribute attr = .ok part ↔
      ∃ content es, attr.arguments = .list content ∧ Spells content es ∧
        part = ThemeAttributes.ofEntries es := by
  rw [ofAttribute]
  constructor
  · intro h
    split at h
    · rename_i content harguments
      cases hread : entries (content.length + 1) content <;> rw [hread] at h <;> cases h
      exact ⟨content, _, harguments, (entries_eq_ok (Nat.lt_succ_self _)).mp hread, rfl⟩
    · cases h
  · rintro ⟨content, es, harguments, hspells, rfl⟩
    rw [harguments]
    change (entries (content.length + 1) content).map ThemeAttributes.ofEntries = _
    rw [(entries_eq_ok (Nat.lt_succ_self _)).mpr hspells]
    rfl

/-- Each attribute of a written item is read as what its entries say. -/
theorem Spelled.mapM_ofAttribute {attributes : List Attribute} {written : List (List ThemeEntry)}
    (h : Spelled attributes written) :
    (attributes.filter fun attr => attr.isNamed "theme").mapM ofAttribute =
      .ok (written.map ThemeAttributes.ofEntries) := by
  rw [Except.mapM_eq_ok, List.forall₂_map_right_iff]
  refine List.Forall₂.imp ?_ h
  rintro attr es ⟨content, harguments, hspells⟩
  exact ofAttribute_eq_ok.mpr ⟨content, es, harguments, hspells, rfl⟩

/-- What each member of a list has can be listed. -/
theorem exists_forall₂ {α β : Type} {R : α → β → Prop} {as : List α}
    (h : ∀ a ∈ as, ∃ b, R a b) : ∃ bs, List.Forall₂ R as bs := by
  induction as with
  | nil => exact ⟨[], .nil⟩
  | cons a rest ih =>
    obtain ⟨hfirst, hrest⟩ := List.forall_mem_cons.mp h
    obtain ⟨b, hb⟩ := hfirst
    obtain ⟨bs, hbs⟩ := ih hrest
    exact ⟨b :: bs, .cons hb hbs⟩

/-- **Attributes that can be read are the ones that are written as sequences of entries.** -/
theorem exists_spelled {attributes : List Attribute} : (∃ written, Spelled attributes written) ↔
    ∀ attr ∈ attributes, attr.isNamed "theme" = true → ∃ part, ofAttribute attr = .ok part := by
  constructor
  · rintro ⟨written, h⟩ attr hattr htheme
    obtain ⟨es, -, content, harguments, hspells⟩ :=
      exists_of_forall₂ h (List.mem_filter.mpr ⟨hattr, htheme⟩)
    exact ⟨_, ofAttribute_eq_ok.mpr ⟨content, es, harguments, hspells, rfl⟩⟩
  · intro hread
    refine exists_forall₂ fun attr hattr => ?_
    obtain ⟨hmem, htheme⟩ := List.mem_filter.mp hattr
    obtain ⟨part, hpart⟩ := hread attr hmem htheme
    obtain ⟨content, es, harguments, hspells, -⟩ := ofAttribute_eq_ok.mp hpart
    exact ⟨es, content, harguments, hspells⟩

/-! ## The last one says it -/

/-- The name that an entry sets. -/
def ThemeEntry.name? : ThemeEntry → Option String
  | .name text => some text
  | _ => none

/-- The enclosing modules that an entry sets. -/
def ThemeEntry.enclosing? : ThemeEntry → Option (List String)
  | .enclosing segments => some segments
  | _ => none

/-- The parent that an entry sets. -/
def ThemeEntry.extends? : ThemeEntry → Option (List Code)
  | .extends' path => some path
  | _ => none

/-- The field of the parent that an entry sets. -/
def ThemeEntry.via? : ThemeEntry → Option String
  | .via field => some field
  | _ => none

section Last

variable {α β γ : Type}

/-- What each step either sets or leaves, the last one that sets it has set. -/
theorem foldl_last (step : β → α → β) (get : β → Option γ) (say? : α → Option γ)
    (hstep : ∀ sofar a, get (step sofar a) = (say? a).or (get sofar)) (steps : List α)
    (start : β) :
    get (steps.foldl step start) = (steps.filterMap say?).getLast?.or (get start) := by
  induction steps generalizing start with
  | nil => rw [List.filterMap_nil, List.getLast?_nil, Option.none_or, List.foldl_nil]
  | cons a rest ih =>
    rw [List.foldl_cons, ih, hstep, ← Option.or_assoc, List.filterMap_cons]
    cases say? a with
    | none => rw [Option.or_none]
    | some c => rw [List.getLast?_cons]; cases (rest.filterMap say?).getLast? <;> rfl

/-- The last one of all is the last one of the last part that has any. -/
theorem getLast?_parts (say? : α → Option γ) (parts : List (List α)) :
    (parts.filterMap fun part => (part.filterMap say?).getLast?).getLast? =
      (parts.flatten.filterMap say?).getLast? := by
  induction parts with
  | nil => rfl
  | cons part rest ih =>
    rw [List.flatten_cons, List.filterMap_append, List.getLast?_append, ← ih, List.filterMap_cons]
    cases (part.filterMap say?).getLast? with
    | none => rw [Option.or_none]
    | some c => rw [List.getLast?_cons]; cases (rest.filterMap _).getLast? <;> rfl

end Last

/-- A member that a later attribute that has it replaces is what the last entry sets. -/
theorem get_merged {γ : Type} (get : ThemeAttributes → Option γ) (say? : ThemeEntry → Option γ)
    (hnone : get {} = none)
    (hset : ∀ sofar entry, get (sofar.set entry) = (say? entry).or (get sofar))
    (hmerge : ∀ sofar later, get (sofar.merge later) = (get later).or (get sofar))
    (written : List (List ThemeEntry)) :
    get ((written.map ThemeAttributes.ofEntries).foldl ThemeAttributes.merge {}) =
      (written.flatten.filterMap say?).getLast? := by
  have hpart (es : List ThemeEntry) :
      get (ThemeAttributes.ofEntries es) = (es.filterMap say?).getLast? := by
    rw [ThemeAttributes.ofEntries, foldl_last _ get say? hset, hnone, Option.or_none]
  rw [foldl_last _ get get hmerge, hnone, Option.or_none, List.filterMap_map, ← getLast?_parts]
  exact congrArg (fun part => (written.filterMap part).getLast?) (funext hpart)

/-- The enclosing modules are those of the last attribute whose own last entry has any. -/
theorem enclosing_merged (written : List (List ThemeEntry)) :
    ((written.map ThemeAttributes.ofEntries).foldl ThemeAttributes.merge {}).enclosing =
      (written.filterMap fun es => (es.filterMap ThemeEntry.enclosing?).getLast?.filter
        (!·.isEmpty)).getLast?.getD [] := by
  have hpart (es : List ThemeEntry) : some (ThemeAttributes.ofEntries es).enclosing =
      (es.filterMap ThemeEntry.enclosing?).getLast?.or (some []) :=
    foldl_last _ (fun attrs : ThemeAttributes => some attrs.enclosing) ThemeEntry.enclosing?
      (fun _ entry => by cases entry <;> rfl) es {}
  have hlast := foldl_last ThemeAttributes.merge
    (fun attrs : ThemeAttributes => some attrs.enclosing)
    (fun part : ThemeAttributes => (some part.enclosing).filter (!·.isEmpty))
    (fun _ later => by rw [ThemeAttributes.merge]; cases later.enclosing <;> rfl)
    (written.map ThemeAttributes.ofEntries) {}
  rw [List.filterMap_map] at hlast
  have hsay : ((fun part : ThemeAttributes => (some part.enclosing).filter (!·.isEmpty)) ∘
      ThemeAttributes.ofEntries) = fun es =>
        (es.filterMap ThemeEntry.enclosing?).getLast?.filter (!·.isEmpty) := by
    funext es
    rw [Function.comp_apply, hpart]
    cases (es.filterMap ThemeEntry.enclosing?).getLast? <;> rfl
  rw [hsay] at hlast
  refine Option.some.inj (hlast.trans ?_)
  cases (written.filterMap _).getLast? <;> rfl

/-! ## Entries may move between attributes -/

/-- An entry that is not empty may be set before or after merging. -/
theorem merge_set {entry : ThemeEntry} (h : entry ≠ .enclosing [])
    (sofar later : ThemeAttributes) :
    sofar.merge (later.set entry) = (sofar.merge later).set entry := by
  cases entry with
  | enclosing segments =>
    cases segments with
    | nil => exact absurd rfl h
    | cons => rfl
  | _ => rfl

/-- What the entries of an attribute say together is merged as if they were set one by one. -/
theorem merge_ofEntries {es : List ThemeEntry} (h : .enclosing [] ∉ es) (sofar : ThemeAttributes) :
    sofar.merge (ThemeAttributes.ofEntries es) = es.foldl ThemeAttributes.set sofar := by
  induction es using List.reverseRecOn with
  | nil => rfl
  | append_singleton es entry ih =>
    rw [List.mem_append, List.mem_singleton, not_or] at h
    rw [ThemeAttributes.ofEntries, List.foldl_concat, List.foldl_concat, merge_set (Ne.symm h.2),
      ← ih h.1, ThemeAttributes.ofEntries]

/-- **Without empty entries, attributes say what all their entries say in one attribute.** -/
theorem merged_eq_ofEntries {written : List (List ThemeEntry)}
    (h : .enclosing [] ∉ written.flatten) (sofar : ThemeAttributes) :
    (written.map ThemeAttributes.ofEntries).foldl ThemeAttributes.merge sofar =
      written.flatten.foldl ThemeAttributes.set sofar := by
  induction written generalizing sofar with
  | nil => rfl
  | cons es rest ih =>
    rw [List.flatten_cons, List.mem_append, not_or] at h
    rw [List.map_cons, List.foldl_cons, merge_ofEntries h.1, ih h.2, List.flatten_cons,
      List.foldl_append]

/-! ## All attributes -/

theorem Spelled.themeAttributes_eq {attributes : List Attribute}
    {written : List (List ThemeEntry)} (h : Spelled attributes written) :
    themeAttributes attributes =
      ((written.map ThemeAttributes.ofEntries).foldl ThemeAttributes.merge {}).check := by
  rw [themeAttributes, h.mapM_ofAttribute]
  rfl

theorem ThemeAttributes.eq_of_check {attrs checked : ThemeAttributes}
    (h : attrs.check = .ok checked) : attrs = checked := by
  rw [check] at h
  split at h <;> cases h
  rfl

/-- There is a last entry of a kind iff there is one. -/
theorem isSome_last_iff {γ : Type} {say? : ThemeEntry → Option γ}
    (kind : γ → ThemeEntry) (hsay : ∀ entry c, say? entry = some c ↔ kind c = entry)
    (es : List ThemeEntry) :
    (es.filterMap say?).getLast?.isSome = true ↔ ∃ c, kind c ∈ es := by
  rw [List.getLast?_isSome]
  constructor
  · intro hne
    obtain ⟨c, hc⟩ := List.exists_mem_of_ne_nil _ hne
    obtain ⟨entry, hentry, hsays⟩ := List.mem_filterMap.mp hc
    exact ⟨c, by rwa [(hsay entry c).mp hsays]⟩
  · rintro ⟨c, hc⟩
    exact List.ne_nil_of_mem (List.mem_filterMap.mpr ⟨_, hc, (hsay _ c).mpr rfl⟩)

/-- **What the theme attributes of an item say together.** They are accepted iff some entry names
the parent and some entry names the field that holds it, or none does either, in whichever
attributes these stand. The name, the parent and the field are those of the last entries of all;
the enclosing modules are those of the last attribute whose own last entry has any. If no entry has
none, other attributes with the same entries in the same order say the same. -/
theorem themeAttributes_of_spelled {attributes : List Attribute}
    {written : List (List ThemeEntry)} (h : Spelled attributes written) :
    ((∃ merged, themeAttributes attributes = .ok merged) ↔
      ((∃ path, .extends' path ∈ written.flatten) ↔ ∃ field, .via field ∈ written.flatten)) ∧
    (∀ merged, themeAttributes attributes = .ok merged →
      merged.name = (written.flatten.filterMap ThemeEntry.name?).getLast? ∧
      merged.extends' = (written.flatten.filterMap ThemeEntry.extends?).getLast? ∧
      merged.via = (written.flatten.filterMap ThemeEntry.via?).getLast? ∧
      merged.enclosing = (written.filterMap fun es =>
        (es.filterMap ThemeEntry.enclosing?).getLast?.filter (!·.isEmpty)).getLast?.getD []) ∧
    ∀ attributes' written', Spelled attributes' written' → written'.flatten = written.flatten →
      .enclosing [] ∉ written.flatten →
      themeAttributes attributes' = themeAttributes attributes := by
  have hname := get_merged ThemeAttributes.name ThemeEntry.name? rfl
    (fun _ entry => by cases entry <;> rfl) (fun _ _ => rfl) written
  have hextends := get_merged ThemeAttributes.extends' ThemeEntry.extends? rfl
    (fun _ entry => by cases entry <;> rfl) (fun _ _ => rfl) written
  have hvia := get_merged ThemeAttributes.via ThemeEntry.via? rfl
    (fun _ entry => by cases entry <;> rfl) (fun _ _ => rfl) written
  refine ⟨?_, fun merged hmerged => ?_, fun attributes' written' h' hsame hnonempty => ?_⟩
  · rw [h.themeAttributes_eq, ThemeAttributes.check_isOk, hextends, hvia,
      isSome_last_iff .extends' fun entry _ => by
        cases entry <;> simp [ThemeEntry.extends?, eq_comm],
      isSome_last_iff .via fun entry _ => by cases entry <;> simp [ThemeEntry.via?, eq_comm]]
  · rw [h.themeAttributes_eq] at hmerged
    rw [← ThemeAttributes.eq_of_check hmerged]
    exact ⟨hname, hextends, hvia, enclosing_merged written⟩
  · rw [h.themeAttributes_eq, h'.themeAttributes_eq, merged_eq_ofEntries (hsame ▸ hnonempty),
      merged_eq_ofEntries hnonempty, hsame]

/-- The parent comes first, the field that holds it in a later attribute, and commas stand behind
some of the entries. -/
theorem themeAttributes_apart :
    let attributes : List Attribute := [
      { path := ["theme"], arguments := .list [
          .word "name", .punct '=' false, .literal "\"First\"",
          .word "enclosing", .punct '=' false, .literal "\"ui..dark.\"",
          .word "extends", .punct '=' false, .word "crate", .punct ':' true, .punct ':' false,
          .word "Base"] },
      { path := ["doc"], arguments := .value },
      { path := ["theme"], arguments := .list [
          .word "enclosing", .punct '=' false, .literal "\".\"", .punct ',' false,
          .word "via", .punct '=' false, .word "parent",
          .word "name", .punct '=' false, .literal "\"Last\"", .punct ',' false] }]
    ∃ merged, themeAttributes attributes = .ok merged ∧ merged.name = some "Last" ∧
      merged.enclosing = ["ui", "dark"] ∧
      merged.extends' = some [.word "crate", .word "::", .word "Base"] ∧
      merged.via = some "parent" := by
  intro attributes
  have hspelled : Spelled attributes [
      [.name "First", .enclosing ["ui", "dark"],
        .extends' [.word "crate", .word "::", .word "Base"]],
      [.enclosing [], .via "parent", .name "Last"]] := by
    have hfirst : Syntax.stringValue? "\"First\"" = some "First" := by decide
    have hlast : Syntax.stringValue? "\"Last\"" = some "Last" := by decide
    have hmodules : Syntax.stringValue? "\"ui..dark.\"" = some "ui..dark." := by decide
    have hnowhere : Syntax.stringValue? "\".\"" = some "." := by decide
    have hpath := @takesPath_words [] ⟨rfl, rfl⟩ "crate" ["Base"] (.inl (by decide))
      (by simpa using .inr (by decide))
    refine .cons ⟨_, rfl, ?_⟩ (.cons ⟨_, rfl, ?_⟩ .nil)
    · exact .bare (.name hfirst) (.bare (.enclosing hmodules) (.bare (.extends' hpath) .none))
    · exact .comma (.enclosing hnowhere) (.bare (.via (by decide)) (.comma (.name hlast) .none))
  obtain ⟨hok, hmembers, -⟩ := themeAttributes_of_spelled hspelled
  obtain ⟨merged, hmerged⟩ := hok.mpr ⟨fun _ => ⟨"parent", by simp⟩,
    fun _ => ⟨[.word "crate", .word "::", .word "Base"], by simp⟩⟩
  obtain ⟨hname, hextends, hvia, henclosing⟩ := hmembers merged hmerged
  exact ⟨merged, hmerged, hname, henclosing, hextends, hvia⟩

end Derive
end Theming
