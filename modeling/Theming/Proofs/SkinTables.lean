/-
# Tables of a skin file

A key of a table denotes the number of its digits. They may have leading zeros, one `+` in front,
and white space around, so that many keys denote one id.

| keys of a file | what is read |
| --- | --- |
| one of the colors denotes nothing | an error with the first such key |
| one of the drawables does, and none of the colors | an error with the first such key |
| all denote ids | under each id the value of the last key that denotes it |

First and last are meant in the order of bytes, in which a key is compared as it is written. So
neither the order of the keys in the file nor the keys of other ids make a difference
(`ofToml_tabulates`).
-/

import Mathlib.Data.List.Perm.Basic
import Mathlib.Data.Prod.Basic
import Theming.Proofs.Bytewise
import Theming.Proofs.Checks
import Theming.Proofs.Numerals
import Theming.Proofs.Tables
import Theming.Skin

namespace Theming
namespace Skin

/-! ## Keys -/

/-- A key of an id: its digits, and what stands around them. -/
structure Spells (key : String) (id : ResourceId) (before sign digits after : List Char) :
    Prop where
  text : key.toList = before ++ (sign ++ digits) ++ after
  blankBefore : ∀ c ∈ before, Text.isBlank c = true
  isSign : sign = [] ∨ sign = ['+']
  nonempty : digits ≠ []
  isDigit : ∀ c ∈ digits, c.isDigit = true
  value : Nat.ofDigitChars 10 digits 0 = id.toNat
  blankAfter : ∀ c ∈ after, Text.isBlank c = true

/-- A key denotes an id. -/
def Denotes (key : String) (id : ResourceId) : Prop :=
  ∃ before sign digits after, Spells key id before sign digits after

/-- A key that denotes nothing. -/
def Idle (key : String) : Prop := ∀ id, ¬ Denotes key id

theorem Spells.trim {key : String} {id : ResourceId} {before sign digits after : List Char}
    (h : Spells key id before sign digits after) : Text.trim key.toList = sign ++ digits := by
  have hne : sign ++ digits ≠ [] := List.append_ne_nil_of_right_ne_nil _ h.nonempty
  rw [h.text]
  refine Text.trim_eq h.blankBefore h.blankAfter hne fun c hc => ?_
  rcases List.mem_append.mp hc with hc | hc
  · rcases h.isSign with rfl | rfl
    · cases hc
    · exact List.mem_singleton.mp hc ▸ rfl
  · exact Text.isBlank_of_isDigit (h.isDigit c hc)

theorem word?_trim_eq_some_iff {key : String} {id : ResourceId} :
    Text.word? 10 (Text.trim key.toList) = some id ↔ Denotes key id := by
  rw [Text.word?_ten_eq_some_iff]
  constructor
  · rintro ⟨sign, digits, htrim, hsign, hne, hdigits, hvalue⟩
    obtain ⟨before, after, hbefore, hafter, htext⟩ := Text.exists_trim key.toList
    rw [htrim] at htext
    exact ⟨before, sign, digits, after, htext, hbefore, hsign, hne, hdigits, hvalue, hafter⟩
  · rintro ⟨before, sign, digits, after, h⟩
    exact ⟨sign, digits, h.trim, h.isSign, h.nonempty, h.isDigit, h.value⟩

/-- **The id of a key is the one that it denotes.** -/
theorem resourceId_eq_ok_iff {key : String} {id : ResourceId} :
    resourceId key = .ok id ↔ Denotes key id := by
  rw [resourceId, ← word?_trim_eq_some_iff]
  cases Text.word? 10 (Text.trim key.toList) with
  | none => simp
  | some found => simp

theorem resourceId_eq_error_iff {key : String} {e : SkinError} :
    resourceId key = .error e ↔ Idle key ∧ e = .invalidResourceId key := by
  simp only [Idle, ← word?_trim_eq_some_iff]
  rw [resourceId]
  cases Text.word? 10 (Text.trim key.toList) with
  | none => simp [eq_comm]
  | some found => simp

/-- A key denotes one id. -/
theorem Denotes.unique {key : String} {id id' : ResourceId} (h : Denotes key id)
    (h' : Denotes key id') : id = id' :=
  Except.ok.inj ((resourceId_eq_ok_iff.mpr h).symm.trans (resourceId_eq_ok_iff.mpr h'))

/-! ## Entries in the order of their keys -/

section Table

variable {α : Type} {entries entries' : List (String × α)} {id : ResourceId} {key : String}
  {value : α}

theorem mem_sortedByKey {entry : String × α} : entry ∈ sortedByKey entries ↔ entry ∈ entries :=
  List.mem_mergeSort

theorem pairwise_sortedByKey (entries : List (String × α)) :
    (sortedByKey entries).Pairwise fun a b => a.1 ≤ b.1 :=
  Text.pairwise_mergeSort Prod.fst entries

theorem sortedByKey_congr (hkeys : (entries.map Prod.fst).Nodup) (h : entries'.Perm entries) :
    sortedByKey entries' = sortedByKey entries :=
  Text.mergeSort_congr Prod.fst h fun _ ha _ hb => List.inj_on_of_nodup_map hkeys ha hb

/-! ## The table of a file -/

theorem lookup_insert (id a : ResourceId) (value : α) (table : ResourceTable α) :
    (table.insert id value).lookup a = if a = id then some value else table.lookup a := by
  induction table with
  | nil => rw [ResourceTable.insert, lookup_cons_ite]
  | cons entry rest ih =>
    obtain ⟨key, old⟩ := entry
    rw [ResourceTable.insert]
    by_cases hlt : id < key
    · rw [if_pos hlt, lookup_cons_ite]
    · rw [if_neg hlt, lookup_cons_ite key]
      by_cases heq : id = key
      · rw [if_pos heq, lookup_cons_ite, ← heq]
        split_ifs <;> rfl
      · rw [if_neg heq, lookup_cons_ite, ih]
        split_ifs with hkey hid
        · exact absurd (hid.symm.trans hkey) heq
        · rfl
        · rfl
        · rfl

/-- Enters a value under the id of its key. -/
def enter (table : ResourceTable α) (entry : String × α) : Except SkinError (ResourceTable α) :=
  (resourceId entry.1).map fun id => table.insert id entry.2

theorem tableOf_eq (entries : List (String × α)) :
    tableOf entries = (sortedByKey entries).foldlM enter [] := by
  have henter : (fun (table : ResourceTable α) (entry : String × α) => do
      let id ← resourceId entry.1
      return table.insert id entry.2) = enter := by
    funext table entry
    rw [enter]
    cases resourceId entry.1 <;> rfl
  rw [tableOf, henter]

theorem enter_eq_ok {table table' : ResourceTable α} {entry : String × α}
    (h : enter table entry = .ok table') :
    ∃ id, Denotes entry.1 id ∧ table' = table.insert id entry.2 := by
  rw [enter] at h
  cases hid : resourceId entry.1 with
  | error e =>
    rw [hid] at h
    cases h
  | ok id =>
    rw [hid] at h
    exact ⟨id, resourceId_eq_ok_iff.mp hid, (Except.ok.inj h).symm⟩

theorem enter_eq_error {table : ResourceTable α} {entry : String × α} {e : SkinError}
    (h : enter table entry = .error e) : Idle entry.1 ∧ e = .invalidResourceId entry.1 := by
  rw [enter] at h
  cases hid : resourceId entry.1 with
  | error e' =>
    rw [hid] at h
    exact Except.error.inj h ▸ resourceId_eq_error_iff.mp hid
  | ok id =>
    rw [hid] at h
    cases h

/-- If all is entered, every key denotes an id, and an id that none denotes keeps its value. -/
theorem foldlM_enter_eq_ok {table table' : ResourceTable α}
    (h : entries.foldlM enter table = .ok table') :
    (∀ entry ∈ entries, ∃ id, Denotes entry.1 id) ∧
      ∀ id, (∀ entry ∈ entries, ¬ Denotes entry.1 id) → table'.lookup id = table.lookup id := by
  induction entries generalizing table with
  | nil =>
    obtain rfl := Except.ok.inj h
    exact ⟨List.forall_mem_nil _, fun _ _ => rfl⟩
  | cons entry rest ih =>
    rw [List.foldlM_cons] at h
    obtain ⟨next, hnext, hrest⟩ := Except.bind_eq_ok h
    obtain ⟨id, hid, rfl⟩ := enter_eq_ok hnext
    obtain ⟨hdenote, hkeep⟩ := ih hrest
    refine ⟨List.forall_mem_cons.mpr ⟨⟨id, hid⟩, hdenote⟩, fun a ha => ?_⟩
    obtain ⟨hentry, hnone⟩ := List.forall_mem_cons.mp ha
    have hne : a ≠ id := by
      rintro rfl
      exact hentry hid
    rw [hkeep a hnone, lookup_insert, if_neg hne]

/-- **The last value entered under an id stays.** -/
theorem lookup_foldlM_enter {table table' : ResourceTable α} {before after : List (String × α)}
    {entry : String × α} (h : (before ++ entry :: after).foldlM enter table = .ok table')
    (hentry : Denotes entry.1 id) (hafter : ∀ e ∈ after, ¬ Denotes e.1 id) :
    table'.lookup id = some entry.2 := by
  rw [List.foldlM_append] at h
  obtain ⟨mid, -, h⟩ := Except.bind_eq_ok h
  rw [List.foldlM_cons] at h
  obtain ⟨next, hnext, hrest⟩ := Except.bind_eq_ok h
  obtain ⟨id', hid', rfl⟩ := enter_eq_ok hnext
  rw [(foldlM_enter_eq_ok hrest).2 id hafter, lookup_insert, if_pos (hentry.unique hid')]

/-- The first key that denotes nothing is the fault. -/
theorem foldlM_enter_eq_error {table : ResourceTable α} {e : SkinError}
    (h : entries.foldlM enter table = .error e) :
    ∃ before entry after, entries = before ++ entry :: after ∧ (∀ x ∈ before, ¬ Idle x.1) ∧
      Idle entry.1 ∧ e = .invalidResourceId entry.1 := by
  induction entries generalizing table with
  | nil => cases h
  | cons entry rest ih =>
    rw [List.foldlM_cons] at h
    rcases Except.bind_eq_error.mp h with hfault | ⟨next, hnext, hrest⟩
    · exact ⟨[], entry, rest, rfl, List.forall_mem_nil _, enter_eq_error hfault⟩
    · obtain ⟨id, hid, rfl⟩ := enter_eq_ok hnext
      obtain ⟨before, x, after, rfl, hbefore, hx⟩ := ih hrest
      exact ⟨entry :: before, x, after, rfl,
        List.forall_mem_cons.mpr ⟨fun hidle => hidle id hid, hbefore⟩, hx⟩

/-! ## In the order of bytes -/

/-- The first key that denotes nothing. -/
def FirstIdle (entries : List (String × α)) (key : String) : Prop :=
  key ∈ entries.map Prod.fst ∧ Idle key ∧
    ∀ k ∈ entries.map Prod.fst, Idle k → Text.bytes key ≤ Text.bytes k

/-- The entry with the last key of those that denote an id. -/
def Prevails (entries : List (String × α)) (id : ResourceId) (key : String) (value : α) : Prop :=
  (key, value) ∈ entries ∧ Denotes key id ∧
    ∀ entry ∈ entries, Denotes entry.1 id → Text.bytes entry.1 ≤ Text.bytes key

/-- The values of ids are those of the entries. -/
structure Tabulates (entries : List (String × α)) (find : ResourceId → Option α) : Prop where
  value : ∀ id v, find id = some v ↔ ∃ key, Prevails entries id key v
  missing : ∀ id, find id = none ↔ ∀ entry ∈ entries, ¬ Denotes entry.1 id

theorem FirstIdle.unique {key' : String} (h : FirstIdle entries key)
    (h' : FirstIdle entries key') : key = key' :=
  le_antisymm (Text.le_iff_bytes.mpr (h.2.2 key' h'.1 h'.2.1))
    (Text.le_iff_bytes.mpr (h'.2.2 key h.1 h.2.1))

/-- In front of an entry all keys are as small, and behind it as great. -/
theorem le_of_sortedByKey {before after : List (String × α)} {entry : String × α}
    (h : sortedByKey entries = before ++ entry :: after) :
    (∀ x ∈ before, x.1 ≤ entry.1) ∧ ∀ x ∈ after, entry.1 ≤ x.1 := by
  have hsorted := h ▸ pairwise_sortedByKey entries
  obtain ⟨-, hrest, hbefore⟩ := List.pairwise_append.mp hsorted
  exact ⟨fun x hx => hbefore x hx entry List.mem_cons_self, (List.pairwise_cons.mp hrest).1⟩

theorem firstIdle_of_tableOf {e : SkinError} (h : tableOf entries = .error e) :
    ∃ key, FirstIdle entries key ∧ e = .invalidResourceId key := by
  rw [tableOf_eq] at h
  obtain ⟨before, entry, after, hsplit, hbefore, hidle, rfl⟩ := foldlM_enter_eq_error h
  have hmem : entry ∈ entries := mem_sortedByKey.mp (by simp [hsplit])
  refine ⟨entry.1, ⟨List.mem_map_of_mem hmem, hidle, fun k hk hkidle => ?_⟩, rfl⟩
  obtain ⟨x, hx, rfl⟩ := List.mem_map.mp hk
  rw [← mem_sortedByKey, hsplit] at hx
  rcases List.mem_append.mp hx with hx | hx
  · exact absurd hkidle (hbefore x hx)
  · rcases List.mem_cons.mp hx with rfl | hx
    · exact List.le_refl _
    · exact Text.le_iff_bytes.mp ((le_of_sortedByKey hsplit).2 x hx)

theorem exists_tableOf_iff :
    (∃ table, tableOf entries = .ok table) ↔ ∀ key ∈ entries.map Prod.fst, ¬ Idle key := by
  constructor
  · rintro ⟨table, htable⟩ key hkey hidle
    obtain ⟨entry, hentry, rfl⟩ := List.mem_map.mp hkey
    rw [tableOf_eq] at htable
    obtain ⟨id, hid⟩ := (foldlM_enter_eq_ok htable).1 entry (mem_sortedByKey.mpr hentry)
    exact hidle id hid
  · intro h
    cases htable : tableOf entries with
    | ok table => exact ⟨table, rfl⟩
    | error e =>
      obtain ⟨key, hfirst, -⟩ := firstIdle_of_tableOf htable
      exact absurd hfirst.2.1 (h key hfirst.1)

/-- **A table is refused for the first key that denotes nothing.** -/
theorem tableOf_eq_error_iff {e : SkinError} :
    tableOf entries = .error e ↔ ∃ key, FirstIdle entries key ∧ e = .invalidResourceId key := by
  refine ⟨firstIdle_of_tableOf, ?_⟩
  rintro ⟨key, hfirst, rfl⟩
  cases htable : tableOf entries with
  | error e =>
    obtain ⟨key', hfirst', rfl⟩ := firstIdle_of_tableOf htable
    rw [hfirst.unique hfirst']
  | ok table => exact absurd hfirst.2.1 (exists_tableOf_iff.mp ⟨table, htable⟩ key hfirst.1)

/-- **Under each id stands the value of the last key that denotes it.** -/
theorem tabulates_of_tableOf (hkeys : (entries.map Prod.fst).Nodup) {table : ResourceTable α}
    (h : tableOf entries = .ok table) : Tabulates entries fun id => table.lookup id := by
  rw [tableOf_eq] at h
  have hnone : ∀ id, (∀ entry ∈ entries, ¬ Denotes entry.1 id) → table.lookup id = none :=
    fun id hid => (foldlM_enter_eq_ok h).2 id fun entry hentry =>
      hid entry (mem_sortedByKey.mp hentry)
  have hsome : ∀ id, (∃ entry ∈ entries, Denotes entry.1 id) →
      ∃ key value, Prevails entries id key value ∧ table.lookup id = some value := by
    rintro id ⟨entry, hentry, hdenotes⟩
    obtain ⟨before, ⟨key, value⟩, after, hsplit, hkey, hafter⟩ := exists_last_of_mem
      (p := fun e => Denotes e.1 id) ⟨entry, mem_sortedByKey.mpr hentry, hdenotes⟩
    have hmem : (key, value) ∈ entries := mem_sortedByKey.mp (by simp [hsplit])
    refine ⟨key, value, ⟨hmem, hkey, fun x hx hxid => ?_⟩, ?_⟩
    · rw [← mem_sortedByKey, hsplit] at hx
      rcases List.mem_append.mp hx with hx | hx
      · exact Text.le_iff_bytes.mp ((le_of_sortedByKey hsplit).1 x hx)
      · rcases List.mem_cons.mp hx with rfl | hx
        · exact List.le_refl _
        · exact absurd hxid (hafter x hx)
    · rw [hsplit] at h
      exact lookup_foldlM_enter h hkey hafter
  constructor
  · intro id v
    constructor
    · intro hv
      by_cases hany : ∃ entry ∈ entries, Denotes entry.1 id
      · obtain ⟨key, value, hprevails, hvalue⟩ := hsome id hany
        obtain rfl := Option.some.inj (hvalue.symm.trans hv)
        exact ⟨key, hprevails⟩
      · have hnothing := hnone id fun entry hentry hid => hany ⟨entry, hentry, hid⟩
        cases hnothing.symm.trans hv
    · rintro ⟨key, hprevails⟩
      obtain ⟨key', value, hprevails', hvalue⟩ := hsome id ⟨_, hprevails.1, hprevails.2.1⟩
      have hsame : key' = key := le_antisymm
        (Text.le_iff_bytes.mpr (hprevails.2.2 _ hprevails'.1 hprevails'.2.1))
        (Text.le_iff_bytes.mpr (hprevails'.2.2 _ hprevails.1 hprevails.2.1))
      have hentry := List.inj_on_of_nodup_map hkeys hprevails'.1 hprevails.1 hsame
      rw [hvalue, (Prod.mk.inj hentry).2]
  · intro id
    refine ⟨fun hid entry hentry hdenotes => ?_, hnone id⟩
    obtain ⟨-, value, -, hvalue⟩ := hsome id ⟨entry, hentry, hdenotes⟩
    cases hid.symm.trans hvalue

/-- **The order of entries makes no difference.** -/
theorem tableOf_congr (hkeys' : (entries'.map Prod.fst).Nodup)
    (hkeys : (entries.map Prod.fst).Nodup)
    (h : ∀ entry, entry ∈ entries' ↔ entry ∈ entries) : tableOf entries' = tableOf entries := by
  have hperm := (List.perm_ext_iff_of_nodup hkeys'.of_map hkeys.of_map).mpr h
  rw [tableOf_eq, tableOf_eq, sortedByKey_congr hkeys hperm]

/-- **A value depends on the entries of its id**, and on no other entry. -/
theorem Tabulates.congr {find find' : ResourceId → Option α} (h : Tabulates entries find)
    (h' : Tabulates entries' find')
    (hsame : ∀ entry, Denotes entry.1 id → (entry ∈ entries' ↔ entry ∈ entries)) :
    find' id = find id := by
  have hprevails : ∀ key v, Prevails entries' id key v ↔ Prevails entries id key v := by
    intro key v
    constructor
    · rintro ⟨hmem, hkey, hlast⟩
      exact ⟨(hsame _ hkey).mp hmem, hkey, fun e he hid => hlast e ((hsame e hid).mpr he) hid⟩
    · rintro ⟨hmem, hkey, hlast⟩
      exact ⟨(hsame _ hkey).mpr hmem, hkey, fun e he hid => hlast e ((hsame e hid).mp he) hid⟩
  refine Option.ext fun v => ?_
  rw [h'.value, h.value]
  exact exists_congr fun key => hprevails key v

end Table

/-! ## Files -/

namespace File

/-- Entries keep the keys of the members they are read from. -/
theorem entries?_keys {α : Type} {read : Data → Option α} {members : List (String × Data)}
    {entries : List (String × α)} (h : entries? read (.record members) = some entries) :
    entries.map Prod.fst = members.map Prod.fst := by
  rw [entries?] at h
  induction members generalizing entries with
  | nil =>
    obtain rfl := Option.some.inj h
    rfl
  | cons member rest ih =>
    rw [List.mapM_cons] at h
    obtain ⟨entry, hentry, h⟩ := Option.bind_eq_some_iff.mp h
    obtain ⟨others, hothers, h⟩ := Option.bind_eq_some_iff.mp h
    obtain ⟨value, -, rfl⟩ := Option.map_eq_some_iff.mp hentry
    obtain rfl := Option.some.inj h
    rw [List.map_cons, List.map_cons, ih hothers]

theorem entries?_nodup {α : Type} {read : Data → Option α} {d : Data}
    {entries : List (String × α)} (hd : d.Distinct) (h : entries? read d = some entries) :
    (entries.map Prod.fst).Nodup := by
  cases hd with
  | record keys _ => exact entries?_keys h ▸ keys
  | _ => cases h

theorem table?_nodup {α : Type} {read : Data → Option α} {name : String}
    {members : List (String × Data)} {entries : List (String × α)}
    (hmembers : ∀ m ∈ members, m.2.Distinct) (h : table? read name members = some entries) :
    (entries.map Prod.fst).Nodup := by
  rw [table?] at h
  split at h
  · obtain rfl := Option.some.inj h
    exact List.nodup_nil
  · rename_i d hd
    have hmem : d ∈ Data.membersOf name members := hd ▸ List.mem_singleton_self d
    obtain ⟨m, hm, rfl⟩ := List.mem_map.mp hmem
    exact entries?_nodup (hmembers m (List.mem_filter.mp hm).1) h
  · cases h

/-- The tables of a file are maps if those of the document are. -/
theorem ofData?_nodup {d : Data} {file : File} (hd : d.Distinct) (h : ofData? d = some file) :
    (file.colors.map Prod.fst).Nodup ∧ (file.drawables.map Prod.fst).Nodup := by
  cases hd with
  | @record members keys hmembers =>
    obtain ⟨nameData, -, h⟩ := Option.bind_eq_some_iff.mp h
    obtain ⟨name, -, h⟩ := Option.bind_eq_some_iff.mp h
    obtain ⟨colors, hcolors, h⟩ := Option.bind_eq_some_iff.mp h
    obtain ⟨drawables, hdrawables, h⟩ := Option.bind_eq_some_iff.mp h
    obtain rfl := Option.some.inj h
    exact ⟨table?_nodup hmembers hcolors, table?_nodup hmembers hdrawables⟩
  | _ => cases h

/-- Everything of a skin file is read from a text but the ids. -/
def ofToml? (text : String) : Option File := (Toml.parse? text).bind ofData?

theorem ofToml?_nodup {text : String} {file : File} (h : ofToml? text = some file) :
    (file.colors.map Prod.fst).Nodup ∧ (file.drawables.map Prod.fst).Nodup := by
  obtain ⟨d, hd, hfile⟩ := Option.bind_eq_some_iff.mp h
  exact ofData?_nodup (Toml.parse?_distinct hd) hfile

end File

theorem ofToml_eq {text : String} {file : File} (h : File.ofToml? text = some file) :
    ofToml text = ofFile file := by
  rw [ofToml, ← File.ofToml?, h]

theorem ofFile_eq_ok {file : File} {skin : Skin} (h : ofFile file = .ok skin) :
    skin.name = file.name ∧ tableOf file.colors = .ok skin.colors ∧
      tableOf file.drawables = .ok skin.drawables := by
  obtain ⟨colors, hcolors, h⟩ := Except.bind_eq_ok h
  obtain ⟨drawables, hdrawables, h⟩ := Except.bind_eq_ok h
  obtain rfl := Except.ok.inj h
  exact ⟨rfl, hcolors, hdrawables⟩

/-- Keys of colors are looked at before those of drawables. -/
theorem ofFile_eq_error_iff {file : File} {e : SkinError} :
    ofFile file = .error e ↔ ∃ key, e = .invalidResourceId key ∧ (FirstIdle file.colors key ∨
      (∀ k ∈ file.colors.map Prod.fst, ¬ Idle k) ∧ FirstIdle file.drawables key) := by
  have hlast : ∀ colors, ((do
      let drawables ← tableOf file.drawables
      return { name := file.name, colors, drawables }) : Except SkinError Skin) = .error e ↔
        tableOf file.drawables = .error e := by
    intro colors
    rw [Except.bind_eq_error]
    refine or_iff_left ?_
    rintro ⟨drawables, -, h⟩
    cases h
  rw [ofFile, Except.bind_eq_error, tableOf_eq_error_iff, ← exists_tableOf_iff]
  simp only [hlast, tableOf_eq_error_iff]
  constructor
  · rintro (⟨key, hfirst, rfl⟩ | ⟨table, htable, key, hfirst, rfl⟩)
    · exact ⟨key, rfl, .inl hfirst⟩
    · exact ⟨key, rfl, .inr ⟨⟨table, htable⟩, hfirst⟩⟩
  · rintro ⟨key, rfl, hfirst | ⟨⟨table, htable⟩, hfirst⟩⟩
    · exact .inl ⟨key, hfirst, rfl⟩
    · exact .inr ⟨table, htable, key, hfirst, rfl⟩

theorem reads_of_ofToml {text : String} {file : File} (h : File.ofToml? text = some file)
    {skin : Skin} (hskin : ofToml text = .ok skin) : skin.name = file.name ∧
      Tabulates file.colors skin.color? ∧ Tabulates file.drawables skin.drawable? := by
  obtain ⟨hkeys, hkeys'⟩ := File.ofToml?_nodup h
  rw [ofToml_eq h] at hskin
  obtain ⟨hname, hcolors, hdrawables⟩ := ofFile_eq_ok hskin
  exact ⟨hname, tabulates_of_tableOf hkeys hcolors, tabulates_of_tableOf hkeys' hdrawables⟩

/-- How the skin of a text comes from the values of its file. -/
structure Tabulated (text : String) (file : File) : Prop where
  /-- A key that denotes nothing is refused, and nothing else is. -/
  refuses : (∃ e, ofToml text = .error e) ↔
    ∃ key ∈ file.colors.map Prod.fst ++ file.drawables.map Prod.fst, Idle key
  /-- The fault is the first such key, the colors standing before the drawables. -/
  faults : ∀ e, ofToml text = .error e ↔ ∃ key, e = .invalidResourceId key ∧
    (FirstIdle file.colors key ∨
      (∀ k ∈ file.colors.map Prod.fst, ¬ Idle k) ∧ FirstIdle file.drawables key)
  reads : ∀ skin, ofToml text = .ok skin → skin.name = file.name ∧
    Tabulates file.colors skin.color? ∧ Tabulates file.drawables skin.drawable?
  /-- Any file with the same name and the same maps, in whatever order, gives the same. -/
  unordered : ∀ text' file', File.ofToml? text' = some file' → file'.name = file.name →
    (∀ entry, entry ∈ file'.colors ↔ entry ∈ file.colors) →
    (∀ entry, entry ∈ file'.drawables ↔ entry ∈ file.drawables) → ofToml text' = ofToml text
  /-- What other files enter under other ids makes no difference. -/
  apart : ∀ text' file' skin skin', File.ofToml? text' = some file' → ofToml text = .ok skin →
    ofToml text' = .ok skin' → ∀ id,
    ((∀ entry, Denotes entry.1 id → (entry ∈ file'.colors ↔ entry ∈ file.colors)) →
      skin'.color? id = skin.color? id) ∧
    ((∀ entry, Denotes entry.1 id → (entry ∈ file'.drawables ↔ entry ∈ file.drawables)) →
      skin'.drawable? id = skin.drawable? id)

/-- **The tables of a skin file.** A file whose values can be read is a skin iff all keys denote
ids, and else the first key that does not is the fault. Under an id stands the value of the last key
that denotes it, and nothing if there is none. It does not matter how the file is ordered, nor what
it has under other ids. -/
theorem ofToml_tabulates {text : String} {file : File} (h : File.ofToml? text = some file) :
    Tabulated text file where
  refuses := by
    rw [ofToml_eq h]
    constructor
    · rintro ⟨e, he⟩
      obtain ⟨key, -, hfirst | ⟨-, hfirst⟩⟩ := ofFile_eq_error_iff.mp he
      · exact ⟨key, List.mem_append_left _ hfirst.1, hfirst.2.1⟩
      · exact ⟨key, List.mem_append_right _ hfirst.1, hfirst.2.1⟩
    · rintro ⟨key, hkey, hidle⟩
      cases hfile : ofFile file with
      | error e => exact ⟨e, rfl⟩
      | ok skin =>
        obtain ⟨-, hcolors, hdrawables⟩ := ofFile_eq_ok hfile
        rcases List.mem_append.mp hkey with hkey | hkey
        · exact absurd hidle (exists_tableOf_iff.mp ⟨_, hcolors⟩ key hkey)
        · exact absurd hidle (exists_tableOf_iff.mp ⟨_, hdrawables⟩ key hkey)
  faults e := by
    rw [ofToml_eq h]
    exact ofFile_eq_error_iff
  reads skin hskin := reads_of_ofToml h hskin
  unordered text' file' h' hname hcolors hdrawables := by
    obtain ⟨hkeys, hkeys'⟩ := File.ofToml?_nodup h
    obtain ⟨hothers, hothers'⟩ := File.ofToml?_nodup h'
    rw [ofToml_eq h, ofToml_eq h', ofFile, ofFile, hname, tableOf_congr hothers hkeys hcolors,
      tableOf_congr hothers' hkeys' hdrawables]
  apart text' file' skin skin' h' hskin hskin' id := by
    obtain ⟨-, hcolors, hdrawables⟩ := reads_of_ofToml h hskin
    obtain ⟨-, hcolors', hdrawables'⟩ := reads_of_ofToml h' hskin'
    exact ⟨hcolors.congr hcolors', hdrawables.congr hdrawables'⟩

/-- A file with three keys of one id. -/
def nightText : String :=
  "name = \"night\"\n" ++
    "[colors]\n7 = \"#FF202020\"\n\"+07\" = \"#FFFFFFFF\"\n\" 7\" = \"#FF000000\"\n"

/-- The last of its keys is the one without anything around the digit. -/
theorem night_tabulated : ∃ file skin, File.ofToml? nightText = some file ∧
    ofToml nightText = .ok skin ∧ skin.color? 7 = some ⟨0xFF202020⟩ ∧ skin.color? 8 = none ∧
    Tabulated nightText file := by
  have hread : (File.ofToml? nightText).map (fun file => (file.colors, file.drawables)) =
      some ([("7", ⟨0xFF202020⟩), ("+07", ⟨0xFFFFFFFF⟩), (" 7", ⟨0xFF000000⟩)], []) := by
    decide +kernel
  obtain ⟨file, hfile, hvalues⟩ := Option.map_eq_some_iff.mp hread
  obtain ⟨hcolors, hdrawables⟩ := Prod.mk.inj hvalues
  have hseven : ∀ entry ∈ file.colors, Denotes entry.1 7 := by
    rw [hcolors]
    simp only [← word?_trim_eq_some_iff]
    decide
  have htable := ofToml_tabulates hfile
  obtain ⟨skin, hskin⟩ : ∃ skin, ofToml nightText = .ok skin := by
    cases hskin : ofToml nightText with
    | ok skin => exact ⟨skin, rfl⟩
    | error e =>
      obtain ⟨key, hkey, hidle⟩ := htable.refuses.mp ⟨e, hskin⟩
      rw [hdrawables, List.map_nil, List.append_nil] at hkey
      obtain ⟨entry, hentry, rfl⟩ := List.mem_map.mp hkey
      exact absurd (hseven entry hentry) (hidle 7)
  obtain ⟨-, hshown, -⟩ := htable.reads skin hskin
  have hlast : Prevails file.colors 7 "7" ⟨0xFF202020⟩ := by
    refine ⟨hcolors ▸ List.mem_cons_self, hseven _ (hcolors ▸ List.mem_cons_self), ?_⟩
    intro entry hentry _
    rw [hcolors] at hentry
    have hall : ∀ key ∈ ["7", "+07", " 7"], key ≤ "7" := by decide
    exact Text.le_iff_bytes.mp (hall _ (List.mem_map_of_mem hentry))
  refine ⟨file, skin, hfile, hskin, (hshown.value 7 _).mpr ⟨"7", hlast⟩, ?_, htable⟩
  refine (hshown.missing 8).mpr fun entry hentry height => ?_
  exact absurd ((hseven entry hentry).unique height) (by decide)

end Skin
end Theming
