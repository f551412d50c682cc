/-
# Tables of a document have one value a key

A document is refused where it names a key of a table once more. So in what is read of it every
table has distinct keys, at any depth (`parse?_distinct`): whatever is done to a table while the
document is read, putting a value under a key or opening another table, keeps them distinct.
-/

import Theming.Data.Toml
import Theming.Proofs.Association
import Mathlib.Tactic.SplitIfs

namespace Theming

/-- Every record inside of a value has one member a key. -/
inductive Data.Distinct : Data → Prop where
  | null : Distinct .null
  | bool (b : Bool) : Distinct (.bool b)
  | integer (n : Int) : Distinct (.integer n)
  | text (s : String) : Distinct (.text s)
  | other : Distinct .other
  | list {items : List Data} (h : ∀ d ∈ items, Distinct d) : Distinct (.list items)
  | record {members : List (String × Data)} (keys : (members.map Prod.fst).Nodup)
    (h : ∀ m ∈ members, Distinct m.2) : Distinct (.record members)

namespace Toml

/-- Every table inside of an item has one entry a key. -/
inductive Item.Distinct : Item → Prop where
  | leaf {d : Data} (h : d.Distinct) : Distinct (.leaf d)
  | table {kind : TableKind} {entries : List (String × Item)} (keys : (entries.map Prod.fst).Nodup)
    (h : ∀ e ∈ entries, Distinct e.2) : Distinct (.table kind entries)
  | tables {newest : List (String × Item)} {older : List (List (String × Item))}
    (keys : ∀ es ∈ newest :: older, (es.map Prod.fst).Nodup)
    (h : ∀ es ∈ newest :: older, ∀ e ∈ es, Distinct e.2) : Distinct (.tables newest older)

/-- A table has one entry a key, and so has every table inside of it. -/
structure Entries.Distinct (entries : Entries) : Prop where
  keys : (entries.map Prod.fst).Nodup
  items : ∀ e ∈ entries, e.2.Distinct

namespace Entries.Distinct

variable {entries es newest : Entries} {older : List (List (String × Item))} {key : String}
  {item : Item} {d : Data} {kind : TableKind}

theorem nil : Distinct [] := ⟨List.nodup_nil, List.forall_mem_nil _⟩

theorem lookup (h : entries.Distinct) (hkey : entries.lookup key = some item) : item.Distinct :=
  h.items _ (mem_of_lookup hkey)

theorem toTable (h : entries.Distinct) : (Item.table kind entries).Distinct := .table h.keys h.items

theorem of_table (h : (Item.table kind entries).Distinct) : entries.Distinct := by
  cases h with
  | table keys h => exact ⟨keys, h⟩

/-- An array of tables that each have one entry a key. -/
theorem of_elements (h : es.Distinct) (holder : ∀ es ∈ older, Entries.Distinct es) :
    (Item.tables es older).Distinct :=
  .tables (List.forall_mem_cons.mpr ⟨h.keys, fun es hes => (holder es hes).keys⟩)
    (List.forall_mem_cons.mpr ⟨h.items, fun es hes => (holder es hes).items⟩)

theorem elements (hitem : (Item.tables newest older).Distinct) :
    ∀ es ∈ newest :: older, Entries.Distinct es := by
  cases hitem with
  | tables keys h => exact fun es hes => ⟨keys es hes, h es hes⟩

/-- Another newest element in an array of tables. -/
theorem toTables (h : es.Distinct) (hitem : (Item.tables newest older).Distinct) :
    (Item.tables es older).Distinct :=
  of_elements h (List.forall_mem_cons.mp (elements hitem)).2

/-- A new key goes to the end. -/
theorem append (h : entries.Distinct) (hnew : entries.lookup key = none) (hitem : item.Distinct) :
    Distinct (entries ++ [(key, item)]) := by
  have hkey : key ∉ entries.map Prod.fst := fun hmem => by
    have hsome := (lookup_isSome_iff key entries).mpr hmem
    rw [hnew] at hsome
    cases hsome
  constructor
  · rw [List.map_append, List.map_singleton]
    refine List.nodup_append.mpr ⟨h.keys, List.nodup_singleton _, fun a ha b hb hab => hkey ?_⟩
    have hb : b = key := List.mem_singleton.mp hb
    rwa [← hb, ← hab]
  · intro e he
    rcases List.mem_append.mp he with he | he
    · exact h.items e he
    · rw [List.mem_singleton.mp he]
      exact hitem

theorem mem_put {e : String × Item} (h : e ∈ Entries.put key item entries) :
    e = (key, item) ∨ e ∈ entries := by
  induction entries with
  | nil => exact .inl (List.mem_singleton.mp h)
  | cons entry rest ih =>
    obtain ⟨k, old⟩ := entry
    rw [Entries.put] at h
    split_ifs at h with hk
    · rcases List.mem_cons.mp h with rfl | h
      · exact .inl (by rw [beq_iff_eq.mp hk])
      · exact .inr (List.mem_cons_of_mem _ h)
    · rcases List.mem_cons.mp h with rfl | h
      · exact .inr List.mem_cons_self
      · exact (ih h).imp_right (List.mem_cons_of_mem _)

theorem mem_keys_put {k : String} (h : k ∈ (Entries.put key item entries).map Prod.fst) :
    k = key ∨ k ∈ entries.map Prod.fst := by
  obtain ⟨e, he, rfl⟩ := List.mem_map.mp h
  rcases mem_put he with rfl | he
  · exact .inl rfl
  · exact .inr (List.mem_map_of_mem he)

/-- An item in place of another, or at the end. -/
theorem put (h : entries.Distinct) (hitem : item.Distinct) :
    Distinct (Entries.put key item entries) := by
  refine ⟨?_, fun e he => ?_⟩
  · have hkeys := h.keys
    clear h
    induction entries with
    | nil => exact List.nodup_singleton _
    | cons entry rest ih =>
      obtain ⟨k, old⟩ := entry
      obtain ⟨hk, hrest⟩ := List.nodup_cons.mp hkeys
      rw [Entries.put]
      split_ifs with hsame
      · exact hkeys
      · refine List.nodup_cons.mpr ⟨fun hmem => ?_, ih hrest⟩
        rcases mem_keys_put hmem with heq | hmem
        · exact hsame (beq_iff_eq.mpr heq)
        · exact hk hmem
  · rcases mem_put he with rfl | he
    · exact hitem
    · exact h.items e he

/-- **A value that is put under a dotted key keeps keys distinct.** -/
theorem assign? (h : entries.Distinct) (hd : d.Distinct) {path : List String} {canTake : Bool}
    (hes : entries.assign? canTake key d path = some es) : es.Distinct := by
  induction path generalizing entries es canTake with
  | nil =>
    rw [Entries.assign?] at hes
    split_ifs at hes with hnew
    obtain rfl := Option.some.inj hes
    exact h.append (Option.isNone_iff_eq_none.mp (Bool.and_eq_true_iff.mp hnew).2) (.leaf hd)
  | cons p path ih =>
    rw [Entries.assign?] at hes
    cases hlookup : entries.lookup p with
    | none =>
      rw [hlookup] at hes
      obtain ⟨made, hmade, rfl⟩ := Option.map_eq_some_iff.mp hes
      exact h.append hlookup (ih nil hmade).toTable
    | some item =>
      have hitem := h.lookup hlookup
      rw [hlookup] at hes
      cases item with
      | leaf d' => cases hes
      | table kind es' =>
        dsimp only at hes
        split_ifs at hes
        obtain ⟨made, hmade, rfl⟩ := Option.map_eq_some_iff.mp hes
        exact h.put (ih (of_table hitem) hmade).toTable
      | tables newest older =>
        obtain ⟨made, hmade, rfl⟩ := Option.map_eq_some_iff.mp hes
        exact h.put ((ih (elements hitem _ List.mem_cons_self) hmade).toTables hitem)

/-- **A header keeps keys distinct**, if what it makes of the item at its end has distinct keys. -/
theorem alter? (h : entries.Distinct) {f : Option Item → Option Item}
    (hf : ∀ old new, (∀ i, old = some i → i.Distinct) → f old = some new → new.Distinct)
    {path : List String} (hes : entries.alter? f path = some es) : es.Distinct := by
  induction path generalizing entries es with
  | nil => cases hes
  | cons p path ih =>
    cases path with
    | nil =>
      obtain ⟨item, hitem, rfl⟩ := Option.map_eq_some_iff.mp hes
      exact h.put (hf _ _ (fun i hi => h.lookup hi) hitem)
    | cons q path =>
      simp only [Entries.alter?] at hes
      cases hlookup : entries.lookup p with
      | none =>
        rw [hlookup] at hes
        obtain ⟨made, hmade, rfl⟩ := Option.map_eq_some_iff.mp hes
        exact h.append hlookup (ih nil hmade).toTable
      | some item =>
        have hitem := h.lookup hlookup
        rw [hlookup] at hes
        cases item with
        | leaf d' => cases hes
        | table kind es' =>
          obtain ⟨made, hmade, rfl⟩ := Option.map_eq_some_iff.mp hes
          exact h.put (ih (of_table hitem) hmade).toTable
        | tables newest older =>
          obtain ⟨made, hmade, rfl⟩ := Option.map_eq_some_iff.mp hes
          exact h.put ((ih (elements hitem _ List.mem_cons_self) hmade).toTables hitem)

/-- **A line under a header keeps keys distinct.** -/
theorem assignUnder? (h : entries.Distinct) (hd : d.Distinct) {header path : List String}
    (hes : entries.assignUnder? header path key d = some es) : es.Distinct := by
  cases header with
  | nil => exact h.assign? hd hes
  | cons p header =>
    refine h.alter? (fun old new hold hnew => ?_) hes
    cases old with
    | none => cases hnew
    | some item =>
      have hitem := hold item rfl
      cases item with
      | leaf d' => cases hnew
      | table kind es' =>
        obtain ⟨made, hmade, rfl⟩ := Option.map_eq_some_iff.mp hnew
        exact ((of_table hitem).assign? hd hmade).toTable
      | tables newest older =>
        obtain ⟨made, hmade, rfl⟩ := Option.map_eq_some_iff.mp hnew
        exact ((elements hitem _ List.mem_cons_self).assign? hd hmade).toTables hitem

theorem openTable? (h : entries.Distinct) {path : List String}
    (hes : entries.alter? Toml.openTable? path = some es) : es.Distinct := by
  refine h.alter? (fun old new hold hnew => ?_) hes
  match old, hnew with
  | none, hnew =>
    obtain rfl := Option.some.inj hnew
    exact nil.toTable
  | some (.table .implicit es'), hnew =>
    obtain rfl := Option.some.inj hnew
    exact (of_table (hold _ rfl)).toTable

theorem openElement? (h : entries.Distinct) {path : List String}
    (hes : entries.alter? Toml.openElement? path = some es) : es.Distinct := by
  refine h.alter? (fun old new hold hnew => ?_) hes
  match old, hnew with
  | none, hnew =>
    obtain rfl := Option.some.inj hnew
    exact of_elements nil (List.forall_mem_nil _)
  | some (.tables newest older), hnew =>
    obtain rfl := Option.some.inj hnew
    exact of_elements nil (elements (hold _ rfl))

end Entries.Distinct

/-! ## Finished tables -/

theorem entriesToData_eq (entries : Entries) :
    entriesToData entries = entries.map fun e => (e.1, e.2.toData) := by
  induction entries with
  | nil => rfl
  | cons e rest ih => rw [entriesToData, ih, List.map_cons]

theorem mem_olderToData {older : List Entries} {d : Data} (h : d ∈ olderToData older) :
    ∃ es ∈ older, d = .record (entriesToData es) := by
  induction older with
  | nil => cases h
  | cons es rest ih =>
    rcases List.mem_append.mp h with h | h
    · obtain ⟨es', hes', rfl⟩ := ih h
      exact ⟨es', List.mem_cons_of_mem _ hes', rfl⟩
    · exact ⟨es, List.mem_cons_self, List.mem_singleton.mp h⟩

theorem distinct_entriesToData {entries : Entries} (hkeys : (entries.map Prod.fst).Nodup)
    (h : ∀ e ∈ entries, e.2.toData.Distinct) : (Data.record (entriesToData entries)).Distinct := by
  rw [entriesToData_eq]
  refine .record ?_ fun m hm => ?_
  · rwa [List.map_map]
  · obtain ⟨e, he, rfl⟩ := List.mem_map.mp hm
    exact h e he

/-- A finished item has distinct keys if the item has. -/
theorem Item.Distinct.toData {item : Item} (h : item.Distinct) : item.toData.Distinct := by
  induction h with
  | leaf h =>
    rw [Item.toData]
    exact h
  | table keys _ ih =>
    rw [Item.toData]
    exact distinct_entriesToData keys ih
  | tables keys _ ih =>
    rw [Item.toData]
    refine .list fun d hd => ?_
    rcases List.mem_append.mp hd with hd | hd
    · obtain ⟨es, hes, rfl⟩ := mem_olderToData hd
      exact distinct_entriesToData (keys es (List.mem_cons_of_mem _ hes))
        (ih es (List.mem_cons_of_mem _ hes))
    · rw [List.mem_singleton.mp hd]
      exact distinct_entriesToData (keys _ List.mem_cons_self) (ih _ List.mem_cons_self)

theorem Entries.Distinct.toData {entries : Entries} (h : entries.Distinct) :
    (Data.record (entriesToData entries)).Distinct :=
  distinct_entriesToData h.keys fun e he => (h.items e he).toData

/-! ## Values -/

/-- What holds of the result of a reader, if it has one. -/
def Gives {α : Type} (P : α → Prop) (read : Option α) : Prop := ∀ a, read = some a → P a

namespace Gives

variable {α β : Type} {P : α → Prop} {Q : β → Prop} {read : Option α}

theorem none : Gives P none := nofun

theorem some {a : α} (h : P a) : Gives P (some a) := fun _ ha => Option.some.inj ha ▸ h

theorem bind {next : α → Option β} (h : Gives P read) (hnext : ∀ a, P a → Gives Q (next a)) :
    Gives Q (read.bind next) := by
  intro b hb
  obtain ⟨a, ha, hb⟩ := Option.bind_eq_some_iff.mp hb
  exact hnext a (h a ha) b hb

theorem ofBind {next : α → Option β} (hnext : ∀ a, Gives Q (next a)) : Gives Q (read.bind next) :=
  bind (P := fun _ => True) (fun _ _ => trivial) fun a _ => hnext a

theorem map {f : α → β} (h : Gives P read) (hf : ∀ a, P a → Q (f a)) : Gives Q (read.map f) := by
  intro b hb
  obtain ⟨a, ha, rfl⟩ := Option.map_eq_some_iff.mp hb
  exact hf a (h a ha)

theorem ofMap {f : α → β} (hf : ∀ a, Q (f a)) : Gives Q (read.map f) :=
  map (P := fun _ => True) (fun _ _ => trivial) fun a _ => hf a

theorem ite {c : Prop} [Decidable c] {other : Option α} (h : Gives P read)
    (hother : Gives P other) : Gives P (if c then read else other) := by
  split_ifs
  · exact h
  · exact hother

end Gives

/-- The value of a reading has distinct keys. -/
abbrev Reads (read : Option (Data × List Char)) : Prop := Gives (fun r => r.1.Distinct) read

theorem reads_radixInteger? (radix : Nat) (cs : List Char) : Reads (radixInteger? radix cs) :=
  .ofBind fun _ => .ofBind fun _ => .ite (.some (.integer _)) .none

theorem reads_integer (negative : Bool) (whole cs : List Char) :
    Reads (decimal?.integer negative whole cs) :=
  .ofBind fun _ => .ite (.some (.integer _)) .none

theorem reads_decimal? (negative : Bool) (cs : List Char) : Reads (decimal? negative cs) := by
  have hfinish : ∀ digits (shift : Nat) behind (exp : Int),
      Reads ((Text.digits? 10 0 digits).bind fun n =>
        if overflows n (exp - shift) then none else some (Data.other, behind)) :=
    fun _ _ _ _ => .ofBind fun _ => .ite .none (.some .other)
  refine .ofBind fun (whole, rest) => ?_
  dsimp only
  split
  · refine .ofBind fun (frac, rest) => ?_
    dsimp only
    split
    · exact .ite (.ofBind fun _ => hfinish _ _ _ _) (hfinish _ _ _ _)
    · exact hfinish _ _ _ _
  · exact .ite (.ofBind fun _ => hfinish _ _ _ _) (reads_integer _ _ _)
  · exact reads_integer _ _ _

theorem reads_number? (cs : List Char) : Reads (number? cs) := by
  unfold number?
  split
  iterate 3 exact reads_radixInteger? _ _
  -- With either sign, or none, what is no word is a decimal number.
  all_goals
    dsimp only
    split
    · exact .some .other
    · exact .some .other
    · exact reads_decimal? _ _

theorem reads_numberOrDate? (cs : List Char) : Reads (numberOrDate? cs) := by
  rw [numberOrDate?]
  split
  · exact .some .other
  · exact reads_number? _

/-- With this fuel, what is read has distinct keys. -/
structure Sound (fuel : Nat) : Prop where
  value : ∀ depth cs, Reads (value? fuel depth cs)
  items : ∀ depth cs, Gives (fun r => ∀ d ∈ r.1, d.Distinct) (items? fuel depth cs)
  inline : ∀ depth entries cs, Entries.Distinct entries →
    Gives (fun r => Entries.Distinct r.1) (inline? fuel depth entries cs)

theorem Sound.zero : Sound 0 where
  value _ _ := .none
  items _ _ := .none
  inline _ _ _ _ := .none

section Step

variable {fuel : Nat} (h : Sound fuel)

include h

theorem Sound.value_succ (depth : Nat) (cs : List Char) : Reads (value? (fuel + 1) depth cs) := by
  unfold value?
  split
  · exact .ofMap fun _ => .text _
  · exact .ofMap fun _ => .text _
  · exact .ite .none ((h.items _ _).map fun _ hds => .list hds)
  · refine .ite .none ?_
    split
    · exact .some (.record List.nodup_nil (List.forall_mem_nil _))
    · exact (h.inline _ _ _ .nil).map fun _ hes => hes.toData
  · exact .some (.bool _)
  · exact .some (.bool _)
  · exact reads_numberOrDate? _

theorem Sound.items_succ (depth : Nat) (cs : List Char) :
    Gives (fun r => ∀ d ∈ r.1, d.Distinct) (items? (fuel + 1) depth cs) := by
  unfold items?
  split
  · exact .some (List.forall_mem_nil _)
  · refine (h.value _ _).bind fun (d, rest) hd => ?_
    dsimp only
    split
    · exact (h.items _ _).map fun _ hds => List.forall_mem_cons.mpr ⟨hd, hds⟩
    · exact .some (List.forall_mem_singleton.mpr hd)
    · exact .none

theorem Sound.inline_succ (depth : Nat) (entries : Entries) (cs : List Char)
    (hentries : entries.Distinct) :
    Gives (fun r => Entries.Distinct r.1) (inline? (fuel + 1) depth entries cs) := by
  unfold inline?
  refine .ofBind fun (_, _) => .ofBind fun (_, _) => .ofBind fun _ => ?_
  refine (h.value _ _).bind fun (d, _) hd => ?_
  refine Gives.bind (fun es hes => hentries.assign? hd hes) fun es hes => ?_
  split
  · exact h.inline _ _ _ hes
  · exact .some hes
  · exact .none

end Step

/-- **Every value has distinct keys**, by induction on the fuel of its reader. -/
theorem sound (fuel : Nat) : Sound fuel := by
  induction fuel with
  | zero => exact .zero
  | succ fuel ih => exact ⟨ih.value_succ, ih.items_succ, ih.inline_succ⟩

/-! ## Documents -/

/-- **The lines of a document keep keys distinct.** -/
theorem gives_lines? (fuel : Nat) (header : List String) {entries : Entries}
    (hentries : entries.Distinct) (cs : List Char) :
    Gives Entries.Distinct (lines? fuel header entries cs) := by
  induction fuel generalizing header entries cs with
  | zero => exact .none
  | succ fuel ih =>
    unfold lines?
    split
    · exact .some hentries
    · exact .ofBind fun _ => ih _ hentries _
    · exact ih _ hentries _
    · exact ih _ hentries _
    · refine .ofBind fun (_, _) => .ofBind fun _ => .ofBind fun _ => .ofBind fun _ => ?_
      exact Gives.bind (fun es hes => hentries.openElement? hes) fun es hes => ih _ hes _
    · refine .ofBind fun (_, _) => .ofBind fun _ => .ofBind fun _ => ?_
      exact Gives.bind (fun es hes => hentries.openTable? hes) fun es hes => ih _ hes _
    · refine .ofBind fun (_, _) => .ofBind fun (_, _) => .ofBind fun _ => ?_
      refine ((sound _).value _ _).bind fun (d, _) hd => .ofBind fun _ => ?_
      exact Gives.bind (fun es hes => hentries.assignUnder? hd hes) fun es hes => ih _ hes _

/-- **A document has one value a key**, at any depth. -/
theorem parse?_distinct {text : String} {d : Data} (h : parse? text = some d) : d.Distinct :=
  (gives_lines? _ [] .nil _).map (Q := Data.Distinct) (fun _ hes => hes.toData) d h

end Toml
end Theming
