/-
# Reactive slots and their observers

What happens to a slot is kept in a log: that it is made, that an observer joins, that a call that
sets it begins, and that an observer is called, with the place in the log where the call that calls
it has begun.

| entry | value and version | observers | calls that are due |
| --- | --- | --- | --- |
| `made` | none, 0 | none | none |
| `joined` | | one more | |
| `set` | the new value, one more | | before all others, one for each observer |
| `called` | | | the first one is no longer due |

The account of a log says what it comes to (`SlotAccount.of`). At each moment of a program it agrees
with the world and with what is still to be done (`Reckons.turn`); so the calls that have been made
for one setting of the slot, and those that are due for it, are those of the observers that it had
when that setting began, in order (`Fair.complete`).
-/

import Theming.Proofs.Annals
import Theming.Proofs.Renewal
import Theming.Proofs.Storing

namespace Theming
namespace Live

variable {catalog : Catalog} {w w' : World} {s : SlotId}

/-- What happens to a slot. -/
inductive SlotEvent where
  | made
  | joined (observer : Observer)
  /-- A call that sets the slot begins. -/
  | set (value : Value)
  /-- An observer is called with a value, for the call that has begun at a place of the log. -/
  | called (start : Nat) (value : Value) (observer : Observer)

namespace SlotEvent

/-- The value that the slot is set to. -/
def value? : SlotEvent → Option Value
  | set value => some value
  | _ => none

/-- The observer who joins. -/
def observer? : SlotEvent → Option Observer
  | joined observer => some observer
  | _ => none

/-- The call of an observer for the call that has begun at a place. -/
def call? (n : Nat) : SlotEvent → Option (Value × Observer)
  | called start value observer => if start = n then some (value, observer) else none
  | _ => none

end SlotEvent

/-- The values that a slot has been set to, in the order in which the calls began. -/
def valuesOf (log : List SlotEvent) : List Value := log.filterMap SlotEvent.value?

/-- The observers of a slot in the order in which they joined. -/
def observersOf (log : List SlotEvent) : List Observer := log.filterMap SlotEvent.observer?

/-- The observers that have been called for the call that has begun at a place, and with which
values. -/
def calledFrom (n : Nat) (log : List SlotEvent) : List (Value × Observer) :=
  log.filterMap (SlotEvent.call? n)

/-! ## Accounts -/

/-- A call of an observer that is still to be made. -/
structure Owed where
  start : Nat
  value : Value
  observer : Observer

/-- What is due for the call that has begun at a place. -/
def Owed.from? (n : Nat) (d : Owed) : Option (Value × Observer) :=
  if d.start = n then some (d.value, d.observer) else none

/-- What a log comes to. -/
structure SlotAccount where
  size : Nat := 0
  values : List Value := []
  observers : List Observer := []
  due : List Owed := []

namespace SlotAccount

/-- The account after an entry. -/
def enter (a : SlotAccount) : SlotEvent → SlotAccount
  | .made => { a with size := a.size + 1 }
  | .joined o => { a with size := a.size + 1, observers := a.observers ++ [o] }
  | .set v =>
    { a with
      size := a.size + 1
      values := a.values ++ [v]
      due := a.observers.map (fun o => ⟨a.size, v, o⟩) ++ a.due }
  | .called _ _ _ => { a with size := a.size + 1, due := a.due.tail }

/-- The account of a log. -/
def of (log : List SlotEvent) : SlotAccount := log.foldl enter {}

/-- The slot as the account has it, once it has been made. -/
def slot? (a : SlotAccount) : Option Slot :=
  if a.size = 0 then none
  else some { value := a.values.getLast?, version := a.values.length, observers := a.observers }

variable (log : List SlotEvent)

theorem of_concat (e : SlotEvent) : of (log ++ [e]) = (of log).enter e := by
  rw [of, List.foldl_concat, ← of]

theorem size_of : (of log).size = log.length := by
  induction log using List.reverseRecOn with
  | nil => rfl
  | append_singleton log e ih =>
    rw [of_concat, List.length_append, List.length_singleton, ← ih]
    cases e <;> rfl

theorem values_of : (of log).values = valuesOf log := by
  induction log using List.reverseRecOn with
  | nil => rfl
  | append_singleton log e ih =>
    rw [of_concat, valuesOf, List.filterMap_append, ← valuesOf, ← ih]
    cases e <;> simp [enter, SlotEvent.value?]

theorem observers_of : (of log).observers = observersOf log := by
  induction log using List.reverseRecOn with
  | nil => rfl
  | append_singleton log e ih =>
    rw [of_concat, observersOf, List.filterMap_append, ← observersOf, ← ih]
    cases e <;> simp [enter, SlotEvent.observer?]

theorem eq_nil_of_slot? {log : List SlotEvent} (h : (of log).slot? = none) : log = [] := by
  rw [slot?] at h
  split_ifs at h with hsize
  rw [size_of] at hsize
  exact List.length_eq_zero_iff.mp hsize

omit log

section Enter

variable {a : SlotAccount} {x : Slot} (h : a.slot? = some x)
include h

theorem eq_of_slot? :
    x = { value := a.values.getLast?, version := a.values.length, observers := a.observers } := by
  rw [slot?] at h
  split_ifs at h
  exact (Option.some.inj h).symm

theorem slot?_set (v : Value) :
    (a.enter (.set v)).slot? = some { x with value := some v, version := x.version + 1 } := by
  rw [eq_of_slot? h, slot?, enter, if_neg (Nat.succ_ne_zero _), List.getLast?_concat,
    List.length_append, List.length_singleton]

theorem slot?_joined (o : Observer) :
    (a.enter (.joined o)).slot? = some { x with observers := x.observers ++ [o] } := by
  rw [eq_of_slot? h, slot?, enter, if_neg (Nat.succ_ne_zero _)]

theorem slot?_called (n : Nat) (v : Value) (o : Observer) :
    (a.enter (.called n v o)).slot? = some x := by
  rw [eq_of_slot? h, slot?, enter, if_neg (Nat.succ_ne_zero _)]

end Enter

end SlotAccount

/-! ## Fair logs -/

/-- What an entry presupposes: an observer is called when its call is the first that is due. -/
def SlotEvent.Allowed (log : List SlotEvent) : SlotEvent → Prop
  | called start value observer => (SlotAccount.of log).due.head? = some ⟨start, value, observer⟩
  | _ => True

/-- A call that has begun before calls whom it would call, whatever is entered. -/
theorem calledFrom_concat {log : List SlotEvent} {e : SlotEvent} (he : e.Allowed log) {n : Nat}
    (hn : n < log.length) :
    calledFrom n (log ++ [e]) ++ (SlotAccount.of (log ++ [e])).due.filterMap (Owed.from? n) =
      calledFrom n log ++ (SlotAccount.of log).due.filterMap (Owed.from? n) := by
  have hcalled : calledFrom n (log ++ [e]) = calledFrom n log ++ (e.call? n).toList := by
    rw [calledFrom, List.filterMap_append, List.filterMap_cons, List.filterMap_nil]
    cases e.call? n <;> rfl
  rw [hcalled, SlotAccount.of_concat]
  cases e with
  | made => exact congrArg (· ++ _) (List.append_nil _)
  | joined o => exact congrArg (· ++ _) (List.append_nil _)
  | set v =>
    have hnew : ((SlotAccount.of log).observers.map fun o =>
        (⟨(SlotAccount.of log).size, v, o⟩ : Owed)).filterMap (Owed.from? n) = [] := by
      refine List.filterMap_eq_nil_iff.mpr fun d hd => ?_
      obtain ⟨o, -, rfl⟩ := List.mem_map.mp hd
      rw [SlotAccount.size_of]
      exact if_neg (Nat.ne_of_gt hn)
    rw [SlotAccount.enter, List.filterMap_append, hnew, List.nil_append]
    exact congrArg (· ++ _) (List.append_nil _)
  | called start v o =>
    obtain ⟨rest, hdue⟩ := List.head?_eq_some_iff.mp he
    rw [SlotAccount.enter, hdue, List.tail_cons, List.filterMap_cons, Owed.from?, SlotEvent.call?]
    split_ifs
    · rw [Option.toList_some, List.append_assoc, List.singleton_append]
    · rw [Option.toList_none, List.append_nil]

/-- A log in which each setting of the slot calls the observers that the slot had when it began. -/
structure Fair (log : List SlotEvent) : Prop where
  /-- What is due is due for a call that has begun. -/
  due : ∀ d ∈ (SlotAccount.of log).due, log[d.start]? = some (.set d.value)
  /-- An observer is called for a call that has begun before, and with its value. -/
  called : ∀ (k n : Nat) v o, log[k]? = some (.called n v o) → n < k ∧ log[n]? = some (.set v)
  complete : ∀ (n : Nat) v, log[n]? = some (.set v) →
    calledFrom n log ++ (SlotAccount.of log).due.filterMap (Owed.from? n) =
      (observersOf (log.take n)).map fun o => (v, o)

namespace Fair

theorem nil : Fair [] := ⟨nofun, nofun, nofun⟩

variable {log : List SlotEvent} {e : SlotEvent} (h : Fair log) (he : e.Allowed log)
include h

theorem start_lt {d : Owed} (hd : d ∈ (SlotAccount.of log).due) : d.start < log.length :=
  (List.getElem?_eq_some_iff.mp (h.due d hd)).1

/-- Nothing has been called, and nothing is due, for a call that has not begun. -/
theorem calledFrom_length : calledFrom log.length log = [] ∧
    (SlotAccount.of log).due.filterMap (Owed.from? log.length) = [] := by
  refine ⟨List.filterMap_eq_nil_iff.mpr fun e he => ?_, List.filterMap_eq_nil_iff.mpr fun d hd =>
    if_neg (Nat.ne_of_lt (h.start_lt hd))⟩
  cases e with
  | called n v o =>
    obtain ⟨k, hk, hat⟩ := List.mem_iff_getElem.mp he
    have hlt := (h.called k n v o (List.getElem?_eq_some_iff.mpr ⟨hk, hat⟩)).1
    exact if_neg (by omega)
  | _ => rfl

include he in
theorem concat : Fair (log ++ [e]) := by
  have hold : ∀ (n : Nat) x, log[n]? = some x → (log ++ [e])[n]? = some x := fun n x hn =>
    (List.getElem?_append_left (List.getElem?_eq_some_iff.mp hn).1).trans hn
  refine ⟨fun d hd => ?_, fun k n v o hk => ?_, fun n v hn => ?_⟩
  · rw [SlotAccount.of_concat] at hd
    cases e with
    | set v =>
      rcases List.mem_append.mp hd with hd | hd
      · obtain ⟨o, -, rfl⟩ := List.mem_map.mp hd
        rw [SlotAccount.size_of]
        exact List.getElem?_concat_length
      · exact hold _ _ (h.due d hd)
    | called n v o => exact hold _ _ (h.due d (List.mem_of_mem_tail hd))
    | _ => exact hold _ _ (h.due d hd)
  · rcases Nat.lt_or_ge k log.length with hlt | hge
    · rw [List.getElem?_append_left hlt] at hk
      obtain ⟨hn, hset⟩ := h.called k n v o hk
      exact ⟨hn, hold n _ hset⟩
    · rw [List.getElem?_append_right hge, List.getElem?_singleton] at hk
      split_ifs at hk with hlast
      obtain rfl := Option.some.inj hk
      have hset := h.due _ (List.mem_of_mem_head? (Option.mem_def.mpr he))
      exact ⟨(List.getElem?_eq_some_iff.mp hset).1.trans_le hge, hold n _ hset⟩
  · rcases Nat.lt_or_ge n log.length with hlt | hge
    · rw [List.getElem?_append_left hlt] at hn
      rw [calledFrom_concat he hlt, List.take_append_of_le_length (Nat.le_of_lt hlt)]
      exact h.complete n v hn
    · rw [List.getElem?_append_right hge, List.getElem?_singleton] at hn
      split_ifs at hn with hlast
      obtain rfl := Option.some.inj hn
      obtain rfl : n = log.length := Nat.le_antisymm (Nat.sub_eq_zero_iff_le.mp hlast) hge
      obtain ⟨hcalled, hdue⟩ := h.calledFrom_length
      rw [List.take_left, calledFrom, List.filterMap_append, ← calledFrom, hcalled,
        SlotAccount.of_concat, SlotAccount.enter, List.filterMap_append, hdue,
        ← SlotAccount.observers_of, SlotAccount.size_of]
      simp [SlotEvent.call?, Owed.from?, Function.comp_def]

end Fair

/-! ## What is entered -/

/-- What is entered of an errand that concerns a slot that is there. -/
def Errand.slotEvent? (s : SlotId) (log : List SlotEvent) (errand : Errand) : Option SlotEvent :=
  match errand.stores? with
  | some (s', v) => if s' = s then some (.set v) else none
  | none =>
    match errand.joins? with
    | some (s', o) => if s' = s then some (.joined o) else none
    | none => (errand.call? s).bind fun (v, o) =>
      (SlotAccount.of log).due.head?.map fun d => .called d.start v o

/-- What is entered of a new slot, which may have been set already. -/
def Slot.birth (x : Slot) : List SlotEvent := .made :: x.value.toList.map .set

/-- What is entered of an errand in the log of a slot. -/
def slotEntries (s : SlotId) (log : List SlotEvent) (w : World) (errand : Errand) :
    List SlotEvent :=
  if s < w.slots.length then (errand.slotEvent? s log).toList
  else ((errand.turn [] w).world.slots[s]?.map Slot.birth).getD []

/-- What a log says is so at a moment. -/
structure Reckons (s : SlotId) (log : List SlotEvent) (m : Moment) : Prop where
  slot : m.world.slots[s]? = (SlotAccount.of log).slot?
  due : callsOf s m.errands = (SlotAccount.of log).due.map fun d => (d.value, d.observer)
  fair : Fair log

theorem Errand.world_turn (errand : Errand) (moves : List Move) (w : World) :
    (errand.turn moves w).world = (errand.turn [] w).world := by
  cases errand <;> rfl

/-- A new slot is what its log comes to. -/
theorem Slot.IsNew.birth {x : Slot} (h : x.IsNew) :
    (SlotAccount.of x.birth).slot? = some x ∧ (SlotAccount.of x.birth).due = [] ∧
      Fair x.birth := by
  obtain ⟨value, version, observers⟩ := x
  obtain ⟨rfl, rfl⟩ : observers = [] ∧ version = value.toList.length := ⟨h.observers, h.version⟩
  have hmade : Fair [.made] := Fair.nil.concat (e := .made) trivial
  cases value with
  | none => exact ⟨rfl, rfl, hmade⟩
  | some v => exact ⟨rfl, rfl, hmade.concat (e := .set v) trivial⟩

namespace Reckons

variable {log : List SlotEvent} {errand : Errand} {rest : List Errand}
  (h : Reckons s log ⟨w, errand :: rest⟩)
include h

theorem rest_due : (errand.call? s).toList ++ callsOf s rest =
    (SlotAccount.of log).due.map fun d => (d.value, d.observer) := by
  have hcons : callsOf s (errand :: rest) = (errand.call? s).toList ++ callsOf s rest := by
    rw [callsOf, List.filterMap_cons]
    cases errand.call? s <;> rfl
  exact hcons.symm.trans h.due

/-- A turn before the slot is there, which may make it. -/
theorem turn_absent (moves : List Move) (hs : ¬ s < w.slots.length)
    (hnew : ∀ x, (errand.turn moves w).world.slots[s]? = some x → x.IsNew)
    (hcalls : callsOf s (errand.turn moves w).errands = []) :
    Reckons s (log ++ slotEntries s log w errand)
      ⟨(errand.turn moves w).world, (errand.turn moves w).errands ++ rest⟩ := by
  have hnone : (SlotAccount.of log).slot? = none :=
    h.slot.symm.trans (List.getElem?_eq_none (Nat.le_of_not_lt hs))
  obtain rfl := SlotAccount.eq_nil_of_slot? hnone
  have hrest : callsOf s rest = [] := (List.append_eq_nil_iff.mp h.rest_due).2
  rw [slotEntries, if_neg hs, ← errand.world_turn moves, List.nil_append]
  cases hslot : (errand.turn moves w).world.slots[s]? with
  | none => exact ⟨hslot, by rw [callsOf_append, hcalls, hrest]; rfl, .nil⟩
  | some x =>
    obtain ⟨hbirth, hdue, hfair⟩ := (hnew x hslot).birth
    refine ⟨hslot.trans hbirth.symm, ?_, hfair⟩
    rw [callsOf_append, hcalls, hrest, Option.map_some, Option.getD_some, hdue]
    rfl

/-- A turn that sets a slot. -/
theorem turn_stores {s' : SlotId} {v : Value} (hstores : errand.stores? = some (s', v))
    (moves : List Move) (hs : s < w.slots.length) :
    Reckons s (log ++ slotEntries s log w errand)
      ⟨(errand.turn moves w).world, (errand.turn moves w).errands ++ rest⟩ := by
  obtain ⟨hworld, herrands⟩ := Errand.turn_of_stores hstores moves w
  have hrest := h.rest_due
  rw [Errand.call?_of_stores hstores, Option.toList_none, List.nil_append] at hrest
  obtain ⟨x, hx⟩ : ∃ x, w.slots[s]? = some x := ⟨_, List.getElem?_eq_getElem hs⟩
  have hslot := h.slot.symm.trans hx
  have hstored := w.slots_store s' s v
  rw [slotEntries, if_pos hs, Errand.slotEvent?, hstores, hworld, herrands]
  dsimp only
  by_cases hsame : s' = s
  · subst hsame
    rw [if_pos rfl, hx, Option.map_some] at hstored
    rw [if_pos rfl, Option.toList_some]
    refine ⟨?_, ?_, h.fair.concat trivial⟩
    · rw [SlotAccount.of_concat, SlotAccount.slot?_set hslot]
      exact hstored
    · rw [callsOf_append, callsOf_map_call, if_pos rfl, World.observers_eq hstored, hrest,
        SlotAccount.of_concat, SlotAccount.enter, List.map_append, SlotAccount.eq_of_slot? hslot,
        List.map_map]
      rfl
  · rw [if_neg (Ne.symm hsame)] at hstored
    rw [if_neg hsame, Option.toList_none, List.append_nil]
    refine ⟨hstored.trans h.slot, ?_, h.fair⟩
    rw [callsOf_append, callsOf_map_call, if_neg hsame, List.nil_append, hrest]

/-- A turn that gives a slot an observer. -/
theorem turn_joins {s' : SlotId} {o : Observer} (hstores : errand.stores? = none)
    (hjoins : errand.joins? = some (s', o)) (moves : List Move) (hs : s < w.slots.length) :
    Reckons s (log ++ slotEntries s log w errand)
      ⟨(errand.turn moves w).world, (errand.turn moves w).errands ++ rest⟩ := by
  obtain ⟨hworld, herrands⟩ := Errand.turn_of_joins hjoins moves w
  have hrest := h.rest_due
  rw [Errand.call?_of_joins hjoins, Option.toList_none, List.nil_append] at hrest
  obtain ⟨x, hx⟩ : ∃ x, w.slots[s]? = some x := ⟨_, List.getElem?_eq_getElem hs⟩
  have hslot := h.slot.symm.trans hx
  have hobserved := w.slots_observe s s' o
  rw [slotEntries, if_pos hs, Errand.slotEvent?, hstores, hjoins, hworld, herrands, List.nil_append]
  dsimp only
  by_cases hsame : s' = s
  · subst hsame
    rw [if_pos rfl, hx, Option.map_some] at hobserved
    rw [if_pos rfl, Option.toList_some]
    refine ⟨?_, ?_, h.fair.concat trivial⟩
    · rw [SlotAccount.of_concat, SlotAccount.slot?_joined hslot]
      exact hobserved
    · rw [SlotAccount.of_concat]
      exact hrest
  · rw [if_neg (Ne.symm hsame)] at hobserved
    rw [if_neg hsame, Option.toList_none, List.append_nil]
    exact ⟨hobserved.trans h.slot, hrest, h.fair⟩

/-- Any other turn: if it calls an observer of the slot, that is the first call that is due. -/
theorem turn_sprouts (moves : List Move) (hstores : errand.stores? = none)
    (hjoins : errand.joins? = none) (hsprouts : Sprouts w (errand.turn moves w))
    (hs : s < w.slots.length) :
    Reckons s (log ++ slotEntries s log w errand)
      ⟨(errand.turn moves w).world, (errand.turn moves w).errands ++ rest⟩ := by
  obtain ⟨born, hslots, -⟩ := hsprouts.slots
  have hsame : (errand.turn moves w).world.slots[s]? = w.slots[s]? := by
    rw [hslots, List.getElem?_append_left hs]
  obtain ⟨x, hx⟩ : ∃ x, w.slots[s]? = some x := ⟨_, List.getElem?_eq_getElem hs⟩
  have hslot := h.slot.symm.trans hx
  have hrest := h.rest_due
  rw [slotEntries, if_pos hs, Errand.slotEvent?, hstores, hjoins]
  dsimp only
  cases hcall : errand.call? s with
  | none =>
    rw [hcall, Option.toList_none, List.nil_append] at hrest
    rw [Option.bind_none, Option.toList_none, List.append_nil]
    refine ⟨hsame.trans h.slot, ?_, h.fair⟩
    rw [callsOf_append, hsprouts.calls, List.nil_append, hrest]
  | some c =>
    obtain ⟨v, o⟩ := c
    rw [hcall, Option.toList_some, List.singleton_append] at hrest
    obtain ⟨d, due, hdue, hfirst, hlater⟩ := List.map_eq_cons_iff.mp hrest.symm
    obtain ⟨rfl, rfl⟩ := Prod.mk.inj hfirst
    rw [Option.bind_some, hdue, List.head?_cons, Option.map_some, Option.toList_some]
    have hallowed : (SlotEvent.called d.start d.value d.observer).Allowed log := by
      rw [SlotEvent.Allowed, hdue]
      rfl
    refine ⟨?_, ?_, h.fair.concat hallowed⟩
    · rw [SlotAccount.of_concat, SlotAccount.slot?_called hslot]
      exact hsame.trans hx
    · rw [callsOf_append, hsprouts.calls, List.nil_append, SlotAccount.of_concat, SlotAccount.enter,
        hdue, List.tail_cons, hlater]

/-- **Every turn enters what it does to the slot.** -/
theorem turn (hb : Bonds catalog w) (hserved : w.Served) (moves : List Move) :
    Reckons s (log ++ slotEntries s log w errand)
      ⟨(errand.turn moves w).world, (errand.turn moves w).errands ++ rest⟩ := by
  by_cases hs : s < w.slots.length
  · cases hstores : errand.stores? with
    | some stored => exact h.turn_stores hstores moves hs
    | none =>
      cases hjoins : errand.joins? with
      | some joined => exact h.turn_joins hstores hjoins moves hs
      | none =>
        have hsprouts := errand.sprouts hb hserved moves hstores hjoins
        exact h.turn_sprouts moves hstores hjoins hsprouts hs
  · obtain ⟨hnew, hcalls⟩ := errand.turn_beyond hb hserved moves hs
    exact h.turn_absent moves hs hnew hcalls

end Reckons

end Live
end Theming
