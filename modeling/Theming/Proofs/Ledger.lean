/-
# A ledger of listeners

What happens to listeners is entered into a log, and a ledger is kept of it.

| entry | in the ledger |
| --- | --- |
| `held` | a script has an owner, who calls it by a name |
| `dropped` | it has none |
| `listened` | one more registration |
| `ignored` | no registration of the script with the broadcaster |
| `begun` | a notification is open, with the live registrations as its roster |
| `told` | the first one of those waiting has been called |
| `ended` | the notification is no longer open |

A script is alive as long as it has an owner or stands in the roster of an open notification. A
notification is known by the position of its `begun`, and open ones are nested. From what each entry
may be at its place (`Ledger.Allows`) follows what the log as a whole tells of calls
(`Ledger.Delivered.of_kept`). Registrations are never struck from the ledger for being dead: a
script that is dead stays so (`Ledger.Kept.dead_stays`).
-/

import Mathlib.Data.List.Nodup
import Mathlib.Data.Nat.Init
import Theming.Live.World

namespace Theming
namespace Live

/-- Something that happens to listeners. -/
inductive ListenerEvent where
  | held (name : String) (id : ScriptId)
  | dropped (name : String)
  | listened (broadcaster : BroadcasterId) (id : ScriptId)
  /-- All registrations of a script with a broadcaster are removed, if there were any. -/
  | ignored (broadcaster : BroadcasterId) (id : ScriptId) (was : Bool)
  | begun (broadcaster : BroadcasterId)
  /-- A notification, known by where it begins, calls a script. -/
  | told (start : Nat) (id : ScriptId)
  | ended (start : Nat)
deriving DecidableEq

/-- An open notification. -/
structure Round where
  /-- Where it begins in the log. -/
  start : Nat
  /-- Whom it set out to call. -/
  roster : List ScriptId
  /-- Whom it has still to call. -/
  waiting : List ScriptId

/-- What is known of listeners. -/
structure Ledger where
  /-- How many entries there are. -/
  size : Nat := 0
  /-- How many scripts there are. -/
  scripts : Nat := 0
  owned : List (String × ScriptId) := []
  registered : List (BroadcasterId × ScriptId) := []
  /-- The open notifications, innermost first. -/
  rounds : List Round := []

namespace Ledger

variable {l : Ledger} {e : ListenerEvent} {id : ScriptId}

/-- Whether a script is alive. -/
def alive (l : Ledger) (id : ScriptId) : Bool :=
  l.owned.any (·.2 == id) || l.rounds.any fun r => r.roster.contains id

/-- The registrations of a broadcaster that are alive, in order. -/
def live (l : Ledger) (b : BroadcasterId) : List ScriptId :=
  ((l.registered.filter (·.1 == b)).map Prod.snd).filter l.alive

/-- The first one of those waiting in the innermost notification waits no more. -/
def answered : List Round → List Round
  | [] => []
  | r :: rest => { r with waiting := r.waiting.tail } :: rest

/-- What an entry changes. -/
def change (l : Ledger) : ListenerEvent → Ledger
  | .held name id =>
    { l with scripts := l.scripts + 1, owned := World.named name id l.owned }
  | .dropped name => { l with owned := World.unnamed name l.owned }
  | .listened b id => { l with registered := l.registered ++ [(b, id)] }
  | .ignored b id _ => { l with registered := l.registered.filter (· != (b, id)) }
  | .begun b => { l with rounds := ⟨l.size, l.live b, l.live b⟩ :: l.rounds }
  | .told _ _ => { l with rounds := answered l.rounds }
  | .ended _ => { l with rounds := l.rounds.tail }

/-- The ledger with one more entry. -/
def enter (l : Ledger) (e : ListenerEvent) : Ledger := { l.change e with size := l.size + 1 }

/-- The ledger of a log. -/
def of (log : List ListenerEvent) : Ledger := log.foldl enter {}

/-- The ledger before the entry at a place. -/
def before (log : List ListenerEvent) (n : Nat) : Ledger := of (log.take n)

/-- What an entry may be: scripts are numbered in order, who is registered or removed has an owner,
and the innermost notification calls those waiting in order, and ends when all have been called. -/
def Allows (l : Ledger) : ListenerEvent → Prop
  | .held _ id => id = l.scripts
  | .listened _ id => id ∈ l.owned.map Prod.snd
  | .ignored b id was => id ∈ l.owned.map Prod.snd ∧ (was = true ↔ id ∈ l.live b)
  | .told n id => ∃ r rest waiting, l.rounds = r :: rest ∧ r.start = n ∧ r.waiting = id :: waiting
  | .ended n => ∃ r rest, l.rounds = r :: rest ∧ r.start = n ∧ r.waiting = []
  | _ => True

/-- Each entry of a log is one that there may be. -/
def Kept (log : List ListenerEvent) : Prop :=
  ∀ n e, log[n]? = some e → (before log n).Allows e

theorem scripts_le_enter (l : Ledger) (e : ListenerEvent) : l.scripts ≤ (l.enter e).scripts := by
  cases e with
  | held name id => exact Nat.le_succ _
  | _ => exact Nat.le_refl _

theorem rounds_told {r : Round} {rest : List Round} {waiting : List ScriptId}
    (hrounds : l.rounds = r :: rest) (hwaiting : r.waiting = id :: waiting) (n : Nat) :
    (l.enter (.told n id)).rounds = { r with waiting } :: rest := by
  change answered l.rounds = _
  rw [hrounds, answered, hwaiting, List.tail_cons]

theorem rounds_ended {r : Round} {rest : List Round} (hrounds : l.rounds = r :: rest) (n : Nat) :
    (l.enter (.ended n)).rounds = rest := by
  change l.rounds.tail = _
  rw [hrounds, List.tail_cons]

/-! ## The ledger along its log -/

section Along

variable {log : List ListenerEvent} {n k : Nat}

theorem of_concat (log : List ListenerEvent) (e : ListenerEvent) :
    of (log ++ [e]) = (of log).enter e := by
  rw [of, List.foldl_append]
  rfl

theorem before_length (log : List ListenerEvent) : before log log.length = of log := by
  rw [before, List.take_length]

theorem before_append (log later : List ListenerEvent) (h : n ≤ log.length) :
    before (log ++ later) n = before log n := by
  rw [before, List.take_append_of_le_length h, before]

theorem before_succ (h : log[n]? = some e) : before log (n + 1) = (before log n).enter e := by
  rw [before, List.take_add_one, h, Option.toList_some, of_concat, before]

theorem size_before (h : n ≤ log.length) : (before log n).size = n := by
  induction n with
  | zero => rfl
  | succ n ih =>
    rw [before_succ (List.getElem?_eq_getElem h), enter, ih (Nat.le_of_succ_le h)]

theorem Kept.concat (h : Kept log) (he : (of log).Allows e) : Kept (log ++ [e]) := by
  intro n e' hn
  rcases Nat.lt_or_ge n log.length with hlt | hge
  · rw [List.getElem?_append_left hlt] at hn
    rw [before_append _ _ (Nat.le_of_lt hlt)]
    exact h n e' hn
  · rw [List.getElem?_append_right hge] at hn
    have hzero : n - log.length = 0 := by
      by_contra hne
      rw [List.getElem?_eq_none (by simp; omega)] at hn
      cases hn
    rw [hzero] at hn
    obtain rfl := Option.some.inj hn
    obtain rfl : n = log.length := by omega
    rw [before_append _ _ (Nat.le_refl _), before_length]
    exact he

/-- What holds of the empty log and is kept by every entry holds at every place. -/
theorem Kept.induction (h : Kept log) {P : Nat → Prop} (hzero : P 0)
    (hstep : ∀ n e, log[n]? = some e → n < log.length → (before log n).Allows e → P n → P (n + 1)) :
    ∀ n ≤ log.length, P n := by
  intro n hn
  induction n with
  | zero => exact hzero
  | succ n ih =>
    have hat : log[n]? = some log[n] := List.getElem?_eq_getElem hn
    exact hstep n _ hat hn (h n _ hat) (ih (Nat.le_of_succ_le hn))

end Along

/-! ## Who is alive -/

theorem alive_iff : l.alive id = true ↔
    id ∈ l.owned.map Prod.snd ∨ ∃ r ∈ l.rounds, id ∈ r.roster := by
  rw [alive, Bool.or_eq_true, List.any_eq_true, List.any_eq_true, List.mem_map]
  refine or_congr (exists_congr fun p => and_congr_right fun _ => beq_iff_eq) ?_
  exact exists_congr fun r => and_congr_right fun _ => List.contains_iff_mem

theorem mem_live {b : BroadcasterId} :
    id ∈ l.live b ↔ (b, id) ∈ l.registered ∧ l.alive id = true := by
  rw [live, List.mem_filter]
  refine and_congr_left fun _ => ?_
  constructor
  · intro h
    obtain ⟨p, hp, rfl⟩ := List.mem_map.mp h
    obtain ⟨hmem, hb⟩ := List.mem_filter.mp hp
    rw [← beq_iff_eq.mp hb]
    exact hmem
  · exact fun h => List.mem_map.mpr ⟨(b, id), List.mem_filter.mpr ⟨h, beq_self_eq_true b⟩, rfl⟩

/-- Scripts are numbered, each has one name, and open notifications are nested. -/
structure Sane (l : Ledger) : Prop where
  owned : ∀ p ∈ l.owned, p.2 < l.scripts
  names : (l.owned.map Prod.snd).Nodup
  registered : ∀ p ∈ l.registered, p.2 < l.scripts
  rosters : ∀ r ∈ l.rounds, ∀ id ∈ r.roster, id < l.scripts
  starts : ∀ r ∈ l.rounds, r.start < l.size
  nested : l.rounds.Pairwise fun r outer => outer.start < r.start

namespace Sane

theorem new : ({} : Ledger).Sane := ⟨nofun, .nil, nofun, nofun, nofun, .nil⟩

variable (h : l.Sane)
include h

theorem live_lt {b : BroadcasterId} (hid : id ∈ l.live b) : id < l.scripts :=
  h.registered _ (mem_live.mp hid).1

/-- The innermost notification is known by where it begins. -/
theorem eq_innermost {r r' : Round} {rest : List Round} (hrounds : l.rounds = r :: rest)
    (hr' : r' ∈ l.rounds) (hstart : r'.start = r.start) : r' = r := by
  have hnested := h.nested
  rw [hrounds, List.pairwise_cons] at hnested
  rw [hrounds] at hr'
  rcases List.mem_cons.mp hr' with rfl | hr'
  · rfl
  · exact absurd hstart (Nat.ne_of_lt (hnested.1 r' hr'))

/-- **Each entry that there may be keeps the ledger in order.** -/
theorem enter (he : l.Allows e) : (l.enter e).Sane := by
  have hstarts : ∀ r ∈ l.rounds, r.start < l.size + 1 := fun r hr =>
    Nat.lt_succ_of_lt (h.starts r hr)
  cases e with
  | held name id =>
    obtain rfl : id = l.scripts := he
    have hlt : ∀ p ∈ l.owned.filter (·.1 != name), p.2 < l.scripts := fun p hp =>
      h.owned p (List.mem_of_mem_filter hp)
    have hnew : l.scripts ∉ (l.owned.filter (·.1 != name)).map Prod.snd := by
      intro hmem
      obtain ⟨p, hp, hscripts⟩ := List.mem_map.mp hmem
      exact absurd hscripts (Nat.ne_of_lt (hlt p hp))
    refine ⟨fun p hp => ?_, ?_, fun p hp => Nat.lt_succ_of_lt (h.registered p hp),
      fun r hr id hid => Nat.lt_succ_of_lt (h.rosters r hr id hid), hstarts, h.nested⟩
    · rcases List.mem_cons.mp hp with rfl | hp
      · exact Nat.lt_succ_self _
      · exact Nat.lt_succ_of_lt (hlt p hp)
    · exact List.nodup_cons.mpr ⟨hnew, h.names.sublist (List.filter_sublist.map _)⟩
  | dropped name =>
    exact ⟨fun p hp => h.owned p (List.mem_of_mem_filter hp),
      h.names.sublist (List.filter_sublist.map _), h.registered, h.rosters, hstarts, h.nested⟩
  | listened b id =>
    refine ⟨h.owned, h.names, fun p hp => ?_, h.rosters, hstarts, h.nested⟩
    rcases List.mem_append.mp hp with hp | hp
    · exact h.registered p hp
    · obtain rfl := List.mem_singleton.mp hp
      obtain ⟨q, hq, rfl⟩ := List.mem_map.mp he
      exact h.owned q hq
  | ignored b id was =>
    exact ⟨h.owned, h.names, fun p hp => h.registered p (List.mem_of_mem_filter hp), h.rosters,
      hstarts, h.nested⟩
  | begun b =>
    refine ⟨h.owned, h.names, h.registered, fun r hr id hid => ?_, fun r hr => ?_,
      List.pairwise_cons.mpr ⟨h.starts, h.nested⟩⟩
    · rcases List.mem_cons.mp hr with rfl | hr
      · exact h.live_lt hid
      · exact h.rosters r hr id hid
    · rcases List.mem_cons.mp hr with rfl | hr
      · exact Nat.lt_succ_self _
      · exact hstarts r hr
  | told n id =>
    obtain ⟨r, rest, waiting, hrounds, -, hwaiting⟩ := he
    have hrounds' := rounds_told hrounds hwaiting n
    have hrosters := h.rosters
    have hnested := h.nested
    rw [hrounds, List.forall_mem_cons] at hrosters hstarts
    rw [hrounds, List.pairwise_cons] at hnested
    refine ⟨h.owned, h.names, h.registered, ?_, ?_, ?_⟩ <;> rw [hrounds']
    · exact List.forall_mem_cons.mpr hrosters
    · exact List.forall_mem_cons.mpr hstarts
    · exact List.pairwise_cons.mpr hnested
  | ended n =>
    have hmem : ∀ r ∈ l.rounds.tail, r ∈ l.rounds := fun r hr => List.mem_of_mem_tail hr
    exact ⟨h.owned, h.names, h.registered, fun r hr => h.rosters r (hmem r hr),
      fun r hr => hstarts r (hmem r hr), h.nested.sublist (List.tail_sublist _)⟩

end Sane

/-- **A script that is dead stays so.** -/
theorem alive_of_enter (he : l.Allows e) (hid : id < l.scripts)
    (h : (l.enter e).alive id = true) : l.alive id = true := by
  rw [alive_iff] at h ⊢
  cases e with
  | held name id' =>
    obtain rfl : id' = l.scripts := he
    refine h.imp_left fun howned => ?_
    obtain ⟨p, hp, rfl⟩ := List.mem_map.mp howned
    rcases List.mem_cons.mp hp with rfl | hp
    · exact absurd hid (Nat.lt_irrefl _)
    · exact List.mem_map_of_mem (List.mem_of_mem_filter hp)
  | dropped name =>
    refine h.imp_left fun howned => ?_
    obtain ⟨p, hp, rfl⟩ := List.mem_map.mp howned
    exact List.mem_map_of_mem (List.mem_of_mem_filter hp)
  | listened b id' => exact h
  | ignored b id' was => exact h
  | begun b =>
    rcases h with howned | ⟨r, hr, hroster⟩
    · exact .inl howned
    · rcases List.mem_cons.mp hr with rfl | hr
      · exact alive_iff.mp (mem_live.mp hroster).2
      · exact .inr ⟨r, hr, hroster⟩
  | told n id' =>
    obtain ⟨r, rest, waiting, hrounds, -, hwaiting⟩ := he
    rw [rounds_told hrounds hwaiting] at h
    rw [hrounds]
    rcases h with howned | ⟨r', hr', hroster⟩
    · exact .inl howned
    · rcases List.mem_cons.mp hr' with rfl | hr'
      · exact .inr ⟨r, List.mem_cons_self, hroster⟩
      · exact .inr ⟨r', List.mem_cons_of_mem _ hr', hroster⟩
  | ended n => exact h.imp_right fun ⟨r, hr, hroster⟩ => ⟨r, List.mem_of_mem_tail hr, hroster⟩

/-! ## Calls -/

/-- Whom an entry says that a notification calls. -/
def call? (n : Nat) : ListenerEvent → Option ScriptId
  | .told m id => if m = n then some id else none
  | _ => none

/-- The calls of a notification, in order. -/
def calls (n : Nat) (log : List ListenerEvent) : List ScriptId := log.filterMap (call? n)

section Calls

variable {log : List ListenerEvent} {n k : Nat}

theorem calls_take_succ (h : log[k]? = some e) (n : Nat) :
    calls n (log.take (k + 1)) = calls n (log.take k) ++ (call? n e).toList := by
  rw [calls, List.take_add_one, h, Option.toList_some, List.filterMap_append, calls]
  cases hcall : call? n e <;> simp [hcall]

theorem mem_calls : id ∈ calls n log ↔ .told n id ∈ log := by
  rw [calls, List.mem_filterMap]
  constructor
  · rintro ⟨e, he, hcall⟩
    cases e with
    | told m id' =>
      rw [call?] at hcall
      split_ifs at hcall with hm
      obtain rfl := Option.some.inj hcall
      exact hm ▸ he
    | _ => cases hcall
  · exact fun h => ⟨_, h, if_pos rfl⟩

theorem mem_take_succ (h : log[k]? = some e) {e' : ListenerEvent} :
    e' ∈ log.take (k + 1) ↔ e' ∈ log.take k ∨ e' = e := by
  rw [List.take_add_one, h, Option.toList_some, List.mem_append, List.mem_singleton]

/-- How far a notification has come before an entry: as long as it is open, those called and those
waiting make up its roster; when it has ended, all have been called. -/
inductive Progress (log : List ListenerEvent) (n : Nat) (roster : List ScriptId) (k : Nat) :
    Prop where
  | running (r : Round) (hr : r ∈ (before log k).rounds) (hstart : r.start = n)
      (hcalls : calls n (log.take k) ++ r.waiting = roster) (hend : .ended n ∉ log.take k)
  | finished (hcalls : calls n (log.take k) = roster) (hend : .ended n ∈ log.take k)
      (hrounds : ∀ r ∈ (before log k).rounds, r.start ≠ n)

/-- Of a notification that begins elsewhere nothing is to be said. -/
theorem mem_cons_iff_of_start {r x : Round} {rest : List Round} (hx : x.start ≠ n)
    (hr : r.start = n) : r ∈ x :: rest ↔ r ∈ rest := by
  rw [List.mem_cons, or_iff_right]
  rintro rfl
  exact hx hr

namespace Progress

variable {roster : List ScriptId} {r : Round} {rest : List Round} {waiting : List ScriptId}
  {b : BroadcasterId}

/-- An entry that concerns other notifications, or none, leaves one as it is. -/
theorem other (h : Progress log n roster k) (he : log[k]? = some e) (hcall : call? n e = none)
    (hend : e ≠ .ended n) (hrounds : ∀ r, r.start = n →
      (r ∈ (before log (k + 1)).rounds ↔ r ∈ (before log k).rounds)) :
    Progress log n roster (k + 1) := by
  have hsame : calls n (log.take (k + 1)) = calls n (log.take k) := by
    rw [calls_take_succ he, hcall]
    exact List.append_nil _
  cases h with
  | running r hr hstart hcalls hnot =>
    refine .running r ((hrounds r hstart).mpr hr) hstart (hsame ▸ hcalls) fun hmem => ?_
    rcases (mem_take_succ he).mp hmem with hmem | heq
    · exact hnot hmem
    · exact hend heq.symm
  | finished hcalls hmem hnone =>
    exact .finished (hsame.trans hcalls) ((mem_take_succ he).mpr (.inl hmem)) fun r hr hstart =>
      hnone r ((hrounds r hstart).mp hr) hstart

/-- The innermost notification is still open. -/
theorem innermost (h : Progress log r.start roster k) (hsane : (before log k).Sane)
    (hrounds : (before log k).rounds = r :: rest) :
    calls r.start (log.take k) ++ r.waiting = roster ∧ .ended r.start ∉ log.take k := by
  cases h with
  | running r' hr' hstart hcalls hnot =>
    obtain rfl : r' = r := hsane.eq_innermost hrounds hr' hstart
    exact ⟨hcalls, hnot⟩
  | finished hcalls hmem hnone => exact absurd rfl (hnone r (hrounds ▸ List.mem_cons_self))

/-- The innermost notification calls the first one of those waiting. -/
theorem told (h : Progress log n roster k) (hsane : (before log k).Sane)
    (he : log[k]? = some (.told r.start id)) (hrounds : (before log k).rounds = r :: rest)
    (hwaiting : r.waiting = id :: waiting) : Progress log n roster (k + 1) := by
  have hrounds' : (before log (k + 1)).rounds = { r with waiting } :: rest := by
    rw [before_succ he, rounds_told hrounds hwaiting]
  by_cases hr : r.start = n
  · subst hr
    obtain ⟨hcalls, hnot⟩ := h.innermost hsane hrounds
    refine .running { r with waiting } (hrounds' ▸ List.mem_cons_self) rfl ?_ fun hmem => ?_
    · rw [calls_take_succ he, call?, if_pos rfl, Option.toList_some, List.append_assoc,
        List.singleton_append, ← hwaiting]
      exact hcalls
    · rcases (mem_take_succ he).mp hmem with hmem | heq
      · exact hnot hmem
      · cases heq
  · refine h.other he (if_neg hr) nofun fun r' hr' => ?_
    rw [hrounds', hrounds]
    exact (mem_cons_iff_of_start (x := { r with waiting }) hr hr').trans
      (mem_cons_iff_of_start hr hr').symm

/-- The innermost notification ends when nobody waits. -/
theorem ended (h : Progress log n roster k) (hsane : (before log k).Sane)
    (he : log[k]? = some (.ended r.start)) (hrounds : (before log k).rounds = r :: rest)
    (hwaiting : r.waiting = []) : Progress log n roster (k + 1) := by
  have hrounds' : (before log (k + 1)).rounds = rest := by
    rw [before_succ he, rounds_ended hrounds]
  by_cases hr : r.start = n
  · subst hr
    obtain ⟨hcalls, -⟩ := h.innermost hsane hrounds
    rw [hwaiting, List.append_nil] at hcalls
    have hnested := hsane.nested
    rw [hrounds, List.pairwise_cons] at hnested
    refine .finished ?_ ((mem_take_succ he).mpr (.inr rfl)) fun r' hr' => ?_
    · rw [calls_take_succ he]
      exact (List.append_nil _).trans hcalls
    · exact Nat.ne_of_lt (hnested.1 r' (hrounds' ▸ hr'))
  · refine h.other he rfl (fun heq => hr (ListenerEvent.ended.inj heq)) fun r' hr' => ?_
    rw [hrounds', hrounds]
    exact (mem_cons_iff_of_start hr hr').symm

/-- **A notification goes on in order**: it calls the first one of those waiting, and ends when none
is left. -/
theorem step (h : Progress log n roster k) (hn : n < k) (hk : k ≤ log.length)
    (hsane : (before log k).Sane) (he : log[k]? = some e) (hallows : (before log k).Allows e) :
    Progress log n roster (k + 1) := by
  have hsucc := before_succ he
  cases e with
  | begun b =>
    refine h.other he rfl nofun fun r hr => ?_
    rw [hsucc]
    exact mem_cons_iff_of_start ((size_before hk).trans_ne (Nat.ne_of_gt hn)) hr
  | told m id =>
    obtain ⟨r, rest, waiting, hrounds, rfl, hwaiting⟩ := hallows
    exact h.told hsane he hrounds hwaiting
  | ended m =>
    obtain ⟨r, rest, hrounds, rfl, hwaiting⟩ := hallows
    exact h.ended hsane he hrounds hwaiting
  | _ =>
    refine h.other he rfl nofun fun r _ => ?_
    rw [hsucc]
    exact Iff.rfl

/-- A notification that begins has called nobody yet. -/
theorem begin (hn : n ≤ log.length) (he : log[n]? = some (.begun b))
    (htold : ∀ id, .told n id ∉ log.take n) (hend : .ended n ∉ log.take n) :
    Progress log n ((before log n).live b) (n + 1) := by
  have hnone : calls n (log.take n) = [] := by
    refine List.eq_nil_iff_forall_not_mem.mpr fun id hid => htold id ?_
    exact mem_calls.mp hid
  have hopen : (⟨n, (before log n).live b, (before log n).live b⟩ : Round) ∈
      (before log (n + 1)).rounds := by
    rw [before_succ he, enter, change, size_before hn]
    exact List.mem_cons_self
  refine .running _ hopen rfl ?_ fun hmem => ?_
  · rw [calls_take_succ he, hnone]
    rfl
  · rcases (mem_take_succ he).mp hmem with hmem | heq
    · exact hend hmem
    · cases heq

end Progress

/-- What can be said of a log up to an entry. -/
structure Course (log : List ListenerEvent) (k : Nat) : Prop where
  sane : (before log k).Sane
  begun : ∀ r ∈ (before log k).rounds, ∃ b, log[r.start]? = some (.begun b)
  told : ∀ n id, .told n id ∈ log.take k → n < k ∧ ∃ b, log[n]? = some (.begun b)
  ended : ∀ n, .ended n ∈ log.take k → n < k
  progress : ∀ n b, n < k → log[n]? = some (.begun b) →
    Progress log n ((before log n).live b) k

/-- Open notifications have begun, also after one more entry. -/
theorem Course.begun_succ (h : Course log k) (hk : k ≤ log.length) (he : log[k]? = some e)
    (hallows : (before log k).Allows e) :
    ∀ r ∈ (before log (k + 1)).rounds, ∃ b, log[r.start]? = some (.begun b) := by
  rw [before_succ he]
  cases e with
  | begun b =>
    intro r hr
    rcases List.mem_cons.mp hr with rfl | hr
    · rw [size_before hk]
      exact ⟨b, he⟩
    · exact h.begun r hr
  | told n id =>
    obtain ⟨r, rest, waiting, hrounds, -, hwaiting⟩ := hallows
    have hbegun := h.begun
    rw [hrounds, List.forall_mem_cons] at hbegun
    rw [rounds_told hrounds hwaiting]
    exact List.forall_mem_cons.mpr hbegun
  | ended n => exact fun r hr => h.begun r (List.mem_of_mem_tail hr)
  | _ => exact h.begun

/-- **The course of a log** in which each entry is one that there may be. -/
theorem Kept.course (h : Kept log) : ∀ k ≤ log.length, Course log k := by
  refine h.induction ⟨.new, nofun, by simp, by simp, nofun⟩ fun k e he hk hallows ih => ?_
  have hinnermost : ∀ r rest, (before log k).rounds = r :: rest → r.start < k := fun r rest hr =>
    size_before (Nat.le_of_lt hk) ▸ ih.sane.starts r (hr ▸ List.mem_cons_self)
  refine ⟨before_succ he ▸ ih.sane.enter hallows, ih.begun_succ (Nat.le_of_lt hk) he hallows,
    fun n id hmem => ?_, fun n hmem => ?_, fun n b hn hbegun => ?_⟩
  · rcases (mem_take_succ he).mp hmem with hmem | rfl
    · exact ⟨Nat.lt_succ_of_lt (ih.told n id hmem).1, (ih.told n id hmem).2⟩
    · obtain ⟨r, rest, -, hrounds, rfl, -⟩ := hallows
      exact ⟨Nat.lt_succ_of_lt (hinnermost r rest hrounds),
        ih.begun r (hrounds ▸ List.mem_cons_self)⟩
  · rcases (mem_take_succ he).mp hmem with hmem | rfl
    · exact Nat.lt_succ_of_lt (ih.ended n hmem)
    · obtain ⟨r, rest, hrounds, rfl, -⟩ := hallows
      exact Nat.lt_succ_of_lt (hinnermost r rest hrounds)
  · rcases Nat.lt_succ_iff_lt_or_eq.mp hn with hn | rfl
    · exact (ih.progress n b hn hbegun).step hn (Nat.le_of_lt hk) ih.sane he hallows
    · exact .begin (Nat.le_of_lt hk) hbegun
        (fun id hmem => Nat.lt_irrefl _ (ih.told n id hmem).1)
        fun hmem => Nat.lt_irrefl _ (ih.ended n hmem)

/-! ## What is struck from the ledger -/

/-- A registration that is removed is no registration until it is made again. -/
theorem unregistered_of_ignored {i : Nat} {b : BroadcasterId} {was : Bool}
    (hi : log[i]? = some (.ignored b id was)) (hin : i < n) (hn : n ≤ log.length)
    (hnone : ∀ j, i < j → j < n → log[j]? ≠ some (.listened b id)) :
    (b, id) ∉ (before log n).registered := by
  induction n, hin using Nat.le_induction with
  | base =>
    rw [before_succ hi]
    intro hmem
    simpa using (List.mem_filter.mp hmem).2
  | succ n hin ih =>
    have hbefore := ih (Nat.le_of_succ_le hn) fun j hij hj => hnone j hij (Nat.lt_succ_of_lt hj)
    have he : log[n]? = some log[n] := List.getElem?_eq_getElem hn
    have hother := hnone n hin (Nat.lt_succ_self n)
    rw [before_succ he]
    generalize log[n] = e at he
    cases e with
    | listened b' id' =>
      intro hmem
      rcases List.mem_append.mp hmem with hmem | hmem
      · exact hbefore hmem
      · obtain ⟨rfl, rfl⟩ := Prod.mk.inj (List.mem_singleton.mp hmem)
        exact hother he
    | ignored b' id' was' => exact fun hmem => hbefore (List.mem_of_mem_filter hmem)
    | _ => exact hbefore

/-- **A script that is dead is never alive again.** -/
theorem Kept.dead_stays (h : Kept log) {j : Nat} (hid : id < (before log j).scripts)
    (hdead : (before log j).alive id = false) (hjn : j ≤ n) (hn : n ≤ log.length) :
    (before log n).alive id = false ∧ id < (before log n).scripts := by
  induction n, hjn using Nat.le_induction with
  | base => exact ⟨hdead, hid⟩
  | succ n hjn ih =>
    obtain ⟨hdead', hid'⟩ := ih (Nat.le_of_succ_le hn)
    have he : log[n]? = some log[n] := List.getElem?_eq_getElem hn
    rw [before_succ he]
    refine ⟨Bool.eq_false_iff.mpr fun halive => ?_, ?_⟩
    · rw [alive_of_enter (h n _ he) hid' halive] at hdead'
      cases hdead'
    · generalize log[n] = e
      cases e with
      | held name id' => exact Nat.lt_succ_of_lt hid'
      | _ => exact hid'

/-- A script without an owner has none again. -/
theorem Kept.unowned_stays (h : Kept log) {i : Nat} (hid : id < (before log i).scripts)
    (hfree : id ∉ (before log i).owned.map Prod.snd) (hin : i ≤ n) (hn : n ≤ log.length) :
    id ∉ (before log n).owned.map Prod.snd ∧ id < (before log n).scripts := by
  induction n, hin using Nat.le_induction with
  | base => exact ⟨hfree, hid⟩
  | succ n hin ih =>
    obtain ⟨hfree', hid'⟩ := ih (Nat.le_of_succ_le hn)
    have he : log[n]? = some log[n] := List.getElem?_eq_getElem hn
    have hallows := h n _ he
    rw [before_succ he]
    generalize log[n] = e at hallows
    cases e with
    | held name id' =>
      obtain rfl : id' = (before log n).scripts := hallows
      refine ⟨fun hmem => ?_, Nat.lt_succ_of_lt hid'⟩
      rcases List.mem_cons.mp hmem with rfl | hmem
      · exact Nat.lt_irrefl _ hid'
      · exact hfree' ((List.filter_sublist.map Prod.snd).subset hmem)
    | dropped name =>
      exact ⟨fun hmem => hfree' ((List.filter_sublist.map Prod.snd).subset hmem), hid'⟩
    | _ => exact ⟨hfree', hid'⟩

/-- A script that is dropped has no owner any more. -/
theorem Sane.unowned_of_dropped (h : l.Sane) {name : String} (howned : (name, id) ∈ l.owned) :
    id ∉ (World.unnamed name l.owned).map Prod.snd := by
  intro hmem
  obtain ⟨p, hp, hid⟩ := List.mem_map.mp hmem
  obtain ⟨hp, hname⟩ := List.mem_filter.mp hp
  have hsame : p = (name, id) := List.inj_on_of_nodup_map h.names hp howned hid
  rw [hsame] at hname
  simp at hname

/-! ## What a log tells -/

/-- What a log tells of notifications. -/
structure Delivered (log : List ListenerEvent) : Prop where
  /-- A notification calls the registrations that were alive when it began, in order. -/
  ordered : ∀ n b, log[n]? = some (.begun b) → calls n log <+: (before log n).live b
  /-- It has called each of them once when it ends. -/
  complete : ∀ n b, log[n]? = some (.begun b) → .ended n ∈ log →
    calls n log = (before log n).live b
  /-- Until then it is open. -/
  pending : ∀ n b, log[n]? = some (.begun b) → .ended n ∉ log → ∃ r ∈ (of log).rounds, r.start = n
  /-- Nobody is called but by notifications. -/
  begun : ∀ n id, .told n id ∈ log → ∃ b, log[n]? = some (.begun b)
  /-- To remove a script says whether it was registered. -/
  ignored : ∀ n b id was, log[n]? = some (.ignored b id was) →
    (was = true ↔ id ∈ (before log n).live b)
  /-- No notification that begins later calls a script that was removed, unless it is registered
  again. -/
  removed : ∀ i n b id was, log[i]? = some (.ignored b id was) → i < n →
    log[n]? = some (.begun b) → (∀ j, i < j → j < n → log[j]? ≠ some (.listened b id)) →
      .told n id ∉ log
  /-- No notification calls a script that was dropped, if it begins after no notification was
  open. -/
  dropped : ∀ i j n name id, log[i]? = some (.dropped name) → (name, id) ∈ (before log i).owned →
    i < j → (before log j).rounds = [] → j ≤ n → .told n id ∉ log

/-- A notification has called those of its roster who wait no more. -/
theorem Kept.progress (h : Kept log) {b : BroadcasterId} (hn : log[n]? = some (.begun b)) :
    (∃ r ∈ (of log).rounds, r.start = n ∧ calls n log ++ r.waiting = (before log n).live b ∧
        .ended n ∉ log) ∨
      (calls n log = (before log n).live b ∧ .ended n ∈ log) := by
  have hlt : n < log.length := (List.getElem?_eq_some_iff.mp hn).1
  cases (h.course log.length (Nat.le_refl _)).progress n b hlt hn with
  | running r hr hstart hcalls hend =>
    rw [List.take_length] at hcalls hend
    exact .inl ⟨r, before_length log ▸ hr, hstart, hcalls, hend⟩
  | finished hcalls hend _ =>
    rw [List.take_length] at hcalls hend
    exact .inr ⟨hcalls, hend⟩

/-- Whom a notification calls was registered and alive when it began. -/
theorem Kept.live_of_told (h : Kept log) {b : BroadcasterId} (hn : log[n]? = some (.begun b))
    (htold : .told n id ∈ log) : id ∈ (before log n).live b := by
  have hcall : id ∈ calls n log := mem_calls.mpr htold
  rcases h.progress hn with ⟨r, -, -, hcalls, -⟩ | ⟨hcalls, -⟩
  · exact hcalls ▸ List.mem_append_left _ hcall
  · exact hcalls ▸ hcall

/-- **A log in which each entry is one that there may be tells of deliveries.** -/
theorem Delivered.of_kept (h : Kept log) : Delivered log where
  ordered n b hn := by
    rcases h.progress hn with ⟨r, -, -, hcalls, -⟩ | ⟨hcalls, -⟩
    · exact hcalls ▸ List.prefix_append _ _
    · exact hcalls ▸ List.prefix_refl _
  complete n b hn hend := by
    rcases h.progress hn with ⟨r, -, -, -, hnot⟩ | ⟨hcalls, -⟩
    · exact absurd hend hnot
    · exact hcalls
  pending n b hn hend := by
    rcases h.progress hn with ⟨r, hr, hstart, -, -⟩ | ⟨-, hmem⟩
    · exact ⟨r, hr, hstart⟩
    · exact absurd hmem hend
  begun n id htold := by
    have hcourse := h.course log.length (Nat.le_refl _)
    exact (hcourse.told n id (by rwa [List.take_length])).2
  ignored n b id was hn := (h n _ hn).2
  removed i n b id was hi hin hn hnone htold := by
    have hle : n ≤ log.length := Nat.le_of_lt (List.getElem?_eq_some_iff.mp hn).1
    exact unregistered_of_ignored hi hin hle hnone (mem_live.mp (h.live_of_told hn htold)).1
  dropped i j n name id hi howned hij hrounds hjn htold := by
    obtain ⟨b, hn⟩ := ((h.course log.length (Nat.le_refl _)).told n id
      (by rwa [List.take_length])).2
    have hle : n ≤ log.length := Nat.le_of_lt (List.getElem?_eq_some_iff.mp hn).1
    have hilog : i < log.length := (List.getElem?_eq_some_iff.mp hi).1
    have hsane := (h.course i (Nat.le_of_lt hilog)).sane
    have hid : id < (before log (i + 1)).scripts := by
      rw [before_succ hi]
      exact hsane.owned _ howned
    have hfree : id ∉ (before log (i + 1)).owned.map Prod.snd := by
      rw [before_succ hi]
      exact hsane.unowned_of_dropped howned
    obtain ⟨hfree', hid'⟩ := h.unowned_stays hid hfree hij (Nat.le_trans hjn hle)
    have hdead : (before log j).alive id = false := by
      refine Bool.eq_false_iff.mpr fun halive => ?_
      rcases alive_iff.mp halive with hmem | ⟨r, hr, -⟩
      · exact hfree' hmem
      · rw [hrounds] at hr
        cases hr
    have hdead' := (h.dead_stays hid' hdead hjn hle).1
    rw [(mem_live.mp (h.live_of_told hn htold)).2] at hdead'
    cases hdead'

end Calls

end Ledger
end Live
end Theming
