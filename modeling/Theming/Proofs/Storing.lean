/-
# What turns do to the list of slots

A turn sets one slot, gives one slot another observer, or leaves all slots as they are; new slots
come after those that are there, observed by nobody.

| turn | slots | calls that follow |
| --- | --- | --- |
| that sets a slot | the slot has the value, and a version more | one for each of its observers |
| that observes a slot | the slot has one observer more | none |
| that makes a target, or puts a new slot into a field | empty ones are added | none |
| that binds a target | ones that have been set once are added | none |
| any other | | none |
-/

import Theming.Proofs.Endowing

namespace Theming
namespace Live

variable {catalog : Catalog} {w w' : World} {s : SlotId}

/-- The slot that an errand sets, and to what. -/
def Errand.stores? : Errand → Option (SlotId × Value)
  | move (.deed (.command (.set slot value))) => some (slot, value)
  | publish _ pending => some (pending.slot, pending.value)
  | _ => none

/-- The slot that an errand gives another observer. -/
def Errand.joins? : Errand → Option (SlotId × Observer)
  | move (.deed (.command (.observe slot observer))) => some (slot, observer)
  | _ => none

/-- The call of an observer of a slot. -/
def Errand.call? (s : SlotId) : Errand → Option (Value × Observer)
  | call slot value observer => if slot = s then some (value, observer) else none
  | _ => none

/-- The calls that are to be made of observers of a slot. -/
def callsOf (s : SlotId) (errands : List Errand) : List (Value × Observer) :=
  errands.filterMap (Errand.call? s)

/-- A slot that has just been made: it has been set at most once, and nobody observes it. -/
structure Slot.IsNew (x : Slot) : Prop where
  observers : x.observers = []
  version : x.version = x.value.toList.length

/-- Slots are added, and no call of an observer follows. -/
structure Sprouts (w : World) (u : Upshot) : Prop where
  slots : ∃ born, u.world.slots = w.slots ++ born ∧ ∀ x ∈ born, x.IsNew
  calls : ∀ s, callsOf s u.errands = []

namespace Sprouts

/-- Nothing is done to slots. -/
theorem still {u : Upshot} (hslots : u.world.slots = w.slots)
    (hcalls : ∀ e ∈ u.errands, ∀ s, e.call? s = none) : Sprouts w u :=
  ⟨⟨[], by rw [hslots, List.append_nil], List.forall_mem_nil _⟩,
    fun s => List.filterMap_eq_nil_iff.mpr fun e he => hcalls e he s⟩

theorem silent (h : w'.slots = w.slots) : Sprouts w (.silent w') := still h nofun

theorem seated {part : Handle} {field : String} {slot : SlotId}
    (h : ∃ born, w'.slots = w.slots ++ born ∧ ∀ x ∈ born, x.IsNew) :
    Sprouts w (.seated w part field slot w') := ⟨h, fun _ => rfl⟩

end Sprouts

/-! ## Calls of observers -/

theorem Errand.call?_of_stores {errand : Errand} {x : SlotId × Value}
    (h : errand.stores? = some x) : errand.call? s = none := by
  cases errand with
  | call => cases h
  | _ => rfl

/-- Who sets a slot does not call user code for an action. -/
theorem Errand.action?_of_stores (errand : Errand) {x : SlotId × Value}
    (h : errand.stores? = some x) : errand.action? = none := by
  cases errand with
  | hear => cases h
  | _ => rfl

theorem Errand.call?_of_joins {errand : Errand} {x : SlotId × Observer}
    (h : errand.joins? = some x) : errand.call? s = none := by
  cases errand with
  | call => cases h
  | _ => rfl

theorem callsOf_append (s : SlotId) (errands errands' : List Errand) :
    callsOf s (errands ++ errands') = callsOf s errands ++ callsOf s errands' :=
  List.filterMap_append

theorem callsOf_map_call (s s' : SlotId) (v : Value) (observers : List Observer) :
    callsOf s (observers.map (.call s' v)) =
      if s' = s then observers.map fun o => (v, o) else [] := by
  rw [callsOf, List.filterMap_map]
  split_ifs with h
  · subst h
    simp [Function.comp_def, Errand.call?]
  · simp [Function.comp_def, Errand.call?, h]

theorem World.observers_eq {x : Slot} (h : w.slots[s]? = some x) : w.observers s = x.observers := by
  rw [observers, h]
  rfl

theorem World.slots_observe (w : World) (s s' : SlotId) (o : Observer) :
    (w.observe s' o).slots[s]? =
      if s = s' then w.slots[s]?.map fun x => { x with observers := x.observers ++ [o] }
      else w.slots[s]? := by
  rw [observe, List.getElem?_modify]
  split_ifs with h h' h'
  · rfl
  · exact absurd h.symm h'
  · exact absurd h'.symm h
  · exact Option.map_id'

/-! ## Commands -/

theorem create_sprouts (w : World) (T : TypeDefinition) :
    Sprouts w ((Command.create T).turn w) := by
  obtain ⟨n, c, hworld, -, -⟩ := w.addTarget_eq T
  refine ⟨⟨List.replicate n {}, ?_, fun x hx => ?_⟩, fun _ => rfl⟩
  · change (w.addTarget T).2.slots = _
    rw [hworld]
    rfl
  · obtain rfl := List.eq_of_mem_replicate hx
    exact ⟨rfl, rfl⟩

theorem register_sprouts (w : World) (T : TypeDefinition) (name : String) :
    Sprouts w ((Command.register T name).turn w) := by
  refine .silent ?_
  rw [World.register]
  cases w.binder.resolver.registry.warning? (.keeper T name) <;> rfl

theorem addSkin_sprouts (w : World) (m : ManagerId) (skin : Skin) :
    Sprouts w ((Command.addSkin m skin).turn w) := by
  refine .silent ?_
  rw [World.addSkin]
  split_ifs <;> rfl

theorem activate_sprouts (w : World) (m : ManagerId) (name : String) :
    Sprouts w ((Command.activate m name).turn w) := by
  rw [Command.turn]
  cases (w.manager m).skin? name with
  | none => exact .silent rfl
  | some skin => exact .still rfl fun e he s => List.mem_singleton.mp he ▸ rfl

theorem unbind_sprouts (w : World) (t : TargetId) : Sprouts w ((Command.unbind t).turn w) := by
  obtain ⟨trace, h⟩ := unbind_eq w t
  refine .silent ?_
  rw [h]
  exact w.slots_vacated t

theorem renew_sprouts (w : World) (part : Handle) (field : String) :
    Sprouts w ((Command.renew part field).turn w) := by
  refine .seated ?_
  rw [World.renew]
  cases w.slotAt? part field with
  | none => exact ⟨[], (List.append_nil _).symm, List.forall_mem_nil _⟩
  | some s =>
    exact ⟨[{}], rfl, fun x hx => List.mem_singleton.mp hx ▸ ⟨rfl, rfl⟩⟩

/-- **A bind lets a new companion join that serves the target**, or has only asked for one. -/
theorem bind_rebounds (hb : Bonds catalog w) (hserved : w.Served) (t : TargetId)
    (context : Context) :
    ∃ r w', (Command.bind t context).turn w = { effect := .bound t r, world := w' } ∧
      (Akin w w' ∨ ∃ T path A name, w.Poised catalog t T ∧ catalog.Embeds T path A ∧
        (w.binder.resolver.resolve T.info).result = .ok (some (.keeper A name)) ∧
        Rebound w t T A name ⟨t, path, A.info.declared⟩ context w') := by
  obtain ⟨r, w', hrun, hturn, -⟩ := hb.bind_turn t context
  refine ⟨r, w', hturn, ?_⟩
  have hsame : ∀ {r₁ w₁}, Live.bind (fun _ _ => pure ()) t context w = some (r₁, w₁) → w₁ = w' :=
    fun h => (Prod.mk.inj (Option.some.inj (h.symm.trans (hrun _)))).2
  cases hT : w.typeOf? t with
  | none => exact .inl (hsame (bind_of_absent hT context _) ▸ .refl w)
  | some T =>
    cases hprepared : w.binder.prepared T.info t with
    | error e => exact .inl (hsame (bind_refused hT hprepared) ▸ .resolving w T.info)
    | ok found =>
      obtain ⟨entry, handle⟩ := found
      obtain ⟨A, name, hA, rfl, -, -⟩ := hb.prepared hT hprepared
      have hresolve := (Binder.of_prepared hprepared).1
      have hpoised := hb.poised hserved hT
      obtain ⟨w₁, hbind, hrebound⟩ := hpoised.bind hA hresolve context
      obtain rfl := hsame (hbind _)
      exact .inr ⟨T, _, A, name, hpoised, hA, hresolve, hrebound⟩

/-- A bind adds the slots of the new companion, each of which has been set once. -/
theorem bind_sprouts (hb : Bonds catalog w) (hserved : w.Served) (t : TargetId)
    (context : Context) : Sprouts w ((Command.bind t context).turn w) := by
  obtain ⟨r, w', hturn, hakin | ⟨T, path, A, name, hpoised, hA, hresolve, hrebound⟩⟩ :=
    bind_rebounds hb hserved t context
  · rw [hturn]
    exact .still hakin.slots nofun
  · rw [hturn]
    refine ⟨⟨_, (hpoised.endows hA hresolve hrebound).slots, fun x hx => ?_⟩, fun _ => rfl⟩
    obtain ⟨f, -, rfl⟩ := List.mem_map.mp hx
    exact ⟨rfl, rfl⟩

/-! ## Errands -/

/-- **Every turn but one that sets a slot, or gives it an observer, only adds slots.** -/
theorem Errand.sprouts (hb : Bonds catalog w) (hserved : w.Served) (moves : List Move)
    {errand : Errand} (hstores : errand.stores? = none) (hjoins : errand.joins? = none) :
    Sprouts w (errand.turn moves w) := by
  cases errand with
  | move m =>
    cases m with
    | deed d =>
      cases d with
      | command c =>
        cases c with
        | create T => exact create_sprouts w T
        | register T name => exact register_sprouts w T name
        | addSkin m skin => exact addSkin_sprouts w m skin
        | activate m name => exact activate_sprouts w m name
        | bind t context => exact bind_sprouts hb hserved t context
        | unbind t => exact unbind_sprouts w t
        | observe s o => cases hjoins
        | write t path content => exact .still rfl nofun
        | renew part field => exact renew_sprouts w part field
        | set s v => cases hstores
      | notify b skin =>
        refine .still rfl fun e he s => ?_
        rcases List.mem_append.mp he with he | he
        · obtain ⟨l, -, rfl⟩ := List.mem_map.mp he
          rfl
        · exact List.mem_singleton.mp he ▸ rfl
      | resolve T =>
        obtain ⟨trace, hresolving⟩ := w.resolving_eq T.info
        refine .silent ?_
        rw [resolve_eq, hresolving]
      | record o => exact .silent rfl
    | place part field slot =>
      refine .seated ⟨[], ?_, List.forall_mem_nil _⟩
      rw [World.place, List.append_nil]
      cases w.slotAt? part field <;> rfl
    | hold script => exact .silent rfl
    | listen b name =>
      refine .silent ?_
      rw [World.listen]
      cases w.scriptOf? name <;> rfl
    | ignore b name =>
      refine .silent ?_
      rw [World.ignore]
      cases w.scriptOf? name <;> rfl
    | drop name => exact .silent rfl
  | hear =>
    refine .still rfl fun e he s => ?_
    obtain ⟨m, -, rfl⟩ := List.mem_map.mp he
    rfl
  | call s v o =>
    refine .still rfl fun e he s => ?_
    obtain ⟨a, -, rfl⟩ := List.mem_map.mp he
    rfl
  | publish t p => cases hstores
  | tell l =>
    cases l with
    | companion id =>
      change Sprouts w ((Listener.companion id).turn w)
      rcases hb.told id with hdetached | ⟨A, name, context, handle, hc, -, hsuited, hnames⟩
      · rw [Listener.turn_of_detached hdetached]
        exact .silent rfl
      · rw [Listener.turn_of_keeper hc]
        obtain ⟨-, hrefreshed⟩ :=
          updateFields_refreshed w handle context.manager A.bound hsuited hnames
        refine .still hrefreshed.slots fun e he s => ?_
        obtain ⟨p, -, rfl⟩ := List.mem_map.mp he
        rfl
    | script id =>
      change Sprouts w ((Listener.script id).turn w)
      rw [Listener.turn]
      cases w.scripts[id]? with
      | none => exact .silent rfl
      | some s =>
        refine .still rfl fun e he s => ?_
        obtain ⟨a, -, rfl⟩ := List.mem_map.mp he
        rfl
  | close pinned b skin => exact .silent rfl

/-- A turn that sets a slot is followed by the calls of those who observe it. -/
theorem Errand.turn_of_stores {errand : Errand} {s : SlotId} {v : Value}
    (h : errand.stores? = some (s, v)) (moves : List Move) (w : World) :
    (errand.turn moves w).world = w.store s v ∧
      (errand.turn moves w).errands = ((w.store s v).observers s).map (.call s v) := by
  unfold stores? at h
  split at h
  · cases h
    exact ⟨rfl, rfl⟩
  · cases h
    exact ⟨rfl, rfl⟩
  · cases h

theorem Errand.turn_of_joins {errand : Errand} {s : SlotId} {o : Observer}
    (h : errand.joins? = some (s, o)) (moves : List Move) (w : World) :
    (errand.turn moves w).world = w.observe s o ∧ (errand.turn moves w).errands = [] := by
  unfold joins? at h
  split at h
  · cases h
    exact ⟨rfl, rfl⟩
  · cases h

/-- **What a turn adds to the slots is new**: nobody is called who would observe it. -/
theorem Errand.turn_beyond (hb : Bonds catalog w) (hserved : w.Served) (moves : List Move)
    (errand : Errand) (hs : ¬ s < w.slots.length) :
    (∀ x, (errand.turn moves w).world.slots[s]? = some x → x.IsNew) ∧
      callsOf s (errand.turn moves w).errands = [] := by
  have hnone : w.slots[s]? = none := List.getElem?_eq_none (Nat.le_of_not_lt hs)
  cases hstores : errand.stores? with
  | some stored =>
    obtain ⟨s', v⟩ := stored
    obtain ⟨hworld, herrands⟩ := errand.turn_of_stores hstores moves w
    have hstored : (w.store s' v).slots[s]? = none := by
      rw [World.slots_store]
      split_ifs with hsame
      · rw [← hsame, hnone, Option.map_none]
      · exact hnone
    rw [hworld, herrands, callsOf_map_call]
    refine ⟨fun x hx => (nomatch hstored.symm.trans hx), ?_⟩
    split_ifs with hsame
    · subst hsame
      rw [World.observers, hstored]
      rfl
    · rfl
  | none =>
    cases hjoins : errand.joins? with
    | some joined =>
      obtain ⟨s', o⟩ := joined
      obtain ⟨hworld, herrands⟩ := errand.turn_of_joins hjoins moves w
      have hobserved : (w.observe s' o).slots[s]? = none := by
        rw [World.slots_observe, hnone]
        split_ifs <;> rfl
      rw [hworld, herrands]
      exact ⟨fun x hx => (nomatch hobserved.symm.trans hx), rfl⟩
    | none =>
      have hsprouts := errand.sprouts hb hserved moves hstores hjoins
      obtain ⟨born, hslots, hborn⟩ := hsprouts.slots
      refine ⟨fun x hx => ?_, hsprouts.calls s⟩
      rw [hslots, List.getElem?_append_right (Nat.le_of_not_lt hs)] at hx
      exact hborn x (List.mem_of_getElem? hx)

end Live
end Theming
