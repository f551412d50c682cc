/-
# A target is bound as what it is

Which companion a target gets is settled by strings: the path of a type, and the path under which the
type of a companion is declared. Nothing there rules out that a companion is looked up for a type that
it cannot be for, the more so as companions can be registered in place of others while the table of
the resolver keeps what it found before. It is the table that rules it out (`World.Ancestral`):

* what it has for a type is for the type or an ancestor, so handles can be taken there;
* it has a companion for the type of every bound target, and keeps it.

Every turn keeps this (`Takes.ancestral`). So in every world that can be told a bind fails only for
want of a companion, and not at all where a target is bound already (`Session.binds_upward`).
-/

import Theming.Proofs.Search
import Theming.Proofs.Sessions

namespace Theming

/-- What the types of a catalog are to a resolver. -/
def Catalog.family (catalog : Catalog) : TypeFamily where
  has info := ∃ T, catalog.has T ∧ T.info = info
  parent := by
    rintro _ up ⟨T, hT, rfl⟩ hup
    cases hinfo : T.info with
    | root declared name =>
      rw [hinfo] at hup
      cases hup
    | derived declared name via parent =>
      rw [hinfo] at hup
      obtain rfl := Option.some.inj hup
      obtain ⟨B, hB, hparent, -⟩ := catalog.parent hT hinfo
      exact ⟨B, hB, hparent⟩
  unique := by
    rintro _ _ ⟨A, hA, rfl⟩ ⟨B, hB, rfl⟩ h
    rw [catalog.unique hA hB h]

theorem Catalog.family_has {catalog : Catalog} {T : TypeDefinition} (h : catalog.has T) :
    catalog.family.has T.info := ⟨T, h, rfl⟩

/-- An error for want of a companion of a type. -/
inductive TypeInfo.Misses (info : TypeInfo) : BindingError → Prop where
  | none : Misses info (.noBinding info.name)
  /-- The companion at the path of the type, or of an ancestor, is for another type. -/
  | foreign {up : TypeInfo} (h : up ∈ info.chain) (companion found : String) :
    Misses info (.signatureMismatch up.name companion found)

/-! ## What is prepared -/

namespace Binder

variable {κ : Type} {b : Binder κ} {family : TypeFamily} {info : TypeInfo} {t : TargetId}

/-- If a companion is found, all is prepared. -/
theorem prepared_of_resolved (hb : b.resolver.Upward family) (hinfo : family.has info)
    {entry : CompanionEntry} (h : (b.resolver.resolve info).result = .ok (some entry)) :
    ∃ handle, b.prepared info t = .ok (entry, handle) := by
  have hreaches := ((b.resolver.search_resolve info).upward hb hinfo).1 entry h
  have htype : (Handle.mk t [] info.declared).type = info.declared := rfl
  obtain ⟨handle, hclimb, -⟩ := TypeInfo.climb_of_reaches hreaches htype info.name
  refine ⟨handle, ?_⟩
  rw [prepared, h]
  dsimp only
  rw [TypeInfo.upcast, hclimb]
  rfl

/-- **Nothing but a companion can be missing.** -/
theorem misses_of_prepared (hb : b.resolver.Upward family) (hinfo : family.has info)
    {e : BindingError} (h : b.prepared info t = .error e) : info.Misses e := by
  rcases hresult : (b.resolver.resolve info).result with e' | _ | entry
  · rw [prepared, hresult] at h
    obtain rfl := Except.error.inj h
    have hsearch := b.resolver.search_resolve info
    rw [hresult] at hsearch
    obtain ⟨up, hup, companion, found, rfl⟩ := hsearch.refused
    exact .foreign hup companion found
  · rw [prepared, hresult] at h
    rw [← Except.error.inj h]
    exact .none
  · obtain ⟨handle, hprepared⟩ := prepared_of_resolved (t := t) hb hinfo hresult
    cases hprepared.symm.trans h

end Binder

namespace Live

variable {setting : Setting} {act : Act} {w w' : World}

/-! ## What the table knows -/

/-- The table of the resolver leads upward and has a companion for the type of every bound
target. -/
structure World.Ancestral (w : World) (catalog : Catalog) : Prop where
  upward : w.binder.resolver.Upward catalog.family
  found : ∀ t id T, (t, id) ∈ w.binder.active → w.typeOf? t = some T →
    ∃ entry, w.binder.resolver.table.lookup T.info.declared = some (some entry)

/-- A bound target has a type. -/
theorem Sound.typeOf_active (hs : Sound setting w) {t : TargetId} {id : CompanionId}
    (h : (t, id) ∈ w.binder.active) : ∃ T, w.typeOf? t = some T := by
  obtain ⟨c, handle, hc, htarget, rfl⟩ := hs.active t id h
  obtain ⟨T, -, -, hT, -⟩ := hs.attached id c handle hc htarget
  exact ⟨T, hT⟩

theorem World.Ancestral.calm (hs : Sound setting w) {catalog : Catalog} (h : w.Ancestral catalog)
    (hcalm : Calm w w') : w'.Ancestral catalog := by
  refine ⟨?_, fun t id T hactive hT => ?_⟩
  · rw [hcalm.binder]
    exact h.upward
  · rw [hcalm.binder] at hactive ⊢
    obtain ⟨T', hT'⟩ := hs.typeOf_active hactive
    obtain rfl := Option.some.inj ((hcalm.types t T' hT').symm.trans hT)
    exact h.found t id T' hactive hT'

/-- A turn leaves the table as it is, or a type has been searched for. -/
theorem Takes.searches (hs : Sound setting w) {turn : Turn} (h : Takes setting w turn w') :
    w'.binder.resolver.table = w.binder.resolver.table ∨
      ∃ T result, setting.catalog.has T ∧
        Resolver.Search w.binder.resolver T.info result w'.binder.resolver := by
  cases h with
  | register name hT =>
    left
    rw [World.binder_register]
    rfl
  | @resolve T hT =>
    refine .inr ⟨T, (w.binder.resolver.resolve T.info).result, hT, ?_⟩
    rw [resolve_eq, (hs.resolving _).binder]
    exact Resolver.search_resolve _ _
  | @bind _ t T _ _ hT hcontext hrun =>
    refine .inr ⟨T, (w.binder.resolver.resolve T.info).result, hs.types t T hT, ?_⟩
    rw [(hs.binds hT hcontext hrun).resolver]
    exact Resolver.search_resolve _ _
  | unbind t =>
    left
    rw [(hs.unbind t).binder]
    rfl

/-- **What the table has it keeps.** -/
theorem Takes.keeps (hs : Sound setting w) {turn : Turn} (h : Takes setting w turn w')
    {declared : String} {found : Option CompanionEntry}
    (hfound : w.binder.resolver.table.lookup declared = some found) :
    w'.binder.resolver.table.lookup declared = some found := by
  obtain htable | ⟨T, result, -, hsearch⟩ := h.searches hs
  · rw [htable]
    exact hfound
  · exact hsearch.keeps hfound

/-- **The table goes on to lead upward.** -/
theorem Takes.upward (hs : Sound setting w) {turn : Turn} (h : Takes setting w turn w')
    (hupward : w.binder.resolver.Upward setting.catalog.family) :
    w'.binder.resolver.Upward setting.catalog.family := by
  obtain htable | ⟨T, result, hT, hsearch⟩ := h.searches hs
  · intro info entry hinfo hlookup
    rw [htable] at hlookup
    exact hupward info entry hinfo hlookup
  · exact (hsearch.upward hupward (Catalog.family_has hT)).2

/-- What is active after a turn was active before, or is what the turn has bound. -/
theorem Takes.active (hs : Sound setting w) {turn : Turn} (h : Takes setting w turn w')
    {t : TargetId} {id : CompanionId} (hactive : (t, id) ∈ w'.binder.active) :
    (t, id) ∈ w.binder.active ∨ ∀ T, w.typeOf? t = some T →
      ∃ entry, w'.binder.resolver.table.lookup T.info.declared = some (some entry) := by
  cases h with
  | register name hT =>
    rw [World.binder_register] at hactive
    exact .inl hactive
  | resolve hT =>
    rw [resolve_eq, (hs.resolving _).binder] at hactive
    exact .inl hactive
  | @bind _ s T _ r hT hcontext hrun =>
    have hbinds := hs.binds hT hcontext hrun
    cases r with
    | error e =>
      rw [hbinds.failed e rfl] at hactive
      exact .inl hactive
    | ok _ =>
      obtain ⟨id', -, hmade⟩ := hbinds.made rfl
      rw [hmade] at hactive
      rcases List.mem_cons.mp hactive with heq | hold
      · obtain ⟨rfl, rfl⟩ := Prod.mk.inj heq
        refine .inr fun T' hT' => ?_
        obtain rfl := Option.some.inj (hT.symm.trans hT')
        cases hprepared : w.binder.prepared T.info t with
        | error e => cases hbinds.result.trans (congrArg _ hprepared)
        | ok prepared =>
          obtain ⟨entry, handle⟩ := prepared
          have hsearch := w.binder.resolver.search_resolve T.info
          rw [(Binder.of_prepared hprepared).1] at hsearch
          rw [hbinds.resolver]
          exact ⟨entry, hsearch.kept⟩
      · exact .inl (List.mem_of_mem_filter hold)
  | unbind s =>
    rw [(hs.unbind s).binder] at hactive
    exact .inl (List.mem_of_mem_filter hactive)

/-- **Every turn keeps what the table knows.** -/
theorem Takes.ancestral (hs : Sound setting w) {turn : Turn} (h : Takes setting w turn w')
    (hw : w.Ancestral setting.catalog) : w'.Ancestral setting.catalog := by
  refine ⟨h.upward hs hw.upward, fun t id T hactive hT => ?_⟩
  rw [(h.orders hs).alike.types] at hT
  obtain hold | hnew := h.active hs hactive
  · obtain ⟨entry, hentry⟩ := hw.found t id T hold hT
    exact ⟨entry, h.keeps hs hentry⟩
  · exact hnew T hT

/-- **In every world that can be told the table knows.** -/
theorem Chronicle.ancestral {start : World} (hs : Sound setting start)
    (hstart : start.Ancestral setting.catalog) {turns : List Turn}
    (h : Chronicle setting start turns w) : w.Ancestral setting.catalog := by
  induction h with
  | start => exact hstart
  | calm h hcalm _ ih => exact ih.calm (h.sound hs) hcalm
  | turn h hturn ih => exact hturn.ancestral (h.sound hs) ih

/-! ## What a bind comes to -/

/-- No companion that keeps the fields of a type refuses a handle to an object of the type, in
whatever world. -/
theorem construct_keeper_ne_error {A : TypeDefinition} {handle : Handle}
    (htype : handle.type = A.info.declared) (act : Act) (name : String) (context : Context)
    (w w' : World) (e : BindingError) :
    construct act (.keeper A name) handle context w ≠ some (.error e, w') := by
  have hexpect : handle.expect (CompanionEntry.keeper A name).target = .ok handle := if_pos htype
  have hmade : Gives True (construct act (.keeper A name) handle context) w fun r _ =>
      ∃ id, r = .ok id := by
    rw [construct, hexpect]
    have hattach : Gives True (attach act (.keeper A name) A.bound handle context) w
      fun _ _ => True := Gives.granted.mpr fun _ _ _ => trivial
    exact hattach.bind fun id _ _ => Gives.pure ⟨id, rfl⟩
  intro h
  obtain ⟨id, hid⟩ := Gives.granted.mp hmade _ w' h
  cases hid

/-- An entry is for a type or one of its ancestors: every handle to an object of the type can be
taken to what the entry is for, and its constructor does not refuse that. -/
structure Fits (info : TypeInfo) (entry : CompanionEntry) : Prop where
  reaches : info.Reaches entry.target
  upcast : ∀ handle : Handle, handle.type = info.declared →
    ∃ up, info.upcast handle entry.target = .ok up ∧ up.target = handle.target ∧
      ∀ act context w w' e, construct act entry up context w ≠ some (.error e, w')

theorem Fits.of_reaches {catalog : Catalog} {info : TypeInfo} {entry : CompanionEntry}
    (hkeeps : catalog.Keeps entry) (h : info.Reaches entry.target) : Fits info entry := by
  refine ⟨h, fun handle htype => ?_⟩
  obtain ⟨A, name, -, rfl⟩ := hkeeps
  obtain ⟨up, hup, hgoal, htarget⟩ := TypeInfo.climb_of_reaches h htype info.name
  exact ⟨up, hup, htarget, fun act context w w' e =>
    construct_keeper_ne_error hgoal act name context w w' e⟩

/-- Every target is bound as what it is. -/
structure World.Upright (setting : Setting) (w : World) : Prop where
  cached : ∀ T entry, setting.catalog.has T →
    w.binder.resolver.table.lookup T.info.declared = some (some entry) → Fits T.info entry
  returned : ∀ T entry, setting.catalog.has T →
    (w.resolve T.info).1 = .ok (some entry) → Fits T.info entry
  binds : ∀ t T context, w.typeOf? t = some T → setting.contexts context →
    ∃ r w', (∀ act, bind act t context w = some (r, w')) ∧ ∀ e, r = .error e → T.info.Misses e
  rebinds : ∀ t context, w.isBound t = true → setting.contexts context →
    ∃ w', ∀ act, bind act t context w = some (.ok (), w')

/-- **If the table knows, every target is bound as what it is.** -/
theorem World.Ancestral.upright (hs : Sound setting w) (h : w.Ancestral setting.catalog) :
    w.Upright setting where
  cached T entry hT hentry :=
    .of_reaches (hs.finds.table _ entry hentry)
      (h.upward T.info entry (Catalog.family_has hT) hentry)
  returned T entry hT hentry := by
    rw [resolve_eq] at hentry
    refine .of_reaches ((hs.finds.resolve T.info).result entry hentry) ?_
    exact ((Resolver.search_resolve _ T.info).upward h.upward (Catalog.family_has hT)).1 entry hentry
  binds t T context hT hcontext := by
    obtain ⟨r, w', hrun, hbinds⟩ := hs.bind hT hcontext
    refine ⟨r, w', hrun, fun e he => ?_⟩
    have hfamily := Catalog.family_has (hs.types t T hT)
    cases hprepared : w.binder.prepared T.info t with
    | error e' =>
      have hresult := he.symm.trans (hbinds.result.trans (congrArg _ hprepared))
      rw [Except.error.inj hresult]
      exact Binder.misses_of_prepared h.upward hfamily hprepared
    | ok _ => cases he.symm.trans (hbinds.result.trans (congrArg _ hprepared))
  rebinds t context hbound hcontext := by
    obtain ⟨id, hactive⟩ := Option.isSome_iff_exists.mp hbound
    obtain ⟨T, hT⟩ := hs.typeOf_active (mem_of_lookup hactive)
    obtain ⟨r, w', hrun, hbinds⟩ := hs.bind hT hcontext
    obtain ⟨entry, hentry⟩ := h.found t id T (mem_of_lookup hactive) hT
    have hresolved := (Resolver.search_resolve _ T.info).of_known hentry
    obtain ⟨handle, hprepared⟩ := Binder.prepared_of_resolved (t := t) h.upward
      (Catalog.family_has (hs.types t T hT)) hresolved
    obtain rfl : r = .ok () := hbinds.result.trans (congrArg _ hprepared)
    exact ⟨w', hrun⟩

/-- **Binding never reaches a target of a wrong type.** Whatever a program and its observers have
done to any depth, with companions registered in place of others at any time, it can be told by
turns; and in every world that can be told, what is kept or found for a declared type is for the type
or an ancestor, so that handles to its objects can be taken there and are accepted; a bind fails only
for want of a companion; and a bound target can be bound again. -/
theorem Session.binds_upward {catalog : Catalog} {broadcasters : Nat} {code : Action → Prop}
    (session : Session (.shared catalog broadcasters code)) {depth : Nat}
    (hact : Improvises (.shared catalog broadcasters code) depth act) (boundary : Boundary)
    (hosts : List BroadcasterId)
    (hrun : session.run act (.opened boundary broadcasters hosts) = some ((), w)) :
    (∃ turns, Chronicle (.shared catalog broadcasters code)
      (.opened boundary broadcasters hosts) turns w) ∧
    ∀ turns w', Chronicle (.shared catalog broadcasters code)
        (.opened boundary broadcasters hosts) turns w' →
      w'.Upright (.shared catalog broadcasters code) := by
  refine ⟨session.told hact boundary hosts hrun, fun turns w' h => ?_⟩
  have hopened := Sound.shared catalog broadcasters code boundary hosts
  have hancestral : (World.opened boundary broadcasters hosts).Ancestral catalog :=
    ⟨nofun, nofun⟩
  exact (h.ancestral hopened hancestral).upright (h.sound hopened)

namespace Desk

/-- A lamp is bound with the companion of panels. Then that of lamp shades is registered at the path
where that of lamps would be. -/
def crossed : Session (.acting types 1) where
  deeds := [.command (.create lamp), .command (.register panel "PanelThemeBinding"),
    .command (.bind 0 ⟨0, 0⟩), .command (.register shade "ShadeThemeBinding")]
  of := by
    intro d hd
    simp only [List.mem_cons, List.not_mem_nil, or_false] at hd
    rcases hd with rfl | rfl | rfl | rfl
    · exact .inr (.inl rfl)
    · exact .inl rfl
    · exact Nat.one_pos
    · exact .inr (.inr rfl)

/-- The lamp, whose path has been taken, can still be bound again with the companion of panels. -/
theorem lamp_binds_again :
    Improvises (.acting types 1) 1 (perform 1) ∧
    ∃ w, crossed.run (perform 1) (.opened .standard 1 [0]) = some ((), w) ∧
      (w.binder.resolver.registry.get? (Naming.companionPath lamp.info.name)).map
        CompanionEntry.target = some "Shade" ∧
      (∃ entry, w.binder.resolver.table.lookup "Lamp" = some (some entry) ∧
        entry.target = "Panel" ∧ Fits lamp.info entry) ∧
      ∃ w', ∀ act, bind act 0 ⟨0, 0⟩ w = some (.ok (), w') := by
  have hact := perform_improvises types 1 1
  have hglance : (crossed.run (perform 1) (.opened .standard 1 [0])).map (fun r =>
      ((r.2.binder.resolver.registry.get? (Naming.companionPath lamp.info.name)).map
          CompanionEntry.target,
        r.2.binder.resolver.table.lookup "Lamp", r.2.isBound 0)) =
      some (some "Shade", some (some (.keeper panel "PanelThemeBinding")), true) := by
    decide +kernel
  obtain ⟨⟨⟨⟩, w⟩, hrun, hglance⟩ := Option.map_eq_some_iff.mp hglance
  simp only [Prod.mk.injEq] at hglance
  obtain ⟨hpath, hcached, hbound⟩ := hglance
  obtain ⟨⟨turns, hturns⟩, hall⟩ := crossed.binds_upward hact .standard [0] hrun
  have hupright := hall turns w hturns
  exact ⟨hact, w, hrun, hpath,
    ⟨_, hcached, rfl, hupright.cached lamp _ (.inr (.inl rfl)) hcached⟩,
    hupright.rebinds 0 ⟨0, 0⟩ hbound Nat.one_pos⟩

end Desk

end Live
end Theming
