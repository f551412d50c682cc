/-
# No companion is lost or released twice

Whatever is bound and unbound in whatever order, with companions whose code does not reach the
binder, the calls made for one target are

```
(made, unbound, cleared)*  made?
```

where the three calls of a cycle go to one companion, and the last one, if it is there, is the
making of the active companion of the target (`Binder.Story`). `Binder.watch_conserves` is this law
with what it says about the binder: who is bound, how many are, and that no companion ever becomes
active while another one is.

Every step of the binder is described by what it logs, up to what it tells (`Binder.Yields`). So a
bind and an unbind come down to three moves (`Binder.Moves`), and each of them keeps the invariant
(`Binder.Conserved.move`).
-/

import Mathlib.Data.List.Nodup
import Mathlib.Data.Set.Card
import Theming.Proofs.Watching

namespace Theming

/-- Climbing to an ancestor stays inside the target. -/
theorem TypeInfo.climb_target {origin goal : String} (info : TypeInfo) (handle : Handle)
    {up : Handle} (h : info.climb origin goal handle = .ok up) : up.target = handle.target := by
  induction info generalizing handle with
  | root declared name =>
    rw [TypeInfo.climb] at h
    split_ifs at h
    rw [← Except.ok.inj h]
  | derived declared name via parent ih =>
    rw [TypeInfo.climb] at h
    split_ifs at h
    · rw [← Except.ok.inj h]
    · rw [Handle.project, Handle.expect] at h
      split_ifs at h
      · exact ih ⟨handle.target, handle.path ++ [via], parent.declared⟩ h
      · cases h

theorem TypeInfo.upcast_target {info : TypeInfo} {handle up : Handle} {goal : String}
    (h : info.upcast handle goal = .ok up) : up.target = handle.target :=
  TypeInfo.climb_target info handle h

namespace Binder

variable {σ κ γ α β : Type}

/-! ## What each step of the binder does -/

/-- The events that matter. -/
def essence (log : List Event) : List Event := log.filter (·.matters)

/-- The calls that release a companion. -/
def retirement (k : Option (Numbered κ)) : List Event :=
  k.toList.flatMap fun k => [.unbound k.target k.number, .cleared k.target k.number]

/-- A computation gives `a`, leaves the binder `b'` behind and logs `es`, up to what does not
matter. -/
def Yields (x : Beside (σ × List Event) (Numbered κ) α) (b : Binder (Numbered κ))
    (p : σ × List Event) (a : α) (b' : Binder (Numbered κ)) (p' : σ × List Event)
    (es : List Event) : Prop :=
  x b p = ((a, b'), p') ∧ essence p'.2 = essence p.2 ++ es

section Steps

variable {b b' b'' : Binder (Numbered κ)} {p p' p'' : σ × List Event} {es fs : List Event}

theorem Yields.bind {x : Beside (σ × List Event) (Numbered κ) α}
    {f : α → Beside (σ × List Event) (Numbered κ) β} {a : α} {c : β}
    (hx : Yields x b p a b' p' es) (hf : Yields (f a) b' p' c b'' p'' fs) :
    Yields (x >>= f) b p c b'' p'' (es ++ fs) := by
  refine ⟨?_, ?_⟩
  · have h : (x >>= f) b p = f (x b p).1.1 (x b p).1.2 (x b p).2 := rfl
    rw [h, hx.1]
    exact hf.1
  · rw [hf.2, hx.2, List.append_assoc]

theorem Yields.pure (a : α) (b : Binder (Numbered κ)) (p : σ × List Event) :
    Yields (Pure.pure a) b p a b p [] :=
  ⟨rfl, (List.append_nil _).symm⟩

theorem lift_logged_yields (x : StateM σ α) (seen : α → List Event) (b : Binder (Numbered κ))
    (p : σ × List Event) :
    ∃ p', Yields (StateT.lift (logged x seen)) b p (x p.1).1 b p' (essence (seen (x p.1).1)) :=
  ⟨_, rfl, List.filter_append ..⟩

variable (code : Code σ κ γ)

theorem tell_yields (notice : Notice) (h : (Event.told notice).matters = false)
    (b : Binder (Numbered κ)) (p : σ × List Event) :
    ∃ p', Yields (code.watched.beside.tell notice) b p () b p' [] := by
  obtain ⟨p', hp'⟩ := lift_logged_yields (code.tell notice) (fun _ => [.told notice]) b p
  have hnil : essence [.told notice] = [] := by simp [essence, h]
  rw [hnil] at hp'
  exact ⟨p', hp'⟩

theorem release_yields (k : Numbered κ) (b : Binder (Numbered κ)) (p : σ × List Event) :
    ∃ r p', Yields (release code.watched.beside k) b p r b p' (retirement (some k)) := by
  obtain ⟨p₁, h₁⟩ := lift_logged_yields (code.unbind k.companion)
    (fun _ => [.unbound k.target k.number]) b p
  obtain ⟨p₂, h₂⟩ := lift_logged_yields (code.clear k.companion)
    (fun _ => [.cleared k.target k.number]) b p₁
  exact ⟨_, p₂, h₁.bind (h₂.bind (.pure _ b p₂))⟩

theorem releaseOrTell_yields (k : Numbered κ) (complaint : BindingError → Notice)
    (h : ∀ e, (Event.told (complaint e)).matters = false) (b : Binder (Numbered κ))
    (p : σ × List Event) :
    ∃ p', Yields (releaseOrTell code.watched.beside k complaint) b p () b p'
      (retirement (some k)) := by
  obtain ⟨r, p₁, h₁⟩ := release_yields code k b p
  cases r with
  | ok _ => exact ⟨p₁, h₁.bind (.pure () b p₁)⟩
  | error e =>
    obtain ⟨p₂, h₂⟩ := tell_yields code (complaint e) (h e) b p₁
    exact ⟨p₂, h₁.bind h₂⟩

theorem remove_yields (target : TargetId) (b : Binder (Numbered κ)) (p : σ × List Event) :
    Yields (remove target) b p (b.active.lookup target)
      { b with active := b.active.filter (·.1 != target) } p [] :=
  ⟨rfl, (List.append_nil _).symm⟩

theorem tellAll_yields (steps : List String) (b : Binder (Numbered κ)) (p : σ × List Event) :
    ∃ p', Yields (steps.forM fun step => code.watched.beside.tell (.resolving step)) b p () b p'
      [] := by
  induction steps generalizing p with
  | nil => exact ⟨p, .pure () b p⟩
  | cons step steps ih =>
    obtain ⟨p₁, h₁⟩ := tell_yields code (.resolving step) rfl b p
    obtain ⟨p₂, h₂⟩ := ih p₁
    exact ⟨p₂, h₁.bind h₂⟩

theorem resolve_yields (info : TypeInfo) (b : Binder (Numbered κ)) (p : σ × List Event) :
    ∃ p', Yields (resolve code.watched.beside info) b p (b.resolver.resolve info).result
      { b with resolver := (b.resolver.resolve info).resolver } p' [] := by
  obtain ⟨p', h⟩ := tellAll_yields code (b.resolver.resolve info).told
    { b with resolver := (b.resolver.resolve info).resolver } p
  have hget : Yields (modifyGet fun (b : Binder (Numbered κ)) =>
      (b.resolver.resolve info, { b with resolver := (b.resolver.resolve info).resolver })) b p
      (b.resolver.resolve info) { b with resolver := (b.resolver.resolve info).resolver } p [] :=
    ⟨rfl, (List.append_nil _).symm⟩
  exact ⟨p', hget.bind (h.bind (.pure _ _ p'))⟩

/-- Preparing a bind changes the resolver at most, and the handle leads into the target. -/
theorem prepare_yields (info : TypeInfo) (target : TargetId) (b : Binder (Numbered κ))
    (p : σ × List Event) :
    ∃ r resolver p', Yields (prepare code.watched.beside info target) b p r { b with resolver } p'
      [] ∧ ∀ entry handle, r = .ok (entry, handle) → handle.target = target := by
  obtain ⟨p', h⟩ := resolve_yields code info b p
  cases hr : (b.resolver.resolve info).result with
  | error e =>
    rw [hr] at h
    exact ⟨.error e, _, p', h.bind (.pure _ _ p'), fun _ _ he => nomatch he⟩
  | ok found =>
    rw [hr] at h
    cases found with
    | none =>
      exact ⟨.error (.noBinding info.name), _, p', h.bind (.pure _ _ p'),
        fun _ _ he => nomatch he⟩
    | some entry =>
      refine ⟨_, _, p', h.bind (.pure _ _ p'), fun entry' handle he => ?_⟩
      cases hup : info.upcast ⟨target, [], info.declared⟩ entry.target with
      | error e => rw [hup] at he; cases he
      | ok up =>
        rw [hup] at he
        obtain ⟨rfl, rfl⟩ := Prod.mk.inj (Except.ok.inj he)
        exact TypeInfo.upcast_target hup

theorem releaseActive_yields (info : TypeInfo) (target : TargetId) (b : Binder (Numbered κ))
    (p : σ × List Event) :
    ∃ p', Yields (releaseActive code.watched.beside info target) b p ()
      { b with active := b.active.filter (·.1 != target) } p'
      (retirement (b.active.lookup target)) := by
  have hremove := remove_yields target b p
  cases hactive : b.active.lookup target with
  | none =>
    rw [hactive] at hremove
    exact ⟨p, hremove.bind (.pure () _ p)⟩
  | some k =>
    rw [hactive] at hremove
    obtain ⟨p₁, h₁⟩ := lift_logged_yields (code.label k.companion) (fun _ => [])
      { b with active := b.active.filter (·.1 != target) } p
    obtain ⟨p₂, h₂⟩ := tell_yields code
      (.alreadyBound info.name (code.label k.companion p.1).1) rfl
      { b with active := b.active.filter (·.1 != target) } p₁
    obtain ⟨p₃, h₃⟩ := releaseOrTell_yields code k (.previousFailed info.name)
      (fun _ => rfl) { b with active := b.active.filter (·.1 != target) } p₂
    exact ⟨p₃, hremove.bind (h₁.bind (h₂.bind h₃))⟩

/-- Where no companion is active, one becomes active and nothing else happens. -/
theorem install_yields (info : TypeInfo) {target : TargetId} (k : Numbered κ)
    {b : Binder (Numbered κ)} (h : b.active.lookup target = none) (p : σ × List Event) :
    Yields (install code.watched.beside info target k) b p ()
      { b with active := (target, k) :: b.active.filter (·.1 != target) } p [] := by
  have hinsert : Yields (insert target k) b p none
      { b with active := (target, k) :: b.active.filter (·.1 != target) } p [] := by
    rw [← h]
    exact ⟨rfl, (List.append_nil _).symm⟩
  exact hinsert.bind (.pure () _ p)

/-- Making a companion fails and logs nothing, or gives the next number to a companion. -/
theorem construct_yields (entry : CompanionEntry) (handle : Handle) (context : γ)
    (b : Binder (Numbered κ)) (p : σ × List Event) :
    ∃ r p' es, Yields (StateT.lift (code.watched.construct entry handle context)) b p r b p' es ∧
      match r with
      | .error _ => es = []
      | .ok k => k.target = handle.target ∧ k.number = p.2.countP (·.isMade) ∧
        es = [.made k.target k.number] := by
  have hlift : StateT.lift (code.watched.construct entry handle context) b p =
      (((code.watched.construct entry handle context p).1, b),
        (code.watched.construct entry handle context p).2) := rfl
  cases hmake : code.construct entry handle context p.1 with
  | mk made s =>
    cases made with
    | error e =>
      refine ⟨.error e, (s, p.2), [], ⟨?_, (List.append_nil _).symm⟩, rfl⟩
      rw [hlift]
      simp only [Code.watched, hmake]
    | ok k =>
      refine ⟨.ok ⟨handle.target, p.2.countP (·.isMade), k⟩,
        (s, p.2 ++ [.made handle.target (p.2.countP (·.isMade))]), _, ⟨?_, List.filter_append ..⟩,
        rfl, rfl, rfl⟩
      rw [hlift]
      simp only [Code.watched, hmake]

/-- What a call of the binder does to the active companions, and the calls on companions that it
makes. -/
inductive Moves (target : TargetId) (active : List (TargetId × Numbered κ)) (made : Nat) :
    List (TargetId × Numbered κ) → List Event → Prop where
  | stay : Moves target active made active []
  | release : Moves target active made (active.filter (·.1 != target))
      (retirement (active.lookup target))
  | replace (k : Numbered κ) (h : k.target = target) (hn : k.number = made) :
      Moves target active made ((target, k) :: active.filter (·.1 != target))
        (retirement (active.lookup target) ++ [.made k.target k.number])

theorem countP_isMade_essence (log : List Event) :
    (essence log).countP (·.isMade) = log.countP (·.isMade) := by
  rw [essence, List.countP_filter]
  refine List.countP_congr fun e _ => ?_
  cases e <;> simp [Event.isMade, Event.matters]

theorem countP_isMade_retirement (k : Option (Numbered κ)) :
    (retirement k).countP (·.isMade) = 0 := by
  cases k <;> rfl

/-- **A bind leaves the target as it was, released, or with a companion of its own made after the
release**, whatever the code of the companions does. -/
theorem bind_moves (info : TypeInfo) (target : TargetId) (context : γ) (b : Binder (Numbered κ))
    (p : σ × List Event) :
    ∃ r b' p' es, Yields (Binder.bind code.watched.beside
        (fun entry handle => StateT.lift (code.watched.construct entry handle context)) info
        target) b p r b' p' es ∧
      Moves target b.active ((essence p.2).countP (·.isMade)) b'.active es := by
  obtain ⟨prepared, resolver, p₁, h₁, htarget⟩ := prepare_yields code info target b p
  cases prepared with
  | error e => exact ⟨.error e, _, p₁, _, h₁.bind (.pure _ _ p₁), .stay⟩
  | ok found =>
    obtain ⟨entry, handle⟩ := found
    obtain ⟨p₂, h₂⟩ := releaseActive_yields code info target { b with resolver } p₁
    obtain ⟨made, p₃, es, h₃, hmade⟩ := construct_yields code entry handle context
      { b with resolver, active := b.active.filter (·.1 != target) } p₂
    cases made with
    | error e =>
      subst hmade
      refine ⟨.error e, _, p₃, _, h₁.bind (h₂.bind (h₃.bind (.pure _ _ p₃))), ?_⟩
      rw [List.nil_append, List.append_nil, List.append_nil]
      exact .release
    | ok k =>
      obtain ⟨hk, hnumber, rfl⟩ := hmade
      have habsent : (b.active.filter (·.1 != target)).lookup target = none := by
        rw [lookup_filter_ne, if_pos rfl]
      have h₄ := install_yields code info k
        (b := { b with resolver, active := b.active.filter (·.1 != target) }) habsent p₃
      obtain ⟨p₅, h₅⟩ := tell_yields code (.bound info.name entry.name) rfl
        { b with resolver, active :=
          (target, k) :: (b.active.filter (·.1 != target)).filter (·.1 != target) } p₃
      refine ⟨.ok (), _, p₅, _,
        h₁.bind (h₂.bind (h₃.bind (h₄.bind (h₅.bind (.pure _ _ p₅))))), ?_⟩
      have hcount : k.number = (essence p.2).countP (·.isMade) := by
        rw [hnumber, ← countP_isMade_essence, h₂.2, h₁.2, List.append_nil, List.countP_append,
          countP_isMade_retirement, Nat.add_zero]
      have hmoves : Moves target b.active _ _ _ :=
        .replace k (hk.trans (htarget entry handle rfl)) hcount
      simpa [List.filter_filter] using hmoves

/-- **An unbind leaves the target released.** -/
theorem unbind_moves (name : String) (target : TargetId) (b : Binder (Numbered κ))
    (p : σ × List Event) (made : Nat) :
    ∃ r b' p' es, Yields (Binder.unbind code.watched.beside name target) b p r b' p' es ∧
      Moves target b.active made b'.active es := by
  have hremove := remove_yields target b p
  have hrelease : Moves target b.active made _ _ := .release
  cases hactive : b.active.lookup target with
  | none =>
    rw [hactive] at hremove hrelease
    obtain ⟨p₁, h₁⟩ := tell_yields code (.notBound name) rfl
      { b with active := b.active.filter (·.1 != target) } p
    exact ⟨.ok (), _, p₁, _, hremove.bind (h₁.bind (.pure _ _ p₁)), hrelease⟩
  | some k =>
    rw [hactive] at hremove hrelease
    obtain ⟨r, p₁, h₁⟩ := release_yields code k
      { b with active := b.active.filter (·.1 != target) } p
    exact ⟨r, _, p₁, _, hremove.bind h₁, hrelease⟩

end Steps

/-! ## The law -/

/-- The three calls on a companion that was made and released. -/
def cycle (target : TargetId) (number : Nat) : List Event :=
  [.made target number, .unbound target number, .cleared target number]

/-- The calls made for a target are whole cycles of companions, each of its own, and then the
making of the active one if there is one. -/
def Story (target : TargetId) (active : Option (Numbered κ)) (log : List Event) : Prop :=
  ∃ released : List Nat,
    callsFor target log = released.flatMap (cycle target) ++
      active.toList.map (fun k => .made target k.number) ∧
    (released ++ active.toList.map (·.number)).Nodup

/-- **The invariant of a binder and what it logged.** -/
structure Conserved (active : List (TargetId × Numbered κ)) (log : List Event) : Prop where
  keys : (active.map Prod.fst).Nodup
  own : ∀ t k, active.lookup t = some k → k.target = t
  story : ∀ t, Story t (active.lookup t) log
  numbered : ∀ t n, .made t n ∈ log → n < log.countP (·.isMade)
  alone : ∀ name, .told (.boundConcurrently name) ∉ log

section Law

variable {target : TargetId} {active active' : List (TargetId × Numbered κ)}
  {log es : List Event} {made : Nat}

theorem callsFor_append (t : TargetId) (log es : List Event) :
    callsFor t (log ++ es) = callsFor t log ++ callsFor t es :=
  List.filter_append ..

theorem callsFor_essence (t : TargetId) (log : List Event) :
    callsFor t (essence log) = callsFor t log := by
  rw [callsFor, essence, List.filter_filter]
  refine List.filter_congr fun e _ => ?_
  cases e <;> simp [Event.target?, Event.matters]

theorem Conserved.fresh : Conserved ([] : List (TargetId × Numbered κ)) [] where
  keys := .nil
  own _ _ h := nomatch h
  story _ := ⟨[], rfl, .nil⟩
  numbered _ _ h := nomatch h
  alone _ h := nomatch h

/-- Releasing the active companion of a target closes its cycle. -/
theorem Conserved.release (h : Conserved active log) (target : TargetId) :
    Conserved (active.filter (·.1 != target)) (log ++ retirement (active.lookup target)) where
  keys := h.keys.sublist (List.filter_sublist.map _)
  own t k hk := by
    rw [lookup_filter_ne] at hk
    split_ifs at hk
    exact h.own t k hk
  story t := by
    obtain ⟨released, hcalls, hnodup⟩ := h.story t
    rw [lookup_filter_ne, Story, callsFor_append, hcalls]
    by_cases ht : t = target
    · subst ht
      cases hactive : active.lookup t with
      | none =>
        rw [hactive] at hnodup
        exact ⟨released, by simp [retirement, callsFor], by simpa using hnodup⟩
      | some k =>
        rw [hactive] at hnodup
        refine ⟨released ++ [k.number], ?_, by simpa using hnodup⟩
        simp [retirement, callsFor, cycle, Event.target?, h.own t k hactive]
    · rw [if_neg ht]
      refine ⟨released, ?_, hnodup⟩
      cases hactive : active.lookup target with
      | none => simp [retirement, callsFor]
      | some k =>
        have hk : k.target ≠ t := by rw [h.own target k hactive]; exact Ne.symm ht
        simp [retirement, callsFor, Event.target?, hk]
  numbered t n hmem := by
    rw [List.countP_append, countP_isMade_retirement]
    rcases List.mem_append.1 hmem with hmem | hmem
    · exact h.numbered t n hmem
    · cases hactive : active.lookup target <;> simp [retirement, hactive] at hmem
  alone name hmem := by
    rcases List.mem_append.1 hmem with hmem | hmem
    · exact h.alone name hmem
    · cases hactive : active.lookup target <;> simp [retirement, hactive] at hmem

/-- Where no companion is active, making one opens a cycle. -/
theorem Conserved.make (h : Conserved active log) {k : Numbered κ}
    (habsent : active.lookup target = none) (hk : k.target = target)
    (hnumber : k.number = log.countP (·.isMade)) :
    Conserved ((target, k) :: active.filter (·.1 != target))
      (log ++ [.made k.target k.number]) where
  keys := by
    rw [List.map_cons, List.nodup_cons]
    refine ⟨?_, h.keys.sublist (List.filter_sublist.map _)⟩
    simp
  own t k' hk' := by
    rw [lookup_put] at hk'
    split_ifs at hk' with ht
    · rw [← Option.some.inj hk', hk, ht]
    · exact h.own t k' hk'
  story t := by
    obtain ⟨released, hcalls, hnodup⟩ := h.story t
    rw [lookup_put, Story, callsFor_append, hcalls]
    by_cases ht : t = target
    · subst ht
      rw [habsent] at hcalls hnodup ⊢
      refine ⟨released, by simp [callsFor, Event.target?, hk], ?_⟩
      have hfresh : k.number ∉ released := by
        intro hmem
        have hmade : Event.made t k.number ∈ callsFor t log := by
          rw [hcalls]
          refine List.mem_append_left _ (List.mem_flatMap.2 ⟨k.number, hmem, ?_⟩)
          exact List.mem_cons_self
        have := h.numbered t k.number (List.mem_of_mem_filter hmade)
        omega
      have hnodup : released.Nodup := by simpa using hnodup
      simpa [List.nodup_append, hnodup] using fun a ha (hak : a = k.number) => hfresh (hak ▸ ha)
    · have hkt : k.target ≠ t := by rw [hk]; exact Ne.symm ht
      rw [if_neg ht]
      exact ⟨released, by simp [callsFor, Event.target?, hkt], hnodup⟩
  numbered t n hmem := by
    rw [List.countP_append]
    rcases List.mem_append.1 hmem with hmem | hmem
    · exact Nat.lt_add_right _ (h.numbered t n hmem)
    · obtain ⟨rfl, rfl⟩ := Event.made.inj (List.mem_singleton.1 hmem)
      rw [hnumber]
      exact Nat.lt_succ_self _
  alone name hmem := by
    rcases List.mem_append.1 hmem with hmem | hmem
    · exact h.alone name hmem
    · simp at hmem

/-- **Every move of the binder keeps the invariant.** -/
theorem Conserved.move (h : Conserved active log)
    (hm : Moves target active (log.countP (·.isMade)) active' es) :
    Conserved active' (log ++ es) := by
  cases hm with
  | stay => rwa [List.append_nil]
  | release => exact h.release target
  | replace k hk hn =>
    have hmake := (h.release target).make (k := k)
      (by rw [lookup_filter_ne, if_pos rfl]) hk
      (by rw [List.countP_append, countP_isMade_retirement, hn, Nat.add_zero])
    rw [List.filter_filter] at hmake
    simpa using hmake

end Law

variable (code : Code σ κ γ)

/-- A call keeps the invariant. -/
theorem Conserved.call (call : Call σ γ) (b : Binder (Numbered κ)) (p : σ × List Event)
    (h : Conserved b.active (essence p.2)) :
    ∃ b' p', call.onLogged.run code.watched b p = (((), b'), p') ∧
      Conserved b'.active (essence p'.2) := by
  cases call with
  | bind info target context =>
    obtain ⟨r, b', p', es, hyields, hmoves⟩ := bind_moves code info target context b p
    obtain ⟨hrun, hlog⟩ := hyields.bind (f := fun _ => Pure.pure ()) (.pure () b' p')
    refine ⟨b', p', hrun, ?_⟩
    rw [hlog, List.append_nil]
    exact h.move hmoves
  | unbind name target =>
    obtain ⟨r, b', p', es, hyields, hmoves⟩ := unbind_moves code name target b p _
    obtain ⟨hrun, hlog⟩ := hyields.bind (f := fun _ => Pure.pure ()) (.pure () b' p')
    refine ⟨b', p', hrun, ?_⟩
    rw [hlog, List.append_nil]
    exact h.move hmoves
  | register entry => exact ⟨b.register entry, p, rfl, h⟩
  | meanwhile change => exact ⟨b, (change p.1, p.2), rfl, h⟩

/-- Calls keep the invariant. -/
theorem Conserved.calls (calls : List (Call σ γ)) (b : Binder (Numbered κ))
    (p : σ × List Event) (h : Conserved b.active (essence p.2)) :
    ∃ b' p', (calls.map Call.onLogged).forM (Call.run code.watched) b p = (((), b'), p') ∧
      Conserved b'.active (essence p'.2) := by
  induction calls generalizing b p with
  | nil => exact ⟨b, p, rfl, h⟩
  | cons call rest ih =>
    obtain ⟨b₁, p₁, hrun, h₁⟩ := h.call code call b p
    obtain ⟨b₂, p₂, hrest, h₂⟩ := ih b₁ p₁ h₁
    refine ⟨b₂, p₂, ?_, h₂⟩
    have hcons : ((call :: rest).map Call.onLogged).forM (Call.run code.watched) b p =
        (rest.map Call.onLogged).forM (Call.run code.watched)
          (call.onLogged.run code.watched b p).1.2 (call.onLogged.run code.watched b p).2 := rfl
    rw [hcons, hrun]
    exact hrest

theorem watch_conserved (resolver : Resolver) (s : σ) (calls : List (Call σ γ)) :
    Conserved (watch code resolver s calls).1.active
      (essence (watch code resolver s calls).2) := by
  obtain ⟨b, p, hrun, h⟩ := Conserved.calls code calls { resolver } (s, []) .fresh
  have hwatch : watch code resolver s calls = (b, p.2) := by
    rw [watch, runCalls, StateT.run, hrun]
  rw [hwatch]
  exact h

section Reading

variable {t : TargetId} {active : Option (Numbered κ)} {log : List Event}

theorem Story.of_essence (h : Story t active (essence log)) : Story t active log := by
  rwa [Story, callsFor_essence] at h

/-- A story ends with the making of a companion iff that companion is active. -/
theorem Story.ends_made_iff (h : Story t active log) (n : Nat) :
    (callsFor t log).getLast? = some (.made t n) ↔ active.map (·.number) = some n := by
  obtain ⟨released, hcalls, -⟩ := h
  rw [hcalls]
  cases active with
  | some k => simp
  | none =>
    cases released using List.reverseRecOn with
    | nil => simp
    | append_singleton rest m => simp [cycle]

theorem count_callsFor {e : Event} (h : e.target? = some t) (log : List Event) :
    (callsFor t log).count e = log.count e := by
  rw [callsFor, List.count_filter (by simp [h])]

theorem count_cycles (released : List Nat) (n : Nat) :
    (released.flatMap (cycle t)).count (.made t n) = released.count n ∧
      (released.flatMap (cycle t)).count (.unbound t n) = released.count n ∧
      (released.flatMap (cycle t)).count (.cleared t n) = released.count n := by
  induction released with
  | nil => simp
  | cons m rest ih =>
    obtain ⟨hmade, hunbound, hcleared⟩ := ih
    rw [List.flatMap_cons]
    simp [cycle, List.count_cons, hmade, hunbound, hcleared]

/-- A companion that was made is the active one and nobody has released it, or it was released
and cleared once. -/
theorem Story.made_once (h : Story t active log) {n : Nat} (hmade : .made t n ∈ log) :
    active.map (·.number) = some n ∧ .unbound t n ∉ log ∧ .cleared t n ∉ log ∨
      active.map (·.number) ≠ some n ∧ log.count (.unbound t n) = 1 ∧
        log.count (.cleared t n) = 1 := by
  obtain ⟨released, hcalls, hnodup⟩ := h
  obtain ⟨hm, hu, hc⟩ := count_cycles (t := t) released n
  have hunbound : log.count (.unbound t n) = released.count n := by
    rw [← count_callsFor (t := t) rfl, hcalls, List.count_append, hu]
    cases active <;> simp
  have hcleared : log.count (.cleared t n) = released.count n := by
    rw [← count_callsFor (t := t) rfl, hcalls, List.count_append, hc]
    cases active <;> simp
  rw [← List.count_eq_zero, ← List.count_eq_zero, hunbound, hcleared]
  by_cases hopen : active.map (·.number) = some n
  · obtain ⟨k, rfl, rfl⟩ := Option.map_eq_some_iff.1 hopen
    have hn : k.number ∉ released := by
      intro hmem
      exact List.disjoint_of_nodup_append hnodup hmem (by simp)
    exact .inl ⟨hopen, List.count_eq_zero.2 hn, List.count_eq_zero.2 hn⟩
  · have hmem : .made t n ∈ callsFor t log := List.mem_filter.2 ⟨hmade, by simp [Event.target?]⟩
    have hn : n ∈ released := by
      rw [hcalls, List.mem_append] at hmem
      rcases hmem with hmem | hmem
      · rw [← List.count_pos_iff, hm, List.count_pos_iff] at hmem
        exact hmem
      · cases active <;> simp_all
    have hone := List.count_eq_one_of_mem (List.nodup_append.1 hnodup).1 hn
    exact .inr ⟨hopen, hone, hone⟩

end Reading

/-- **No companion is lost or released twice.** A new binder is used in any way, with companions
whose code does not call it, may fail whenever it likes, and may be tampered with meanwhile. Then,
for every target, the calls on companions are whole cycles of making, unbinding and clearing one
companion and at most one companion more that was made; it is the active one. So every companion
that was made is the active one of its target and untouched, or was unbound and cleared exactly
once. A target is bound iff its calls end with the making of a companion, as many targets are bound
as there are such targets, and never does a companion become active while another one is. -/
theorem watch_conserves (resolver : Resolver) (s : σ) (calls : List (Call σ γ)) :
    let b := (watch code resolver s calls).1
    let log := (watch code resolver s calls).2
    (∀ t, Story t (b.active.lookup t) log) ∧
    (∀ t n, .made t n ∈ log →
      (b.active.lookup t).map (·.number) = some n ∧ .unbound t n ∉ log ∧ .cleared t n ∉ log ∨
      (b.active.lookup t).map (·.number) ≠ some n ∧ log.count (.unbound t n) = 1 ∧
        log.count (.cleared t n) = 1) ∧
    (∀ t, b.isBound t = true ↔ ∃ n, (callsFor t log).getLast? = some (.made t n)) ∧
    b.active.length = { t | ∃ n, (callsFor t log).getLast? = some (.made t n) }.ncard ∧
    ∀ name, .told (.boundConcurrently name) ∉ log := by
  intro b log
  have h : Conserved b.active (essence log) := watch_conserved code resolver s calls
  have hstory : ∀ t, Story t (b.active.lookup t) log := fun t => (h.story t).of_essence
  have hbound : ∀ t, b.isBound t = true ↔ ∃ n, (callsFor t log).getLast? = some (.made t n) := by
    intro t
    simp only [(hstory t).ends_made_iff, isBound, Option.isSome_iff_exists]
    cases b.active.lookup t <;> simp
  refine ⟨hstory, fun t n hmade => (hstory t).made_once hmade, hbound, ?_, fun name hmem => ?_⟩
  · have hset : { t | ∃ n, (callsFor t log).getLast? = some (.made t n) } =
        ((b.active.map Prod.fst).toFinset : Set TargetId) := by
      ext t
      rw [Set.mem_ofPred_eq, ← hbound, List.coe_toFinset, Set.mem_ofPred_eq, isBound,
        lookup_isSome_iff]
    rw [hset, Set.ncard_coe_finset, List.toFinset_card_of_nodup h.keys, List.length_map]
  · exact h.alone name (List.mem_filter.2 ⟨hmem, rfl⟩)

end Binder
end Theming
