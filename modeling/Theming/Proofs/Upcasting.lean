/-
# Handles to embedded parts

The handle of a target can be taken to its type and to the ancestors of its type, and to nothing
else (`upcast_opens`). What it then leads to is the part that the fields on the way hold, one
inside the other.

Code that is run through a handle may do more than change the part, so it is code in any monad. It
is handed on from field to field, and yet it runs once.

| code is run on | and gives | so the world |
| --- | --- | --- |
| the part that the handle leads to, once | new content for it | has it there, and is as before elsewhere |
| an outer part, and one inside it | | is as if both had been run on the outer part |
-/

import Mathlib.Tactic.SplitIfs
import Theming.Proofs.Growth
import Theming.Proofs.Poise

namespace Theming

/-! ## Running code on contents -/

namespace Content

variable {m : Type → Type} [Monad m]

/-- Runs code on the field of a name. -/
def visitField (name : String) (f : Content → m Content) :
    List (String × Content) → m (List (String × Content))
  | [] => pure []
  | (n, c) :: rest =>
    if n = name then (fun c' => (n, c') :: rest) <$> f c
    else ((n, c) :: ·) <$> visitField name f rest

/-- Runs code on what lies at a path; nothing is run if nothing lies there. -/
def visitAt (f : Content → m Content) : List String → Content → m Content
  | [], c => f c
  | name :: path, part fields => part <$> visitField name (visitAt f path) fields
  | _ :: _, c => pure c

/-- Code for the end of a path is code for the end of its first half, handed on from there. -/
theorem visitAt_append (f : Content → m Content) (p q : List String) :
    visitAt f (p ++ q) = visitAt (visitAt f q) p := by
  induction p with
  | nil => exact funext fun _ => rfl
  | cons name p ih =>
    funext c
    cases c with
    | part fields => rw [List.cons_append, visitAt, visitAt, ih]
    | plain _ => rfl
    | optional _ => rfl
    | reactive _ => rfl
    | journal _ => rfl

omit [Monad m] in
/-- Code that only changes contents changes what lies at the path. -/
theorem visitAt_pure (f : Content → Content) (path : List String) (c : Content) :
    (visitAt (m := Id) (fun d => pure (f d)) path c).run = c.modifyAt f path := by
  induction path generalizing c with
  | nil => rfl
  | cons name path ih =>
    cases c with
    | part fields =>
      have hfields : (visitField (m := Id) name (visitAt (fun d => pure (f d)) path) fields).run =
          modifyField name (modifyAt f path) fields := by
        induction fields with
        | nil => rfl
        | cons field rest ihfields =>
          obtain ⟨n, d⟩ := field
          rw [visitField, modifyField, ← ihfields, ← ih]
          split_ifs <;> rfl
      exact congrArg part hfields
    | plain _ => rfl
    | optional _ => rfl
    | reactive _ => rfl
    | journal _ => rfl

omit [Monad m] in
theorem modifyAt_append (f : Content → Content) (p q : List String) (c : Content) :
    c.modifyAt f (p ++ q) = c.modifyAt (modifyAt f q) p := by
  have hq : visitAt (m := Id) (fun d => pure (f d)) q = fun d => pure (modifyAt f q d) :=
    funext fun d => visitAt_pure f q d
  rw [← visitAt_pure, ← visitAt_pure, visitAt_append, hq]

omit [Monad m] in
/-- A change of the field that is there is a change to what it makes of that field. -/
theorem modifyField_of_lookup {name : String} {fields : List (String × Content)} {c : Content}
    (h : fields.lookup name = some c) (g : Content → Content) :
    modifyField name g fields = modifyField name (fun _ => g c) fields := by
  induction fields with
  | nil => cases h
  | cons field rest ih =>
    obtain ⟨n, d⟩ := field
    rw [lookup_cons_ite] at h
    rw [modifyField, modifyField]
    split_ifs at h ⊢ with hname hn hn
    · rw [Option.some.inj h]
    · exact absurd hname.symm hn
    · exact absurd hn.symm hname
    · rw [ih h]

variable [LawfulMonad m]

theorem visitField_eq {name : String} {fields : List (String × Content)} {c : Content}
    (h : fields.lookup name = some c) (f : Content → m Content) :
    visitField name f fields = (fun d => modifyField name (fun _ => d) fields) <$> f c := by
  induction fields with
  | nil => cases h
  | cons field rest ih =>
    obtain ⟨n, d⟩ := field
    rw [lookup_cons_ite] at h
    rw [visitField]
    split_ifs at h ⊢ with hname hn hn
    · rw [Option.some.inj h]
      exact congrArg (· <$> f c) (funext fun e => (if_pos hname).symm)
    · exact absurd hname.symm hn
    · exact absurd hn.symm hname
    · rw [ih h, Functor.map_map]
      exact congrArg (· <$> f c) (funext fun e => (if_neg hname).symm)

/-- **Code that is run on what lies at a path runs once**, and what it gives takes its place. -/
theorem visitAt_eq {path : List String} {c d : Content} (h : c.at? path = some d)
    (f : Content → m Content) :
    visitAt f path c = (fun e => c.modifyAt (fun _ => e) path) <$> f d := by
  induction path generalizing c with
  | nil =>
    obtain rfl := Option.some.inj h
    exact (id_map (f c)).symm
  | cons name path ih =>
    rw [at?] at h
    obtain ⟨inner, hfield, hinner⟩ := Option.bind_eq_some_iff.mp h
    cases c with
    | part fields =>
      have hlookup : fields.lookup name = some inner := hfield
      rw [visitAt, visitField_eq hlookup, ih hinner, Functor.map_map, Functor.map_map]
      simp only [modifyAt, modifyField_of_lookup hlookup]
    | plain _ => cases hfield
    | optional _ => cases hfield
    | reactive _ => cases hfield
    | journal _ => cases hfield

omit [Monad m] [LawfulMonad m] in
/-- Two changes at one path are one change. -/
theorem modifyAt_modifyAt (f g : Content → Content) (path : List String) (c : Content) :
    (c.modifyAt f path).modifyAt g path = c.modifyAt (g ∘ f) path := by
  induction path generalizing c with
  | nil => rfl
  | cons name path ih =>
    cases c with
    | part fields =>
      have hfields :
          modifyField name (modifyAt g path) (modifyField name (modifyAt f path) fields) =
            modifyField name (modifyAt (g ∘ f) path) fields := by
        induction fields with
        | nil => rfl
        | cons field rest ihfields =>
          obtain ⟨n, d⟩ := field
          by_cases hn : n = name
          · simp only [modifyField, if_pos hn, ih]
          · simp only [modifyField, if_neg hn, ihfields]
      rw [modifyAt, modifyAt, modifyAt, hfields]
    | plain _ => rfl
    | optional _ => rfl
    | reactive _ => rfl
    | journal _ => rfl

end Content

namespace Live

variable {m : Type → Type} [Monad m] {w : World} {t : TargetId} {handle outer inner : Handle}
  {c : Content}

namespace World

/-- Runs code on what a handle leads to. -/
def update (w : World) (handle : Handle) (f : Content → m Content) : m World :=
  match w.targets[handle.target]? with
  | some x =>
    (fun c => { w with targets := w.targets.set handle.target { x with content := c } }) <$>
      x.content.visitAt f handle.path
  | none => pure w

/-- The world with new content for what a handle leads to. -/
def putAt (w : World) (handle : Handle) (e : Content) : World :=
  w.modifyContent handle.target handle.path fun _ => e

/-- New content is somewhere in a target, and nothing else has changed. -/
structure Replaces (w : World) (t : TargetId) (path : List String) (e : Content) (w' : World) :
    Prop where
  within : ∀ q, w'.content? t (path ++ q) = e.at? q
  beside : ∀ q, ¬ path <+: q → ¬ q <+: path → w'.content? t q = w.content? t q
  /-- What holds the new content differs in it alone. -/
  above : ∀ p q, path = p ++ q →
    w'.content? t p = (w.content? t p).map (Content.modifyAt (fun _ => e) q)
  types : ∀ t', w'.typeOf? t' = w.typeOf? t'
  others : ∀ t', t' ≠ t → w'.targets[t']? = w.targets[t']?
  rest : w' = { w with targets := w'.targets }

theorem replaces_putAt (h : w.content? handle.target handle.path = some c) (e : Content) :
    w.Replaces handle.target handle.path e (w.putAt handle e) where
  within q := by
    obtain ⟨x, hx, hc⟩ := Option.bind_eq_some_iff.mp h
    rw [putAt, content?_modifyContent, if_pos rfl, hx, Option.bind_some,
      Content.at?_modifyAt_append, hc, Option.bind_some]
  beside q hq hq' := by
    obtain ⟨x, hx, -⟩ := Option.bind_eq_some_iff.mp h
    rw [putAt, content?_modifyContent, if_pos rfl, content?, hx, Option.bind_some, Option.bind_some,
      Content.at?_modifyAt_apart _ hq hq']
  above p q hpq := by
    obtain ⟨x, hx, -⟩ := Option.bind_eq_some_iff.mp h
    rw [putAt, content?_modifyContent, if_pos rfl, content?, hx, Option.bind_some, Option.bind_some,
      hpq, Content.at?_modifyAt_above]
  types t' := Steady.typeOf?_modifyContent w _ t' _ _
  others t' ht := by
    rw [putAt, modifyContent, List.getElem?_modify]
    simp only [if_neg ht.symm, Option.map_eq_map, Option.map_id']
  rest := rfl

/-- Code that is run through an inner handle is handed on from the outer one. -/
theorem update_append {q : List String} (htarget : inner.target = outer.target)
    (hpath : inner.path = outer.path ++ q) (g : Content → m Content) :
    w.update inner g = w.update outer (Content.visitAt g q) := by
  rw [update, update, htarget, hpath, Content.visitAt_append]

omit [Monad m] in
/-- Code that only changes contents changes what the handle leads to. -/
theorem update_pure (w : World) (handle : Handle) (f : Content → Content) :
    (w.update (m := Id) handle fun d => pure (f d)).run =
      w.modifyContent handle.target handle.path f := by
  rw [update, modifyContent, List.modify_eq_set_getElem?]
  cases w.targets[handle.target]? with
  | none => rfl
  | some x =>
    have hvisit := Content.visitAt_pure f handle.path x.content
    exact congrArg (fun content : Content =>
      { w with targets := w.targets.set handle.target { x with content } }) hvisit

variable [LawfulMonad m]

/-- **Code that is run through a handle runs once**, on what the handle leads to. -/
theorem update_eq (h : w.content? handle.target handle.path = some c) (f : Content → m Content) :
    w.update handle f = w.putAt handle <$> f c := by
  obtain ⟨x, hx, hc⟩ := Option.bind_eq_some_iff.mp h
  have hput : ∀ e, w.putAt handle e = { w with
      targets := w.targets.set handle.target
        { x with content := x.content.modifyAt (fun _ => e) handle.path } } := by
    intro e
    rw [putAt, modifyContent, List.modify_eq_set_getElem?, hx]
    rfl
  rw [update, hx]
  dsimp only
  rw [Content.visitAt_eq hc, Functor.map_map]
  exact congrArg (· <$> f c) (funext fun e => (hput e).symm)

/-- Two pieces of code run one after the other through a handle are one piece of code. -/
theorem update_update (h : w.content? handle.target handle.path = some c)
    (f g : Content → m Content) :
    (do (← w.update handle f).update handle g) = w.update handle fun d => f d >>= g := by
  have hagain : ∀ e, (w.putAt handle e).update handle g = w.putAt handle <$> g e := by
    intro e
    have he : (w.putAt handle e).content? handle.target handle.path = some e := by
      have hwithin := (replaces_putAt h e).within []
      rwa [List.append_nil] at hwithin
    rw [update_eq he]
    refine congrArg (· <$> g e) (funext fun e' => ?_)
    rw [putAt, putAt, putAt, modifyContent, modifyContent, modifyContent, List.modify_modify_eq]
    refine congrArg (fun f => { w with targets := w.targets.modify handle.target f }) ?_
    funext x
    exact congrArg (fun content => { x with content }) (Content.modifyAt_modifyAt _ _ _ _)
  rw [update_eq h, update_eq h, map_bind, bind_map_left]
  exact congrArg (f c >>= ·) (funext hagain)

end World

end Live

/-! ## Where the types on a chain lie -/

/-- **Of two types that are embedded in one, one is embedded in the other.** -/
theorem Catalog.Embeds.nested {catalog : Catalog} {T A B : TypeDefinition} {p q : List String}
    (hA : catalog.Embeds T p A) (hB : catalog.Embeds T q B) :
    (∃ r, q = p ++ r ∧ catalog.Embeds A r B) ∨ ∃ r, p = q ++ r ∧ catalog.Embeds B r A := by
  induction hA generalizing q with
  | self _ => exact .inl ⟨q, rfl, hB⟩
  | @up T U A declared name via p hT hU hinfo hA ih =>
    cases hB with
    | self _ => exact .inr ⟨via :: p, rfl, .up hT hU hinfo hA⟩
    | @up _ U' _ declared' name' via' q _ hU' hinfo' hB =>
      obtain ⟨-, -, rfl, hup⟩ := TypeInfo.derived.inj (hinfo.symm.trans hinfo')
      obtain rfl := catalog.unique hU hU' (congrArg TypeInfo.declared hup)
      rcases ih hB with ⟨r, rfl, hr⟩ | ⟨r, rfl, hr⟩
      · exact .inl ⟨r, rfl, hr⟩
      · exact .inr ⟨r, rfl, hr⟩

/-- The way to an embedded type is the only one. -/
theorem Catalog.Embeds.way {catalog : Catalog} {T A : TypeDefinition} {p q : List String}
    (h : catalog.Embeds T p A) (h' : catalog.Embeds T q A) : p = q := by
  have hway : ∀ {path}, catalog.Embeds T path A →
      T.info.climb "" A.info.declared ⟨0, [], T.info.declared⟩ = .ok ⟨0, path, A.info.declared⟩ :=
    fun h => climb_of_embeds h "" rfl
  exact congrArg Handle.path (Except.ok.inj ((hway h).symm.trans (hway h')))

/-- **A handle cannot be taken to what is no ancestor.** -/
theorem TypeInfo.climb_of_not_reaches {info : TypeInfo} {goal : String} {handle : Handle}
    (h : ¬ info.Reaches goal) (htype : handle.type = info.declared) (origin : String) :
    info.climb origin goal handle = .error (.brokenAncestry origin) := by
  have hself : info.declared ≠ goal := fun hself => h ⟨info, info.mem_chain_self, hself⟩
  induction info generalizing handle with
  | root declared name => exact if_neg hself
  | derived declared name via parent ih =>
    have hparent : ¬ parent.Reaches goal := fun hup => h (hup.of_parent rfl)
    have hexpect : handle.expect declared = .ok handle := if_pos htype
    have hclimb := @ih ⟨handle.target, handle.path ++ [via], parent.declared⟩ hparent rfl
      fun hself => hparent ⟨parent, parent.mem_chain_self, hself⟩
    have hne : declared ≠ goal := hself
    rw [climb, if_neg hne, Handle.project, hexpect]
    exact hclimb

/-- What lies where a type is embedded is what its layout asks for. -/
theorem Content.Fits.embedded {catalog : Catalog} {T A : TypeDefinition} {path : List String}
    {c : Content} (h : c.Fits T.layout) (hA : catalog.Embeds T path A) :
    ∃ d, c.at? path = some d ∧ d.Fits A.layout := by
  obtain ⟨k, hk, -⟩ := h path A.layout hA.layout
  obtain ⟨d, hd, -⟩ := Option.map_eq_some_iff.mp hk
  refine ⟨d, hd, fun q l hl => ?_⟩
  have hbelow : T.layout.at? (path ++ q) = some l := by
    rw [Layout.at?_append, hA.layout]
    exact hl
  obtain ⟨k', hk', hsuits⟩ := h (path ++ q) l hbelow
  rw [Content.kindAt?, Content.at?_append, hd] at hk'
  exact ⟨k', hk', hsuits⟩

namespace Live

variable {catalog : Catalog} {w : World} {t : TargetId} {T A B : TypeDefinition}
  {handle outer inner up : Handle} {c : Content}

/-! ## What a handle is good for -/

/-- Through a handle code is run on what it leads to. -/
structure Opens (w : World) (handle : Handle) (c : Content) : Prop where
  here : w.content? handle.target handle.path = some c
  /-- The code runs once, and what it gives takes the place of what was there. -/
  once : ∀ {m : Type → Type} [Monad m] [LawfulMonad m] (f : Content → m Content),
    w.update handle f = w.putAt handle <$> f c
  /-- Nothing else changes. -/
  frame : ∀ e, w.Replaces handle.target handle.path e (w.putAt handle e)
  /-- Companions assign fields in this way. -/
  assigns : ∀ field e, w.assign handle field e =
    (w.update (m := Id) handle fun d => pure (d.modifyAt (fun _ => e) [field])).run

theorem World.opens (h : w.content? handle.target handle.path = some c) : Opens w handle c where
  here := h
  once := World.update_eq h
  frame := World.replaces_putAt h
  assigns field e := by
    rw [World.update_pure, World.assign, World.modifyContent, World.modifyContent]
    simp only [Content.modifyAt_append]

/-- The handle of a target of type `T` was taken to the part of it that is of type `A`. -/
structure OfPart (catalog : Catalog) (w : World) (t : TargetId) (T A : TypeDefinition)
    (up : Handle) : Prop where
  target : up.target = t
  type : up.type = A.info.declared
  /-- It leads through the fields that hold the types on the way. -/
  way : ∀ path, catalog.Embeds T path A ↔ path = up.path
  accepted : up.expect A.info.declared = .ok up
  refused : ∀ other, other ≠ A.info.declared →
    up.expect other = .error (.targetMismatch other A.info.declared)
  opens : ∃ c, c.Fits A.layout ∧ Opens w up c

/-- What one handle leads to is inside of what another one leads to, and so is what is done to
it. -/
structure Nests (w : World) (outer inner : Handle) (q : List String) : Prop where
  target : inner.target = outer.target
  path : inner.path = outer.path ++ q
  /-- In the outer part, code for the inner one runs once. -/
  inside : ∀ c, w.content? outer.target outer.path = some c → ∃ d, c.at? q = some d ∧
    ∀ {m : Type → Type} [Monad m] [LawfulMonad m] (g : Content → m Content),
      c.visitAt g q = (fun e => c.modifyAt (fun _ => e) q) <$> g d
  handed : ∀ {m : Type → Type} [Monad m] [LawfulMonad m] (g : Content → m Content),
    w.update inner g = w.update outer (Content.visitAt g q)
  inward : ∀ {m : Type → Type} [Monad m] [LawfulMonad m] (f g : Content → m Content),
    (do (← w.update outer f).update inner g) =
      w.update outer fun c => f c >>= Content.visitAt g q
  outward : ∀ {m : Type → Type} [Monad m] [LawfulMonad m] (f g : Content → m Content),
    (do (← w.update inner g).update outer f) =
      w.update outer fun c => Content.visitAt g q c >>= f

theorem World.nests {q : List String} (htarget : inner.target = outer.target)
    (hpath : inner.path = outer.path ++ q) {d : Content}
    (h : w.content? inner.target inner.path = some d) : Nests w outer inner q := by
  obtain ⟨x, hx, hd⟩ := Option.bind_eq_some_iff.mp h
  rw [hpath, Content.at?_append] at hd
  obtain ⟨c, hc, hinside⟩ := Option.bind_eq_some_iff.mp hd
  have houter : w.content? outer.target outer.path = some c := by
    rw [World.content?, ← htarget, hx]
    exact hc
  refine ⟨htarget, hpath, fun c' hc' => ⟨d, ?_, fun g => ?_⟩,
    World.update_append htarget hpath, fun f g => ?_, fun f g => ?_⟩
  · rw [← Option.some.inj (houter.symm.trans hc')]
    exact hinside
  · rw [← Option.some.inj (houter.symm.trans hc')]
    exact Content.visitAt_eq hinside g
  · rw [← World.update_update houter]
    exact congrArg (w.update outer f >>= ·) (funext fun _ => World.update_append htarget hpath g)
  · rw [← World.update_update houter, World.update_append htarget hpath]

/-- What becomes of the handle of a target when it is taken to other types. -/
structure Upcasts (catalog : Catalog) (w : World) (t : TargetId) (T : TypeDefinition)
    (handle : Handle) : Prop where
  /-- It can be taken to the type of the target and to its ancestors. -/
  succeeds : ∀ goal, (∃ up, T.info.upcast handle goal = .ok up) ↔ T.info.Reaches goal
  fails : ∀ goal, ¬ T.info.Reaches goal →
    T.info.upcast handle goal = .error (.brokenAncestry T.info.name)
  leads : ∀ goal up, T.info.upcast handle goal = .ok up →
    ∃ A, A.info.declared = goal ∧ OfPart catalog w t T A up
  /-- Of two handles, one leads into what the other one leads to. -/
  nests : ∀ goal goal' up up', T.info.upcast handle goal = .ok up →
    T.info.upcast handle goal' = .ok up' → ∃ q, Nests w up up' q ∨ Nests w up' up q

/-- What a handle that has been taken to an embedded type leads to. -/
theorem OfPart.of_embeds {x : Target} (hx : w.targets[t]? = some x)
    (hfits : x.content.Fits x.type.layout) {path : List String}
    (hA : catalog.Embeds x.type path A) :
    OfPart catalog w t x.type A ⟨t, path, A.info.declared⟩ where
  target := rfl
  type := rfl
  way q := ⟨fun hq => hq.way hA, fun hq => hq ▸ hA⟩
  accepted := if_pos rfl
  refused _ hother := if_neg hother.symm
  opens := by
    obtain ⟨c, hc, hfits⟩ := hfits.embedded hA
    refine ⟨c, hfits, World.opens ?_⟩
    rw [World.content?, hx]
    exact hc

/-- **A handle can be taken to the types that a type embeds, and works on them alone.** It is taken
to a type if and only if this is the type of the target or an ancestor; otherwise the type of the
target is reported. It then is a handle to exactly that type, and code that is run through it runs
once on the part that the fields on the way hold, and changes nothing else. Of two such handles one
leads into the part of the other, and code run through both is code run on the outer part. -/
theorem upcast_opens {x : Target} (hx : w.targets[t]? = some x) (htype : catalog.has x.type)
    (hfits : x.content.Fits x.type.layout) :
    ∃ handle, w.handle? t = some handle ∧ Upcasts catalog w t x.type handle := by
  have hembeds : ∀ goal up,
      x.type.info.upcast ⟨t, [], x.type.info.declared⟩ goal = .ok up →
        ∃ A path, catalog.Embeds x.type path A ∧ A.info.declared = goal ∧ up = ⟨t, path, goal⟩ :=
    fun goal up hup => Catalog.embeds_of_climb htype rfl hup
  refine ⟨⟨t, [], x.type.info.declared⟩, ?_, fun goal => ⟨?_, fun hreaches => ?_⟩,
    fun goal hnot => TypeInfo.climb_of_not_reaches hnot rfl x.type.info.name,
    fun goal up hup => ?_, fun goal goal' up up' hup hup' => ?_⟩
  · rw [World.handle?, hx]
    rfl
  · rintro ⟨up, hup⟩
    by_contra hnot
    have hclimb : x.type.info.upcast ⟨t, [], x.type.info.declared⟩ goal = .error _ :=
      TypeInfo.climb_of_not_reaches hnot rfl x.type.info.name
    cases hclimb.symm.trans hup
  · have hstart : (⟨t, [], x.type.info.declared⟩ : Handle).type = x.type.info.declared := rfl
    obtain ⟨up, hup, -⟩ := TypeInfo.climb_of_reaches hreaches hstart x.type.info.name
    exact ⟨up, hup⟩
  · obtain ⟨A, path, hA, rfl, rfl⟩ := hembeds goal up hup
    exact ⟨A, rfl, .of_embeds hx hfits hA⟩
  · obtain ⟨A, p, hA, rfl, rfl⟩ := hembeds goal up hup
    obtain ⟨B, p', hB, rfl, rfl⟩ := hembeds goal' up' hup'
    obtain ⟨c, -, hc⟩ := (OfPart.of_embeds hx hfits hA).opens
    obtain ⟨c', -, hc'⟩ := (OfPart.of_embeds hx hfits hB).opens
    rcases hA.nested hB with ⟨q, hq, -⟩ | ⟨q, hq, -⟩
    · exact ⟨q, .inl (World.nests rfl hq hc'.here)⟩
    · exact ⟨q, .inr (World.nests rfl hq hc.here)⟩

/-! ## A chest -/

namespace Chest

/-- The type of boxes. -/
def box : TypeDefinition where
  info := .root "Box" "app::Box"
  fields := [{ name := "lid", layout := .plain .flag }]

/-- The type of drawers, which hold a box. -/
def drawer : TypeDefinition where
  info := .derived "Drawer" "app::Drawer" "box" box.info
  fields := [{ name := "box", layout := box.layout }, { name := "label", layout := .plain .text }]

/-- The type of chests, which hold a drawer. -/
def chest : TypeDefinition where
  info := .derived "Chest" "app::Chest" "drawer" drawer.info
  fields := [{ name := "legs", layout := .plain .word }, { name := "drawer", layout := drawer.layout }]

/-- The catalog of furniture. -/
def types : Catalog where
  has A := A = box ∨ A = drawer ∨ A = chest
  unique := by
    rintro A B (rfl | rfl | rfl) (rfl | rfl | rfl) h <;> first | rfl | exact absurd h (by decide)
  names := by rintro A (rfl | rfl | rfl) <;> decide
  parent := by
    rintro A declared name via up (rfl | rfl | rfl) hinfo <;> cases hinfo
    · exact ⟨box, .inl rfl, rfl, _, List.mem_cons_self, rfl, rfl⟩
    · exact ⟨drawer, .inr (.inl rfl), rfl, _, List.mem_cons_of_mem _ List.mem_cons_self, rfl, rfl⟩

/-- What a chest holds whose box has a given lid. -/
def holding (lid : Bool) : Content :=
  .part [("legs", .plain (.word 4)), ("drawer", .part [
    ("box", .part [("lid", .plain (.flag lid))]), ("label", .plain (.text "top"))])]

/-- A world with nothing but a chest with an open box. -/
def room : World := { targets := [⟨chest, holding false⟩] }

/-- Shuts a box and counts that it has been shut. -/
def shut (_ : Content) : StateM Nat Content := do
  modify (· + 1)
  return .part [("lid", .plain (.flag true))]

theorem holding_fits (lid : Bool) : (holding lid).Fits chest.layout := by
  have hend : (Content.part []).Fits (.part []) := Content.fits_leaf trivial fun _ _ => rfl
  have hplain : ∀ v form, (Content.plain v).Fits (.plain form) := fun v form =>
    Content.fits_leaf trivial fun _ _ => rfl
  exact .cons (hplain _ _) (.cons (.cons (.cons (hplain _ _) hend) (.cons (hplain _ _) hend)) hend)

/-- The box in the drawer of a chest is shut once; the legs and the label stay. -/
theorem box_shut : types.has chest ∧ (holding false).Fits chest.layout ∧
    ∃ up, chest.info.upcast ⟨0, [], "Chest"⟩ "Box" = .ok up ∧
      up.path = ["drawer", "box"] ∧
      up.expect "Drawer" = .error (.targetMismatch "Drawer" "Box") ∧
      (∀ n, (room.update up shut).run n = ({ targets := [⟨chest, holding true⟩] }, n + 1)) ∧
      chest.info.upcast ⟨0, [], "Chest"⟩ "Lamp" = .error (.brokenAncestry "app::Chest") := by
  have hchest : types.has chest := .inr (.inr rfl)
  obtain ⟨handle, hhandle, hupcasts⟩ :=
    upcast_opens (w := room) (t := 0) rfl hchest (holding_fits false)
  obtain rfl : (⟨0, [], "Chest"⟩ : Handle) = handle := Option.some.inj hhandle
  obtain ⟨up, hup⟩ := (hupcasts.succeeds "Box").mpr ⟨box.info, by decide, rfl⟩
  obtain ⟨A, hA, hpart⟩ := hupcasts.leads "Box" up hup
  obtain rfl : (⟨0, ["drawer", "box"], "Box"⟩ : Handle) = up := Except.ok.inj hup
  have hrefused := hpart.refused "Drawer" (hA ▸ by decide)
  rw [hA] at hrefused
  obtain ⟨c, -, hopens⟩ := hpart.opens
  refine ⟨hchest, holding_fits false, _, hup, rfl, hrefused, fun n => ?_,
    hupcasts.fails "Lamp" ?_⟩
  · rw [hopens.once shut]
    rfl
  · rintro ⟨info, hinfo, hdeclared⟩
    have hall : ∀ info ∈ chest.info.chain, info.declared ≠ "Lamp" := by decide
    exact hall info hinfo hdeclared

end Chest

end Live
end Theming
