/-
# The functions of a companion

The code of a companion is read as functions, and the bodies of those that touch the target as
statements.

| function | statements |
| --- | --- |
| `new` | creates the binding, allocates, updates, adds the listener |
| `init_variables` | allocates the reactive fields; there only if there are some |
| `update_theme` | locks, updates all fields, unlocks, publishes the reactive ones |
| `unbind` | removes the listener, fails without a target, resets all but the reactive fields |
-/

import Theming.Proofs.Phrasing

namespace Theming
namespace Companion

open Binding (slots resets)
open Syntax (Code)
open Syntax.Code

/-! ## Fixed statements -/

namespace Fixed

/-- `let binding = Self { context: …, target: Mutex::new(Some(target)) }` -/
def create : List Code :=
  words "let binding = Self" ++
    brace (words "context :" ++ clone (words "context") ++
      words ", target : :: theme_runtime :: parking_lot :: Mutex :: new" ++
      paren (some' (words "target") ++ words ",") ++ words ",")

/-- `binding.init_variables()` -/
def allocate : List Code := words "binding . init_variables" ++ paren []

/-- `binding.update_theme()` -/
def refresh : List Code := words "binding . update_theme" ++ paren []

/-- `let binding = Arc::new(binding)` -/
def share : List Code :=
  words "let binding = :: std :: sync :: Arc :: new" ++ paren (words "binding")

/-- `context.broadcaster().add_listener(Arc::clone(&binding) as …)` -/
def addListener : List Code :=
  words "context . broadcaster" ++ paren [] ++ words ". add_listener" ++
    paren (words ":: std :: sync :: Arc :: clone" ++ paren (words "& binding") ++
      words "as :: std :: sync :: Arc < dyn :: theme_runtime :: ThemeListener >")

/-- `let guard = self.target.lock()` -/
def lock : List Code := words "let guard = self . target . lock" ++ paren []

/-- `let Some(target) = guard.as_ref() else { return; }` -/
def find : List Code :=
  words "let" ++ some' (words "target") ++ words "= guard . as_ref" ++ paren [] ++ words "else" ++
    brace (words "return ;")

/-- `let Some(target) = self.target.lock().clone() else { return; }` -/
def findOnce : List Code :=
  words "let" ++ some' (words "target") ++ words "= self . target . lock" ++ paren [] ++
    words ". clone" ++ paren [] ++ words "else" ++ brace (words "return ;")

/-- `let resources = self.context.resources()` -/
def fetch : List Code := words "let resources = self . context . resources" ++ paren []

/-- `target.update(|target| { … })` -/
def update (block : List Code) : List Code :=
  words "target . update" ++ paren (words "| target |" ++ brace block)

/-- `drop(guard)` -/
def unlock : List Code := words ":: core :: mem :: drop" ++ paren (words "guard")

/-- `self.context.broadcaster().remove_listener(self)` -/
def removeListener : List Code :=
  words "self . context . broadcaster" ++ paren [] ++ words ". remove_listener" ++
    paren (words "self")

/-- `let target = guard.as_ref().ok_or_else(|| { AlreadyCleared(String::from(…)) })?` -/
def findOrFail (name : String) : List Code :=
  words "let target = guard . as_ref" ++ paren [] ++ words ". ok_or_else" ++
    paren (words "||" ++ brace (words ":: theme_runtime :: BindingError :: AlreadyCleared" ++
      paren (words ":: std :: string :: String :: from" ++ paren (string name) ++ words ","))) ++
    words "?"

/-- `let _ = target` -/
def ignore : List Code := words "let _ = target"

/-- `Ok(())` -/
def succeed : List Code := words ":: core :: result :: Result :: Ok" ++ paren (paren [])

end Fixed

/-! ## Functions -/

/-- The code is the definition of a function. -/
def Defines (name : String) (body code : List Code) : Prop :=
  ∀ rest, functionsFrom none (code ++ rest) = (name, body) :: functionsFrom none rest

namespace Source

open Fixed

variable {s : Source} (hvisibility : s.visibility.all (avoids "fn") = true)

/-- The bindings of the members, in order. -/
def bindings (s : Source) : List Binding := s.members.map Member.binding

theorem reactive_bindings (s : Source) : s.reactive.map Member.binding = slots s.bindings := by
  rw [slots, bindings, List.filter_map]
  rfl

theorem isEmpty_reactive (s : Source) : s.reactive.isEmpty = (slots s.bindings).isEmpty := by
  rw [← reactive_bindings, List.isEmpty_map]

theorem avoids_doc (literal : String) : (doc literal).all (avoids "fn") = true := by
  simp only [doc, attribute']
  repeat rw [words_ofList]
  rfl

/-- The body of the constructor. -/
def constructorBody (s : Source) : List Code :=
  create ++ words ";" ++ s.initCall ++ refresh ++ words ";" ++ share ++ words ";" ++ addListener ++
    words "; binding"

include hvisibility in
theorem defines_constructor : Defines "new" s.constructorBody s.constructor := by
  intro rest
  -- The documentation and the visibility are passed over; from `fn` on, the words decide.
  rw [constructor, constructorBody]
  simp only [List.append_assoc]
  rw [functionsFrom_append (avoids_doc _), functionsFrom_append (avoids_doc _),
    functionsFrom_append hvisibility]
  simp only [create, refresh, share, addListener, List.append_assoc]
  repeat rw [words_ofList]
  rfl

include hvisibility in
theorem defines_entry : ∃ body, Defines "entry" body s.entry := by
  -- The target is not touched here, so the body is left to what is read.
  refine ⟨?_, fun rest => ?_⟩
  rotate_left
  · rw [entry]
    simp only [List.append_assoc]
    rw [functionsFrom_append (avoids_doc _), functionsFrom_append hvisibility]
    repeat rw [words_ofList]
    rfl

include hvisibility in
theorem defines_register : ∃ body, Defines "register" body s.register := by
  refine ⟨?_, fun rest => ?_⟩
  rotate_left
  · rw [register]
    simp only [List.append_assoc]
    rw [functionsFrom_append (avoids_doc _), functionsFrom_append hvisibility]
    repeat rw [words_ofList]
    rfl

theorem defines_construct : ∃ body, Defines "construct" body s.construct := by
  refine ⟨?_, fun rest => ?_⟩
  rotate_left
  · rw [construct]
    simp only [List.append_assoc]
    repeat rw [words_ofList]
    rfl

/-- The body of the update. -/
def updateBody (s : Source) : List Code :=
  (lock ++ words ";" ++ find ++ words ";" ++ fetch ++ words ";") ++
    s.reactive.flatMap Member.declaration ++
    (update (s.members.flatMap Member.update) ++ words ";" ++ (unlock ++ words ";")) ++
    s.reactive.flatMap Member.publish

include hvisibility in
theorem defines_updateTheme : Defines "update_theme" s.updateBody s.updateTheme := by
  intro rest
  rw [updateTheme, updateBody]
  simp only [List.append_assoc]
  rw [functionsFrom_append (avoids_doc _), functionsFrom_append hvisibility]
  simp only [lock, find, fetch, update, unlock, updateTarget, List.append_assoc]
  repeat rw [words_ofList]
  rfl

/-- The body of the allocation. -/
def initBody (s : Source) : List Code :=
  findOnce ++ words ";" ++ (update (s.reactive.flatMap Member.allocation) ++ words ";")

theorem defines_initVariables (h : s.reactive.isEmpty = false) :
    Defines "init_variables" s.initBody s.initVariables := by
  intro rest
  rw [initVariables, initBody, if_neg (by simp [h])]
  simp only [findOnce, update, updateTarget, List.append_assoc]
  repeat rw [words_ofList]
  rfl

/-- The body of the release. -/
def unbindBody (s : Source) : List Code :=
  (removeListener ++ words ";" ++ lock ++ words ";" ++ findOrFail s.companionName ++ words ";") ++
    s.release ++ succeed

theorem functions_unbinder (s : Source) : ∃ clear, functions s.unbinder =
    [("unbind", s.unbindBody), ("clear", clear), ("companion_name", string s.companionName)] := by
  refine ⟨?_, ?_⟩
  rotate_left
  · rw [unbinder, unbindBody]
    simp only [attribute', removeListener, lock, findOrFail, succeed, List.append_assoc]
    repeat rw [words_ofList]
    rfl

theorem functions_listener (s : Source) :
    functions s.listener =
      [("apply_theme", words "self . update_theme" ++ paren [] ++ words ";")] := by
  simp only [listener, attribute', List.append_assoc]
  repeat rw [words_ofList]
  rfl

/-- What stands in the struct. -/
def structBody (s : Source) : List Code :=
  words "context : :: theme_runtime :: ThemeContext , target :" ++
    words ":: theme_runtime :: parking_lot :: Mutex < :: core :: option :: Option <" ++
    words ":: theme_runtime :: TargetHandle <" ++ [.word s.target] ++ words ">> , > ,"

theorem avoids_structBody (htarget : s.target ≠ "fn") :
    s.structBody.all (avoids "fn") = true := by
  have hfront : (words "context : :: theme_runtime :: ThemeContext , target :" ++
      words ":: theme_runtime :: parking_lot :: Mutex < :: core :: option :: Option <" ++
      words ":: theme_runtime :: TargetHandle <").all (avoids "fn") = true := by
    repeat rw [words_ofList]
    rfl
  have hback : (words ">> , > ,").all (avoids "fn") = true := by
    repeat rw [words_ofList]
    rfl
  rw [structBody, List.all_append, List.all_append, hfront, hback]
  simp [avoids, htarget]

include hvisibility in
theorem functions_declaration (htarget : s.target ≠ "fn") : functions s.declaration = [] := by
  have hblocks : blocks s.declaration = [s.structBody] := by
    rw [declaration, blocks_append, blocks_append, blocks_append, blocks_append,
      blocks_of_avoids (avoids_doc _), blocks_of_avoids hvisibility]
    simp only [structBody]
    repeat rw [words_ofList]
    rfl
  have hnone := functionsFrom_append (avoids_structBody htarget) none []
  rw [List.append_nil] at hnone
  rw [functions, hblocks, List.flatMap_singleton, hnone]
  rfl

include hvisibility in
theorem functions_inherent : ∃ entry register construct, functions s.inherent =
    ("new", s.constructorBody) :: ("entry", entry) :: ("register", register) ::
      ("construct", construct) ::
        ((if s.reactive.isEmpty then [] else [("init_variables", s.initBody)]) ++
          [("update_theme", s.updateBody)]) := by
  obtain ⟨entry, hentry⟩ := defines_entry hvisibility
  obtain ⟨register, hregister⟩ := defines_register hvisibility
  obtain ⟨construct, hconstruct⟩ := defines_construct (s := s)
  refine ⟨entry, register, construct, ?_⟩
  have hblock : functions s.inherent = functionsFrom none (s.constructor ++ (s.entry ++
      (s.register ++ (s.construct ++ (s.initVariables ++ (s.updateTheme ++ [])))))) := by
    simp only [inherent, attribute', List.append_assoc, List.append_nil]
    repeat rw [words_ofList]
    exact List.append_nil _
  rw [hblock, defines_constructor hvisibility, hentry, hregister, hconstruct]
  cases hreactive : s.reactive.isEmpty with
  | true =>
    rw [initVariables, if_pos hreactive, List.nil_append, defines_updateTheme hvisibility]
    rfl
  | false =>
    rw [defines_initVariables hreactive, defines_updateTheme hvisibility]
    rfl

include hvisibility in
theorem functions_code (htarget : s.target ≠ "fn") : ∃ entry register construct clear,
    functions s.code =
      [("new", s.constructorBody), ("entry", entry), ("register", register),
        ("construct", construct)] ++
      (if (slots s.bindings).isEmpty then [] else [("init_variables", s.initBody)]) ++
      [("update_theme", s.updateBody),
        ("apply_theme", words "self . update_theme" ++ paren [] ++ words ";"),
        ("unbind", s.unbindBody), ("clear", clear),
        ("companion_name", string s.companionName)] := by
  obtain ⟨entry, register, construct, hinherent⟩ := functions_inherent hvisibility
  obtain ⟨clear, hunbinder⟩ := functions_unbinder s
  refine ⟨entry, register, construct, clear, ?_⟩
  rw [code, functions_append, functions_append, functions_append,
    functions_declaration hvisibility htarget, hinherent, functions_listener, hunbinder,
    isEmpty_reactive]
  cases (slots s.bindings).isEmpty <;> rfl

/-! ## Bodies -/

/-- What is read of every member is a matter of its binding. -/
theorem reads_members {α : Type} {read : List Code → Option α} {make : Member → List Code}
    {result : Binding → List α} {ms : List Member}
    (h : ∀ m ∈ ms, Reads read (make m) (result m.binding)) :
    Reads read (ms.flatMap make) ((ms.map Member.binding).flatMap result) := by
  rw [List.flatMap_map]
  exact Reads.flatMap h

/-- An update says what its block writes. -/
theorem says_update {block : List Code} {writes : List Write} (h : Reads Write.read? block writes) :
    Says (update block ++ words ";") [.update writes] := by
  have hupdate : update block = [.word "target", .word ".", .word "update", .group .paren
      [.word "|", .word "target", .word "|", .group .brace block]] := by
    simp only [update]
    repeat rw [words_ofList]
    rfl
  rw [hupdate]
  refine Reads.single (Consists.of_semicolon (by simp) (by simp [avoids])) ?_
  rw [Statement.read, h.mapM_statements]

theorem reads_constructorBody (s : Source) : (statements s.constructorBody).map Statement.read =
    .other create :: ((if (slots s.bindings).isEmpty then [] else [.other allocate]) ++
      [.other refresh, .other share, .other addListener, .other (words "binding")]) := by
  rw [constructorBody, initCall, isEmpty_reactive]
  simp only [create, allocate, refresh, share, addListener, List.append_assoc]
  repeat rw [words_ofList]
  cases (slots s.bindings).isEmpty <;> rfl

section Members

variable (h : ∀ m ∈ s.members, m.IsPlain)
include h

theorem reads_initBody : (statements s.initBody).map Statement.read =
    [.other findOnce, .update ((slots s.bindings).map fun b => .set b.name .default)] := by
  have hfind : Says (findOnce ++ words ";") [.other findOnce] := by
    refine ⟨[findOnce], fun rest => ?_, ?_⟩ <;>
    · simp only [findOnce, some', List.append_assoc]
      repeat rw [words_ofList]
      rfl
  have hwrites : Reads Write.read? (s.reactive.flatMap Member.allocation)
      ((slots s.bindings).map fun b => .set b.name .default) := by
    rw [← reactive_bindings, List.map_eq_flatMap]
    exact reads_members fun m hm => Member.reads_allocation (h m (List.mem_of_mem_filter hm))
  exact Says.map_read (hfind.append (says_update hwrites))

theorem reads_updateBody : (statements s.updateBody).map Statement.read =
    [.other lock, .other find, .other fetch] ++ (slots s.bindings).map (.declare ·.pending) ++
      [.update (s.bindings.map Binding.write), .other unlock] ++
      (slots s.bindings).map (.publish ·.pending) := by
  have hreactive : ∀ m ∈ s.reactive, m.IsPlain := fun m hm => h m (List.mem_of_mem_filter hm)
  have hfront : Says (lock ++ words ";" ++ find ++ words ";" ++ fetch ++ words ";")
      [.other lock, .other find, .other fetch] := by
    refine ⟨[lock, find, fetch], fun rest => ?_, ?_⟩ <;>
    · simp only [lock, find, fetch, some', List.append_assoc]
      repeat rw [words_ofList]
      rfl
  have hdeclared : Says (s.reactive.flatMap Member.declaration)
      ((slots s.bindings).map (.declare ·.pending)) := by
    rw [← reactive_bindings, List.map_eq_flatMap]
    exact reads_members fun m hm => Member.says_declaration (hreactive m hm)
  have hwrites : Reads Write.read? (s.members.flatMap Member.update)
      (s.bindings.map Binding.write) := by
    rw [bindings, List.map_eq_flatMap]
    exact reads_members fun m hm => Member.reads_update (h m hm)
  have hunlock : Says (unlock ++ words ";") [.other unlock] := by
    refine ⟨[unlock], fun rest => ?_, ?_⟩ <;>
    · simp only [unlock, List.append_assoc]
      repeat rw [words_ofList]
      rfl
  have hpublished : Says (s.reactive.flatMap Member.publish)
      ((slots s.bindings).map (.publish ·.pending)) := by
    rw [← reactive_bindings, List.map_eq_flatMap]
    exact reads_members fun m hm => Member.says_publish (hreactive m hm)
  exact Says.map_read
    (((hfront.append hdeclared).append ((says_update hwrites).append hunlock)).append hpublished)

end Members

/-- The members that are reset are those with a reset. -/
theorem isEmpty_resettable (s : Source) :
    s.resettable.isEmpty = (resets s.bindings).isEmpty := by
  rw [resettable, resets, bindings]
  induction s.members with
  | nil => rfl
  | cons m ms ih =>
    rw [List.filter_cons, List.map_cons, List.filterMap_cons, Member.isReactive, Binding.reset?]
    cases m.binding.shape with
    | reactive => exact ih
    | _ => rfl

theorem says_release (h : ∀ m ∈ s.members, m.IsPlain) : Says s.release
    [if (resets s.bindings).isEmpty then .other ignore else .update (resets s.bindings)] := by
  have hwrites : Reads Write.read? (s.members.flatMap Member.reset) (resets s.bindings) := by
    rw [resets, bindings, List.filterMap_eq_flatMap_toList]
    exact reads_members fun m hm => Member.reads_reset (h m hm)
  rw [release, isEmpty_resettable]
  split
  · refine ⟨[ignore], fun rest => ?_, ?_⟩ <;>
    · simp only [ignore]
      repeat rw [words_ofList]
      rfl
  · exact says_update hwrites

theorem reads_unbindBody (h : ∀ m ∈ s.members, m.IsPlain) :
    (statements s.unbindBody).map Statement.read =
      [.other removeListener, .other lock, .other (findOrFail s.companionName),
        if (resets s.bindings).isEmpty then .other ignore
        else .update (resets s.bindings), .other succeed] := by
  have hfront : Says (removeListener ++ words ";" ++ lock ++ words ";" ++
      findOrFail s.companionName ++ words ";")
      [.other removeListener, .other lock, .other (findOrFail s.companionName)] := by
    refine ⟨[removeListener, lock, findOrFail s.companionName], fun rest => ?_, ?_⟩ <;>
    · simp only [removeListener, lock, findOrFail, List.append_assoc]
      repeat rw [words_ofList]
      rfl
  have hlast : (statements succeed).map Statement.read = [.other succeed] := by
    simp only [succeed]
    repeat rw [words_ofList]
    rfl
  rw [unbindBody, Says.map_read_append (hfront.append (says_release h)), hlast]
  rfl

end Source
end Companion
end Theming
