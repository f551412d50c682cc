/-
# Flattening of nested names

The path of a companion forgets the types around a declaring type. The generator knows package,
enclosing types and simple name apart, the runtime gets them joined into one text, and both must
come to one path (`Naming.flattening_agrees`).

| joined by | put together in | taken apart by |
| --- | --- | --- |
| `::` | `inPackage` | `packageOf`, at the last one |
| `.` | `nestedName` | `simpleName`, at the last one |
| `.` | an `enclosing` attribute | `enclosingSegments`, at each |

A package is any text and may end in a colon, so `::` may stand at two overlapping places. The last
of them is the one that was put there, since no colon stands behind it
(`Naming.splitLast?_append`).
-/

import Theming.Derive.Attributes
import Theming.Proofs.Coverage
import Theming.Proofs.Search

namespace Theming
namespace Naming

/-- A text that separators can be put around: it is not empty and holds no part of one. -/
def IsSegment (name : String) : Prop :=
  name ≠ "" ∧ ':' ∉ name.toList ∧ nestingSeparator ∉ name.toList

instance (name : String) : Decidable (IsSegment name) :=
  inferInstanceAs (Decidable (_ ∧ _ ∧ _))

/-! ## The last separator -/

section Split

variable {sep before after cs : List Char}

theorem splitLast?_eq_none (h : ¬ sep <:+: cs) : splitLast? sep cs = none := by
  induction cs with
  | nil => rfl
  | cons c cs ih =>
    rw [List.infix_cons_iff, not_or] at h
    have hbegins : ¬ sep.isPrefixOf (c :: cs) = true := by
      rw [List.isPrefixOf_iff_prefix]
      exact h.1
    rw [splitLast?, ih h.2]
    exact if_neg hbegins

theorem splitLast?_prepend (h : splitLast? sep cs = some (before, after)) (pre : List Char) :
    splitLast? sep (pre ++ cs) = some (pre ++ before, after) := by
  induction pre with
  | nil => exact h
  | cons c pre ih => rw [List.cons_append, splitLast?, ih, List.cons_append]

/-- **A text is cut at a separator that none begins after.** -/
theorem splitLast?_append (hne : sep ≠ []) (h : ¬ sep <:+: sep.tail ++ after)
    (before : List Char) :
    splitLast? sep (before ++ (sep ++ after)) = some (before, after) := by
  obtain ⟨c, tail, rfl⟩ := List.exists_cons_of_ne_nil hne
  have hhere : splitLast? (c :: tail) (c :: tail ++ after) = some ([], after) := by
    have htail : splitLast? (c :: tail) (tail ++ after) = none := splitLast?_eq_none h
    rw [List.cons_append, splitLast?, htail]
    have hbegins : (c :: tail).isPrefixOf (c :: (tail ++ after)) = true := by
      rw [List.isPrefixOf_iff_prefix, ← List.cons_append]
      exact List.prefix_append _ _
    rw [if_pos hbegins, ← List.cons_append, List.drop_left]
  have hprepend := splitLast?_prepend hhere before
  rwa [List.append_nil] at hprepend

theorem not_infix_of_notMem {c : Char} (hc : c ∈ sep) (h : c ∉ cs) : ¬ sep <:+: cs :=
  fun hwithin => h (hwithin.subset hc)

end Split

/-! ## Packages -/

/-- A name without a colon is cut off from its package. -/
theorem splitLast?_inPackage (package : String) {name : String} (h : ':' ∉ name.toList) :
    splitLast? moduleSeparator.toList (inPackage package name).toList =
      if package.isEmpty then none else some (package.toList, name.toList) := by
  have hsep : moduleSeparator.toList = [':', ':'] := rfl
  rw [inPackage, hsep]
  split_ifs
  · exact splitLast?_eq_none (not_infix_of_notMem List.mem_cons_self h)
  · rw [String.toList_append, String.toList_append, hsep, List.append_assoc]
    refine splitLast?_append (by simp) ?_ _
    -- A separator that began at the second colon would put a colon into the name.
    rw [List.tail_cons, List.singleton_append, List.infix_cons_iff, not_or]
    refine ⟨fun hbegins => h ?_, not_infix_of_notMem List.mem_cons_self h⟩
    exact (List.cons_prefix_cons.mp hbegins).2.subset List.mem_cons_self

theorem packageOf_inPackage (package : String) {name : String} (h : ':' ∉ name.toList) :
    packageOf (inPackage package name) = package := by
  rw [packageOf, splitLast?_inPackage package h]
  by_cases hempty : package = ""
  · rw [hempty]
    rfl
  · rw [if_neg (by simpa using hempty)]
    exact String.ofList_toList

/-- The package is of no matter to the simple name. -/
theorem simpleName_inPackage (package : String) {name : String} (h : ':' ∉ name.toList) :
    simpleName (inPackage package name) = simpleName name := by
  have hname : splitLast? moduleSeparator.toList name.toList = none :=
    splitLast?_eq_none (not_infix_of_notMem List.mem_cons_self h)
  rw [simpleName, simpleName, splitLast?_inPackage package h, hname]
  by_cases hempty : package.isEmpty = true
  · rw [if_pos hempty, inPackage, if_pos hempty]
  · rw [if_neg hempty]

/-- **Package and name can be told from a qualified name.** -/
theorem inPackage_inj {package package' name name' : String} (h : ':' ∉ name.toList)
    (h' : ':' ∉ name'.toList) :
    inPackage package name = inPackage package' name' ↔ package = package' ∧ name = name' := by
  refine ⟨fun heq => ?_, fun ⟨hpackage, hname⟩ => by rw [hpackage, hname]⟩
  have hpackage : package = package' := by
    rw [← packageOf_inPackage package h, heq, packageOf_inPackage package' h']
  subst hpackage
  refine ⟨rfl, ?_⟩
  rw [inPackage, inPackage] at heq
  split_ifs at heq with hempty
  · exact heq
  · exact String.append_right_inj _ |>.mp heq

/-! ## Nesting -/

section Nesting

variable {enclosing : List String} {simple : String}

theorem intercalate_eq_empty (h : ∀ part ∈ enclosing, part ≠ "") :
    (".".intercalate enclosing).isEmpty = true ↔ enclosing = [] := by
  cases enclosing with
  | nil => simp
  | cons part rest =>
    have hpart := h part List.mem_cons_self
    cases rest with
    | nil => simpa using hpart
    | cons next rest => simp [String.intercalate_cons_cons, hpart]

/-- The simple name is what stands behind the last dot. -/
theorem simpleName_nestedName (hcolon : ':' ∉ (nestedName enclosing simple).toList)
    (hdot : nestingSeparator ∉ simple.toList) :
    simpleName (nestedName enclosing simple) = simple := by
  have hname : splitLast? moduleSeparator.toList (nestedName enclosing simple).toList = none :=
    splitLast?_eq_none (not_infix_of_notMem List.mem_cons_self hcolon)
  have hsimple : ¬ [nestingSeparator] <:+: simple.toList :=
    not_infix_of_notMem List.mem_cons_self hdot
  rw [simpleName, hname]
  dsimp only
  rw [nestedName]
  split_ifs
  · rw [splitLast?_eq_none hsimple]
    exact String.ofList_toList
  · have hsep : ".".toList = [nestingSeparator] := rfl
    rw [String.toList_append, String.toList_append, hsep, List.append_assoc]
    rw [splitLast?_append (List.cons_ne_nil _ _) (by simpa using hsimple)]
    exact String.ofList_toList

theorem notMem_intercalate {c : Char} {sep : String} {parts : List String} (hsep : c ∉ sep.toList)
    (h : ∀ part ∈ parts, c ∉ part.toList) : c ∉ (sep.intercalate parts).toList := by
  induction parts with
  | nil => simp
  | cons part rest ih =>
    have hpart := h part List.mem_cons_self
    have hrest := ih fun other hother => h other (List.mem_cons_of_mem _ hother)
    by_cases hnil : rest = []
    · rw [hnil, String.intercalate_singleton]
      exact hpart
    · rw [String.intercalate_cons_of_ne_nil hnil, String.toList_append, String.toList_append]
      simp only [List.mem_append, not_or]
      exact ⟨⟨hpart, hsep⟩, hrest⟩

/-- **A text joined from segments can be taken apart into them.** -/
theorem splitOn_intercalate {parts : List String} (hne : parts ≠ [])
    (h : ∀ part ∈ parts, IsSegment part) :
    (".".intercalate parts).toList.splitOn nestingSeparator = parts.map String.toList := by
  rw [String.toList_intercalate]
  refine List.splitOn_intercalate _ (fun cs hcs => ?_) (by simpa using hne)
  obtain ⟨part, hpart, rfl⟩ := List.mem_map.mp hcs
  exact (h part hpart).2.2

variable (h : ∀ part ∈ enclosing ++ [simple], IsSegment part)
include h

/-- A nested name is joined from all its parts. -/
theorem nestedName_eq : nestedName enclosing simple = ".".intercalate (enclosing ++ [simple]) := by
  have hne : ∀ part ∈ enclosing, part ≠ "" := fun part hpart =>
    (h part (List.mem_append_left _ hpart)).1
  rw [nestedName]
  by_cases hempty : enclosing = []
  · subst hempty
    simp
  · rw [if_neg (mt (intercalate_eq_empty hne).mp hempty),
      String.intercalate_append_of_ne_nil hempty (List.cons_ne_nil _ _),
      String.intercalate_singleton]

theorem colon_notMem_nestedName : ':' ∉ (nestedName enclosing simple).toList := by
  rw [nestedName_eq h]
  exact notMem_intercalate (by decide) fun part hpart => (h part hpart).2.1

/-- **Enclosing types and simple name can be told from a nested name.** -/
theorem nestedName_inj {enclosing' : List String} {simple' : String}
    (h' : ∀ part ∈ enclosing' ++ [simple'], IsSegment part) :
    nestedName enclosing simple = nestedName enclosing' simple' ↔
      enclosing = enclosing' ∧ simple = simple' := by
  refine ⟨fun heq => ?_, fun ⟨henclosing, hsimple⟩ => by rw [henclosing, hsimple]⟩
  have hparts : (enclosing ++ [simple]).map String.toList =
      (enclosing' ++ [simple']).map String.toList := by
    rw [← splitOn_intercalate (List.concat_ne_nil _ _) h,
      ← splitOn_intercalate (List.concat_ne_nil _ _) h', ← nestedName_eq h, heq,
      nestedName_eq h']
  have hconcat := List.map_injective_iff.mpr (fun _ _ => String.toList_injective) hparts
  obtain ⟨henclosing, hsimple⟩ := List.append_inj' hconcat rfl
  exact ⟨henclosing, List.singleton_injective hsimple⟩

/-! ## Qualified names -/

theorem packageOf_qualifiedName (package : String) :
    packageOf (qualifiedName package enclosing simple) = package :=
  packageOf_inPackage package (colon_notMem_nestedName h)

theorem simpleName_qualifiedName (package : String) :
    simpleName (qualifiedName package enclosing simple) = simple := by
  have hcolon := colon_notMem_nestedName h
  rw [qualifiedName, simpleName_inPackage package hcolon]
  exact simpleName_nestedName hcolon (h simple (List.mem_append_right _ List.mem_cons_self)).2.2

/-- **A companion is called after package and simple name alone.** -/
theorem companionPath_qualifiedName (package : String) :
    companionPath (qualifiedName package enclosing simple) =
      inPackage package (companionName simple) := by
  rw [companionPath, packageOf_qualifiedName h, simpleName_qualifiedName h]

end Nesting

theorem IsSegment.companionName {simple : String} (h : IsSegment simple) :
    ':' ∉ (companionName simple).toList := by
  rw [Naming.companionName, String.toList_append, List.mem_append, not_or]
  exact ⟨h.2.1, by decide⟩

/-- What is joined for an `enclosing` attribute is taken apart again. -/
theorem enclosingSegments_intercalate {enclosing : List String}
    (h : ∀ part ∈ enclosing, IsSegment part) :
    Derive.enclosingSegments (".".intercalate enclosing) = enclosing := by
  rw [Derive.enclosingSegments]
  cases enclosing with
  | nil => rfl
  | cons part rest =>
    rw [splitOn_intercalate (List.cons_ne_nil _ _) h, List.map_map]
    simp only [Function.comp_def, String.ofList_toList, List.map_id']
    exact List.filter_eq_self.mpr fun part hpart => by simpa using (h part hpart).1

end Naming

/-! ## Generator and runtime -/

namespace Resolver

/-- A search for a type that nothing is kept for looks at a path: whatever is registered there is
the companion of the type, or is refused for being the companion of another one. -/
def Probes (info : TypeInfo) (path : String) : Prop :=
  ∀ (r : Resolver) (entry : CompanionEntry), r.table.lookup info.declared = none →
    r.registry.get? path = some entry →
    (r.resolve info).result = if entry.target = info.declared then .ok (some entry)
      else .error (.signatureMismatch info.name path entry.target)

theorem probes_companionPath (info : TypeInfo) : Probes info (Naming.companionPath info.name) := by
  intro r entry hnew hentry
  have hsearch := r.search_resolve info
  generalize (r.resolve info).result = result, (r.resolve info).resolver = r' at hsearch ⊢
  cases hsearch with
  | known h => cases hnew.symm.trans h
  | own _ h htarget =>
    obtain rfl := Option.some.inj (hentry.symm.trans h)
    rw [if_pos htarget]
  | foreign _ h htarget =>
    obtain rfl := Option.some.inj (hentry.symm.trans h)
    rw [if_neg htarget]
  | framework _ h _ => cases hentry.symm.trans h
  | top _ h _ _ => cases hentry.symm.trans h
  | inherited _ h _ _ _ => cases hentry.symm.trans h
  | stopped _ h _ _ _ => cases hentry.symm.trans h

end Resolver

namespace Naming

/-- **Generator and runtime come to the same companion paths.** Package, enclosing types and simple
name can be told from a qualified name, which has the path of package and simple name alone. So the
path of a described type in its model is the one that its companion is registered under, and the
one that is looked at in search of it, if the type gives the runtime its package, an `enclosing`
attribute of the types around it and its simple name. -/
theorem flattening_agrees :
    (∀ (package : String) (enclosing : List String) (simple : String),
      (∀ part ∈ enclosing ++ [simple], IsSegment part) →
        packageOf (qualifiedName package enclosing simple) = package ∧
        simpleName (qualifiedName package enclosing simple) = simple ∧
        companionPath (qualifiedName package enclosing simple) =
          (if package = "" then simple ++ "ThemeBinding"
            else package ++ "::" ++ simple ++ "ThemeBinding") ∧
        Derive.enclosingSegments (".".intercalate enclosing) = enclosing ∧
        ∀ (package' : String) (enclosing' : List String) (simple' : String),
          (∀ part ∈ enclosing' ++ [simple'], IsSegment part) →
            (qualifiedName package enclosing simple = qualifiedName package' enclosing' simple' ↔
              package = package' ∧ enclosing = enclosing' ∧ simple = simple') ∧
            (companionPath (qualifiedName package enclosing simple) =
                companionPath (qualifiedName package' enclosing' simple') ↔
              package = package' ∧ simple = simple')) ∧
    ∀ (desc : TypeDescription) (ty : DeclaringType), DeclaringType.build desc = .ok ty →
      List.Forall₂ (fun (q : DeclaringType) (described : List String × TypeDescription) =>
          (∀ part ∈ described.1 ++ [described.2.name], IsSegment part) →
            ∀ (type : TypeDefinition) (label : String),
              type.info.name = qualifiedName desc.package
                (Derive.enclosingSegments (".".intercalate described.1)) described.2.name →
              (CompanionEntry.keeper type label).path = q.companionPath ∧
                Resolver.Probes type.info q.companionPath)
        ty.qualifying ((desc.census []).filter fun described => described.2.isAnnotated) := by
  refine ⟨fun package enclosing simple h => ?_, fun desc ty hbuild => ?_⟩
  · have hsimple : IsSegment simple := h simple (List.mem_append_right _ List.mem_cons_self)
    have hpath := companionPath_qualifiedName h package
    refine ⟨packageOf_qualifiedName h package, simpleName_qualifiedName h package, ?_,
      enclosingSegments_intercalate fun part hpart => h part (List.mem_append_left _ hpart),
      fun package' enclosing' simple' h' => ⟨?_, ?_⟩⟩
    · rw [hpath, inPackage]
      by_cases hempty : package = ""
      · rw [if_pos hempty, if_pos (by simpa using hempty)]
        rfl
      · rw [if_neg hempty, if_neg (by simpa using hempty)]
        exact String.append_assoc.symm
    · rw [qualifiedName, qualifiedName,
        inPackage_inj (colon_notMem_nestedName h) (colon_notMem_nestedName h'),
        nestedName_inj h h']
    · have hsimple' : IsSegment simple' := h' simple' (List.mem_append_right _ List.mem_cons_self)
      rw [hpath, companionPath_qualifiedName h', inPackage_inj hsimple.companionName
        hsimple'.companionName, companionName, companionName, String.append_left_inj]
  · refine (DeclaringType.buildIn_covers desc.package [] desc hbuild).1.imp
      fun q described hmodels hparts type label hname => ?_
    have hagree : type.info.name = q.qualifiedName := by
      rw [hname, enclosingSegments_intercalate fun part hpart =>
        hparts part (List.mem_append_left _ hpart), DeclaringType.qualifiedName, hmodels.package,
        hmodels.enclosing, hmodels.name]
    rw [DeclaringType.companionPath, ← hagree]
    exact ⟨rfl, Resolver.probes_companionPath _⟩

/-- A package may end in a colon, and the corner of a dialog's frame is found beside the dialog. -/
theorem corner_agrees :
    (∀ part ∈ ["Dialog", "Frame"] ++ ["Corner"], IsSegment part) ∧
    packageOf (qualifiedName "app:" ["Dialog", "Frame"] "Corner") = "app:" ∧
    companionPath (qualifiedName "app:" ["Dialog", "Frame"] "Corner") =
      "app:::CornerThemeBinding" ∧
    ∃ ty, DeclaringType.build DeclaringType.dialog = .ok ty ∧
      ∃ q ∈ ty.qualifying, q.companionPath = "app::CornerThemeBinding" ∧
        Resolver.Probes (.root "crate::Corner" "app::Dialog.Frame.Corner") q.companionPath := by
  have hparts : ∀ part ∈ ["Dialog", "Frame"] ++ ["Corner"], IsSegment part := by decide
  obtain ⟨hpackage, -, hpath, -, -⟩ :=
    flattening_agrees.1 "app:" ["Dialog", "Frame"] "Corner" hparts
  refine ⟨hparts, hpackage, hpath, ?_⟩
  have hbuilt : (DeclaringType.build DeclaringType.dialog).isOk = true := by decide +kernel
  cases hbuild : DeclaringType.build DeclaringType.dialog with
  | error e =>
    rw [hbuild] at hbuilt
    cases hbuilt
  | ok ty =>
    obtain ⟨q, hq, hcorner⟩ : ∃ q ∈ ty.qualifying, _ := by
      obtain ⟨_, _, _, hrest, hqualifying⟩ :=
        List.forall₂_cons_right_iff.mp (flattening_agrees.2 _ ty hbuild)
      obtain ⟨q, _, hcorner, _, rfl⟩ := List.forall₂_cons_right_iff.mp hrest
      exact ⟨q, by rw [hqualifying]; simp, hcorner⟩
    obtain ⟨hregistered, hprobes⟩ := hcorner hparts
      ⟨.root "crate::Corner" "app::Dialog.Frame.Corner", []⟩ "CornerThemeBinding" (by decide)
    exact ⟨ty, rfl, q, hq, hregistered.symm.trans (by decide), hprobes⟩

end Naming
end Theming
