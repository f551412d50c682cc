/-
# Readers take tokens off the front

Whatever a reader reads, what it leaves is an end of the list that it was given: it neither makes up
tokens nor puts any back (`Reader.Trims`). Rules are put together from other rules, and what is put
together from readers that trim a list trims it too. So this holds for the rules one by one, in the
order in which they are written, for rules over a grammar if it holds for the phrases of the
grammar, and then for every grammar by how deep it goes (`Grammar.forTrees_trims`).

| rule | why it trims |
| --- | --- |
| takes a token or a group | by what it takes |
| `do`, `if` | its parts do |
| counts down | by induction on the count |
| asks for a phrase | the grammar does |
-/

import Mathlib.Tactic.SplitIfs
import Theming.Syntax.Item

namespace Theming
namespace Syntax
namespace Reader

/-- A reader leaves an end of the list that it reads. -/
class Trims {α : Type} (r : Reader α) : Prop where
  suffix : ∀ {ts a rest}, r ts = some (a, rest) → rest <:+ ts

section Parts

variable {α β : Type}

instance pure_trims (a : α) : Trims (pure a : Reader α) where
  suffix h := by
    cases h
    exact List.suffix_rfl

instance failure_trims : Trims (failure : Reader α) where
  suffix h := by cases h

/-- What one reader leaves, the next one reads. -/
instance bind_trims {r : Reader α} {f : α → Reader β} [Trims r] [∀ a, Trims (f a)] :
    Trims (r >>= f) where
  suffix {ts b rest} h := by
    obtain ⟨⟨a, behind⟩, hr, hf⟩ := Option.bind_eq_some_iff.mp h
    exact (Trims.suffix (r := f a) hf).trans (Trims.suffix (r := r) hr)

theorem Trims.bind {r : Reader α} {f : α → Reader β} (h : Trims r) (hf : ∀ a, Trims (f a)) :
    Trims (r >>= f) :=
  bind_trims

instance ite_trims {c : Prop} [Decidable c] {r r' : Reader α} [Trims r] [Trims r'] :
    Trims (if c then r else r') := by
  split <;> infer_instance

/-! ## Tokens -/

instance ahead_trims : Trims ahead where
  suffix h := by
    cases h
    exact List.suffix_rfl

instance atEnd_trims : Trims atEnd := by
  rw [atEnd]
  exact bind_trims (r := ahead)

/-- A reader that takes the first token of a list or leaves all of it. -/
theorem trims_of_first {r : Reader α}
    (h : ∀ {ts a rest}, r ts = some (a, rest) → rest = ts ∨ ∃ t, ts = t :: rest) : Trims r where
  suffix hr := by
    rcases h hr with rfl | ⟨t, rfl⟩
    · exact List.suffix_rfl
    · exact List.suffix_cons _ _

theorem dropPunct?_suffix {cs : List Char} {ts rest : List Tree}
    (h : dropPunct? cs ts = some rest) : rest <:+ ts := by
  fun_induction dropPunct? cs ts with
  | case1 => cases h; exact List.suffix_rfl
  | case2 => cases h; exact List.suffix_cons _ _
  | case3 => cases h
  | case4 _ _ _ _ _ _ ih => exact (ih h).trans (List.suffix_cons _ _)
  | case5 => cases h
  | case6 => cases h

instance punct_trims (s : String) : Trims (punct s) where
  suffix h := by
    obtain ⟨rest, hrest, heq⟩ := Option.map_eq_some_iff.mp h
    cases heq
    exact dropPunct?_suffix hrest

instance punct?_trims (s : String) : Trims (punct? s) where
  suffix {ts a rest} h := by
    rw [punct?.eq_def] at h
    split at h
    · cases h
      exact dropPunct?_suffix ‹_›
    · cases h
      exact List.suffix_rfl

instance keyword_trims (s : String) : Trims (keyword s) := by
  refine trims_of_first fun h => ?_
  rw [keyword.eq_def] at h
  split at h
  · split_ifs at h
    cases h
    exact .inr ⟨_, rfl⟩
  · cases h

instance keyword?_trims (s : String) : Trims (keyword? s) := by
  refine trims_of_first fun h => ?_
  rw [keyword?.eq_def] at h
  split at h
  · split_ifs at h
    · cases h
      exact .inr ⟨_, rfl⟩
    · cases h
      exact .inl rfl
  · cases h
    exact .inl rfl

instance anyWord_trims : Trims anyWord := by
  refine trims_of_first fun h => ?_
  rw [anyWord.eq_def] at h
  split at h <;> cases h
  exact .inr ⟨_, rfl⟩

instance identifier_trims : Trims identifier := by
  refine trims_of_first fun h => ?_
  rw [identifier.eq_def] at h
  split at h
  · split_ifs at h
    cases h
    exact .inr ⟨_, rfl⟩
  · cases h

instance lifetime_trims : Trims lifetime := by
  refine trims_of_first fun h => ?_
  rw [lifetime.eq_def] at h
  split at h <;> cases h
  exact .inr ⟨_, rfl⟩

instance lifetime?_trims : Trims lifetime? := by
  refine trims_of_first fun h => ?_
  rw [lifetime?.eq_def] at h
  split at h <;> cases h
  · exact .inr ⟨_, rfl⟩
  · exact .inl rfl

instance literal_trims : Trims literal := by
  refine trims_of_first fun h => ?_
  rw [literal.eq_def] at h
  split at h <;> cases h
  exact .inr ⟨_, rfl⟩

/-- What is read inside of a group is of no matter. -/
instance group_trims (d : Delimiter) (inside : Reader α) : Trims (group d inside) := by
  refine trims_of_first fun h => ?_
  rw [group.eq_def] at h
  split at h
  · split_ifs at h
    obtain ⟨_, -, heq⟩ := Option.map_eq_some_iff.mp h
    cases heq
    exact .inr ⟨_, rfl⟩
  · cases h

instance anyGroup_trims : Trims anyGroup := by
  refine trims_of_first fun h => ?_
  rw [anyGroup.eq_def] at h
  split at h <;> cases h
  exact .inr ⟨_, rfl⟩

/-! ## Lists -/

instance separatedToEnd_trims (separator : String) (item : Reader (List Code)) [Trims item]
    (fuel : Nat) : Trims (separatedToEnd separator item fuel) := by
  induction fuel with
  | zero => exact failure_trims
  | succ fuel ih =>
    rw [separatedToEnd]
    infer_instance

instance commasToEnd_trims (item : Reader (List Code)) [Trims item] : Trims (commasToEnd item) := by
  rw [commasToEnd]
  infer_instance

instance whileAhead_trims (goesOn : List Tree → Bool) (item : Reader α) [Trims item] (fuel : Nat) :
    Trims (whileAhead goesOn item fuel) := by
  induction fuel with
  | zero => exact failure_trims
  | succ fuel ih =>
    rw [whileAhead]
    infer_instance

instance many_trims (goesOn : List Tree → Bool) (item : Reader α) [Trims item] :
    Trims (many goesOn item) := by
  rw [many]
  infer_instance

end Parts
end Reader
namespace Grammar

open Reader

/-! ## Literals, lifetimes and bounds -/

instance literalCode_trims : Trims literalCode where
  suffix h := by
    rw [literalCode.eq_def] at h
    split at h
    · cases h
      exact List.suffix_cons _ _
    · split_ifs at h
      cases h
      exact List.suffix_cons _ _
    · cases h
      exact (List.suffix_cons _ _).trans (List.suffix_cons _ _)
    · cases h

instance lifetimeBounds_trims (fuel : Nat) :
    Trims (lifetimeBounds fuel) := by
  induction fuel with
  | zero => exact failure_trims
  | succ fuel ih =>
    rw [lifetimeBounds]
    infer_instance

instance lifetimeParam_trims : Trims (lifetimeParam) := by
  rw [lifetimeParam]
  infer_instance

instance lifetimeParams_trims (fuel : Nat) :
    Trims (lifetimeParams fuel) := by
  induction fuel with
  | zero => exact failure_trims
  | succ fuel ih =>
    rw [lifetimeParams]
    infer_instance

instance binder_trims : Trims (binder) := by
  rw [binder]
  infer_instance

instance binder?_trims : Trims (binder?) := by
  rw [binder?]
  infer_instance

instance boundsUntil_trims (stop : List Tree → Bool) (bound : Reader (Bool × List Code))
    [Trims bound] (fuel : Nat) : Trims (boundsUntil stop bound fuel) := by
  induction fuel with
  | zero => exact failure_trims
  | succ fuel ih =>
    rw [boundsUntil]
    infer_instance

instance steps_trims : Trims (steps) := by
  rw [steps]
  infer_instance

instance capturedParams_trims (fuel : Nat) :
    Trims (capturedParams fuel) := by
  induction fuel with
  | zero => exact failure_trims
  | succ fuel ih =>
    rw [capturedParams]
    infer_instance

instance captures_trims : Trims (captures) := by
  rw [captures]
  infer_instance

instance attributeCode_trims : Trims (attributeCode) := by
  rw [attributeCode]
  refine .bind inferInstance fun sign => .bind inferInstance fun ts => ?_
  split <;> infer_instance

instance attributes_trims : Trims (attributes) := by
  rw [attributes]
  infer_instance

instance rangeSign_trims : Trims (rangeSign) := by
  rw [rangeSign]
  infer_instance

instance label?_trims : Trims (label?) := by
  rw [label?]
  infer_instance

instance referenceKind_trims : Trims (referenceKind) := by
  rw [referenceKind]
  infer_instance

/-! ## Phrases -/

section Phrases

-- the longest rules have some hundred parts
set_option synthInstance.maxSize 1000

variable {g : Grammar} [∀ phrase, Trims (g phrase)]

instance type_trims (plus : Bool) : Trims (g.type plus) := by
  rw [type]
  infer_instance

instance expression_trims : Trims (g.expression) := by
  rw [expression]
  infer_instance

instance block_trims : Trims (g.block) := by
  rw [block]
  infer_instance

instance constArgument_trims : Trims (g.constArgument) := by
  rw [constArgument]
  infer_instance

instance returnType?_trims : Trims (g.returnType?) := by
  rw [returnType?]
  infer_instance

instance callArguments_trims : Trims (g.callArguments) := by
  rw [callArguments]
  infer_instance

/-- The rules of paths and bounds, which count down together. -/
structure PathsTrim (g : Grammar) (fuel : Nat) : Prop where
  bound : Trims (g.bound fuel)
  traitBound : Trims (g.traitBound fuel)
  genericArgument : Trims (g.genericArgument fuel)
  argumentList : Trims (g.argumentList fuel)
  genericArguments : Trims (g.genericArguments fuel)
  segment : ∀ inExpression, Trims (g.segment inExpression fuel)
  moreSegments : ∀ inExpression sofar, Trims (g.moreSegments inExpression sofar fuel)
  path : ∀ inExpression, Trims (g.path inExpression fuel)

theorem pathsTrim (fuel : Nat) : PathsTrim g fuel := by
  induction fuel with
  | zero => constructor <;> (intros; exact failure_trims)
  | succ fuel ih =>
    obtain ⟨_, _, _, _, _, _, _, _⟩ := ih
    constructor
    · rw [bound]
      infer_instance
    · rw [traitBound]
      infer_instance
    · rw [genericArgument]
      refine .bind inferInstance fun ts => ?_
      split_ifs
      · infer_instance
      · infer_instance
      · refine .bind inferInstance fun ⟨form, code⟩ => .bind inferInstance fun ts => ?_
        split <;> infer_instance
    · rw [argumentList]
      infer_instance
    · rw [genericArguments]
      infer_instance
    · intro inExpression
      rw [segment]
      infer_instance
    · intro inExpression sofar
      rw [moreSegments]
      infer_instance
    · intro inExpression
      rw [path]
      infer_instance

instance bound_trims (fuel : Nat) : Trims (g.bound fuel) := (pathsTrim fuel).bound

instance genericArguments_trims (fuel : Nat) : Trims (g.genericArguments fuel) :=
  (pathsTrim fuel).genericArguments

instance segment_trims (inExpression : Bool) (fuel : Nat) : Trims (g.segment inExpression fuel) :=
  (pathsTrim fuel).segment inExpression

instance path_trims (inExpression : Bool) (fuel : Nat) : Trims (g.path inExpression fuel) :=
  (pathsTrim fuel).path inExpression

instance oneBound_trims : Trims (g.oneBound) := by
  rw [oneBound]
  infer_instance

instance bounds_trims (capturing plus : Bool) (fuel : Nat) :
    Trims (g.bounds capturing plus fuel) := by
  induction fuel with
  | zero => exact failure_trims
  | succ fuel ih =>
    rw [bounds]
    infer_instance

instance traitBounds_trims (capturing plus : Bool) : Trims (g.traitBounds capturing plus) := by
  rw [traitBounds]
  infer_instance

instance moreBounds_trims (fuel : Nat) :
    Trims (g.moreBounds fuel) := by
  induction fuel with
  | zero => exact failure_trims
  | succ fuel ih =>
    rw [moreBounds]
    infer_instance

instance qualifiedRest_trims (inExpression : Bool) (fuel : Nat) (sofar : PathCode) :
    Trims (qualifiedPath.qualifiedRest g inExpression fuel sofar) := by
  induction fuel generalizing sofar with
  | zero => exact failure_trims
  | succ fuel ih =>
    rw [qualifiedPath.qualifiedRest]
    infer_instance

instance qualifiedPath_trims (inExpression : Bool) : Trims (g.qualifiedPath inExpression) := by
  rw [qualifiedPath]
  infer_instance

instance inside_trims : Trims (g.inside) := by
  rw [inside]
  infer_instance

instance parenType_trims (plus : Bool) : Trims (g.parenType plus) := by
  rw [parenType]
  refine .bind inferInstance fun content => ?_
  cases content <;> infer_instance

instance pointerInputs_trims (first : Bool) (fuel : Nat) : Trims (g.pointerInputs first fuel) := by
  induction fuel generalizing first with
  | zero => exact failure_trims
  | succ fuel ih =>
    rw [pointerInputs]
    refine .bind inferInstance fun done => ?_
    split_ifs
    · infer_instance
    · refine .bind inferInstance fun attrs => .bind inferInstance fun ts =>
        .bind inferInstance fun ts' => ?_
      extract_lets own afterMark
      have (mark : List Code) : Trims (afterMark mark) := by
        refine .bind inferInstance fun ts => ?_
        extract_lets named afterName
        have (name : List Code) : Trims (afterName name) := by infer_instance
        clear_value afterName
        infer_instance
      clear_value afterMark
      infer_instance

instance functionPointer_trims : Trims (g.functionPointer) := by
  rw [functionPointer]
  refine .bind inferInstance fun unsafety => .bind inferInstance fun external =>
    .bind inferInstance fun ts => ?_
  split <;> infer_instance

instance pathType_trims (plus : Bool) (lifetimes : List Code) :
    Trims (g.pathType plus lifetimes) := by
  rw [pathType]
  infer_instance

instance typeRule_trims (plus : Bool) : Trims (g.typeRule plus) := by
  rw [typeRule]
  infer_instance

instance fieldPattern_trims : Trims (g.fieldPattern) := by
  rw [fieldPattern]
  refine .bind inferInstance fun attrs => .bind inferInstance fun ts => ?_
  split_ifs
  · infer_instance
  · dsimp only
    split <;> infer_instance

instance simplePattern_trims : Trims (g.simplePattern) := by
  rw [simplePattern]
  infer_instance

instance alternatives_trims (fuel : Nat) :
    Trims (g.alternatives fuel) := by
  induction fuel with
  | zero => exact failure_trims
  | succ fuel ih =>
    rw [alternatives]
    infer_instance

instance patternRule_trims : Trims (g.patternRule) := by
  rw [patternRule]
  infer_instance

instance arms_trims (fuel : Nat) :
    Trims (g.arms fuel) := by
  induction fuel with
  | zero => exact failure_trims
  | succ fuel ih =>
    rw [arms]
    infer_instance

instance condition_trims : Trims (g.condition) := by
  rw [condition]
  infer_instance

instance ifExpression_trims (fuel : Nat) :
    Trims (g.ifExpression fuel) := by
  induction fuel with
  | zero => exact failure_trims
  | succ fuel ih =>
    rw [ifExpression]
    infer_instance

instance closureInputs_trims (fuel : Nat) :
    Trims (g.closureInputs fuel) := by
  induction fuel with
  | zero => exact failure_trims
  | succ fuel ih =>
    rw [closureInputs]
    infer_instance

instance closure_trims (structs : Bool) : Trims (g.closure structs) := by
  rw [closure]
  infer_instance

instance fieldValue_trims : Trims (g.fieldValue) := by
  rw [fieldValue]
  refine .bind inferInstance fun attrs => .bind inferInstance fun ts => ?_
  split_ifs
  · infer_instance
  · dsimp only
    split <;> infer_instance

instance atom_trims (structs : Bool) : Trims (g.atom structs) := by
  rw [atom]
  infer_instance

instance suffixes_trims (fuel : Nat) :
    Trims (g.suffixes fuel) := by
  induction fuel with
  | zero => exact failure_trims
  | succ fuel ih =>
    rw [suffixes]
    refine .bind inferInstance fun ts => ?_
    split_ifs
    · infer_instance
    · infer_instance
    · infer_instance
    · refine .bind inferInstance fun dot => .bind inferInstance fun ts => ?_
      dsimp only
      split <;> infer_instance
    · infer_instance

instance operand_trims (structs : Bool) (fuel : Nat) :
    Trims (g.operand structs fuel) := by
  induction fuel with
  | zero => exact failure_trims
  | succ fuel ih =>
    rw [operand]
    infer_instance

instance operations_trims (structs compared : Bool) (fuel : Nat) :
    Trims (g.operations structs compared fuel) := by
  induction fuel generalizing compared with
  | zero => exact failure_trims
  | succ fuel ih =>
    rw [operations]
    refine .bind inferInstance fun ts => ?_
    split_ifs
    · infer_instance
    · infer_instance
    · infer_instance
    · cases operatorAhead? ts <;> infer_instance

instance expressionRule_trims (structs : Bool) : Trims (g.expressionRule structs) := by
  rw [expressionRule]
  infer_instance

instance letStatement_trims : Trims (g.letStatement) := by
  rw [letStatement]
  refine .bind inferInstance fun word => .bind inferInstance fun pattern =>
    .bind inferInstance fun ts => ?_
  -- each part that may be missing is read once, and what follows it once for both cases
  extract_lets afterType
  have (typed : List Code) : Trims (afterType typed) := by
    refine .bind inferInstance fun ts => ?_
    extract_lets afterValue
    have (value : List Code) : Trims (afterValue value) := by infer_instance
    clear_value afterValue
    infer_instance
  clear_value afterType
  infer_instance

instance statementsRule_trims (fuel : Nat) :
    Trims (g.statementsRule fuel) := by
  induction fuel with
  | zero => exact failure_trims
  | succ fuel ih =>
    rw [statementsRule]
    infer_instance

/-- **Every rule takes tokens off the front**, if the grammar under it does. -/
theorem rule_trims (phrase : Phrase) : Trims (g.rule phrase) := by
  cases phrase <;> (rw [rule]; infer_instance)

end Phrases

theorem upTo_trims (depth : Nat) (phrase : Phrase) : Trims (upTo depth phrase) := by
  induction depth generalizing phrase with
  | zero => exact failure_trims
  | succ depth ih => exact rule_trims phrase

/-- **A phrase is taken off the front of a text**, however deep it nests. -/
instance forTrees_trims (ts : List Tree) (phrase : Phrase) : Trims (forTrees ts phrase) :=
  upTo_trims _ phrase

end Grammar
/-! ## Declared types -/

section Items

open Reader

set_option synthInstance.maxSize 1000

instance visibility_trims : Trims (visibility) := by
  rw [visibility]
  refine .bind inferInstance fun ts => ?_
  split_ifs
  · refine .bind inferInstance fun word => .bind inferInstance fun ts => ?_
    split <;> infer_instance
  · infer_instance

namespace ItemGrammar

instance oneAttribute_trims (g : Grammar) : Trims (oneAttribute g) := by
  rw [oneAttribute]
  infer_instance

instance attributes_trims (g : Grammar) : Trims (attributes g) := by
  rw [attributes]
  infer_instance

variable {g : Grammar} [∀ phrase, Trims (g phrase)]

instance typeReader_trims : Trims (TypeExpr.reader g) := by
  rw [TypeExpr.reader]
  infer_instance

instance parameterBounds_trims (stop : List Tree → Bool) : Trims (parameterBounds g stop) := by
  rw [parameterBounds]
  infer_instance

instance parameter_trims : Trims (parameter g) := by
  rw [parameter]
  refine .bind inferInstance fun attrs => .bind inferInstance fun ts => ?_
  split_ifs
  · infer_instance
  · refine .bind inferInstance fun _ => ?_
    infer_instance
  all_goals
    extract_lets afterBounds afterName
    have (last : Unit) : Trims (afterBounds last) := by infer_instance
    clear_value afterBounds
    have (last : Unit) : Trims (afterName last) := by infer_instance
    clear_value afterName
    infer_instance

instance parameters_trims (fuel : Nat) :
    Trims (parameters g fuel) := by
  induction fuel with
  | zero => exact failure_trims
  | succ fuel ih =>
    rw [parameters]
    infer_instance

instance generics_trims : Trims (generics g) := by
  rw [generics]
  infer_instance

instance predicate_trims : Trims (predicate g) := by
  rw [predicate]
  infer_instance

instance predicates_trims (fuel : Nat) :
    Trims (predicates g fuel) := by
  induction fuel with
  | zero => exact failure_trims
  | succ fuel ih =>
    rw [predicates]
    infer_instance

instance whereClause_trims : Trims (whereClause g) := by
  rw [whereClause]
  infer_instance

instance listToEnd_trims {α : Type} (item : Reader α) [Trims item] (fuel : Nat) :
    Trims (listToEnd item fuel) := by
  induction fuel with
  | zero => exact failure_trims
  | succ fuel ih =>
    rw [listToEnd]
    infer_instance

instance namedField_trims (depth : Nat) :
    Trims (namedField g depth) := by
  induction depth with
  | zero => exact failure_trims
  | succ depth ih =>
    rw [namedField]
    infer_instance

end ItemGrammar
end Items
end Syntax
end Theming
