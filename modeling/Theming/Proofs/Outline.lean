/-
# Code as functions and statements

What a piece of code says, read from its words and groups alone.

| read | from |
| --- | --- |
| the functions of a block | `fn`, a name, and the next braces at the same level |
| the statements of a body | what ends in `;`, or in the braces of an `if` |
| a value | a default, nothing, or the current resource of a kind and a key, as it is or in `Some` |
| a write | a field of the target that is set, or a variable that a field and a resource wait in |
| a statement | an update of the target with its writes, a variable without a value, or a value that is published from a variable |

Any other statement is taken as it stands.
-/

import Theming.Proofs.Printing
import Theming.Resource
import Theming.Syntax.Literal

namespace Theming
namespace Syntax
namespace Code

/-- No block, and not a certain word. -/
def avoids (mark : String) : Code → Bool
  | .word w => w != mark
  | .group .brace _ => false
  | .group _ _ => true

/-! ## Functions -/

/-- The functions of a block, by name, with their bodies; the body of the one that is given has not
come yet. -/
def functionsFrom : Option String → List Code → List (String × List Code)
  | _, [] => []
  | _, .word "fn" :: .word name :: rest => functionsFrom (some name) rest
  | some name, .group .brace body :: rest => (name, body) :: functionsFrom none rest
  | opened, _ :: rest => functionsFrom opened rest

/-- What stands in braces, in order. -/
def blocks : List Code → List (List Code)
  | [] => []
  | .group .brace content :: rest => content :: blocks rest
  | _ :: rest => blocks rest

/-- The functions in the blocks of some code. -/
def functions (code : List Code) : List (String × List Code) :=
  (blocks code).flatMap (functionsFrom none)

/-- Code without `fn` and blocks is passed over. -/
theorem functionsFrom_append {code : List Code} (h : code.all (avoids "fn") = true)
    (opened : Option String) (rest : List Code) :
    functionsFrom opened (code ++ rest) = functionsFrom opened rest := by
  induction code with
  | nil => rfl
  | cons c code ih =>
    rw [List.all_cons, Bool.and_eq_true] at h
    rw [← ih h.2, List.cons_append]
    cases c with
    | word w =>
      have hw : w ≠ "fn" := bne_iff_ne.mp h.1
      simp [functionsFrom, hw]
    | group d content =>
      cases d with
      | brace => cases h.1
      | _ => cases opened <;> rfl

theorem blocks_append (code more : List Code) :
    blocks (code ++ more) = blocks code ++ blocks more := by
  induction code with
  | nil => rfl
  | cons c code ih =>
    cases c with
    | word w => exact ih
    | group d content =>
      cases d with
      | brace => exact congrArg (content :: ·) ih
      | _ => exact ih

theorem functions_append (code more : List Code) :
    functions (code ++ more) = functions code ++ functions more := by
  rw [functions, blocks_append, List.flatMap_append]
  rfl

theorem blocks_of_avoids {mark : String} {code : List Code} (h : code.all (avoids mark) = true) :
    blocks code = [] := by
  induction code with
  | nil => rfl
  | cons c code ih =>
    rw [List.all_cons, Bool.and_eq_true] at h
    cases c with
    | word w => exact ih h.2
    | group d content =>
      cases d with
      | brace => cases h.1
      | _ => exact ih h.2

/-! ## Statements -/

/-- Where a word or group stands in a statement. -/
inductive Spot where
  | first
  /-- In a statement that a block ends. -/
  | conditional
  /-- In a statement that a semicolon ends. -/
  | ordinary

/-- Puts a word or group in front of the first statement. -/
def lead (c : Code) : List (List Code) → List (List Code)
  | [] => [[c]]
  | first :: others => (c :: first) :: others

/-- The statements of the rest of a body. -/
def statementsFrom : Spot → List Code → List (List Code)
  | _, [] => []
  | _, .word ";" :: rest => [] :: statementsFrom .first rest
  | .first, .word "if" :: rest => lead (.word "if") (statementsFrom .conditional rest)
  | .conditional, .group .brace block :: rest =>
    [.group .brace block] :: statementsFrom .first rest
  | .first, c :: rest => lead c (statementsFrom .ordinary rest)
  | spot, c :: rest => lead c (statementsFrom spot rest)

/-- The statements of a body, without their semicolons. -/
def statements (body : List Code) : List (List Code) := statementsFrom .first body

theorem statementsFrom_cons {spot : Spot} (hspot : spot ≠ .first) {c : Code}
    (hc : avoids ";" c = true) (rest : List Code) :
    statementsFrom spot (c :: rest) = lead c (statementsFrom spot rest) := by
  cases c with
  | word w =>
    have hw : w ≠ ";" := bne_iff_ne.mp hc
    cases spot <;> simp_all [statementsFrom]
  | group d content =>
    cases d with
    | brace => cases hc
    | _ => cases spot <;> simp_all [statementsFrom]

theorem statementsFrom_append {spot : Spot} (hspot : spot ≠ .first) {code : List Code}
    (h : code.all (avoids ";") = true) {rest first : List Code} {others : List (List Code)}
    (hrest : statementsFrom spot rest = first :: others) :
    statementsFrom spot (code ++ rest) = (code ++ first) :: others := by
  induction code with
  | nil => exact hrest
  | cons c code ih =>
    rw [List.all_cons, Bool.and_eq_true] at h
    rw [List.cons_append, statementsFrom_cons hspot h.1, ih h.2]
    rfl

/-- The code is a number of whole statements. -/
def Consists (code : List Code) (parts : List (List Code)) : Prop :=
  ∀ rest, statementsFrom .first (code ++ rest) = parts ++ statementsFrom .first rest

namespace Consists

theorem nil : Consists [] [] := fun _ => rfl

theorem append {code more : List Code} {parts others : List (List Code)}
    (h : Consists code parts) (hmore : Consists more others) :
    Consists (code ++ more) (parts ++ others) := by
  intro rest
  rw [List.append_assoc, h, hmore, List.append_assoc]

/-- A statement ends in its semicolon. -/
theorem of_semicolon {c : Code} (hif : c ≠ .word "if") {code : List Code}
    (h : (c :: code).all (avoids ";") = true) : Consists (c :: code ++ words ";") [c :: code] := by
  intro rest
  rw [List.all_cons, Bool.and_eq_true] at h
  have hrest : statementsFrom .ordinary (words ";" ++ rest) = [] :: statementsFrom .first rest := by
    rw [words_ofList]
    rfl
  -- It does not begin with `if`, so no block ends it before.
  have hfirst : statementsFrom .first (c :: (code ++ (words ";" ++ rest))) =
      lead c (statementsFrom .ordinary (code ++ (words ";" ++ rest))) := by
    cases c with
    | word w =>
      have hw : w ≠ ";" := bne_iff_ne.mp h.1
      simp_all [statementsFrom]
    | group d content => simp [statementsFrom]
  rw [List.append_assoc, List.cons_append, hfirst,
    statementsFrom_append Spot.noConfusion h.2 hrest, List.append_nil]
  rfl

/-- A conditional statement ends in its block. -/
theorem of_block {code : List Code} (h : code.all (avoids ";") = true) (block : List Code) :
    Consists (.word "if" :: code ++ brace block) [.word "if" :: code ++ brace block] := by
  intro rest
  have hrest : statementsFrom .conditional (brace block ++ rest) =
      brace block :: statementsFrom .first rest := rfl
  have hfirst : statementsFrom .first (.word "if" :: (code ++ (brace block ++ rest))) =
      lead (.word "if") (statementsFrom .conditional (code ++ (brace block ++ rest))) := rfl
  rw [List.append_assoc, List.cons_append, hfirst,
    statementsFrom_append Spot.noConfusion h hrest]
  rfl

end Consists

/-- The code is a number of whole statements, and a reading of one statement gives these. -/
def Reads {α : Type} (read : List Code → Option α) (code : List Code) (xs : List α) : Prop :=
  ∃ parts, Consists code parts ∧ parts.mapM read = some xs

namespace Reads

variable {α : Type} {read : List Code → Option α} {code more part : List Code}
  {x : α} {xs ys : List α}

theorem nil : Reads read [] [] := ⟨[], Consists.nil, rfl⟩

theorem single (h : Consists code [part]) (hread : read part = some x) : Reads read code [x] :=
  ⟨[part], h, by rw [List.mapM_cons, hread]; rfl⟩

theorem append (h : Reads read code xs) (hmore : Reads read more ys) :
    Reads read (code ++ more) (xs ++ ys) := by
  obtain ⟨parts, hparts, hxs⟩ := h
  obtain ⟨others, hothers, hys⟩ := hmore
  refine ⟨parts ++ others, hparts.append hothers, ?_⟩
  rw [List.mapM_append, hxs, hys]
  rfl

/-- Statements that are made in turn are read in turn. -/
theorem flatMap {β : Type} {make : β → List Code} {result : β → List α} {bs : List β}
    (h : ∀ b ∈ bs, Reads read (make b) (result b)) :
    Reads read (bs.flatMap make) (bs.flatMap result) := by
  induction bs with
  | nil => exact nil
  | cons b bs ih =>
    obtain ⟨hfirst, hothers⟩ := List.forall_mem_cons.mp h
    exact hfirst.append (ih hothers)

/-- What whole statements say comes before what the rest of a body says. -/
theorem mapM_statements_append (h : Reads read code xs) (last : List Code) :
    (statements (code ++ last)).mapM read = ((statements last).mapM read).map (xs ++ ·) := by
  obtain ⟨parts, hparts, hxs⟩ := h
  rw [statements, hparts, List.mapM_append, hxs, ← statements]
  cases (statements last).mapM read <;> rfl

theorem mapM_statements (h : Reads read code xs) : (statements code).mapM read = some xs := by
  have happend := h.mapM_statements_append []
  rwa [List.append_nil, show statements [] = [] from rfl, List.mapM_nil, Option.pure_def,
    Option.map_some, List.append_nil] at happend

end Reads

/-- A path from the root, and what stands behind it. -/
def global : List Code → List String × List Code
  | .word "::" :: .word w :: rest => (w :: (global rest).1, (global rest).2)
  | rest => ([], rest)

end Code
end Syntax

namespace Companion

open Syntax (Code)
open Syntax.Code (global statements)

/-! ## Values and writes -/

/-- What a field can be set to. -/
inductive Value where
  | default
  | none
  /-- The current resource of a kind and a key. -/
  | resource (kind : ResourceKind) (key : Nat)
  /-- The same in `Some`. -/
  | optional (kind : ResourceKind) (key : Nat)
deriving DecidableEq, Repr

/-- What is done with a target. -/
inductive Write where
  /-- A field is set. -/
  | set (field : String) (value : Value)
  /-- The slot of a field and a resource for it are kept in a variable. -/
  | prepare (var field : String) (kind : ResourceKind) (key : Nat)
deriving DecidableEq, Repr

/-- What a function does. -/
inductive Statement where
  /-- The writes to the target. -/
  | update (writes : List Write)
  /-- A variable is declared, without a value yet. -/
  | declare (var : String)
  /-- The value in a variable is published to the slot beside it. -/
  | publish (var : String)
  /-- Anything else. -/
  | other (code : List Code)

/-- The kind of resource that a function hands out. -/
def kindOf? : String → Option ResourceKind
  | "get_color" => some .color
  | "get_drawable" => some .drawable
  | _ => none

/-- Reads the current resource of a kind and a key, and what stands behind it. -/
def resource? (code : List Code) : Option (ResourceKind × Nat × List Code) :=
  match global code with
  | (["core", "convert", "Into", "into"], .group .paren
      [.word "resources", .word ".", .word getter, .group .paren [.word key]] :: rest) => do
    let kind ← kindOf? getter
    let key ← Syntax.integerValue? key
    return (kind, key, rest)
  | _ => none

/-- Reads what a field is set to. -/
def Value.read? (code : List Code) : Option Value :=
  match resource? code with
  | some (kind, key, []) => some (.resource kind key)
  | _ =>
    match global code with
    | (["core", "default", "Default", "default"], [.group .paren []]) => some .default
    | (["core", "option", "Option", "None"], []) => some .none
    | (["core", "option", "Option", "Some"], [.group .paren inside]) =>
      match resource? inside with
      | some (kind, key, []) => some (.optional kind key)
      | _ => none
    | _ => none

/-- Reads a slot and a resource for it, in `Some`. -/
def pair? (code : List Code) : Option (String × ResourceKind × Nat) :=
  match global code with
  | (["core", "option", "Option", "Some"], [.group .paren [.group .paren pair]]) =>
    match global pair with
    | (["core", "clone", "Clone", "clone"], .group .paren
        [.word "&", .word "target", .word ".", .word field] :: .word "," :: second) =>
      match resource? second with
      | some (kind, key, [.word ","]) => some (field, kind, key)
      | _ => none
    | _ => none
  | _ => none

/-- Reads what is done with a target. -/
def Write.read? : List Code → Option Write
  | .word var :: .word "=" :: value =>
    (pair? value).map fun (field, kind, key) => .prepare var field kind key
  | .word "target" :: .word "." :: .word field :: .word "=" :: value =>
    (Value.read? value).map fun value => .set field value
  | _ => none

/-- Reads what a function does. -/
def Statement.read (code : List Code) : Statement :=
  match code with
  | [.word "target", .word ".", .word "update", .group .paren
      [.word "|", .word "target", .word "|", .group .brace block]] =>
    match (statements block).mapM Write.read? with
    | some writes => .update writes
    | none => .other code
  | .word "let" :: .word "mut" :: .word var :: .word "=" :: value =>
    if Value.read? value = some .none then .declare var else .other code
  | .word "if" :: .word "let" :: rest =>
    match global rest with
    | (["core", "option", "Option", "Some"],
        [.group .paren [.group .paren [.word "reactive", .word ",", .word "value"]],
          .word "=", .word var, .group .brace [.word "reactive", .word ".", .word "set_value",
            .group .paren [.word "value"], .word ";"]]) =>
      .publish var
    | _ => .other code
  | _ => .other code

/-- What the statements of some code say. -/
abbrev Says : List Code → List Statement → Prop :=
  Syntax.Code.Reads fun part => some (Statement.read part)

theorem Says.map_read_append {code : List Code} {saying : List Statement} (h : Says code saying)
    (last : List Code) : (statements (code ++ last)).map Statement.read =
      saying ++ (statements last).map Statement.read := by
  have hmap : ∀ body, (statements body).mapM (fun part => some (Statement.read part)) =
      some ((statements body).map Statement.read) := fun _ => List.mapM_pure
  have happend := h.mapM_statements_append last
  rw [hmap, hmap] at happend
  exact Option.some.inj happend

theorem Says.map_read {code : List Code} {saying : List Statement} (h : Says code saying) :
    (statements code).map Statement.read = saying := by
  have happend := h.map_read_append []
  rwa [List.append_nil, show statements [] = [] from rfl, List.map_nil, List.append_nil] at happend

end Companion
end Theming
