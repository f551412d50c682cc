/-
# The statements for a field

What the synthesizer writes for one bound field, read back.

| statement | of fields | read as |
| --- | --- | --- |
| allocation | reactive | the field is set to a default |
| declaration | reactive | a variable is declared |
| update | reactive | the slot and the current resource are kept in the variable |
| update | reference, value | the field is set to the current resource, in `Some` or as it is |
| publish | reactive | what is kept in the variable is published |
| reset | reference, value | the field is set to nothing, or to a default |

Each names the field, the kind and the key of its own binding.
-/

import Theming.Companion.Source
import Theming.Proofs.Outline
import Theming.Proofs.Plain
import Theming.Proofs.Quoting

namespace Theming

namespace Binding

/-- The variable that a reactive field waits in. -/
def pending (b : Binding) : String := "pending_" ++ Syntax.withoutRaw b.name

/-- How the field is updated, in the form of its shape. -/
def write (b : Binding) : Companion.Write :=
  match b.shape with
  | .reactive => .prepare b.pending b.name b.kind b.key.toNat
  | .reference => .set b.name (.optional b.kind b.key.toNat)
  | .value => .set b.name (.resource b.kind b.key.toNat)

/-- How the field is reset, unless it is left alone. -/
def reset? (b : Binding) : Option Companion.Write :=
  match b.shape with
  | .reactive => none
  | .reference => some (.set b.name .none)
  | .value => some (.set b.name .default)

/-- The reactive ones among bindings. -/
def slots (bindings : List Binding) : List Binding :=
  bindings.filter fun b => b.shape == .reactive

/-- How the others are reset. -/
def resets (bindings : List Binding) : List Companion.Write := bindings.filterMap reset?

end Binding

namespace Companion

open Syntax (Code)
open Syntax.Code

/-! ## Values -/

theorem resource?_into (b : Binding) (rest : List Code) :
    resource? (into (lookup b) ++ rest) = some (b.kind, b.key.toNat, rest) := by
  have hread : resource? (into (lookup b) ++ rest) =
      (Syntax.integerValue? (toString b.key.toNat)).bind fun n => some (b.kind, n, rest) := by
    rw [lookup]
    cases b.kind <;>
    · simp only [into]
      repeat rw [words_ofList]
      rfl
  rw [hread, Syntax.integerValue?_toString]
  rfl

theorem read?_into (b : Binding) :
    Value.read? (into (lookup b)) = some (.resource b.kind b.key.toNat) := by
  have hread := resource?_into b []
  rw [List.append_nil] at hread
  rw [Value.read?, hread]

theorem global_some' (inside : List Code) :
    global (some' inside) = (["core", "option", "Option", "Some"], paren inside) := by
  simp only [some']
  repeat rw [words_ofList]
  rfl

theorem read?_some' (b : Binding) :
    Value.read? (some' (into (lookup b))) = some (.optional b.kind b.key.toNat) := by
  have hread := resource?_into b []
  rw [List.append_nil] at hread
  have hnone : resource? (some' (into (lookup b))) = none := by
    simp only [some']
    repeat rw [words_ofList]
    rfl
  rw [Value.read?, hnone, global_some']
  simp only [paren, hread]

theorem read?_none' : Value.read? none' = some .none := by
  rw [none', words_ofList]
  rfl

theorem read?_default' : Value.read? default' = some .default := by
  rw [default', words_ofList]
  rfl

theorem pair?_some' (m : Member) :
    pair? (some' (paren (clone (words "&" ++ m.place) ++ words "," ++ into (lookup m.binding) ++
      words ","))) = some (m.word, m.binding.kind, m.binding.key.toNat) := by
  have hread := resource?_into m.binding (words ",")
  have hpair : ∀ second, global (clone (words "&" ++ m.place) ++ words "," ++ second) =
      (["core", "clone", "Clone", "clone"], .group .paren [.word "&", .word "target", .word ".",
        .word m.word] :: .word "," :: second) := by
    intro second
    simp only [clone, Member.place]
    repeat rw [words_ofList]
    rfl
  have hcomma : words "," = [.word ","] := words_ofList [',']
  rw [hcomma] at hread hpair ⊢
  rw [pair?, global_some', List.append_assoc _ (into (lookup m.binding))]
  simp only [paren, hpair, hread]

theorem avoids_into (b : Binding) : (into (lookup b)).all (avoids ";") = true := by
  rw [into, words_ofList]
  rfl

theorem avoids_some' (inside : List Code) : (some' inside).all (avoids ";") = true := by
  rw [some', words_ofList]
  rfl

theorem avoids_none' : none'.all (avoids ";") = true := by
  rw [none', words_ofList]
  rfl

theorem avoids_default' : default'.all (avoids ";") = true := by
  rw [default', words_ofList]
  rfl

/-! ## Statements -/

/-- The words of a member hold its name, and the name is an identifier as it is spelled. -/
structure Member.IsPlain (m : Member) : Prop where
  word : m.word = m.binding.name
  plain : Syntax.IsPlain m.word

namespace Member

variable {m : Member}

theorem IsPlain.pending_eq (h : m.IsPlain) : m.pending = m.binding.pending := by
  rw [pending, Binding.pending, h.word]

theorem IsPlain.word_ne (h : m.IsPlain) : m.word ≠ ";" := by
  intro hword
  refine h.plain.notMem (c := ';') (by decide) (by decide) (by decide) ?_
  rw [hword]
  decide

/-- The variable of a member has a name of its own. -/
theorem pending_ne (m : Member) {w : String} (hw : w.length < 8) : m.pending ≠ w := by
  -- The prefix of the variable has eight characters.
  rintro rfl
  rw [pending, String.length_append] at hw
  exact absurd hw (Nat.not_lt.mpr (Nat.le_add_right 8 _))

/-- The field of the target that is set to a value. -/
theorem reads_place (h : m.IsPlain) {code : List Code} {value : Value}
    (hcode : code.all (avoids ";") = true) (hvalue : Value.read? code = some value) :
    Reads Write.read? (m.place ++ words "=" ++ code ++ words ";") [.set m.binding.name value] := by
  have hstart : m.place ++ words "=" ++ code =
      .word "target" :: (.word "." :: .word m.word :: .word "=" :: code) := by
    rw [place, words_ofList, words_ofList]
    rfl
  rw [hstart]
  refine Reads.single (Consists.of_semicolon (by simp) ?_) ?_
  · simp only [List.all_cons, hcode, Bool.and_true]
    simp [avoids, h.word_ne]
  · have hread : Write.read? (.word "target" :: .word "." :: .word m.word :: .word "=" :: code) =
        (Value.read? code).map fun value => .set m.word value := rfl
    rw [hread, hvalue, h.word]
    rfl

theorem reads_allocation (h : m.IsPlain) :
    Reads Write.read? m.allocation [.set m.binding.name .default] :=
  reads_place h avoids_default' read?_default'

/-- The variable of the member in which a slot and a resource for it are kept. -/
theorem reads_pending (h : m.IsPlain) {code : List Code} {field : String} {kind : ResourceKind}
    {key : Nat} (hcode : code.all (avoids ";") = true)
    (hvalue : pair? code = some (field, kind, key)) :
    Reads Write.read? (.word m.pending :: words "=" ++ code ++ words ";")
      [.prepare m.binding.pending field kind key] := by
  have hstart : .word m.pending :: words "=" ++ code = .word m.pending :: (.word "=" :: code) := by
    rw [words_ofList]
    rfl
  have hif : Code.word m.pending ≠ .word "if" :=
    fun hif => m.pending_ne (by decide) (Code.word.inj hif)
  have hword : m.pending ≠ ";" := m.pending_ne (by decide)
  rw [hstart]
  refine Reads.single (Consists.of_semicolon hif ?_) ?_
  · simp [avoids, hcode, hword]
  · rw [Write.read?, hvalue, h.pending_eq]
    rfl

/-- **The update of a field has the form of its shape, and its own kind and key.** -/
theorem reads_update (h : m.IsPlain) : Reads Write.read? m.update [m.binding.write] := by
  rw [update, Binding.write]
  cases m.binding.shape with
  | reactive => exact h.word ▸ reads_pending h (avoids_some' _) (pair?_some' m)
  | reference => exact reads_place h (avoids_some' _) (read?_some' _)
  | value => exact reads_place h (avoids_into _) (read?_into _)

/-- **The reset of a field has the form of its shape,** and there is none of a reactive field. -/
theorem reads_reset (h : m.IsPlain) : Reads Write.read? m.reset m.binding.reset?.toList := by
  rw [reset, Binding.reset?]
  cases m.binding.shape with
  | reactive => exact Reads.nil
  | reference => exact reads_place h avoids_none' read?_none'
  | value => exact reads_place h avoids_default' read?_default'

theorem says_declaration (h : m.IsPlain) : Says m.declaration [.declare m.binding.pending] := by
  have hstart : words "let mut" ++ [.word m.pending] ++ words "=" ++ none' =
      .word "let" :: (.word "mut" :: .word m.pending :: .word "=" :: none') := by
    rw [words_ofList, words_ofList]
    rfl
  have hword : m.pending ≠ ";" := m.pending_ne (by decide)
  rw [declaration, hstart]
  refine Reads.single (Consists.of_semicolon (by simp) ?_) ?_
  · simp [avoids, avoids_none', hword]
  · rw [Statement.read, read?_none', if_pos rfl, h.pending_eq]

theorem says_publish (h : m.IsPlain) : Says m.publish [.publish m.binding.pending] := by
  have hstart : m.publish = .word "if" :: (.word "let" ::
      some' (paren (words "reactive , value")) ++ [.word "=", .word m.pending]) ++
        brace (words "reactive . set_value" ++ paren (words "value") ++ words ";") := by
    simp only [publish, some']
    repeat rw [words_ofList]
    rfl
  have hread : Statement.read m.publish = .publish m.pending := by
    simp only [publish, some']
    repeat rw [words_ofList]
    rfl
  have hword : m.pending ≠ ";" := m.pending_ne (by decide)
  rw [← h.pending_eq, ← hread, hstart]
  refine Reads.single (Consists.of_block ?_ _) rfl
  simp [avoids, avoids_some', hword]

end Member

end Companion
end Theming
