/-
# Printed code, read back

Code is printed on one line, and the line says all of it: spaces and delimiters end a word, unless
they stand between quotes, and delimiters nest as the groups do. A word is solid if it is printed as
one: its quotes are closed, and no break stands outside them.

| character | outside quotes | between quotes |
| --- | --- | --- |
| space, delimiter | ends the word | belongs to it |
| double quote | opens quotes | closes them |
| backslash | belongs to the word | the next character closes nothing |
| line feed | in no solid word | in no solid word |

Code of solid words is read back from its text (`read_render`), so the text determines it.
-/

import Mathlib.Data.List.DropRight
import Theming.Proofs.Splitting
import Theming.Syntax.Code

namespace Theming
namespace Syntax

/-- Where a character stands in a word. -/
inductive Place where
  | bare
  | quoted
  /-- Between quotes, behind a backslash. -/
  | escaped
deriving DecidableEq, Repr

/-- Where the next character stands. -/
def Place.next : Place → Char → Place
  | .bare, c => if c = '"' then .quoted else .bare
  | .quoted, c => if c = '\\' then .escaped else if c = '"' then .bare else .quoted
  | .escaped, _ => .quoted

namespace Code

/-- A character that ends a word. -/
def isBreak (c : Char) : Bool :=
  c == ' ' || c == '(' || c == ')' || c == '[' || c == ']' || c == '\x7b' || c == '\x7d'

/-- The characters go on with a word and end it where a word can end. -/
def goesOn : Place → List Char → Bool
  | place, [] => place == .bare
  | place, c :: rest => c != '\n' && !(place == .bare && isBreak c) && goesOn (place.next c) rest

/-- A word that is printed as one. -/
def isSolidWord (w : String) : Bool := !w.isEmpty && goesOn .bare w.toList

mutual

/-- A word or group of solid words. -/
def isSolidOne : Code → Bool
  | .word w => isSolidWord w
  | .group _ content => isSolid content

/-- Code whose words are all solid. -/
def isSolid : List Code → Bool
  | [] => true
  | c :: rest => isSolidOne c && isSolid rest

end

/-! ## Reading -/

/-- How far a text has been read. -/
structure Page where
  /-- The groups that are open, innermost first, with what stands in front of each; last first. -/
  opened : List (Delimiter × List Code) := []
  /-- What has been read of the innermost group, last first. -/
  done : List Code := []
  /-- The characters of the word that is being read, last first. -/
  word : List Char := []
  place : Place := .bare

namespace Page

/-- Puts a word or group behind what has been read. -/
def put (p : Page) (c : Code) : Page := { p with done := c :: p.done }

/-- The word that was being read is over. -/
def flush (p : Page) : Page :=
  if p.word = [] then p else { p.put (.word (String.ofList p.word.reverse)) with word := [] }

/-- A group begins. -/
def enter (p : Page) (d : Delimiter) : Page :=
  { p with opened := (d, p.done) :: p.opened, done := [] }

/-- The innermost group is over. -/
def leave (p : Page) : Page :=
  match p.opened with
  | [] => p
  | (d, before) :: opened => { p with opened, done := .group d p.done.reverse :: before }

/-- A break between words. -/
def atBreak (p : Page) (c : Char) : Page :=
  if c = '(' then p.enter .paren
  else if c = '[' then p.enter .bracket
  else if c = '\x7b' then p.enter .brace
  else if c = ' ' then p
  else p.leave

/-- Reads a character. -/
def step (p : Page) (c : Char) : Page :=
  if p.place = .bare ∧ isBreak c = true then p.flush.atBreak c
  else { p with word := c :: p.word, place := p.place.next c }

end Page

/-- The code that a text was printed from. -/
def read (text : String) : List Code := (text.toList.foldl Page.step {}).flush.done.reverse

namespace Page

/-- No word has been begun. -/
structure Fresh (p : Page) : Prop where
  word : p.word = []
  place : p.place = .bare

theorem Fresh.flush {p : Page} (h : p.Fresh) : p.flush = p := if_pos h.word

theorem Fresh.put {p : Page} (h : p.Fresh) (c : Code) : (p.put c).Fresh := ⟨h.word, h.place⟩

theorem Fresh.enter {p : Page} (h : p.Fresh) (d : Delimiter) : (p.enter d).Fresh :=
  ⟨h.word, h.place⟩

theorem place_flush (p : Page) : p.flush.place = p.place := by
  rw [Page.flush]
  split <;> rfl

/-- At a break, it does not matter if the word in front of it has been put down. -/
theorem step_of_flush {p q : Page} (h : p.flush = q) (hq : q.Fresh) {c : Char}
    (hc : isBreak c = true) : p.step c = q.atBreak c := by
  have hplace : p.place = .bare := by rw [← place_flush, h, hq.place]
  rw [step, if_pos ⟨hplace, hc⟩, h]

/-- A word is read as it is printed. -/
theorem foldl_goesOn {cs : List Char} {p : Page} (h : goesOn p.place cs = true) :
    cs.foldl step p = { p with word := cs.reverse ++ p.word, place := .bare } := by
  induction cs generalizing p with
  | nil =>
    have hplace : p.place = .bare := beq_iff_eq.mp h
    rw [← hplace]
    rfl
  | cons c rest ih =>
    rw [goesOn, Bool.and_eq_true, Bool.and_eq_true, Bool.not_eq_true', Bool.and_eq_false_iff] at h
    obtain ⟨⟨-, hc⟩, hrest⟩ := h
    have hstep : p.step c = { p with word := c :: p.word, place := p.place.next c } := by
      refine if_neg fun hbreak => ?_
      rcases hc with hc | hc
      · simp [hbreak.1] at hc
      · simp [hbreak.2] at hc
    rw [List.foldl_cons, hstep, ih hrest, List.reverse_cons, List.append_assoc]
    rfl

end Page

/-- What has been read when code stands behind a page. -/
def Page.puts (p : Page) (cs : List Code) : Page := { p with done := cs.reverse ++ p.done }

theorem Page.Fresh.puts {p : Page} (h : p.Fresh) (cs : List Code) : (p.puts cs).Fresh :=
  ⟨h.word, h.place⟩

theorem Page.leave_puts (p : Page) (d : Delimiter) (content : List Code) :
    ((p.enter d).puts content).leave = p.put (.group d content) := by
  simp [Page.leave, Page.puts, Page.enter, Page.put]

/-- A group is read from its delimiters and the text between them. -/
theorem foldl_group {p : Page} (hp : p.Fresh) {d : Delimiter} {first last : Char}
    {content : List Code} {inside : List Char}
    (hfirst : isBreak first = true ∧ ∀ q : Page, q.atBreak first = q.enter d)
    (hlast : isBreak last = true ∧ ∀ q : Page, q.atBreak last = q.leave)
    (hinside : (inside.foldl Page.step (p.enter d)).flush = (p.enter d).puts content) :
    ((first :: (inside ++ [last])).foldl Page.step p).flush = p.put (.group d content) := by
  rw [List.foldl_cons, Page.step_of_flush hp.flush hp hfirst.1, hfirst.2, List.foldl_append,
    List.foldl_cons, List.foldl_nil, Page.step_of_flush hinside ((hp.enter d).puts content) hlast.1,
    hlast.2, Page.leave_puts, (hp.put _).flush]

/-- Spaces beside what stands in braces are no words. -/
theorem foldl_spaced {p : Page} (hp : p.Fresh) {content : List Code} {inside : List Char}
    (hinside : (inside.foldl Page.step p).flush = p.puts content) :
    ((' ' :: (inside ++ [' '])).foldl Page.step p).flush = p.puts content := by
  rw [List.foldl_cons, Page.step_of_flush hp.flush hp rfl, List.foldl_append, List.foldl_cons,
    List.foldl_nil]
  have hlast := Page.step_of_flush hinside (hp.puts content) (c := ' ') rfl
  exact hlast ▸ (hp.puts content).flush

theorem foldl_word {w : String} (h : isSolidWord w = true) {p : Page} (hp : p.Fresh) :
    (w.toList.foldl Page.step p).flush = p.put (.word w) := by
  obtain ⟨hne, hgoes⟩ := Bool.and_eq_true_iff.mp h
  have hword : w.toList.reverse ≠ [] := by simpa using hne
  rw [Page.foldl_goesOn (by rw [hp.place]; exact hgoes), hp.word, List.append_nil, Page.flush,
    if_neg hword, List.reverse_reverse, String.ofList_toList, ← hp.word, ← hp.place]
  rfl

mutual

/-- A word or group is read as it is printed. -/
theorem foldl_renderOne (c : Code) (h : isSolidOne c = true) {p : Page} (hp : p.Fresh) :
    ((renderOne c).toList.foldl Page.step p).flush = p.put c := by
  match c with
  | .word w =>
    rw [renderOne]
    exact foldl_word h hp
  | .group .paren content =>
    rw [renderOne, String.toList_append, String.toList_append]
    exact foldl_group hp ⟨rfl, fun _ => rfl⟩ ⟨rfl, fun _ => rfl⟩
      (foldl_render content h (hp.enter .paren))
  | .group .bracket content =>
    rw [renderOne, String.toList_append, String.toList_append]
    exact foldl_group hp ⟨rfl, fun _ => rfl⟩ ⟨rfl, fun _ => rfl⟩
      (foldl_render content h (hp.enter .bracket))
  | .group .brace [] =>
    -- Empty braces hold one space, others one on each side.
    have hinside : ([' '].foldl Page.step (p.enter .brace)).flush = (p.enter .brace).puts [] :=
      congrArg Page.flush (Page.step_of_flush (hp.enter .brace).flush (hp.enter .brace) rfl) |>.trans
        (hp.enter .brace).flush
    exact foldl_group hp ⟨rfl, fun _ => rfl⟩ ⟨rfl, fun _ => rfl⟩ hinside
  | .group .brace (c :: rest) =>
    have hinside := foldl_spaced (hp.enter .brace) (foldl_render (c :: rest) h (hp.enter .brace))
    have htext : (renderOne (.group .brace (c :: rest))).toList =
        '\x7b' :: ((' ' :: ((render (c :: rest)).toList ++ [' '])) ++ ['\x7d']) := by
      rw [renderOne, String.toList_append, String.toList_append]
      · simp
      · exact List.cons_ne_nil _ _
    rw [htext]
    exact foldl_group hp ⟨rfl, fun _ => rfl⟩ ⟨rfl, fun _ => rfl⟩ hinside

/-- Code is read as it is printed. -/
theorem foldl_render (cs : List Code) (h : isSolid cs = true) {p : Page} (hp : p.Fresh) :
    ((render cs).toList.foldl Page.step p).flush = p.puts cs := by
  match cs with
  | [] => exact hp.flush
  | [c] =>
    rw [isSolid, Bool.and_eq_true] at h
    exact foldl_renderOne c h.1 hp
  | c :: c' :: rest =>
    rw [isSolid, Bool.and_eq_true] at h
    have hfirst := foldl_renderOne c h.1 hp
    -- The space behind the first word or group puts it down.
    have hspace : ((renderOne c).toList ++ [' ']).foldl Page.step p = p.put c := by
      rw [List.foldl_append]
      exact Page.step_of_flush hfirst (hp.put c) rfl
    rw [render, String.toList_append, String.toList_append, List.foldl_append]
    · refine (congrArg (fun q => Page.flush (List.foldl _ q _)) hspace).trans ?_
      rw [foldl_render (c' :: rest) h.2 (hp.put c)]
      simp [Page.puts, Page.put]
    · exact List.cons_ne_nil _ _

end

/-- **Code of solid words is read back from its text.** -/
theorem read_render {cs : List Code} (h : isSolid cs = true) : read (render cs) = cs := by
  have hread := foldl_render cs h (p := {}) ⟨rfl, rfl⟩
  rw [read, hread, Page.puts, List.append_nil, List.reverse_reverse]

/-! ## One line -/

theorem newline_notMem_goesOn {place : Place} {cs : List Char} (h : goesOn place cs = true) :
    '\n' ∉ cs := by
  induction cs generalizing place with
  | nil => exact List.not_mem_nil
  | cons c rest ih =>
    rw [goesOn, Bool.and_eq_true, Bool.and_eq_true] at h
    rw [List.mem_cons, not_or]
    exact ⟨fun heq => by simp [← heq] at h, ih h.2⟩

mutual

theorem newline_notMem_renderOne (c : Code) (h : isSolidOne c = true) :
    '\n' ∉ (renderOne c).toList := by
  match c with
  | .word w =>
    rw [renderOne]
    exact newline_notMem_goesOn (Bool.and_eq_true_iff.mp h).2
  | .group .paren content => simp [renderOne, newline_notMem_render content h]
  | .group .bracket content => simp [renderOne, newline_notMem_render content h]
  | .group .brace [] => simp [renderOne]
  | .group .brace (c :: rest) => simp [renderOne, newline_notMem_render (c :: rest) h]

/-- Code of solid words is printed on one line. -/
theorem newline_notMem_render (cs : List Code) (h : isSolid cs = true) :
    '\n' ∉ (render cs).toList := by
  match cs with
  | [] => simp [render]
  | [c] =>
    rw [isSolid, Bool.and_eq_true] at h
    exact newline_notMem_renderOne c h.1
  | c :: c' :: rest =>
    rw [isSolid, Bool.and_eq_true] at h
    simp [render, newline_notMem_renderOne c h.1, newline_notMem_render (c' :: rest) h.2]

end

/-- The last line of a text that ends with a line feed. -/
def lastLine (text : String) : String :=
  String.ofList (text.toList.dropLast.rtakeWhile (· != '\n'))

theorem lastLine_append {line : String} (h : '\n' ∉ line.toList) (before : String) :
    lastLine (before ++ "\n" ++ line ++ "\n") = line := by
  have hall : ∀ c ∈ line.toList.reverse, (c != '\n') = true := fun c hc =>
    bne_iff_ne.mpr fun heq => h (heq ▸ List.mem_reverse.mp hc)
  have htext : (before ++ "\n" ++ line ++ "\n").toList =
      (before.toList ++ '\n' :: line.toList) ++ ['\n'] := by simp
  rw [lastLine, htext, List.dropLast_concat, List.rtakeWhile, List.reverse_append,
    List.reverse_cons, List.append_assoc, List.takeWhile_append_of_pos hall,
    List.singleton_append, List.takeWhile_cons_of_neg (by simp), List.append_nil,
    List.reverse_reverse, String.ofList_toList]

/-! ## Solid code -/

section Solid

variable {cs more : List Code}

@[simp]
theorem isSolid_append : isSolid (cs ++ more) = (isSolid cs && isSolid more) := by
  induction cs with
  | nil => rfl
  | cons c rest ih => simp [isSolid, ih, Bool.and_assoc]

@[simp]
theorem isSolid_word (w : String) : isSolid [.word w] = isSolidWord w := Bool.and_true _

@[simp]
theorem isSolid_paren : isSolid (paren cs) = isSolid cs := Bool.and_true _

@[simp]
theorem isSolid_bracket : isSolid (bracket cs) = isSolid cs := Bool.and_true _

@[simp]
theorem isSolid_brace : isSolid (brace cs) = isSolid cs := Bool.and_true _

end Solid

theorem isSolid_flatMap {α : Type} {xs : List α} {make : α → List Code}
    (h : ∀ x ∈ xs, isSolid (make x) = true) : isSolid (xs.flatMap make) = true := by
  induction xs with
  | nil => rfl
  | cons x xs ih =>
    obtain ⟨hfirst, hothers⟩ := List.forall_mem_cons.mp h
    rw [List.flatMap_cons, isSolid_append, hfirst, ih hothers]
    rfl

/-- The words of a text that is spaced out stand between its spaces. -/
theorem words_ofList (cs : List Char) : words (String.ofList cs) =
    (cs.splitOn ' ').map fun w => .word (String.ofList w) := by
  rw [words, show " " = String.ofList [' '] from rfl, splitOn_singleton rfl, String.toList_ofList,
    List.map_map]
  rfl

theorem isSolidWord_ofList (cs : List Char) :
    isSolidWord (String.ofList cs) = (!cs.isEmpty && goesOn .bare cs) := by
  rw [isSolidWord, String.toList_ofList]
  cases cs with
  | nil => rfl
  | cons c rest => simp

/-- Words that are spaced out are solid if the text between the spaces is. -/
theorem isSolid_words (cs : List Char) : isSolid (words (String.ofList cs)) =
    (cs.splitOn ' ').all fun w => !w.isEmpty && goesOn .bare w := by
  rw [words_ofList]
  induction cs.splitOn ' ' with
  | nil => rfl
  | cons w rest ih => rw [List.map_cons, isSolid, ih, isSolidOne, isSolidWord_ofList, List.all_cons]

/-- The characters that are in no word without quotes. -/
def marks : List Char := [' ', '(', ')', '[', ']', '\x7b', '\x7d', '"', '\n']

/-- Characters of a sort that no mark is of make a solid word. -/
theorem isSolidWord_of_chars {P : Char → Prop} (hmarks : marks.Forall (¬ P ·)) {w : String}
    (hne : w ≠ "") (h : ∀ c ∈ w.toList, P c) : isSolidWord w = true := by
  have hgoes : ∀ cs : List Char, (∀ c ∈ cs, P c) → goesOn .bare cs = true := by
    intro cs hcs
    induction cs with
    | nil => rfl
    | cons c rest ih =>
      obtain ⟨hc, hrest⟩ := List.forall_mem_cons.mp hcs
      have hother : ∀ mark ∈ marks, c ≠ mark := fun mark hmark heq =>
        List.forall_iff_forall_mem.mp hmarks mark hmark (heq ▸ hc)
      simp [marks] at hother
      simp [goesOn, Place.next, isBreak, hother, ih hrest]
  simp [isSolidWord, hne, hgoes w.toList h]

end Code
end Syntax
end Theming
