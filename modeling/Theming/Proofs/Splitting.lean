/-
# Texts cut at a character

A text is cut at each place of a separator. The search for it goes over positions in the encoded text;
for a separator of one byte, what it finds are the parts of the list of characters
(`splitOn_singleton`).
-/

import Mathlib.Data.String.Basic

namespace Theming

open String

/-- The search for a separator of one byte takes one character at a time: a separator ends the part
`m`, and any other character belongs to it. -/
theorem splitOnAux_cons {sep : Char} (hsep : sep.utf8Size = 1) (l m : List Char) (c : Char)
    (r : List Char) (acc : List String) :
    splitOnAux (ofList (l ++ m ++ c :: r)) (ofList [sep]) ⟨utf8Len l⟩ ⟨utf8Len l + utf8Len m⟩ 0 acc =
      if c = sep then
        splitOnAux (ofList (l ++ m ++ c :: r)) (ofList [sep])
          ⟨utf8Len l + utf8Len m + c.utf8Size⟩ ⟨utf8Len l + utf8Len m + c.utf8Size⟩ 0
          (ofList m :: acc)
      else
        splitOnAux (ofList (l ++ m ++ c :: r)) (ofList [sep]) ⟨utf8Len l⟩
          ⟨utf8Len l + utf8Len m + c.utf8Size⟩ 0 acc := by
  have hget : Pos.Raw.get (ofList (l ++ m ++ c :: r)) ⟨utf8Len l + utf8Len m⟩ = c := by
    rw [← utf8Len_append]
    exact get_of_valid (l ++ m) (c :: r)
  have hnext : Pos.Raw.next (ofList (l ++ m ++ c :: r)) ⟨utf8Len l + utf8Len m⟩ =
      ⟨utf8Len l + utf8Len m + c.utf8Size⟩ := by
    rw [← utf8Len_append]
    exact next_of_valid (l ++ m) c r
  have hend : ¬ Pos.Raw.atEnd (ofList (l ++ m ++ c :: r)) ⟨utf8Len l + utf8Len m⟩ = true := by
    have hsize := c.utf8Size_pos
    rw [atEnd_iff, rawEndPos_ofList, utf8Len_append, utf8Len_append, utf8Len_cons]
    simp only [Pos.Raw.le_iff]
    omega
  have hmark : Pos.Raw.get (ofList [sep]) 0 = sep := get_of_valid [] [sep]
  have hbehind : Pos.Raw.next (ofList [sep]) 0 = ⟨1⟩ := by
    rw [← hsep]
    exact (next_of_valid [] sep []).trans (by simp)
  have hover : Pos.Raw.atEnd (ofList [sep]) ⟨1⟩ = true := by
    rw [atEnd_iff, rawEndPos_ofList, utf8Len_cons, utf8Len_nil, hsep]
    exact Pos.Raw.le_refl
  rw [splitOnAux, if_neg hend, hget, hnext, hmark, hbehind, if_pos hover]
  by_cases hc : c = sep
  -- The separator is as long as the step, so the part ends in front of it.
  · have hback : Pos.Raw.unoffsetBy ⟨utf8Len l + utf8Len m + c.utf8Size⟩ ⟨1⟩ =
        ⟨utf8Len l + utf8Len m⟩ := by
      rw [hc, hsep]
      rfl
    rw [if_pos (beq_iff_eq.mpr hc), if_pos hc, hback, extract_of_valid]
  · have hback : Pos.Raw.next (ofList (l ++ m ++ c :: r))
        (Pos.Raw.unoffsetBy ⟨utf8Len l + utf8Len m⟩ 0) =
          ⟨utf8Len l + utf8Len m + c.utf8Size⟩ := hnext
    rw [if_neg (mt beq_iff_eq.mp hc), if_neg hc, hback]

/-- The search for a separator goes on from any place: behind the parts `acc` and the characters `m`
of the part that is being read. -/
theorem splitOnAux_singleton {sep : Char} (hsep : sep.utf8Size = 1) (l m r : List Char)
    (acc : List String) :
    splitOnAux (ofList (l ++ m ++ r)) (ofList [sep]) ⟨utf8Len l⟩ ⟨utf8Len l + utf8Len m⟩ 0 acc =
      acc.reverse ++ (List.splitOnPPrepend (· == sep) r m.reverse).map ofList := by
  induction r generalizing l m acc with
  | nil =>
    have hend : Pos.Raw.atEnd (ofList (l ++ m ++ [])) ⟨utf8Len l + utf8Len m⟩ = true := by
      rw [atEnd_iff, rawEndPos_ofList, List.append_nil, utf8Len_append]
      exact Pos.Raw.le_refl
    rw [splitOnAux, if_pos hend, extract_of_valid, List.splitOnPPrepend_nil, List.reverse_reverse]
    exact List.reverse_cons
  | cons c r ih =>
    have hshift : l ++ m ++ c :: r = l ++ (m ++ [c]) ++ r := by simp
    have hgrown : utf8Len l + utf8Len m + c.utf8Size = utf8Len l + utf8Len (m ++ [c]) := by
      simp [Nat.add_assoc]
    rw [splitOnAux_cons hsep, hshift, hgrown]
    split_ifs with hc
    · have hfrom := ih (l ++ (m ++ [c])) [] (ofList m :: acc)
      rw [List.append_nil, utf8Len_append, utf8Len_nil, Nat.add_zero] at hfrom
      rw [hfrom]
      simp [List.splitOnPPrepend_cons_eq_if, hc]
    · rw [ih l (m ++ [c]) acc]
      simp [List.splitOnPPrepend_cons_eq_if, hc]

/-- **The parts of a text are those of its characters.** -/
theorem splitOn_singleton {sep : Char} (hsep : sep.utf8Size = 1) (text : String) :
    text.splitOn (ofList [sep]) = (text.toList.splitOn sep).map ofList := by
  have hsearch := splitOnAux_singleton hsep [] [] text.toList []
  have hne : ¬ (ofList [sep] == "") = true := by simp
  rw [splitOn, if_neg hne]
  simpa [List.splitOn] using hsearch

end Theming
