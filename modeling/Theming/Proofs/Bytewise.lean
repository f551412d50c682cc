/-
# Texts in byte order

Texts are compared character by character, by code points. In UTF-8 that is the order of their bytes
(`le_iff_bytes`): of two characters the one with the smaller code point has the smaller byte at the
first place where their bytes differ, and there is such a place.

| code point | bytes | first byte |
| --- | ---: | --- |
| to `7F` | 1 | `00` to `7F` |
| to `7FF` | 2 | `C0` to `DF` |
| to `FFFF` | 3 | `E0` to `EF` |
| to `10FFFF` | 4 | `F0` to `F7` |
-/

import Mathlib.Data.String.Basic

namespace Theming
namespace Text

/-- The bytes of a text in UTF-8. -/
def bytes (s : String) : List UInt8 := s.toUTF8.data.toList

theorem bytes_eq (s : String) : bytes s = s.toList.flatMap String.utf8EncodeChar := by
  have h : s.toUTF8 = s.toList.utf8Encode := by
    rw [String.toUTF8_eq_toByteArray, String.utf8Encode_toList]
  rw [bytes, h, List.utf8Encode, List.data_toByteArray]

/-- Bytes come before others by a smaller byte at the first place where they differ. -/
inductive Precedes : List UInt8 → List UInt8 → Prop where
  | head {x y : UInt8} {s t : List UInt8} (h : x < y) : Precedes (x :: s) (y :: t)
  | tail {x : UInt8} {s t : List UInt8} (h : Precedes s t) : Precedes (x :: s) (x :: t)

theorem Precedes.append_lt {s t : List UInt8} (h : Precedes s t) (s' t' : List UInt8) :
    s ++ s' < t ++ t' := by
  induction h with
  | head h => exact List.cons_lt_cons_iff.mpr (.inl h)
  | tail _ ih => exact List.cons_lt_cons_iff.mpr (.inr ⟨rfl, ih⟩)

theorem precedes_of_lt {m n : Nat} {s t : List UInt8} (h : m < n) (hn : n < 256) :
    Precedes (UInt8.ofNat m :: s) (UInt8.ofNat n :: t) := by
  refine .head (UInt8.lt_iff_toNat_lt.mpr ?_)
  rw [UInt8.toNat_ofNat', UInt8.toNat_ofNat']
  omega

theorem precedes_of_eq {m n : Nat} {s t : List UInt8} (hmn : m = n) (h : Precedes s t) :
    Precedes (UInt8.ofNat m :: s) (UInt8.ofNat n :: t) := hmn ▸ .tail h

/-! ## Bytes of characters -/

section Continuation

variable {m n : Nat} (h : m < n)

include h

/-- The last byte has the lowest six bits. -/
theorem precedes_last (hrest : m / 64 = n / 64) :
    Precedes [UInt8.ofNat (m % 64 + 128)] [UInt8.ofNat (n % 64 + 128)] :=
  precedes_of_lt (by omega) (by omega)

theorem precedes_last_two (hrest : m / 4096 = n / 4096) :
    Precedes [UInt8.ofNat (m / 64 % 64 + 128), UInt8.ofNat (m % 64 + 128)]
      [UInt8.ofNat (n / 64 % 64 + 128), UInt8.ofNat (n % 64 + 128)] := by
  by_cases hsame : m / 64 = n / 64
  · exact precedes_of_eq (by rw [hsame]) (precedes_last h hsame)
  · exact precedes_of_lt (by omega) (by omega)

theorem precedes_last_three (hrest : m / 262144 = n / 262144) :
    Precedes
      [UInt8.ofNat (m / 4096 % 64 + 128), UInt8.ofNat (m / 64 % 64 + 128),
        UInt8.ofNat (m % 64 + 128)]
      [UInt8.ofNat (n / 4096 % 64 + 128), UInt8.ofNat (n / 64 % 64 + 128),
        UInt8.ofNat (n % 64 + 128)] := by
  by_cases hsame : m / 4096 = n / 4096
  · exact precedes_of_eq (by rw [hsame]) (precedes_last_two h hsame)
  · exact precedes_of_lt (by omega) (by omega)

end Continuation

/-- **The bytes of characters are in the order of their code points.** -/
theorem precedes_utf8EncodeChar {c d : Char} (h : c < d) :
    Precedes (String.utf8EncodeChar c) (String.utf8EncodeChar d) := by
  have hlt : c.val.toNat < d.val.toNat := h
  have hd : d.val.toNat < 0x110000 := by
    have := d.valid
    simp only [UInt32.isValidChar, Nat.isValidChar] at this
    omega
  rw [String.utf8EncodeChar, String.utf8EncodeChar]
  generalize c.val.toNat = m at hlt
  generalize d.val.toNat = n at hlt hd
  split_ifs
  · exact precedes_of_lt hlt (by omega)
  -- Where the numbers of bytes differ, the first bytes decide.
  all_goals first | exact precedes_of_lt (by omega) (by omega) | omega | skip
  · by_cases hsame : m / 64 = n / 64
    · exact precedes_of_eq (by rw [hsame]) (precedes_last hlt hsame)
    · exact precedes_of_lt (by omega) (by omega)
  · by_cases hsame : m / 4096 = n / 4096
    · exact precedes_of_eq (by rw [hsame]) (precedes_last_two hlt hsame)
    · exact precedes_of_lt (by omega) (by omega)
  · by_cases hsame : m / 262144 = n / 262144
    · exact precedes_of_eq (by rw [hsame]) (precedes_last_three hlt hsame)
    · exact precedes_of_lt (by omega) (by omega)

/-! ## Bytes of texts -/

theorem flatMap_utf8EncodeChar_lt {cs ds : List Char} (h : cs < ds) :
    cs.flatMap String.utf8EncodeChar < ds.flatMap String.utf8EncodeChar := by
  induction cs generalizing ds with
  | nil =>
    cases ds with
    | nil => exact absurd h (List.lt_irrefl _)
    | cons d ds =>
      rw [List.flatMap_nil, List.flatMap_cons]
      cases hd : String.utf8EncodeChar d with
      | nil =>
        have hlength := String.length_utf8EncodeChar d
        rw [hd] at hlength
        exact absurd hlength.symm (Nat.ne_of_gt d.utf8Size_pos)
      | cons byte rest => exact List.nil_lt_cons _ _
  | cons c cs ih =>
    cases ds with
    | nil => exact absurd h (List.not_lt_nil _)
    | cons d ds =>
      rw [List.flatMap_cons, List.flatMap_cons]
      rcases List.cons_lt_cons_iff.mp h with hcd | ⟨rfl, hrest⟩
      · exact (precedes_utf8EncodeChar hcd).append_lt _ _
      · exact List.append_left_lt (ih hrest)

theorem bytes_lt {a b : String} (h : a < b) : bytes a < bytes b := by
  rw [bytes_eq, bytes_eq]
  exact flatMap_utf8EncodeChar_lt h

/-- **Texts are in the order of their bytes.** -/
theorem le_iff_bytes {a b : String} : a ≤ b ↔ bytes a ≤ bytes b := by
  constructor
  · intro h
    rcases h.eq_or_lt with rfl | hlt
    · exact List.le_refl _
    · exact List.le_of_lt (bytes_lt hlt)
  · intro h
    by_contra hnot
    exact h (bytes_lt (not_le.mp hnot))

/-! ## Sorting -/

/-- What is sorted by texts is in their order. -/
theorem pairwise_mergeSort {α : Type} (text : α → String) (items : List α) :
    (items.mergeSort fun a b => decide (text a ≤ text b)).Pairwise fun a b => text a ≤ text b := by
  have hsorted : (items.mergeSort fun a b => decide (text a ≤ text b)).Pairwise
      fun a b => decide (text a ≤ text b) = true :=
    List.pairwise_mergeSort
      (fun a b c hab hbc => decide_eq_true ((of_decide_eq_true hab).trans (of_decide_eq_true hbc)))
      (fun a b => by simpa using le_total (text a) (text b)) items
  exact hsorted.imp fun h => of_decide_eq_true h

/-- **What is sorted does not depend on the order it came in**, if no two items have one text. -/
theorem mergeSort_congr {α : Type} (text : α → String) {items items' : List α}
    (h : items'.Perm items) (hinj : ∀ a ∈ items, ∀ b ∈ items, text a = text b → a = b) :
    (items'.mergeSort fun a b => decide (text a ≤ text b)) =
      items.mergeSort fun a b => decide (text a ≤ text b) := by
  have hperm := (List.mergeSort_perm items' fun a b => decide (text a ≤ text b)).trans
    (h.trans (List.mergeSort_perm items fun a b => decide (text a ≤ text b)).symm)
  refine hperm.eq_of_pairwise (fun a b ha hb hab hba => ?_) (pairwise_mergeSort text items')
    (pairwise_mergeSort text items)
  exact hinj a (h.mem_iff.mp (List.mem_mergeSort.mp ha)) b (List.mem_mergeSort.mp hb)
    (le_antisymm hab hba)

end Text
end Theming
