/-
# Documents of texts

A record whose members are texts is printed as JSON on one line, and what is read of that line is
the record (`Json.parse?_render`): an escape is read back as its character, and no character is half
of a surrogate pair, so no two units are joined. The members follow one another, each behind its
comma.

A drawable is written as such a record and a color as such a text, so both come back
(`Color.survives`).
-/

import Theming.Data.Json
import Theming.Proofs.Hexadecimal
import Theming.Resource.Codec

namespace Theming
namespace Json

/-! ## Texts -/

theorem toNat_valid (c : Char) : c.toNat < 0xD800 ∨ 0xDFFF < c.toNat ∧ c.toNat < 0x110000 := c.valid

/-- What is written for a character is read as its number. -/
theorem units?_escapeChar (c : Char) (fuel : Nat) (rest : List Char) :
    units? (fuel + 1) (escapeChar c ++ rest) =
      (units? fuel rest).map fun (us, r) => (c.toNat :: us, r) := by
  rw [escapeChar]
  split_ifs with hquote hback hline hreturn htab hbell hfeed hcontrol
  · rw [beq_iff_eq.mp hquote]
    rfl
  · rw [beq_iff_eq.mp hback]
    rfl
  · rw [beq_iff_eq.mp hline]
    rfl
  · rw [beq_iff_eq.mp hreturn]
    rfl
  · rw [beq_iff_eq.mp htab]
    rfl
  · rw [beq_iff_eq.mp hbell]
    rfl
  · rw [beq_iff_eq.mp hfeed]
    rfl
  · have hunit : ∀ n < 32, Text.digits? 16 0 ['0', '0', (n / 16).digitChar, (n % 16).digitChar] =
        some n := by decide
    simp [units?, unit?, hunit _ hcontrol]
  · simp [units?, hquote, hback, hcontrol]

theorem units?_flatMap (cs : List Char) {fuel : Nat} (hfuel : cs.length < fuel) (rest : List Char) :
    units? fuel (cs.flatMap escapeChar ++ '"' :: rest) = some (cs.map Char.toNat, rest) := by
  induction cs generalizing fuel with
  | nil =>
    obtain ⟨fuel, rfl⟩ := Nat.exists_eq_succ_of_ne_zero (Nat.ne_of_gt hfuel)
    rfl
  | cons c cs ih =>
    obtain ⟨fuel, rfl⟩ := Nat.exists_eq_succ_of_ne_zero (Nat.ne_of_gt (Nat.zero_lt_of_lt hfuel))
    rw [List.flatMap_cons, List.append_assoc, units?_escapeChar,
      ih (by rw [List.length_cons] at hfuel; omega), Option.map_some, List.map_cons]

/-- Characters are no halves of surrogate pairs. -/
theorem joinUnits?_toNat (cs : List Char) : joinUnits? (cs.map Char.toNat) = some cs := by
  have hwhole : ∀ c : Char, isHigh c.toNat = false ∧ isLow c.toNat = false := by
    intro c
    have := toNat_valid c
    simp only [isHigh, isLow, Bool.and_eq_false_imp, decide_eq_true_eq, decide_eq_false_iff_not]
    omega
  induction cs with
  | nil => rfl
  | cons c cs ih =>
    cases cs with
    | nil => simp [joinUnits?, hwhole]
    | cons d cs =>
      rw [List.map_cons, List.map_cons, joinUnits?, (hwhole c).1, (hwhole c).2, ← List.map_cons, ih]
      simp

theorem length_le_flatMap (cs : List Char) : cs.length ≤ (cs.flatMap escapeChar).length := by
  induction cs with
  | nil => exact Nat.le_refl 0
  | cons c cs ih =>
    have hpos : 0 < (escapeChar c).length := by
      rw [escapeChar]
      split_ifs <;> exact Nat.zero_lt_succ _
    rw [List.flatMap_cons, List.length_append, List.length_cons]
    omega

theorem text?_flatMap (s : String) (rest : List Char) :
    text? (s.toList.flatMap escapeChar ++ '"' :: rest) = some (some s, rest) := by
  have hlen := length_le_flatMap s.toList
  rw [text?, units?_flatMap s.toList (by rw [List.length_append]; omega)]
  simp only [Option.map_some, joinUnits?_toNat, String.ofList_toList]

theorem toList_renderText (s : String) (rest : List Char) : (renderText s).toList ++ rest =
    '"' :: (s.toList.flatMap escapeChar ++ '"' :: rest) := by
  rw [renderText, String.toList_ofList, List.append_assoc]
  rfl

/-! ## Records -/

theorem skip_cons {c : Char} (hc : isBlank c = false) (cs : List Char) :
    skip (c :: cs) = c :: cs := by
  rw [skip, List.dropWhile_cons, hc]
  rfl

theorem name?_renderText (s : String) (rest : List Char) :
    name? ((renderText s).toList ++ ':' :: rest) = some (some s, rest) := by
  rw [toList_renderText, name?, skip_cons (by decide)]
  simp only [text?_flatMap, Option.bind_some, skip_cons (by decide : isBlank ':' = false)]

theorem value?_renderText (s : String) (fuel depth : Nat) (rest : List Char) :
    value? (fuel + 1) depth ((renderText s).toList ++ rest) = some (.text s, rest) := by
  rw [toList_renderText, value?, skip_cons (by decide)]
  simp only [text?_flatMap, Option.map_some]

/-- Members that are texts. -/
def texts (fields : List (String × String)) : List (String × Data) :=
  fields.map fun f => (f.1, .text f.2)

/-- The printed members of a record that are texts. -/
def body (fields : List (String × String)) : List Char :=
  (",".intercalate (renderMembers (texts fields))).toList

theorem body_cons_cons (f g : String × String) (fields : List (String × String))
    (rest : List Char) : body (f :: g :: fields) ++ rest = (renderText f.1).toList ++ ':' ::
      ((renderText f.2).toList ++ ',' :: (body (g :: fields) ++ rest)) := by
  simp [body, texts, renderMembers, render]

theorem body_singleton (f : String × String) (rest : List Char) : body [f] ++ rest =
    (renderText f.1).toList ++ ':' :: ((renderText f.2).toList ++ rest) := by
  simp [body, texts, renderMembers, render]

theorem length_le_body (fields : List (String × String)) :
    fields.length ≤ (body fields).length := by
  induction fields with
  | nil => exact Nat.zero_le _
  | cons f fields ih =>
    cases fields with
    | nil =>
      have hbody := congrArg List.length (body_singleton f [])
      simp only [List.append_nil, List.length_append, List.length_cons, List.length_nil] at hbody ⊢
      omega
    | cons g fields =>
      have hbody := congrArg List.length (body_cons_cons f g fields [])
      simp only [List.append_nil, List.length_append, List.length_cons] at hbody ih ⊢
      omega

/-- The printed members are read back, each up to its comma and the last up to the brace. -/
theorem members?_body (f : String × String) (fields : List (String × String)) (fuel : Nat)
    (hfuel : fields.length + 2 ≤ fuel) (depth : Nat) (rest : List Char) :
    members? fuel depth (body (f :: fields) ++ '\x7d' :: rest) =
      some (some (texts (f :: fields)), rest) := by
  induction fields generalizing f fuel with
  | nil =>
    obtain ⟨fuel, rfl⟩ : ∃ k, fuel = k + 2 := ⟨fuel - 2, (Nat.sub_add_cancel hfuel).symm⟩
    simp only [members?, body_singleton, name?_renderText, value?_renderText, Option.bind_some,
      skip_cons (by decide : isBlank '\x7d' = false)]
    rfl
  | cons g fields ih =>
    rw [List.length_cons] at hfuel
    obtain ⟨fuel, rfl⟩ : ∃ k, fuel = k + 2 := ⟨fuel - 2, by omega⟩
    rw [members?]
    simp only [body_cons_cons, name?_renderText, value?_renderText, Option.bind_some,
      skip_cons (by decide : isBlank ',' = false), ih g (fuel + 1) (by omega)]
    rfl

/-- **A printed record of texts is read back.** -/
theorem parse?_render (fields : List (String × String)) :
    parse? (render (.record (texts fields))) = some (.record (texts fields)) := by
  have htext : (render (.record (texts fields))).toList = '\x7b' :: (body fields ++ ['\x7d']) := by
    simp [render, body]
  have hlen := length_le_body fields
  cases fields with
  | nil => rfl
  | cons f fields =>
    have hmembers := members?_body f fields (2 * ((body (f :: fields)).length + 2) + 1)
      (by rw [List.length_cons] at hlen; omega) (depthLimit - 1) []
    obtain ⟨cs, hquote⟩ : ∃ cs, body (f :: fields) ++ ['\x7d'] = '"' :: cs := by
      cases fields with
      | nil => exact ⟨_, by rw [body_singleton, toList_renderText]⟩
      | cons g fields => exact ⟨_, by rw [body_cons_cons, toList_renderText]⟩
    have hvalue : value? (2 * ((body (f :: fields)).length + 2) + 2) depthLimit
        ('\x7b' :: (body (f :: fields) ++ ['\x7d'])) =
          some (.record (texts (f :: fields)), []) := by
      rw [hquote] at hmembers ⊢
      rw [value?, skip_cons (by decide)]
      simp only [skip_cons (by decide : isBlank '"' = false), hmembers]
      rfl
    have hlength : ('\x7b' :: (body (f :: fields) ++ ['\x7d'])).length =
        (body (f :: fields)).length + 2 := by
      rw [List.length_cons, List.length_append, List.length_singleton]
    rw [parse?, htext, hlength, hvalue]
    rfl

end Json

/-! ## Colors and drawables -/

theorem Color.ofData?_toData (c : Color) : ofData? c.toData = some c := by
  rw [toData, ofData?, parse_render]
  rfl

theorem Drawable.ofData?_toData (d : Drawable) : ofData? d.toData = some d := by
  cases d with
  | empty => rfl
  | solid color =>
    have hmember : Data.member? "color" [("type", .text "solid"), ("color", color.toData)] =
        some color.toData := rfl
    have hread : (Data.member? "color" [("type", .text "solid"), ("color", color.toData)]).bind
        (fun d => (Color.ofData? d).map solid) = some (solid color) := by
      rw [hmember, Option.bind_some, color.ofData?_toData, Option.map_some]
    exact hread
  | image path => rfl

/-- A drawable is written as texts. -/
theorem Drawable.exists_texts (d : Drawable) :
    ∃ fields, d.toData = .record (Json.texts fields) := by
  cases d with
  | empty => exact ⟨[("type", "empty")], rfl⟩
  | solid color => exact ⟨[("type", "solid"), ("color", color.render)], rfl⟩
  | image path => exact ⟨[("type", "image"), ("path", path)], rfl⟩

theorem Drawable.parse?_render (d : Drawable) :
    (Json.parse? (Json.render d.toData)).bind ofData? = some d := by
  obtain ⟨fields, hfields⟩ := d.exists_texts
  rw [hfields, Json.parse?_render, Option.bind_some, ← hfields, d.ofData?_toData]

/-- **Colors and drawables survive printing and reading.** The text of a color is read as that
color; eight or six digits in any case are read as their numeral, six below an alpha of `FF`, and
printed in upper case with the alpha in front; the channels of a color make it; and a drawable comes
back from the record that is written for it, and from the JSON text of that record. -/
theorem Color.survives :
    (∀ c : Color, parse c.render = .ok c) ∧
    (∀ digits : List Char, (∀ d ∈ digits, IsDigit d) → digits.length = 8 →
      ∃ c, parse (String.ofList ('#' :: digits)) = .ok c ∧ c.packed.toNat = numeral digits ∧
        c.render = String.ofList ('#' :: digits.map Char.toUpper)) ∧
    (∀ digits : List Char, (∀ d ∈ digits, IsDigit d) → digits.length = 6 →
      ∃ c, parse (String.ofList ('#' :: digits)) = .ok c ∧
        c.packed = 0xFF000000 ||| UInt32.ofNat (numeral digits) ∧ numeral digits < 2 ^ 24 ∧
        c.render = String.ofList ('#' :: 'F' :: 'F' :: digits.map Char.toUpper)) ∧
    (∀ c : Color, argb c.alpha c.red c.green c.blue = c) ∧
    (∀ r g b : UInt8, rgb r g b = argb 0xFF r g b) ∧
    ∀ d : Drawable, Drawable.ofData? d.toData = some d ∧
      (Json.parse? (Json.render d.toData)).bind Drawable.ofData? = some d := by
  refine ⟨parse_render, fun digits hdigits hlen => ?_, fun digits hdigits hlen => ?_,
    argb_channels, fun _ _ _ => rfl, fun d => ⟨d.ofData?_toData, d.parse?_render⟩⟩
  · have hnumeral := toNat_spelled_eight hdigits hlen
    exact ⟨_, parse_digits hdigits (.inr hlen), hnumeral, render_eq hdigits hlen hnumeral⟩
  · have hpacked : (spelled [] digits).packed = 0xFF000000 ||| UInt32.ofNat (numeral digits) := by
      rw [spelled, List.nil_append, if_pos hlen]
    exact ⟨_, parse_digits hdigits (.inl hlen), hpacked,
      (numeral_lt hdigits).trans_eq (by rw [hlen]; rfl), render_spelled_six hdigits hlen⟩

/-- Digits of both cases, with an alpha and without one. -/
theorem Color.mixed_survives :
    (∃ c, parse "#80fF00aB" = .ok c ∧ c.packed.toNat = 0x80FF00AB ∧ c.render = "#80FF00AB") ∧
      ∃ c, parse "#33aA99" = .ok c ∧ c.packed = 0xFF33AA99 ∧ c.render = "#FF33AA99" := by
  obtain ⟨-, height, hsix, -⟩ := Color.survives
  have hdigits : ∀ d ∈ "80fF00aB".toList, IsDigit d := List.all_iff_forall_prop.mp (by decide)
  have hdigits' : ∀ d ∈ "33aA99".toList, IsDigit d := List.all_iff_forall_prop.mp (by decide)
  obtain ⟨c, hc, hpacked, hrender⟩ := height "80fF00aB".toList hdigits rfl
  obtain ⟨c', hc', hpacked', -, hrender'⟩ := hsix "33aA99".toList hdigits' rfl
  exact ⟨⟨c, hc, hpacked, hrender⟩, c', hc', hpacked', hrender'⟩

end Theming
