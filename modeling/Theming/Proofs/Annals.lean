/-
# Annals

A log that is kept along a run: each turn enters what is to be said of the errand that it takes up,
given the log and the world before it. What is to be entered is a parameter, so that there are
annals of one slot, of one manager, and so on.

Every run has its annals, and what waits behind its errands is left as it is (`Runs.annals`). If
user code leaves no choice, annals go on to those of the whole program (`Concludes.annals`).
-/

import Theming.Proofs.Performing

namespace Theming
namespace Live

variable {catalog : Catalog} {code : UserCode catalog} {ε : Type}
  {entries : List ε → World → Errand → List ε} {opening m m' : Moment} {log : List ε}

/-- A run from a moment to another one, with its log. -/
inductive Annals (code : UserCode catalog) (entries : List ε → World → Errand → List ε)
    (opening : Moment) : List ε → Moment → Prop where
  | start : Annals code entries opening [] opening
  | turn {log : List ε} {w : World} {errand : Errand} {rest : List Errand} {moves : List Move}
      (h : Annals code entries opening log ⟨w, errand :: rest⟩)
      (hmoves : errand.Evokes code w moves) :
      Annals code entries opening (log ++ entries log w errand)
        ⟨(errand.turn moves w).world, (errand.turn moves w).errands ++ rest⟩

/-- Annals are those of a run. -/
theorem Annals.runs (h : Annals code entries opening log m) :
    ∃ effects, Runs code opening effects m := by
  induction h with
  | start => exact ⟨[], .stop _⟩
  | turn _ hmoves ih =>
    obtain ⟨effects, hruns⟩ := ih
    exact ⟨effects ++ [_], hruns.append (.turn hmoves (.stop _))⟩

/-- **Every run has its annals**, and what waits stays as it is. What every turn keeps, as long as
what waits is not begun, is kept by the run. -/
theorem Runs.annals {P : List ε → List Errand → Prop} {effects : List Effect} {rest : List Errand}
    (h : Runs code m effects m')
    (hlog : Annals code entries opening log ⟨m.world, m.errands ++ rest⟩) (hP : P log m.errands)
    (hturn : ∀ log w errand front (moves : List Move),
      Annals code entries opening log ⟨w, errand :: front ++ rest⟩ → P log (errand :: front) →
        P (log ++ entries log w errand) ((errand.turn moves w).errands ++ front)) :
    ∃ more, Annals code entries opening (log ++ more) ⟨m'.world, m'.errands ++ rest⟩ ∧
      P (log ++ more) m'.errands := by
  induction h generalizing log with
  | stop => exact ⟨[], (List.append_nil log).symm ▸ hlog, (List.append_nil log).symm ▸ hP⟩
  | @turn w errand front moves effects m' hmoves _ ih =>
    have hentered : Annals code entries opening _ ⟨_, _ ++ (front ++ rest)⟩ := hlog.turn hmoves
    rw [← List.append_assoc] at hentered
    obtain ⟨more, hmore, hPmore⟩ := ih hentered (hturn _ _ _ _ moves hlog hP)
    rw [List.append_assoc] at hmore hPmore
    exact ⟨_, hmore, hPmore⟩

/-- Annals go on with a run. -/
theorem Annals.append {effects : List Effect} (hlog : Annals code entries opening log m)
    (h : Runs code m effects m') : ∃ more, Annals code entries opening (log ++ more) m' := by
  have hstart : Annals code entries opening log ⟨m.world, m.errands ++ []⟩ := by
    rw [List.append_nil]
    exact hlog
  obtain ⟨more, hmore, -⟩ := h.annals (P := fun _ _ => True) hstart trivial
    fun _ _ _ _ _ _ _ => trivial
  rw [List.append_nil] at hmore
  exact ⟨more, hmore⟩

/-- The annals of a whole run. -/
theorem Runs.exists_annals {effects : List Effect} (h : Runs code opening effects m)
    (entries : List ε → World → Errand → List ε) :
    ∃ log, Annals code entries opening log m := Annals.append .start h

/-- **The annals of a program**: there are some that come to its end, and if user code leaves no
choice, all others go on to it. -/
theorem Concludes.annals {w : World} (h : Concludes code opening w)
    (entries : List ε → World → Errand → List ε) :
    (∃ log, Annals code entries opening log ⟨w, []⟩) ∧
      (code.Decided → ∀ log m, Annals code entries opening log m →
        ∃ more, Annals code entries opening (log ++ more) ⟨w, []⟩) := by
  obtain ⟨⟨_, hruns⟩, hall⟩ := h
  refine ⟨hruns.exists_annals entries, fun hcode log m hlog => ?_⟩
  obtain ⟨effects, hbegun⟩ := hlog.runs
  obtain ⟨_, hafter⟩ := hall hcode effects m hbegun
  exact hlog.append hafter

/-- The errands of a moment keep to the types of the program. -/
theorem Annals.of (h : Annals code entries opening log m) (hopening : opening.Of catalog) :
    m.Of catalog := by
  obtain ⟨effects, hruns⟩ := h.runs
  exact hruns.of hopening

end Live
end Theming
