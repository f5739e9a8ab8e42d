/-
  Foundation/Reach.lean --- runs of a step relation.

  A run is a finite sequence of steps, `Relation.ReflTransGen step`.  Two rules take
  a fact about one step to every run: what each step preserves holds at the end
  (`preserved`), and a condition that can only be entered from states that meet
  another one was preceded by such a state (`exists_before`).
-/
import Mathlib

set_option autoImplicit false

namespace ResponseEngine.Foundation.Reach

open Relation

variable {σ : Type*} {step : σ → σ → Prop} {s t : σ}

/-- What every step preserves, every run preserves. -/
theorem preserved {P : σ → Prop} (hstep : ∀ s t, P s → step s t → P t)
    (hrun : ReflTransGen step s t) (hs : P s) : P t := by
  induction hrun with
  | refl => exact hs
  | tail _ hlast ih => exact hstep _ _ ih hlast

/-- A run that comes to meet `Q`, and can only do so from `R`, has been in `R`. -/
theorem exists_before {Q R : σ → Prop} (hstep : ∀ s t, ¬ Q s → step s t → Q t → R s)
    (hrun : ReflTransGen step s t) (hs : ¬ Q s) (ht : Q t) :
    ∃ u, ReflTransGen step s u ∧ R u ∧ ReflTransGen step u t := by
  induction hrun with
  | refl => exact absurd ht hs
  | @tail u v hprefix hlast ih =>
      by_cases hu : Q u
      · obtain ⟨w, hbefore, hw, hafter⟩ := ih hu
        exact ⟨w, hbefore, hw, hafter.tail hlast⟩
      · exact ⟨u, hprefix, hstep u v hu hlast ht, .single hlast⟩

end ResponseEngine.Foundation.Reach
