/-
  Foundation/Machine.lean --- machines that take or ignore their inputs.

  A machine either enters a new state on an input or ignores it.  Two things are
  followed over a run of any length: the state it ends in (`run`) and the states it
  entered on the way (`entered`).  An invariant is proved from one step
  (`run_invariant`), a history from what precedes an entered state
  (`exists_split_of_mem_entered`), and a bound on the changes from a rank that
  every step raises (`nodup_entered`, `length_entered_le`).
-/
import Mathlib

set_option autoImplicit false

namespace ResponseEngine.Foundation

variable {σ ι : Type*}

/-- A machine: `none` where an input is ignored. -/
structure Machine (σ ι : Type*) where
  step : σ → ι → Option σ

namespace Machine

variable (m : Machine σ ι)

/-- The state after one input. -/
def next (s : σ) (i : ι) : σ := (m.step s i).getD s

/-- The state after a sequence of inputs. -/
def run (s : σ) (inputs : List ι) : σ := inputs.foldl m.next s

/-- The states entered on a sequence of inputs, in order. -/
def entered : σ → List ι → List σ
  | _, [] => []
  | s, i :: inputs =>
      match m.step s i with
      | some t => t :: entered t inputs
      | none => entered s inputs

@[simp] theorem run_nil (s : σ) : m.run s [] = s := rfl

@[simp] theorem entered_nil (s : σ) : m.entered s [] = [] := rfl

theorem run_cons (s : σ) (i : ι) (inputs : List ι) :
    m.run s (i :: inputs) = m.run (m.next s i) inputs := rfl

theorem run_append (s : σ) (inputs later : List ι) :
    m.run s (inputs ++ later) = m.run (m.run s inputs) later := by
  rw [run, run, run, List.foldl_append]

theorem next_of_some {s t : σ} {i : ι} (h : m.step s i = some t) : m.next s i = t := by
  rw [next, h, Option.getD_some]

theorem next_of_none {s : σ} {i : ι} (h : m.step s i = none) : m.next s i = s := by
  rw [next, h, Option.getD_none]

theorem entered_of_some {s t : σ} {i : ι} (h : m.step s i = some t) (inputs : List ι) :
    m.entered s (i :: inputs) = t :: m.entered t inputs := by
  rw [entered, h]

theorem entered_of_none {s : σ} {i : ι} (h : m.step s i = none) (inputs : List ι) :
    m.entered s (i :: inputs) = m.entered s inputs := by
  rw [entered, h]

theorem entered_append (s : σ) (inputs later : List ι) :
    m.entered s (inputs ++ later) = m.entered s inputs ++ m.entered (m.run s inputs) later := by
  induction inputs generalizing s with
  | nil => rfl
  | cons i inputs ih =>
      rw [List.cons_append, run_cons]
      cases h : m.step s i with
      | none => rw [entered_of_none m h, entered_of_none m h, next_of_none m h, ih]
      | some t =>
          rw [entered_of_some m h, entered_of_some m h, next_of_some m h, ih, List.cons_append]

/-! ## Invariants -/

/-- What every step preserves, every run preserves. -/
theorem run_invariant {P : σ → Prop} (hstep : ∀ s i t, P s → m.step s i = some t → P t)
    {s : σ} (hs : P s) (inputs : List ι) : P (m.run s inputs) := by
  induction inputs generalizing s with
  | nil => exact hs
  | cons i inputs ih =>
      rw [run_cons]
      cases h : m.step s i with
      | none =>
          rw [next_of_none m h]
          exact ih hs
      | some t =>
          rw [next_of_some m h]
          exact ih (hstep s i t hs h)

/-- A state that takes no input is never left. -/
theorem run_of_stuck {s : σ} (h : ∀ i, m.step s i = none) (inputs : List ι) :
    m.run s inputs = s := by
  induction inputs with
  | nil => rfl
  | cons i inputs ih => rw [run_cons, next_of_none m (h i), ih]

theorem entered_of_stuck {s : σ} (h : ∀ i, m.step s i = none) (inputs : List ι) :
    m.entered s inputs = [] := by
  induction inputs with
  | nil => rfl
  | cons i inputs ih => rw [entered_of_none m (h i), ih]

/-! ## Histories -/

/-- The run ends where it started or in a state it entered. -/
theorem run_mem (s : σ) (inputs : List ι) : m.run s inputs ∈ s :: m.entered s inputs := by
  induction inputs generalizing s with
  | nil => exact List.mem_cons_self
  | cons i inputs ih =>
      rw [run_cons]
      cases h : m.step s i with
      | none =>
          rw [next_of_none m h, entered_of_none m h]
          exact ih s
      | some t =>
          rw [next_of_some m h, entered_of_some m h]
          exact List.mem_cons_of_mem s (ih t)

/-- An entered state was entered at some input, from the state the run was then in. -/
theorem exists_split_of_mem_entered {s t : σ} {inputs : List ι} (h : t ∈ m.entered s inputs) :
    ∃ before i after, inputs = before ++ i :: after ∧ m.step (m.run s before) i = some t ∧
      m.entered s inputs = m.entered s before ++ t :: m.entered t after := by
  induction inputs generalizing s with
  | nil => simp at h
  | cons i inputs ih =>
      cases hstep : m.step s i with
      | none =>
          rw [entered_of_none m hstep] at h ⊢
          obtain ⟨before, j, after, rfl, hj, hentered⟩ := ih h
          refine ⟨i :: before, j, after, rfl, ?_, ?_⟩
          · rwa [run_cons, next_of_none m hstep]
          · rw [hentered, entered_of_none m hstep]
      | some u =>
          rw [entered_of_some m hstep] at h ⊢
          rcases List.mem_cons.mp h with rfl | h
          · exact ⟨[], i, inputs, rfl, hstep, rfl⟩
          · obtain ⟨before, j, after, rfl, hj, hentered⟩ := ih h
            refine ⟨i :: before, j, after, rfl, ?_, ?_⟩
            · rwa [run_cons, next_of_some m hstep]
            · rw [hentered, entered_of_some m hstep, List.cons_append]

/-- A state that can only be entered from states whose history shows `required` has a
history that shows `required` before it. -/
theorem sublist_entered {s t : σ} {required : List σ}
    (hstep : ∀ before i, m.step (m.run s before) i = some t →
      required.Sublist (m.entered s before))
    {inputs : List ι} (h : t ∈ m.entered s inputs) :
    (required ++ [t]).Sublist (m.entered s inputs) := by
  obtain ⟨before, i, after, rfl, hi, hentered⟩ := m.exists_split_of_mem_entered h
  rw [hentered]
  exact (hstep before i hi).append (List.singleton_sublist.mpr List.mem_cons_self)

/-! ## Ranks -/

section

variable {m} {rank : σ → ℕ} (hrank : ∀ s i t, m.step s i = some t → rank s < rank t)

include hrank

/-- Every state entered later ranks higher. -/
theorem rank_lt_of_mem_entered {s t : σ} {inputs : List ι} (h : t ∈ m.entered s inputs) :
    rank s < rank t := by
  induction inputs generalizing s with
  | nil => simp at h
  | cons i inputs ih =>
      cases hstep : m.step s i with
      | none => exact ih (entered_of_none m hstep inputs ▸ h)
      | some u =>
          have hlt := hrank s i u hstep
          rcases List.mem_cons.mp (entered_of_some m hstep inputs ▸ h) with rfl | h
          · exact hlt
          · exact hlt.trans (ih h)

/-- The ranks of the states of a run strictly increase. -/
theorem pairwise_entered (s : σ) (inputs : List ι) :
    (s :: m.entered s inputs).Pairwise fun t u => rank t < rank u := by
  induction inputs generalizing s with
  | nil => simp
  | cons i inputs ih =>
      cases hstep : m.step s i with
      | none => exact entered_of_none m hstep inputs ▸ ih s
      | some u =>
          rw [entered_of_some m hstep]
          refine List.pairwise_cons.mpr ⟨fun t ht => ?_, ih u⟩
          exact rank_lt_of_mem_entered hrank (entered_of_some m hstep inputs ▸ ht)

/-- No state is entered twice, nor the first one again. -/
theorem nodup_entered (s : σ) (inputs : List ι) : (s :: m.entered s inputs).Nodup :=
  (pairwise_entered hrank s inputs).imp fun h heq => (heq ▸ h).false

/-- No state that was entered ranks above the last one. -/
theorem rank_le_run {s t : σ} {inputs : List ι} (h : t ∈ s :: m.entered s inputs) :
    rank t ≤ rank (m.run s inputs) := by
  induction inputs generalizing s t with
  | nil =>
      obtain rfl : t = s := by simpa using h
      exact le_rfl
  | cons i inputs ih =>
      rw [run_cons]
      cases hstep : m.step s i with
      | none =>
          rw [entered_of_none m hstep] at h
          rw [next_of_none m hstep]
          exact ih h
      | some u =>
          rw [entered_of_some m hstep] at h
          rw [next_of_some m hstep]
          rcases List.mem_cons.mp h with rfl | h
          · exact (hrank t i u hstep).le.trans (ih List.mem_cons_self)
          · exact ih h

/-- At most as many changes as there are ranks above the first state. -/
theorem length_entered_le {bound : ℕ} (hbound : ∀ s, rank s ≤ bound) (s : σ) (inputs : List ι) :
    (m.entered s inputs).length ≤ bound - rank s := by
  induction inputs generalizing s with
  | nil => simp
  | cons i inputs ih =>
      cases hstep : m.step s i with
      | none => exact entered_of_none m hstep inputs ▸ ih s
      | some u =>
          have hlt := hrank s i u hstep
          have hle := hbound u
          have := ih u
          rw [entered_of_some m hstep, List.length_cons]
          omega

end

end Machine

end ResponseEngine.Foundation
