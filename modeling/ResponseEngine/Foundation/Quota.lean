/-
  Foundation/Quota.lean --- limits on a ledger of entries.

  A ledger is the list of what was taken on; an entry weighs on any number of
  dimensions, and a dimension's load is the sum of the weights on it.  A ledger that
  only grows by entries that fit, and whose entries only ever get lighter, stays
  within every limit (`Quota.run_within`), whatever the number of dimensions.  Where
  entries have moments, a limit on every span of time is kept by looking back once when
  an entry is added (`InSpan.recent`), and bounds longer spans too (`InSpan.exists_part`,
  `load_le_sum_load`).
-/
import ResponseEngine.Foundation.Machine

set_option autoImplicit false

namespace ResponseEngine.Foundation

/-- Weights and limits. -/
structure Quota (δ α : Type*) where
  weight : δ → α → ℕ
  limit : δ → ℕ

namespace Quota

variable {δ α ι : Type*}

/-- The load of a dimension. -/
def load (weight : δ → α → ℕ) (d : δ) (ledger : List α) : ℕ := (ledger.map (weight d)).sum

@[simp] theorem load_nil (weight : δ → α → ℕ) (d : δ) : load weight d [] = 0 := rfl

theorem load_concat (weight : δ → α → ℕ) (d : δ) (ledger : List α) (a : α) :
    load weight d (ledger ++ [a]) = load weight d ledger + weight d a := by
  simp [load]

/-- Entries that get lighter on a dimension lower its load. -/
theorem load_mapIdx_le {weight : δ → α → ℕ} {d : δ} {f : ℕ → α → α}
    (hf : ∀ i a, weight d (f i a) ≤ weight d a) (ledger : List α) :
    load weight d (ledger.mapIdx f) ≤ load weight d ledger := by
  induction ledger generalizing f with
  | nil => simp
  | cons a ledger ih =>
      have hrest := ih (f := fun i => f (i + 1)) fun i => hf (i + 1)
      have hhead := hf 0 a
      simp only [load, List.mapIdx_cons, List.map_cons, List.sum_cons] at hrest ⊢
      omega

/-- Entries that weigh no more on one dimension than on another load it no more. -/
theorem load_le_load {δ' : Type*} {weight : δ → α → ℕ} {weight' : δ' → α → ℕ} {d : δ} {d' : δ'}
    {ledger : List α} (h : ∀ a ∈ ledger, weight d a ≤ weight' d' a) :
    load weight d ledger ≤ load weight' d' ledger :=
  List.sum_le_sum h

/-- Entries that weigh no more on one dimension than on one of several load it no more than all
of those together. -/
theorem load_le_sum_load {δ' : Type*} {weight : δ → α → ℕ} {weight' : δ' → α → ℕ} {d : δ}
    (parts : ℕ → δ') {k : ℕ} (h : ∀ a, ∃ j < k, weight d a ≤ weight' (parts j) a)
    (ledger : List α) :
    load weight d ledger ≤ ∑ j ∈ Finset.range k, load weight' (parts j) ledger := by
  induction ledger with
  | nil => simp
  | cons a ledger ih =>
      obtain ⟨j, hj, hle⟩ := h a
      have hpart : weight' (parts j) a ≤ ∑ j ∈ Finset.range k, weight' (parts j) a :=
        Finset.single_le_sum_of_canonicallyOrdered (f := fun j => weight' (parts j) a)
          (Finset.mem_range.mpr hj)
      simp only [load, List.map_cons, List.sum_cons, Finset.sum_add_distrib] at ih ⊢
      exact Nat.add_le_add (hle.trans hpart) ih

/-! ## Steps -/

variable (q : Quota δ α)

/-- No load exceeds its limit. -/
def Within (ledger : List α) : Prop := ∀ d, load q.weight d ledger ≤ q.limit d

/-- The steps that keep a quota: an entry that fits is added, or entries get lighter. -/
inductive Step : List α → List α → Prop
  | add {ledger : List α} {a : α}
      (hfits : ∀ d, 0 < q.weight d a → load q.weight d (ledger ++ [a]) ≤ q.limit d) :
      Step ledger (ledger ++ [a])
  | lighten {ledger : List α} {f : ℕ → α → α}
      (hf : ∀ d i a, q.weight d (f i a) ≤ q.weight d a) :
      Step ledger (ledger.mapIdx f)

theorem within_nil : q.Within [] := by
  intro d
  rw [load_nil]
  exact Nat.zero_le _

variable {q}

theorem Within.step {ledger ledger' : List α} (h : q.Within ledger)
    (hstep : q.Step ledger ledger') : q.Within ledger' := by
  cases hstep with
  | @add a hfits =>
      intro d
      rcases Nat.eq_zero_or_pos (q.weight d a) with hzero | hpos
      · rw [load_concat, hzero, Nat.add_zero]
        exact h d
      · exact hfits d hpos
  | lighten hf =>
      intro d
      exact (load_mapIdx_le (hf d) ledger).trans (h d)

/-- A machine whose every step keeps the quota never leaves it. -/
theorem run_within {m : Machine (List α) ι}
    (hstep : ∀ ledger i ledger', m.step ledger i = some ledger' → q.Step ledger ledger')
    (inputs : List ι) : q.Within (m.run [] inputs) :=
  m.run_invariant (fun ledger i ledger' h hi => h.step (hstep ledger i ledger' hi)) q.within_nil
    inputs

end Quota

/-! ## Spans of time -/

/-- A moment is one of the `length` ones up to `last`. -/
def InSpan (length last moment : ℕ) : Prop := moment ≤ last ∧ last < moment + length

instance (length last moment : ℕ) : Decidable (InSpan length last moment) :=
  inferInstanceAs (Decidable (_ ∧ _))

/-- A past moment in a span that has not ended yet is in every span that ends now and is no
shorter. -/
theorem InSpan.recent {length last moment width now : ℕ} (h : InSpan length last moment)
    (hwidth : length ≤ width) (hpast : moment ≤ now) (hnow : now ≤ last) :
    InSpan width now moment := by
  have hlt := h.2
  exact ⟨hpast, by omega⟩

theorem InSpan.mono {length width last moment : ℕ} (h : InSpan length last moment)
    (hwidth : length ≤ width) : InSpan width last moment :=
  h.recent hwidth h.1 le_rfl

/-- A span of `k` times the length is covered by `k` spans. -/
theorem InSpan.exists_part {length k last moment : ℕ} (h : InSpan (k * length) last moment) :
    ∃ j < k, InSpan length (last - j * length) moment := by
  obtain ⟨hle, hlt⟩ := h
  have hage : last - moment < k * length := by omega
  have hdiv : (last - moment) / length * length ≤ last - moment := Nat.div_mul_le_self _ _
  have hpos : 0 < length := Nat.pos_of_mul_pos_left (Nat.zero_lt_of_lt hage)
  have hmod : last - moment < (last - moment) / length * length + length :=
    Nat.lt_div_mul_add hpos
  refine ⟨(last - moment) / length, Nat.div_lt_of_lt_mul (by rwa [Nat.mul_comm]), ?_, ?_⟩
  · omega
  · omega

end ResponseEngine.Foundation
