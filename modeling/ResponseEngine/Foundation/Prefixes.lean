/-
  Foundation/Prefixes.lean --- words that start with none of a list.

  Finitely many words can start every long word, by branching over the whole alphabet.
  Where they do not, some word neither starts with one of them nor starts one of them
  (`Clear`), and every longer word is out of their reach too.  Fewer nonempty words
  than letters never start them all (`exists_clear`).
-/
import Mathlib

set_option autoImplicit false

namespace ResponseEngine.Foundation

variable {α : Type} {prefixes : List (List α)} {u : List α}

/-- A word apart from all the listed ones: neither is the start of the other. -/
def Clear (prefixes : List (List α)) (u : List α) : Prop :=
  ∀ p ∈ prefixes, ¬ p <+: u ∧ ¬ u <+: p

/-- What is apart stays so however it goes on. -/
theorem Clear.not_prefix_append (h : Clear prefixes u) (v : List α) :
    ∀ p ∈ prefixes, ¬ p <+: u ++ v := by
  intro p hp hprefix
  cases List.prefix_or_prefix_of_prefix hprefix (List.prefix_append u v) with
  | inl hpu => exact (h p hp).1 hpu
  | inr hup => exact (h p hp).2 hup

/-- A word that goes on with one more letter, and is outside a finite list. -/
theorem exists_append_notMem (words : List (List α)) (u : List α) (a : α) :
    ∃ v, u ++ a :: v ∉ words := by
  refine ⟨List.replicate words.flatten.length a, ?_⟩
  intro hmem
  have hle := (List.sublist_flatten_of_mem hmem).length_le
  rw [List.length_append, List.length_cons, List.length_replicate] at hle
  omega

/-- A letter that starts none of the listed words, where these are fewer than the
letters that a code numbers. -/
theorem exists_letter {n : ℕ} {letter : Fin n → α} (hletter : Function.Injective letter)
    (hlt : prefixes.length < n) : ∃ a, ∀ p ∈ prefixes, p.head? ≠ some a := by
  classical
  let heads := (prefixes.filterMap List.head?).toFinset
  let letters := Finset.univ.image letter
  have hheads : heads.card ≤ prefixes.length :=
    (List.toFinset_card_le _).trans (List.length_filterMap_le _ _)
  have hletters : letters.card = n := by
    rw [Finset.card_image_of_injective _ hletter, Finset.card_univ, Fintype.card_fin]
  obtain ⟨a, _, ha⟩ := Finset.exists_mem_notMem_of_card_lt_card
    (show heads.card < letters.card by omega)
  refine ⟨a, fun p hp hhead => ha ?_⟩
  exact List.mem_toFinset.mpr (List.mem_filterMap.mpr ⟨p, hp, hhead⟩)

/-- Nonempty words that are fewer than the letters leave a word apart. -/
theorem exists_clear {n : ℕ} {letter : Fin n → α} (hletter : Function.Injective letter)
    (hne : [] ∉ prefixes) (hlt : prefixes.length < n) : ∃ u, Clear prefixes u := by
  obtain ⟨a, ha⟩ := exists_letter hletter hlt
  refine ⟨[a], fun p hp => ?_⟩
  cases p with
  | nil => exact absurd hp hne
  | cons b p =>
      have hba : b ≠ a := fun hba => ha (b :: p) hp (congrArg some hba)
      constructor
      · intro hprefix
        exact hba (List.cons_prefix_cons.mp hprefix).1
      · intro hprefix
        exact hba (List.cons_prefix_cons.mp hprefix).1.symm

/-- A word that no listed word starts goes on to one that none starts either, and that is
outside a finite list. -/
theorem exists_extension_outside {n : ℕ} {letter : Fin n → α}
    (hletter : Function.Injective letter) {p : List α} (hnot : ∀ q ∈ prefixes, ¬ q <+: p)
    (hlt : prefixes.length < n) (words : List (List α)) (a : α) :
    ∃ u v, p ++ (u ++ a :: v) ∉ words ∧ ∀ q ∈ prefixes, ¬ q <+: p ++ (u ++ a :: v) := by
  classical
  -- what is left of the words that go on from `p`
  let left := (prefixes.filter fun q => decide (p <+: q)).map (List.drop p.length)
  have hleft : [] ∉ left := by
    intro hnil
    obtain ⟨q, hq, hdrop⟩ := List.mem_map.mp hnil
    obtain ⟨hq, hpq⟩ := List.mem_filter.mp hq
    have heq := List.prefix_append_drop (of_decide_eq_true hpq)
    rw [hdrop, List.append_nil] at heq
    exact hnot q hq (heq ▸ List.prefix_refl p)
  have hcount : left.length < n := by
    rw [List.length_map]
    exact (List.length_filter_le _ _).trans_lt hlt
  obtain ⟨u, hu⟩ := exists_clear hletter hleft hcount
  obtain ⟨v, hv⟩ := exists_append_notMem words (p ++ u) a
  refine ⟨u, v, by rwa [← List.append_assoc], fun q hq hstarts => ?_⟩
  cases List.prefix_or_prefix_of_prefix hstarts (List.prefix_append p _) with
  | inl hqp => exact hnot q hq hqp
  | inr hpq =>
      have hmem : q.drop p.length ∈ left :=
        List.mem_map_of_mem (List.mem_filter.mpr ⟨hq, decide_eq_true hpq⟩)
      rw [List.prefix_append_drop hpq, List.prefix_append_right_inj] at hstarts
      exact hu.not_prefix_append (a :: v) _ hmem hstarts

end ResponseEngine.Foundation
