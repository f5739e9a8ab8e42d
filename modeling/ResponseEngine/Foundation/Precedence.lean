/-
  Foundation/Precedence.lean --- first matches that do not depend on the order.

  A summary of many findings shows the first value of a fixed, decreasing list that was
  found, and a least value when there is none.  It is the supremum of the findings, so
  it depends on nothing but which values were found.  A search in a list with at most
  one match depends on nothing but what the list holds.
-/
import Mathlib

set_option autoImplicit false

namespace ResponseEngine.Foundation

/-! ## A unique match -/

section
variable {α β : Type} {p : α → Bool} {q : β → Bool} {l : List α} {l' : List β}

/-- Where at most one value matches, the first match is the match. -/
theorem find?_eq_some_of_unique (hunique : ∀ a ∈ l, ∀ b ∈ l, p a = true → p b = true → a = b)
    {a : α} (hmem : a ∈ l) (hp : p a = true) : l.find? p = some a := by
  cases hfind : l.find? p with
  | none => exact absurd hp (List.find?_eq_none.mp hfind a hmem)
  | some b =>
      apply congrArg
      exact hunique b (List.mem_of_find?_eq_some hfind) a hmem (List.find?_some hfind) hp

/-- Two lists that hold the same up to a relation find the same up to it, where one of them
has at most one match. -/
theorem rel_find?_of_unique {R : α → β → Prop}
    (hunique : ∀ a ∈ l, ∀ b ∈ l, p a = true → p b = true → a = b)
    (hmatch : ∀ a b, R a b → p a = q b)
    (hleft : ∀ a ∈ l, ∃ b ∈ l', R a b) (hright : ∀ b ∈ l', ∃ a ∈ l, R a b) :
    Option.Rel R (l.find? p) (l'.find? q) := by
  cases hfind : l'.find? q with
  | none =>
      have hnone : l.find? p = none := by
        apply List.find?_eq_none.mpr
        intro a ha
        obtain ⟨b, hb, hab⟩ := hleft a ha
        rw [hmatch a b hab]
        exact List.find?_eq_none.mp hfind b hb
      rw [hnone]
      exact .none
  | some b =>
      obtain ⟨a, ha, hab⟩ := hright b (List.mem_of_find?_eq_some hfind)
      have hp : p a = true := (hmatch a b hab).trans (List.find?_some hfind)
      rw [find?_eq_some_of_unique hunique ha hp]
      exact .some hab

/-- Lists related place by place hold the same up to the relation. -/
theorem exists_of_forall₂ {R : α → β → Prop} (h : List.Forall₂ R l l') :
    ∀ a ∈ l, ∃ b ∈ l', R a b := by
  induction h with
  | nil =>
      intro a ha
      exact absurd ha List.not_mem_nil
  | cons hhead htail ih =>
      intro a ha
      rcases List.mem_cons.mp ha with rfl | ha
      · exact ⟨_, List.mem_cons_self, hhead⟩
      · obtain ⟨b, hb, hab⟩ := ih a ha
        exact ⟨b, List.mem_cons_of_mem _ hb, hab⟩

end

/-! ## The first of the values found -/

section
variable {α : Type} [LinearOrder α] [OrderBot α]

/-- In a linear order the supremum is one of the values, unless it is the least one. -/
theorem sup_mem_or_eq_bot (s : Multiset α) : s.sup ∈ s ∨ s.sup = ⊥ := by
  induction s using Multiset.induction with
  | empty => exact Or.inr Multiset.sup_zero
  | cons a s ih =>
      rw [Multiset.sup_cons]
      rcases le_total a s.sup with hle | hle
      · rw [sup_eq_right.mpr hle]
        exact ih.imp_left Multiset.mem_cons_of_mem
      · rw [sup_eq_left.mpr hle]
        exact Or.inl (Multiset.mem_cons_self a s)

/-- A value above the least one is the supremum exactly when it occurs and nothing that
occurs is above it. -/
theorem sup_eq_iff {s : Multiset α} {a : α} (ha : a ≠ ⊥) :
    s.sup = a ↔ a ∈ s ∧ ∀ b ∈ s, b ≤ a := by
  constructor
  · intro h
    refine ⟨?_, fun b hb => h ▸ Multiset.le_sup hb⟩
    rcases sup_mem_or_eq_bot s with hmem | hbot
    · exact h ▸ hmem
    · exact absurd (h.symm.trans hbot) ha
  · intro ⟨hmem, hle⟩
    exact le_antisymm (Multiset.sup_le.mpr hle) (Multiset.le_sup hmem)

/-- Findings with the same values have the same supremum. -/
theorem sup_congr {s t : Multiset α} (h : ∀ a, a ∈ s ↔ a ∈ t) : s.sup = t.sup :=
  le_antisymm (Multiset.sup_mono fun _ ha => (h _).mp ha)
    (Multiset.sup_mono fun _ ha => (h _).mpr ha)

/-- The first value of a decreasing list that was found is the supremum of what was
found. -/
theorem find?_getD_eq_sup {order found : List α} {p : α → Bool}
    (hp : ∀ a, p a = true ↔ a ∈ found) (hdecreasing : order.Pairwise (· > ·))
    (hlisted : ∀ a ∈ found, a ∈ order ∨ a = ⊥) :
    (order.find? p).getD ⊥ = (found : Multiset α).sup := by
  cases hfind : order.find? p with
  | none =>
      have hbot : ∀ a ∈ (found : Multiset α), a ≤ ⊥ := by
        intro a ha
        rcases hlisted a ha with horder | rfl
        · exact absurd ((hp a).mpr ha) (List.find?_eq_none.mp hfind a horder)
        · exact le_refl ⊥
      exact (le_antisymm (Multiset.sup_le.mpr hbot) bot_le).symm
  | some s =>
      obtain ⟨hs, before, after, rfl, hbefore⟩ := List.find?_eq_some_iff_append.mp hfind
      have habove : ∀ a ∈ (found : Multiset α), a ≤ s := by
        intro a ha
        rcases hlisted a ha with horder | rfl
        · rcases List.mem_append.mp horder with hmem | hmem
          · have hnot := hbefore a hmem
            rw [(hp a).mpr ha] at hnot
            exact absurd hnot (by decide)
          · rcases List.mem_cons.mp hmem with rfl | hmem
            · exact le_refl a
            · have hafter := (List.pairwise_append.mp hdecreasing).2.1
              exact (List.rel_of_pairwise_cons hafter hmem).le
        · exact bot_le
      exact le_antisymm (Multiset.le_sup ((hp s).mp hs)) (Multiset.sup_le.mpr habove)

end

end ResponseEngine.Foundation
