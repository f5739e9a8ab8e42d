/-
  Foundation/Framing.lean --- unambiguous concatenation of fields.

  Two ways of writing several fields into one text, and the reason each can be
  read back.  A length-prefixed field (`netstring`) announces how much to take,
  so its contents may hold anything at all.  A delimiter-joined text can only be
  split where the pieces on one side are known not to hold the delimiter; where none
  of them does, joining and splitting are inverse (`splitOn_eq_iff`).

  Everything is over an arbitrary alphabet.
-/
import Mathlib

set_option autoImplicit false

namespace ResponseEngine.Foundation.Framing

variable {α : Type*}

/-! ## Splitting at a delimiter -/

/-- A text is split at its first delimiter in only one way. -/
theorem eq_of_append_cons_eq_left {sep : α} :
    ∀ {left₁ left₂ right₁ right₂ : List α}, sep ∉ left₁ → sep ∉ left₂ →
      left₁ ++ sep :: right₁ = left₂ ++ sep :: right₂ → left₁ = left₂ ∧ right₁ = right₂
  | [], [], _, _, _, _, h => ⟨rfl, by simpa using h⟩
  | [], b :: bs, _, _, _, h₂, h => by
      simp only [List.nil_append, List.cons_append, List.cons.injEq] at h
      exact absurd (h.1 ▸ List.mem_cons_self) h₂
  | a :: as, [], _, _, h₁, _, h => by
      simp only [List.nil_append, List.cons_append, List.cons.injEq] at h
      exact absurd (h.1 ▸ List.mem_cons_self) h₁
  | a :: as, b :: bs, _, _, h₁, h₂, h => by
      simp only [List.cons_append, List.cons.injEq] at h
      obtain ⟨hleft, hright⟩ := eq_of_append_cons_eq_left
        (fun hm => h₁ (List.mem_cons_of_mem _ hm)) (fun hm => h₂ (List.mem_cons_of_mem _ hm)) h.2
      exact ⟨by rw [h.1, hleft], hright⟩

/-- A text is split at its last delimiter in only one way. -/
theorem eq_of_append_cons_eq_right {sep : α} {left₁ left₂ right₁ right₂ : List α}
    (h₁ : sep ∉ right₁) (h₂ : sep ∉ right₂)
    (h : left₁ ++ sep :: right₁ = left₂ ++ sep :: right₂) : left₁ = left₂ ∧ right₁ = right₂ := by
  have hrev : right₁.reverse ++ sep :: left₁.reverse = right₂.reverse ++ sep :: left₂.reverse := by
    simpa using congrArg List.reverse h
  obtain ⟨hright, hleft⟩ := eq_of_append_cons_eq_left
    (by simpa using h₁) (by simpa using h₂) hrev
  exact ⟨List.reverse_injective hleft, List.reverse_injective hright⟩

/-- The pieces of a split do not hold the delimiter. -/
theorem not_mem_of_mem_splitOn [BEq α] [LawfulBEq α] {sep : α} {t part : List α}
    (h : part ∈ t.splitOn sep) : sep ∉ part := by
  induction t generalizing part with
  | nil =>
      rw [List.splitOn_nil, List.mem_singleton] at h
      simp [h]
  | cons c rest ih =>
      rw [List.splitOn_cons_eq_if_modifyHead] at h
      split at h
      · rcases List.mem_cons.mp h with rfl | h
        · exact List.not_mem_nil
        · exact ih h
      · -- the first piece grows by a character that is not the delimiter
        rename_i hc
        obtain ⟨first, others, hsplit⟩ :=
          List.exists_cons_of_ne_nil (List.splitOn_ne_nil sep rest)
        rw [hsplit] at h ih
        rcases List.mem_cons.mp h with rfl | h
        · intro hmem
          rcases List.mem_cons.mp hmem with rfl | hmem
          · exact hc (beq_self_eq_true _)
          · exact ih List.mem_cons_self hmem
        · exact ih (List.mem_cons_of_mem _ h)

/-- What the pieces hold, the joined text holds. -/
theorem mem_intercalate_of_mem {glue : List α} {parts : List (List α)} {part : List α} {c : α}
    (hpart : part ∈ parts) (hc : c ∈ part) : c ∈ glue.intercalate parts := by
  induction parts with
  | nil => simp at hpart
  | cons first others ih =>
      cases others with
      | nil =>
          obtain rfl := List.mem_singleton.mp hpart
          rwa [List.intercalate_singleton]
      | cons second others =>
          rw [List.intercalate_cons_cons]
          rcases List.mem_cons.mp hpart with rfl | hpart
          · exact List.mem_append_left _ (List.mem_append_left _ hc)
          · exact List.mem_append_right _ (ih hpart)

/-- Splitting at a delimiter is the inverse of joining by it. -/
theorem splitOn_eq_iff [BEq α] [LawfulBEq α] {sep : α} {t : List α} {parts : List (List α)} :
    t.splitOn sep = parts ↔
      parts ≠ [] ∧ (∀ part ∈ parts, sep ∉ part) ∧ [sep].intercalate parts = t := by
  constructor
  · rintro rfl
    exact ⟨List.splitOn_ne_nil sep t, fun part => not_mem_of_mem_splitOn,
      List.intercalate_splitOn sep⟩
  · rintro ⟨hne, hparts, rfl⟩
    exact List.splitOn_intercalate sep hparts hne

/-! ## Length-prefixed fields -/

/-- How a length is announced: a text for every length, ended by a separator
that no such text contains. -/
structure LengthPrefix (α : Type*) where
  /-- the text announcing a length -/
  text : Nat → List α
  /-- what ends the announcement -/
  sep : α
  text_injective : Function.Injective text
  sep_not_mem : ∀ n, sep ∉ text n

namespace LengthPrefix

variable (fmt : LengthPrefix α)

/-- One field: its length, the separator, its contents. -/
def netstring (data : List α) : List α := fmt.text data.length ++ fmt.sep :: data

/-- A field announces exactly how much belongs to it. -/
theorem netstring_append_inj {data₁ data₂ rest₁ rest₂ : List α}
    (h : fmt.netstring data₁ ++ rest₁ = fmt.netstring data₂ ++ rest₂) :
    data₁ = data₂ ∧ rest₁ = rest₂ := by
  simp only [netstring, List.append_assoc, List.cons_append] at h
  obtain ⟨htext, hdata⟩ :=
    eq_of_append_cons_eq_left (fmt.sep_not_mem _) (fmt.sep_not_mem _) h
  exact List.append_inj hdata (fmt.text_injective htext)

/-- A sequence of fields. -/
def netstrings (fields : List (List α)) : List α := fields.flatMap fmt.netstring

/-- As many fields written one after another are read back in only one way. -/
theorem netstrings_inj :
    ∀ {fields₁ fields₂ : List (List α)}, fields₁.length = fields₂.length →
      fmt.netstrings fields₁ = fmt.netstrings fields₂ → fields₁ = fields₂
  | [], [], _, _ => rfl
  | data₁ :: rest₁, data₂ :: rest₂, hlen, h => by
      simp only [netstrings, List.flatMap_cons] at h
      obtain ⟨hdata, hrest⟩ := fmt.netstring_append_inj h
      rw [hdata, netstrings_inj (by simpa using hlen) hrest]

/-- One named field of a record: the name, the separator, the length-prefixed
contents, a terminator. -/
def named (terminator : α) (field : List α × List α) : List α :=
  field.1 ++ fmt.sep :: (fmt.netstring field.2 ++ [terminator])

/-- A record of named fields. -/
def record (terminator : α) (fields : List (List α × List α)) : List α :=
  fields.flatMap (fmt.named terminator)

/-- Two records with the same names in the same order, written out in front of
anything, agree on every field and on what follows. -/
theorem record_append_inj (terminator : α) :
    ∀ {fields₁ fields₂ : List (List α × List α)} {rest₁ rest₂ : List α},
      fields₁.map Prod.fst = fields₂.map Prod.fst →
      fmt.record terminator fields₁ ++ rest₁ = fmt.record terminator fields₂ ++ rest₂ →
      fields₁ = fields₂ ∧ rest₁ = rest₂
  | [], [], _, _, _, h => ⟨rfl, by simpa [record] using h⟩
  | [], _ :: _, _, _, hnames, _ => by simp at hnames
  | _ :: _, [], _, _, hnames, _ => by simp at hnames
  | (name₁, data₁) :: fields₁, (name₂, data₂) :: fields₂, rest₁, rest₂, hnames, h => by
      simp only [List.map_cons, List.cons.injEq] at hnames
      obtain ⟨rfl, htail⟩ := hnames
      simp only [record, List.flatMap_cons, named, List.append_assoc, List.cons_append,
        List.append_cancel_left_eq, List.cons.injEq, true_and] at h
      obtain ⟨rfl, hrest⟩ := fmt.netstring_append_inj h
      simp only [List.nil_append, List.cons.injEq, true_and] at hrest
      obtain ⟨rfl, hend⟩ := record_append_inj terminator htail (by simpa [record] using hrest)
      exact ⟨rfl, hend⟩

/-- Two records with the same names are equal only when all their fields are. -/
theorem record_inj (terminator : α) {fields₁ fields₂ : List (List α × List α)}
    (hnames : fields₁.map Prod.fst = fields₂.map Prod.fst)
    (h : fmt.record terminator fields₁ = fmt.record terminator fields₂) : fields₁ = fields₂ :=
  have hnil : fmt.record terminator fields₁ ++ [] = fmt.record terminator fields₂ ++ [] := by rw [h]
  (fmt.record_append_inj terminator hnames hnil).1

end LengthPrefix

end ResponseEngine.Foundation.Framing
