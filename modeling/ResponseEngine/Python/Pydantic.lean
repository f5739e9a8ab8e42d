/-
  Python/Pydantic.lean --- the declared field constraints pydantic enforces.

  A field is read from the raw dict by a parser, `PyVal → Option α`; `none` is a
  refusal.  Models here are closed (`extra="forbid"`).  A bounded `str` is only
  accepted when it can be encoded: pydantic measures it as UTF-8.
-/
import ResponseEngine.Python.Runtime

set_option autoImplicit false

namespace ResponseEngine.Python.Pydantic

open ResponseEngine.Foundation

/-- The length bounds of a text field, counted in code points. -/
def boundedText (lower upper : Nat) (t : Text) : Bool :=
  decide t.Encodable && decide (lower ≤ t.length) && decide (t.length ≤ upper)

theorem boundedText_iff {lower upper : Nat} {t : Text} :
    boundedText lower upper t = true ↔ t.Encodable ∧ lower ≤ t.length ∧ t.length ≤ upper := by
  simp only [boundedText, Bool.and_eq_true, decide_eq_true_eq, and_assoc]

/-- `str` with length bounds, in lax mode. -/
def laxStr (rt : Runtime) (lower upper : Nat) : PyVal → Option Text
  | .str t => if boundedText lower upper t then some t else none
  | v => (rt.laxStr v).filter (boundedText lower upper)

/-- A text within its bounds is read as it is. -/
theorem laxStr_of_bounded {rt : Runtime} {lower upper : Nat} {t : Text}
    (h : boundedText lower upper t = true) : laxStr rt lower upper (.str t) = some t := by
  simp [laxStr, h]

/-- What is read is within the bounds. -/
theorem boundedText_of_laxStr {rt : Runtime} {lower upper : Nat} {v : PyVal} {t : Text}
    (h : laxStr rt lower upper v = some t) : boundedText lower upper t = true := by
  cases v with
  | str s =>
      simp only [laxStr, Option.ite_none_right_eq_some, Option.some.injEq] at h
      exact h.2 ▸ h.1
  | _ => exact (Option.filter_eq_some_iff.mp h).2

/-- `... | None`, in lax mode. -/
def laxNullable {α : Type} (parse : PyVal → Option α) (v : PyVal) : Option (Option α) :=
  if v.isNone then some none else (parse v).map some

/-- `dict` with a bound on its size, in lax mode: any mapping is copied. -/
def laxDict (upper : Nat) (v : PyVal) : Option Dict :=
  v.asMapping?.filter fun d => decide ((Dict.keys d).length ≤ upper)

/-! ## Bounded numbers -/

/-- A natural number within bounds: a `StrictInt` field with `ge` and `le`. -/
abbrev Bounded (lower upper : Nat) := {n : Nat // lower ≤ n ∧ n ≤ upper}

/-! ## Closed vocabularies -/

/-- A `Literal` type: finitely many members, each with its own text. -/
class Vocabulary (α : Type) where
  members : List α
  text : α → String
  mem_members : ∀ a, a ∈ members
  text_injective : Function.Injective text

namespace Vocabulary

variable {α : Type} [Vocabulary α]

/-- The member with a given text. -/
def ofText? (t : Text) : Option α :=
  (members : List α).find? fun a => decide (Text.ofString (text a) = t)

theorem ofText?_eq_some_iff {t : Text} {a : α} :
    ofText? t = some a ↔ t = Text.ofString (text a) := by
  constructor
  · intro h
    have htext := List.find?_some h
    exact (of_decide_eq_true htext).symm
  · rintro rfl
    cases hfind : ofText? (α := α) (Text.ofString (text a)) with
    | none =>
        have hnone := List.find?_eq_none.mp hfind a (mem_members a)
        simp at hnone
    | some b =>
        have htext := List.find?_some hfind
        have hba : text b = text a := Text.ofString_inj.mp (of_decide_eq_true htext)
        rw [text_injective hba]

@[simp] theorem ofText?_text (a : α) : ofText? (Text.ofString (text a)) = some a :=
  ofText?_eq_some_iff.mpr rfl

/-- A `Literal` field. -/
def literal : PyVal → Option α
  | .str t => ofText? t
  | _ => none

theorem literal_eq_some_iff {v : PyVal} {a : α} :
    literal v = some a ↔ v = .str (Text.ofString (text a)) := by
  cases v <;> simp [literal, ofText?_eq_some_iff]

end Vocabulary

/-! ## Closed models -/

/-- `extra="forbid"`: no key outside the declared fields. -/
def closed (d : Dict) (fields : List Key) : Except PyError Unit :=
  raiseIf (!(Dict.keys d).all (· ∈ fields))
    (.validationError "" "Extra inputs are not permitted")

/-- A parsed value, or a refusal located at the field. -/
def located {α : Type} (name : String) (parsed : Option α) : Except PyError α :=
  match parsed with
  | some a => .ok a
  | none => .error (.validationError name "Input should be valid")

/-- A required field. -/
def required {α : Type} (d : Dict) (name : String) (parse : PyVal → Option α) :
    Except PyError α :=
  match Dict.find? d name with
  | some v => located name (parse v)
  | none => .error (.validationError name "Field required")

/-- A field with a default, which is not validated. -/
def optional {α : Type} (d : Dict) (name : String) (default : α) (parse : PyVal → Option α) :
    Except PyError α :=
  match Dict.find? d name with
  | some v => located name (parse v)
  | none => .ok default

/-- A `ValueError` raised by a model's own validator becomes a `ValidationError`;
any other exception passes through. -/
def validator {α : Type} : Except PyError α → Except PyError α
  | .ok a => .ok a
  | .error e => .error (if e.isValueError then .validationError "" e.message else e)

@[simp] theorem located_eq_ok {α : Type} {name : String} {parsed : Option α} {a : α} :
    located name parsed = .ok a ↔ parsed = some a := by
  cases parsed <;> simp [located]

theorem required_eq_ok {α : Type} {d : Dict} {name : String} {parse : PyVal → Option α} {a : α} :
    required d name parse = .ok a ↔ ∃ v, Dict.find? d name = some v ∧ parse v = some a := by
  unfold required
  cases Dict.find? d name <;> simp

theorem optional_eq_ok_of_find? {α : Type} {d : Dict} {name : String} {default : α}
    {parse : PyVal → Option α} {v : PyVal} {a : α} (hv : Dict.find? d name = some v) :
    optional d name default parse = .ok a ↔ parse v = some a := by
  simp [optional, hv]

@[simp] theorem validator_eq_ok {α : Type} {x : Except PyError α} {a : α} :
    validator x = .ok a ↔ x = .ok a := by
  cases x <;> simp [validator]

/-! ## Field refusals are `ValidationError`s -/

theorem isValueError_of_closed {d : Dict} {fields : List Key} {e : PyError}
    (h : closed d fields = .error e) : e.isValueError = true := by
  obtain ⟨_, rfl⟩ := raiseIf_eq_error.mp h
  rfl

theorem isValueError_of_located {α : Type} {name : String} {parsed : Option α} {e : PyError}
    (h : located name parsed = .error e) : e.isValueError = true := by
  cases parsed with
  | some a => simp [located] at h
  | none =>
      simp only [located, Except.error.injEq] at h
      rw [← h]
      rfl

theorem isValueError_of_required {α : Type} {d : Dict} {name : String} {parse : PyVal → Option α}
    {e : PyError} (h : required d name parse = .error e) : e.isValueError = true := by
  unfold required at h
  split at h
  · exact isValueError_of_located h
  · simp only [Except.error.injEq] at h
    rw [← h]
    rfl

theorem isValueError_of_optional {α : Type} {d : Dict} {name : String} {default : α}
    {parse : PyVal → Option α} {e : PyError} (h : optional d name default parse = .error e) :
    e.isValueError = true := by
  unfold optional at h
  split at h
  · exact isValueError_of_located h
  · simp at h

theorem isValueError_of_validator {α : Type} {x : Except PyError α} {e : PyError}
    (hx : ∀ e', x = .error e' → e'.isValueError = true) (h : validator x = .error e) :
    e.isValueError = true := by
  cases x with
  | ok a => simp [validator] at h
  | error e' =>
      simp only [validator, hx e' rfl, if_true, Except.error.injEq] at h
      rw [← h]
      rfl

end ResponseEngine.Python.Pydantic
