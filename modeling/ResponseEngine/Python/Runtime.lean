/-
  Python/Runtime.lean --- exceptions, and what the package takes from outside.

  A function that may raise returns `Except PyError`.  Four of the exceptions are
  `ValueError`s, so an `except ValueError` clause catches them; a `KeyError`, a
  `TypeError` and an `AttributeError` are not.  `Runtime` collects the parts of the
  interpreter and of pydantic whose behaviour is used but not defined here.  The
  interpreter's limit on the digits of an int that is converted to or from text is
  left aside throughout.
-/
import ResponseEngine.Python.Value

set_option autoImplicit false

namespace ResponseEngine.Python

open ResponseEngine.Foundation

/-- An exception. -/
inductive PyError where
  | valueError (message : Text)
  /-- pydantic's `ValidationError`, at a field -/
  | validationError (location : Text) (message : Text)
  /-- `response_engine.signing.UnsignableCommand` -/
  | unsignableCommand (message : Text)
  | unicodeEncodeError (text : Text)
  | keyError (key : Key)
  | typeError
  | attributeError
  deriving DecidableEq

/-- Whether `except ValueError` catches the exception. -/
def PyError.isValueError : PyError → Bool
  | .keyError _ => false
  | .typeError => false
  | .attributeError => false
  | _ => true

/-- `str(exc)`, as far as the package reads it. -/
def PyError.message : PyError → Text
  | .valueError message => message
  | .validationError _ message => message
  | .unsignableCommand message => message
  | .unicodeEncodeError _ => "surrogates not allowed"
  | .keyError _ => "missing key"
  | .typeError => "unsupported type"
  | .attributeError => "no such attribute"

/-- What the interpreter and pydantic provide. -/
structure Runtime where
  /-- `datetime.fromisoformat`; `none` where it raises `ValueError` -/
  fromisoformat : Text → Option DateTime
  /-- `int(text)` where the text is not a plain run of ASCII digits -/
  intOfText : Text → Option Int
  /-- `repr(value)` -/
  repr : PyVal → Text
  /-- `str(value)`, as an f-string writes it -/
  format : PyVal → Text
  /-- pydantic's lax conversion of a value that is not a string to `str` -/
  laxStr : PyVal → Option Text
  /-- pydantic's lax conversion to `datetime` -/
  laxDatetime : PyVal → Option DateTime
  /-- `str(uuid4())` -/
  uuid4 : Text

/-- A time stamp, and the moment it denotes. -/
def sampleTime : Text := "2023-11-14T22:13:20+00:00"

/-- The moment of `sampleTime`. -/
def sampleMoment : DateTime := .ofTimestampUtc 1700000000 (by decide) (by decide)

/-- A runtime that reads one time stamp as the interpreter and pydantic do, and
refuses every other text: enough to run the package on fixed inputs. -/
def Runtime.sample : Runtime where
  fromisoformat t := if t = sampleTime then some sampleMoment else none
  intOfText _ := none
  repr _ := []
  format _ := []
  laxStr _ := none
  laxDatetime v :=
    match v with
    | .str t => if t = sampleTime then some sampleMoment else none
    | _ => none
  uuid4 := "00000000-0000-4000-8000-000000000000"

/-! ## Raising and binding -/

/-- `if condition: raise e`. -/
def raiseIf (condition : Bool) (e : PyError) : Except PyError Unit :=
  if condition then .error e else .ok ()

@[simp] theorem raiseIf_eq_ok {condition : Bool} {e : PyError} {u : Unit} :
    raiseIf condition e = .ok u ↔ condition = false := by
  cases condition <;> simp [raiseIf]

@[simp] theorem raiseIf_eq_error {condition : Bool} {e e' : PyError} :
    raiseIf condition e = .error e' ↔ condition = true ∧ e = e' := by
  cases condition <;> simp [raiseIf]

theorem bind_eq_ok {α β : Type} {x : Except PyError α} {f : α → Except PyError β} {b : β} :
    (x >>= f) = .ok b ↔ ∃ a, x = .ok a ∧ f a = .ok b := by
  cases x <;> simp [bind, Except.bind]

theorem bind_eq_error {α β : Type} {x : Except PyError α} {f : α → Except PyError β}
    {e : PyError} :
    (x >>= f) = .error e ↔ x = .error e ∨ ∃ a, x = .ok a ∧ f a = .error e := by
  cases x <;> simp [bind, Except.bind]

/-- A bind returns when its first part does and the rest returns from there. -/
theorem exists_bind_eq_ok {α β : Type} {x : Except PyError α} {f : α → Except PyError β} :
    (∃ b, (x >>= f) = .ok b) ↔ ∃ a, x = .ok a ∧ ∃ b, f a = .ok b := by
  simp only [bind_eq_ok]
  exact ⟨fun ⟨b, a, ha, hb⟩ => ⟨a, ha, b, hb⟩, fun ⟨a, ha, b, hb⟩ => ⟨b, a, ha, hb⟩⟩

/-- A call on every element of a list returns when each single call does. -/
theorem exists_mapM_eq_ok {α β : Type} {f : α → Except PyError β} {xs : List α} :
    (∃ ys, xs.mapM f = .ok ys) ↔ ∀ x ∈ xs, ∃ y, f x = .ok y := by
  induction xs with
  | nil => simp [pure, Except.pure]
  | cons x xs ih =>
      simp only [List.mapM_cons, exists_bind_eq_ok, List.forall_mem_cons, ← ih]
      constructor
      · rintro ⟨y, hy, ys, hys, _⟩
        exact ⟨⟨y, hy⟩, ys, hys⟩
      · rintro ⟨⟨y, hy⟩, ys, hys⟩
        exact ⟨y, hy, ys, hys, y :: ys, rfl⟩

/-- The results of such calls are those of the single calls. -/
theorem mem_iff_of_mapM_eq_ok {α β : Type} {f : α → Except PyError β} {xs : List α} {ys : List β}
    (h : xs.mapM f = .ok ys) {y : β} : y ∈ ys ↔ ∃ x ∈ xs, f x = .ok y := by
  induction xs generalizing ys with
  | nil =>
      obtain rfl : ys = [] := by simpa [pure, Except.pure] using h.symm
      simp
  | cons x xs ih =>
      simp only [List.mapM_cons, bind_eq_ok] at h
      obtain ⟨z, hz, zs, hzs, hys⟩ := h
      obtain rfl : ys = z :: zs := (Except.ok.inj hys).symm
      rw [List.mem_cons, ih hzs, List.exists_mem_cons_iff, hz, Except.ok.injEq, eq_comm (a := y)]

@[simp] theorem ok_bind {α β : Type} (a : α) (f : α → Except PyError β) :
    ((Except.ok a : Except PyError α) >>= f) = f a := rfl

@[simp] theorem error_bind {α β : Type} (e : PyError) (f : α → Except PyError β) :
    ((Except.error e : Except PyError α) >>= f) = .error e := rfl

@[simp] theorem pure_eq_ok {α : Type} (a : α) : (pure a : Except PyError α) = .ok a := rfl

/-- Whether a call returned. -/
def returns {α : Type} : Except PyError α → Bool
  | .ok _ => true
  | .error _ => false

theorem exists_eq_ok {α : Type} {x : Except PyError α} (h : returns x = true) :
    ∃ a, x = .ok a := by
  match x, h with
  | .ok a, _ => exact ⟨a, rfl⟩

/-- Whether a call returned something other than `None`. -/
def returnsSome {α : Type} : Except PyError (Option α) → Bool
  | .ok (some _) => true
  | _ => false

theorem exists_eq_ok_some {α : Type} {x : Except PyError (Option α)} (h : returnsSome x = true) :
    ∃ a, x = .ok (some a) := by
  match x, h with
  | .ok (some a), _ => exact ⟨a, rfl⟩

/-! ## Built-in operations that raise -/

/-- `d[k]`. -/
def Dict.getItem (d : Dict) (k : Key) : Except PyError PyVal :=
  match Dict.find? d k with
  | some v => .ok v
  | none => .error (.keyError k)

theorem Dict.getItem_eq_ok {d : Dict} {k : Key} {v : PyVal} :
    Dict.getItem d k = .ok v ↔ Dict.find? d k = some v := by
  unfold Dict.getItem
  cases Dict.find? d k <;> simp

/-- A key that is present is read as `get` reads it. -/
theorem Dict.getItem_of_contains {d : Dict} {k : Key} (h : Dict.contains d k = true) :
    Dict.getItem d k = .ok (Dict.get d k) := by
  obtain ⟨v, hv⟩ := Dict.contains_iff.mp h
  rw [Dict.getItem_eq_ok.mpr hv, Dict.get_of_find? hv]

/-- `text.encode("utf-8")`. -/
def encode (t : Text) : Except PyError (List UInt8) :=
  match t.utf8? with
  | some bytes => .ok bytes
  | none => .error (.unicodeEncodeError t)

theorem encode_eq_ok {t : Text} {bytes : List UInt8} :
    encode t = .ok bytes ↔ t.utf8? = some bytes := by
  unfold encode
  cases t.utf8? <;> simp

/-- An encoding returns exactly on encodable texts. -/
theorem exists_encode_eq_ok {t : Text} : (∃ bytes, encode t = .ok bytes) ↔ t.Encodable := by
  simp only [encode_eq_ok, Text.Encodable, Option.isSome_iff_exists]

theorem encode_eq_error {t : Text} {e : PyError} :
    encode t = .error e ↔ ¬ t.Encodable ∧ e = .unicodeEncodeError t := by
  unfold encode Text.Encodable
  cases t.utf8? <;> simp [eq_comm]

/-- `int(text)`. -/
def Runtime.int (rt : Runtime) (t : Text) : Except PyError Int :=
  match t.decimal? with
  | some n => .ok n
  | none =>
      match rt.intOfText t with
      | some n => .ok n
      | none => .error (.valueError "invalid literal for int() with base 10")

@[simp] theorem Runtime.int_ofNat (rt : Runtime) (n : Nat) :
    rt.int (Text.ofNat n) = .ok (n : Int) := by
  simp [Runtime.int]

end ResponseEngine.Python
