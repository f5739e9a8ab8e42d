/-
  Python/Codec.lean --- strict pydantic models, from their declarations.

  A declared type is a `Codec`: what validation reads from a raw value, and the
  Python value that validation leaves.  A model is a codec built from its named
  fields, so that it can be read against its declaration.  Every codec carries its
  laws: the dump of a validated value validates to that value (`parse_toPy`), and an
  instance of the declared type is what the validation of its dump leaves
  (`eq_toPy`).  Only dumps and raw objects are validated here, so a model is read
  from a dict, and from nothing else.
-/
import ResponseEngine.Python.Pydantic

set_option autoImplicit false

namespace ResponseEngine.Python

open ResponseEngine.Foundation

/-! ## Dumps -/

namespace PyVal

mutual

/-- `v.model_dump()`, with all that `v` holds: every model becomes the dict of its declared
fields. -/
def modelDump : PyVal → PyVal
  | .model cls attributes => .dict (dumpFields attributes cls.fields)
  | .dict items => .dict (dumpItems items)
  | .list xs => .list (dumpAll xs)
  | .tuple xs => .tuple (dumpAll xs)
  | v => v

/-- The dumps of a sequence. -/
def dumpAll : List PyVal → List PyVal
  | [] => []
  | x :: xs => modelDump x :: dumpAll xs

/-- The dumps of the values of a dict. -/
def dumpItems : List (Key × PyVal) → List (Key × PyVal)
  | [] => []
  | (k, v) :: items => (k, modelDump v) :: dumpItems items

/-- The dumps of the declared fields; any other attribute is left out. -/
def dumpFields : List (Key × PyVal) → List Key → List (Key × PyVal)
  | [], _ => []
  | (k, v) :: items, fields =>
      if k ∈ fields then (k, modelDump v) :: dumpFields items fields
      else dumpFields items fields

end

/-- A value that holds no other values. -/
def isLeaf : PyVal → Bool
  | .model _ _ => false
  | .dict _ => false
  | .list _ => false
  | .tuple _ => false
  | _ => true

/-- The value of a declared field of a model, or at a key of a dict; `None` where there is
none. -/
def attr (v : PyVal) (k : Key) : PyVal :=
  match v with
  | .model cls attributes => if k ∈ cls.fields then Dict.get attributes k else .none
  | .dict items => Dict.get items k
  | _ => .none

theorem isLeaf_modelDump (v : PyVal) : v.modelDump.isLeaf = v.isLeaf := by
  cases v <;> rfl

theorem modelDump_of_isLeaf {v : PyVal} (h : v.isLeaf = true) : v.modelDump = v := by
  cases v with
  | model c d => simp [isLeaf] at h
  | dict d => simp [isLeaf] at h
  | list xs => simp [isLeaf] at h
  | tuple xs => simp [isLeaf] at h
  | _ => rfl

/-- A leaf is the dump of itself, and of nothing else. -/
theorem modelDump_eq_leaf {v w : PyVal} (hw : w.isLeaf = true) : v.modelDump = w ↔ v = w := by
  constructor
  · rintro rfl
    exact (modelDump_of_isLeaf (isLeaf_modelDump v ▸ hw)).symm
  · rintro rfl
    exact modelDump_of_isLeaf hw

theorem find?_dumpItems (d : Dict) (k : Key) :
    Dict.find? (dumpItems d) k = (Dict.find? d k).map modelDump := by
  induction d with
  | nil => simp [dumpItems]
  | cons entry d ih =>
      obtain ⟨k', v⟩ := entry
      simp only [dumpItems, Dict.find?_cons, ih]
      split_ifs
      · rfl
      · rfl

theorem find?_dumpFields (d : Dict) (fields : List Key) (k : Key) :
    Dict.find? (dumpFields d fields) k =
      if k ∈ fields then (Dict.find? d k).map modelDump else Option.none := by
  induction d with
  | nil => rw [dumpFields, Dict.find?_nil, Option.map_none, ite_self]
  | cons entry d ih =>
      obtain ⟨k', v⟩ := entry
      by_cases hfield : k' ∈ fields
      · simp only [dumpFields, if_pos hfield, Dict.find?_cons, ih]
        by_cases hk : k = k'
        · simp [hk, hfield]
        · simp [hk]
      · simp only [dumpFields, if_neg hfield, Dict.find?_cons, ih]
        by_cases hk : k = k'
        · simp [hk, hfield]
        · simp [hk]

/-- Attributes that are all declared are dumped as the entries of a dict are. -/
theorem dumpFields_of_declared {d : Dict} {fields : List Key}
    (h : ∀ entry ∈ d, entry.1 ∈ fields) : dumpFields d fields = dumpItems d := by
  induction d with
  | nil => simp [dumpFields, dumpItems]
  | cons entry d ih =>
      obtain ⟨k, v⟩ := entry
      obtain ⟨hk, hd⟩ := List.forall_mem_cons.mp h
      simp only [dumpFields, dumpItems, if_pos hk, ih hd]

/-- Only a model or a dict is dumped to a dict, which has the dumps of its attributes. -/
theorem modelDump_attr {v : PyVal} {d : Dict} (h : v.modelDump = .dict d) (k : Key) :
    (v.attr k).modelDump = Dict.get d k := by
  cases v with
  | model cls items =>
      obtain rfl := PyVal.dict.inj h
      rw [attr, Dict.get, Dict.get, find?_dumpFields]
      by_cases hk : k ∈ cls.fields
      · rw [if_pos hk, if_pos hk]
        cases Dict.find? items k <;> rfl
      · rw [if_neg hk, if_neg hk]
        rfl
  | dict items =>
      obtain rfl := PyVal.dict.inj h
      rw [attr, Dict.get, Dict.get, find?_dumpItems]
      cases Dict.find? items k <;> rfl
  | _ => simp [modelDump] at h

theorem map_fst_dumpItems (d : Dict) : (dumpItems d).map Prod.fst = d.map Prod.fst := by
  induction d with
  | nil => rfl
  | cons entry d ih =>
      obtain ⟨k, v⟩ := entry
      simp only [dumpItems, List.map_cons, ih]

end PyVal

namespace Pydantic

/-- An error, located under a field. -/
def under (name : Text) : PyError → PyError
  | .validationError location message =>
      .validationError (if location.isEmpty then name else name ++ (("." : Text) ++ location))
        message
  | e => e

@[simp] theorem isValueError_under (name : Text) (e : PyError) :
    (under name e).isValueError = e.isValueError := by
  cases e <;> rfl

/-- The result of validating a field. -/
def locate {α : Type} (name : Text) : Except PyError α → Except PyError α
  | .ok a => .ok a
  | .error e => .error (under name e)

@[simp] theorem locate_eq_ok {α : Type} {name : Text} {x : Except PyError α} {a : α} :
    locate name x = .ok a ↔ x = .ok a := by
  cases x <;> simp [locate]

theorem isValueError_of_locate {α : Type} {name : Text} {x : Except PyError α} {e : PyError}
    (hx : ∀ {e'}, x = .error e' → e'.isValueError = true) (h : locate name x = .error e) :
    e.isValueError = true := by
  cases x with
  | ok a => simp [locate] at h
  | error e' =>
      simp only [locate, Except.error.injEq] at h
      rw [← h, isValueError_under]
      exact hx rfl

/-! ## Codecs -/

/-- A declared type. -/
structure Codec (α : Type) where
  /-- what validation reads -/
  parse : PyVal → Except PyError α
  /-- the value that validation leaves -/
  toPy : α → PyVal
  /-- the values that hold an instance of each declared model, and no raw dict for one -/
  Instance : PyVal → Prop
  instance_toPy : ∀ a, Instance (toPy a)
  parse_toPy : ∀ a, parse (toPy a).modelDump = .ok a
  eq_toPy : ∀ {v a}, parse v.modelDump = .ok a → Instance v → v = toPy a
  isValueError : ∀ {v e}, parse v = .error e → e.isValueError = true

namespace Codec

variable {α β : Type}

/-- A type whose values hold no other values. -/
def leaf (read : PyVal → Option α) (toPy : α → PyVal) (hleaf : ∀ a, (toPy a).isLeaf = true)
    (hread : ∀ v a, read v = some a ↔ v = toPy a) : Codec α where
  parse v := located "" (read v)
  toPy
  Instance _ := True
  instance_toPy _ := trivial
  parse_toPy a := by
    rw [located_eq_ok, hread, PyVal.modelDump_eq_leaf (hleaf a)]
  eq_toPy {v a} h _ := by
    rw [located_eq_ok, hread, PyVal.modelDump_eq_leaf (hleaf a)] at h
    exact h
  isValueError h := isValueError_of_located h

theorem leaf_parse_eq_ok {read : PyVal → Option α} {toPy : α → PyVal}
    {hleaf : ∀ a, (toPy a).isLeaf = true} {hread : ∀ v a, read v = some a ↔ v = toPy a}
    {v : PyVal} {a : α} : (leaf read toPy hleaf hread).parse v = .ok a ↔ v = toPy a :=
  located_eq_ok.trans (hread v a)

/-- `Literal[...]`. -/
def literal [Vocabulary α] : Codec α :=
  leaf Vocabulary.literal (fun a => .str (Vocabulary.text a)) (fun _ => rfl)
    fun _ _ => Vocabulary.literal_eq_some_iff

@[simp] theorem literal_parse_eq_ok [Vocabulary α] {v : PyVal} {a : α} :
    literal.parse v = .ok a ↔ v = .str (Vocabulary.text a) :=
  leaf_parse_eq_ok

/-- `str`, with a constraint that only encodable texts meet. -/
def text (check : Text → Bool) : Codec {t : Text // check t = true} :=
  leaf
    (fun v =>
      match v with
      | .str t => if h : check t = true then some ⟨t, h⟩ else none
      | _ => none)
    (fun t => .str t) (fun _ => rfl) (by
      rintro v ⟨t, ht⟩
      cases v with
      | str s =>
          simp only [Option.dite_none_right_eq_some, Option.some.injEq, Subtype.mk.injEq,
            PyVal.str.injEq]
          constructor
          · rintro ⟨_, rfl⟩
            rfl
          · rintro rfl
            exact ⟨ht, rfl⟩
      | _ => simp)

@[simp] theorem text_parse_eq_ok {check : Text → Bool} {v : PyVal}
    {t : {t : Text // check t = true}} : (text check).parse v = .ok t ↔ v = .str t :=
  leaf_parse_eq_ok

/-- `StrictInt`, with bounds. -/
def int (lower upper : ℕ) : Codec (Bounded lower upper) :=
  leaf
    (fun v =>
      match v with
      | .int (.ofNat n) => if h : lower ≤ n ∧ n ≤ upper then some ⟨n, h⟩ else none
      | _ => none)
    (fun n => .int (n : ℕ)) (fun _ => rfl) (by
      rintro v ⟨n, hn⟩
      cases v with
      | int m =>
          cases m with
          | ofNat m =>
              simp only [Option.dite_none_right_eq_some, Option.some.injEq, Subtype.mk.injEq,
                PyVal.int.injEq, Int.ofNat_eq_natCast, Nat.cast_inj]
              constructor
              · rintro ⟨_, rfl⟩
                rfl
              · rintro rfl
                exact ⟨hn, rfl⟩
          | negSucc m => simp
      | _ => simp)

@[simp] theorem int_parse_eq_ok {lower upper : ℕ} {v : PyVal} {n : Bounded lower upper} :
    (int lower upper).parse v = .ok n ↔ v = .int (n : ℕ) :=
  leaf_parse_eq_ok

/-- `StrictBool`. -/
def bool : Codec Bool :=
  leaf
    (fun v =>
      match v with
      | .bool b => some b
      | _ => none)
    (fun b => .bool b) (fun _ => rfl) (by
      intro v b
      cases v <;> simp)

/-- `AwareDatetime`. -/
def awareDatetime : Codec {d : DateTime // d.utcoffset.isSome = true} :=
  leaf
    (fun v =>
      match v with
      | .datetime d => if h : d.utcoffset.isSome = true then some ⟨d, h⟩ else none
      | _ => none)
    (fun d => .datetime d) (fun _ => rfl) (by
      rintro v ⟨d, hd⟩
      cases v with
      | datetime e =>
          simp only [Option.dite_none_right_eq_some, Option.some.injEq, Subtype.mk.injEq,
            PyVal.datetime.injEq]
          constructor
          · rintro ⟨_, rfl⟩
            rfl
          · rintro rfl
            exact ⟨hd, rfl⟩
      | _ => simp)

/-- `... | None`. -/
def nullable (c : Codec α) (hnone : ∀ a, c.parse .none ≠ .ok a) : Codec (Option α) where
  parse v := if v.isNone then .ok none else (c.parse v).map some
  toPy
    | none => .none
    | some a => c.toPy a
  Instance v := v = .none ∨ c.Instance v
  instance_toPy
    | none => .inl rfl
    | some a => .inr (c.instance_toPy a)
  parse_toPy
    | none => rfl
    | some a => by
        have hparse := c.parse_toPy a
        have hne : (c.toPy a).modelDump.isNone = false := by
          rw [PyVal.isNone_eq_false_iff]
          intro h
          exact hnone a (h ▸ hparse)
        simp only [hne, hparse]
        rfl
  eq_toPy {v a} h hv := by
    split_ifs at h with hnull
    · obtain rfl := Except.ok.inj h
      exact (PyVal.modelDump_eq_leaf rfl).mp (PyVal.isNone_iff.mp hnull)
    · rcases hv with rfl | hv
      · simp [PyVal.modelDump, PyVal.isNone] at hnull
      cases hparse : c.parse v.modelDump with
      | error e => simp [hparse, Except.map] at h
      | ok b =>
          rw [hparse] at h
          obtain rfl := Except.ok.inj h
          exact c.eq_toPy hparse hv
  isValueError {v e} h := by
    split_ifs at h
    cases hparse : c.parse v with
    | error e' =>
        rw [hparse] at h
        obtain rfl := Except.error.inj h
        exact c.isValueError hparse
    | ok b => simp [hparse, Except.map] at h

theorem nullable_parse_eq_ok {c : Codec α} {hnone : ∀ a, c.parse .none ≠ .ok a} {v : PyVal}
    {o : Option α} :
    (nullable c hnone).parse v = .ok o ↔
      (v = .none ∧ o = none) ∨ ∃ a, c.parse v = .ok a ∧ o = some a := by
  simp only [nullable]
  split_ifs with hnull
  · obtain rfl := PyVal.isNone_iff.mp hnull
    simp [hnone, eq_comm]
  · have hne : v ≠ .none := fun h => hnull (PyVal.isNone_iff.mpr h)
    cases c.parse v with
    | error e => simp [Except.map, hne]
    | ok a => simp [Except.map, hne, eq_comm]

/-! ## Lists -/

/-- The items of a list, up to the first that is refused. -/
def parseAll (c : Codec α) : List PyVal → Except PyError (List α)
  | [] => .ok []
  | x :: xs =>
      match c.parse x, parseAll c xs with
      | .ok a, .ok as => .ok (a :: as)
      | .error e, _ => .error e
      | _, .error e => .error e

theorem parseAll_cons_eq_ok {c : Codec α} {x : PyVal} {xs : List PyVal} {as : List α} :
    parseAll c (x :: xs) = .ok as ↔
      ∃ a rest, c.parse x = .ok a ∧ parseAll c xs = .ok rest ∧ as = a :: rest := by
  rw [parseAll]
  cases c.parse x with
  | error e => simp
  | ok a =>
      cases parseAll c xs with
      | error e => simp
      | ok rest => simp [eq_comm]

theorem parseAll_toPy (c : Codec α) (as : List α) :
    parseAll c (PyVal.dumpAll (as.map c.toPy)) = .ok as := by
  induction as with
  | nil => rfl
  | cons a as ih =>
      rw [List.map_cons, PyVal.dumpAll, parseAll_cons_eq_ok]
      exact ⟨a, as, c.parse_toPy a, ih, rfl⟩

theorem eq_map_toPy {c : Codec α} {xs : List PyVal} {as : List α}
    (h : parseAll c (PyVal.dumpAll xs) = .ok as) (hxs : ∀ x ∈ xs, c.Instance x) :
    xs = as.map c.toPy := by
  induction xs generalizing as with
  | nil =>
      obtain rfl := Except.ok.inj h
      rfl
  | cons x xs ih =>
      rw [PyVal.dumpAll, parseAll_cons_eq_ok] at h
      obtain ⟨a, rest, hx, hrest, rfl⟩ := h
      rw [List.forall_mem_cons] at hxs
      rw [List.map_cons, ← c.eq_toPy hx hxs.1, ← ih hrest hxs.2]

theorem isValueError_of_parseAll {c : Codec α} {xs : List PyVal} {e : PyError}
    (h : parseAll c xs = .error e) : e.isValueError = true := by
  induction xs with
  | nil => simp [parseAll] at h
  | cons x xs ih =>
      rw [parseAll] at h
      cases hx : c.parse x with
      | error e' =>
          rw [hx] at h
          obtain rfl := Except.error.inj h
          exact c.isValueError hx
      | ok a =>
          cases hxs : parseAll c xs with
          | error e' =>
              rw [hx, hxs] at h
              obtain rfl := Except.error.inj h
              exact ih hxs
          | ok as => simp [hx, hxs] at h

/-- The error of a list that is too long. -/
def tooLong : PyError := .validationError "" "List should have fewer items after validation"

/-- `list[...]`, with a bound on its length. -/
def list (c : Codec α) (upper : ℕ) : Codec {as : List α // as.length ≤ upper} where
  parse v :=
    match v with
    | .list xs => do
        let as ← parseAll c xs
        if h : as.length ≤ upper then .ok ⟨as, h⟩ else .error tooLong
    | _ => .error (.validationError "" "Input should be a valid list")
  toPy as := .list (as.val.map c.toPy)
  Instance v := ∀ xs, v = .list xs → ∀ x ∈ xs, c.Instance x
  instance_toPy as xs h x hx := by
    rw [← PyVal.list.inj h] at hx
    obtain ⟨a, _, rfl⟩ := List.mem_map.mp hx
    exact c.instance_toPy a
  parse_toPy as := by
    simp only [PyVal.modelDump, parseAll_toPy, ok_bind, dif_pos as.property]
  eq_toPy {v as} h hv := by
    cases v with
    | list xs =>
        simp only [PyVal.modelDump, bind_eq_ok] at h
        obtain ⟨items, hitems, h⟩ := h
        split_ifs at h with hle
        obtain rfl := Except.ok.inj h
        rw [eq_map_toPy hitems (hv xs rfl)]
    | _ => simp [PyVal.modelDump] at h
  isValueError {v e} h := by
    cases v with
    | list xs =>
        simp only [bind_eq_error] at h
        rcases h with h | ⟨as, _, h⟩
        · exact isValueError_of_parseAll h
        · split_ifs at h
          obtain rfl := Except.error.inj h
          rfl
    | _ =>
        obtain rfl := Except.error.inj h
        rfl

/-- The same values, read as another type. -/
def equiv (c : Codec α) (e : α ≃ β) : Codec β where
  parse v := (c.parse v).map e
  toPy b := c.toPy (e.symm b)
  Instance := c.Instance
  instance_toPy b := c.instance_toPy (e.symm b)
  parse_toPy b := by
    rw [c.parse_toPy, Except.map, e.apply_symm_apply]
  eq_toPy {v b} h hv := by
    cases hparse : c.parse v.modelDump with
    | error e' => simp [hparse, Except.map] at h
    | ok a =>
        rw [hparse] at h
        obtain rfl := Except.ok.inj h
        rw [e.symm_apply_apply]
        exact c.eq_toPy hparse hv
  isValueError {v err} h := by
    cases hparse : c.parse v with
    | error e' =>
        rw [hparse] at h
        obtain rfl := Except.error.inj h
        exact c.isValueError hparse
    | ok a => simp [hparse, Except.map] at h

@[simp] theorem equiv_parse_eq_ok {c : Codec α} {e : α ≃ β} {v : PyVal} {b : β} :
    (c.equiv e).parse v = .ok b ↔ c.parse v = .ok (e.symm b) := by
  simp only [equiv]
  cases c.parse v with
  | error e' => simp [Except.map]
  | ok a => simp [Except.map, Equiv.eq_symm_apply]

end Codec

/-! ## Models -/

/-- A dict gives each of a model's attributes its dump. -/
def Gives (d attributes : Dict) : Prop :=
  ∀ entry ∈ attributes, Dict.find? d entry.1 = some entry.2.modelDump

/-- The declared fields of a model, or some of them. -/
structure Fields (α : Type) where
  names : List Key
  /-- what validation reads from a raw dict -/
  parse : Dict → Except PyError α
  /-- the attributes that validation leaves, in their declared order -/
  attributes : α → Dict
  /-- attributes in their declared order, each an instance of its declared type -/
  Instance : Dict → Prop
  names_eq : ∀ {attrs}, Instance attrs → attrs.map Prod.fst = names
  instance_attributes : ∀ a, Instance (attributes a)
  parse_attributes : ∀ {d a}, Gives d (attributes a) → parse d = .ok a
  eq_attributes : ∀ {d attrs a}, parse d = .ok a → Gives d attrs → Instance attrs →
    attrs = attributes a
  isValueError : ∀ {d e}, parse d = .error e → e.isValueError = true

namespace Fields

variable {α β : Type}

/-- The class that declares the fields. -/
def cls (f : Fields α) (name : String) (frozen : Bool) : ModelClass where
  name
  fields := f.names
  frozen

theorem gives_append {d l r : Dict} : Gives d (l ++ r) ↔ Gives d l ∧ Gives d r :=
  List.forall_mem_append

theorem gives_singleton {d : Dict} {k : Key} {v : PyVal} :
    Gives d [(k, v)] ↔ Dict.find? d k = some v.modelDump :=
  List.forall_mem_singleton

/-- One field, with what stands for an absent one. -/
def single (name : String) (c : Codec α) (absent : Except PyError α)
    (habsent : ∀ {e}, absent = .error e → e.isValueError = true) : Fields α where
  names := [(name : Key)]
  parse d :=
    match Dict.find? d name with
    | some v => locate name (c.parse v)
    | none => absent
  attributes a := [(name, c.toPy a)]
  Instance attrs := ∃ v, attrs = [((name : Key), v)] ∧ c.Instance v
  names_eq := by
    rintro _ ⟨v, rfl, _⟩
    rfl
  instance_attributes a := ⟨c.toPy a, rfl, c.instance_toPy a⟩
  parse_attributes h := by
    rw [gives_singleton.mp h]
    exact locate_eq_ok.mpr (c.parse_toPy _)
  eq_attributes := by
    rintro d _ a h hgives ⟨v, rfl, hv⟩
    rw [gives_singleton.mp hgives] at h
    rw [c.eq_toPy (locate_eq_ok.mp h) hv]
  isValueError {d e} h := by
    cases hfind : Dict.find? d name with
    | none => exact habsent (by simpa [hfind] using h)
    | some v =>
        simp only [hfind] at h
        exact isValueError_of_locate c.isValueError h

/-- The error of a required field that is absent. -/
def missing (name : String) : PyError := .validationError name "Field required"

/-- A required field. -/
def required (name : String) (c : Codec α) : Fields α :=
  single name c (.error (missing name)) fun h => by
    rw [← Except.error.inj h]
    rfl

/-- A field with a default. -/
def optional (name : String) (c : Codec α) (default : α) : Fields α :=
  single name c (.ok default) fun h => by simp at h

/-- The fields of one group, then those of another. -/
def append (f : Fields α) (g : Fields β) : Fields (α × β) where
  names := f.names ++ g.names
  parse d := do
    let a ← f.parse d
    let b ← g.parse d
    return (a, b)
  attributes ab := f.attributes ab.1 ++ g.attributes ab.2
  Instance attrs := ∃ l r, attrs = l ++ r ∧ f.Instance l ∧ g.Instance r
  names_eq := by
    rintro _ ⟨l, r, rfl, hl, hr⟩
    rw [List.map_append, f.names_eq hl, g.names_eq hr]
  instance_attributes ab :=
    ⟨_, _, rfl, f.instance_attributes ab.1, g.instance_attributes ab.2⟩
  parse_attributes {d ab} h := by
    obtain ⟨hf, hg⟩ := gives_append.mp h
    rw [f.parse_attributes hf, ok_bind, g.parse_attributes hg]
    rfl
  eq_attributes := by
    rintro d _ ⟨a, b⟩ h hgives ⟨l, r, rfl, hl, hr⟩
    simp only [bind_eq_ok, pure_eq_ok, Except.ok.injEq, Prod.mk.injEq] at h
    obtain ⟨_, ha, _, hb, rfl, rfl⟩ := h
    obtain ⟨hgl, hgr⟩ := gives_append.mp hgives
    rw [f.eq_attributes ha hgl hl, g.eq_attributes hb hgr hr]
  isValueError {d e} h := by
    simp only [bind_eq_error, pure_eq_ok, reduceCtorEq, and_false, exists_false, or_false] at h
    rcases h with h | ⟨_, _, h⟩
    · exact f.isValueError h
    · exact g.isValueError h

/-- The same fields, read as a structure. -/
def equiv (f : Fields α) (e : α ≃ β) : Fields β where
  names := f.names
  parse d := (f.parse d).map e
  attributes b := f.attributes (e.symm b)
  Instance := f.Instance
  names_eq := f.names_eq
  instance_attributes b := f.instance_attributes (e.symm b)
  parse_attributes {d b} h := by
    rw [f.parse_attributes h, Except.map, e.apply_symm_apply]
  eq_attributes {d attrs b} h hgives hattrs := by
    cases hparse : f.parse d with
    | error e' => simp [hparse, Except.map] at h
    | ok a =>
        rw [hparse] at h
        obtain rfl := Except.ok.inj h
        rw [e.symm_apply_apply]
        exact f.eq_attributes hparse hgives hattrs
  isValueError {d err} h := by
    cases hparse : f.parse d with
    | error e' =>
        rw [hparse] at h
        obtain rfl := Except.error.inj h
        exact f.isValueError hparse
    | ok a => simp [hparse, Except.map] at h

@[simp] theorem required_parse_eq_ok {name : String} {c : Codec α} {d : Dict} {a : α} :
    (required name c).parse d = .ok a ↔ ∃ v, Dict.find? d name = some v ∧ c.parse v = .ok a := by
  simp only [required, single]
  cases Dict.find? d name <;> simp

@[simp] theorem optional_parse_eq_ok {name : String} {c : Codec α} {default : α} {d : Dict}
    {a : α} :
    (optional name c default).parse d = .ok a ↔
      (∃ v, Dict.find? d name = some v ∧ c.parse v = .ok a) ∨
        (Dict.find? d name = none ∧ default = a) := by
  simp only [optional, single]
  cases Dict.find? d name <;> simp

@[simp] theorem append_parse_eq_ok {f : Fields α} {g : Fields β} {d : Dict} {ab : α × β} :
    (f.append g).parse d = .ok ab ↔ f.parse d = .ok ab.1 ∧ g.parse d = .ok ab.2 := by
  obtain ⟨a, b⟩ := ab
  simp [append, bind_eq_ok]

@[simp] theorem equiv_parse_eq_ok {f : Fields α} {e : α ≃ β} {d : Dict} {b : β} :
    (f.equiv e).parse d = .ok b ↔ f.parse d = .ok (e.symm b) := by
  simp only [equiv]
  cases f.parse d with
  | error e' => simp [Except.map]
  | ok a => simp [Except.map, Equiv.eq_symm_apply]

/-- The dump of a model's attributes gives each of them. -/
theorem gives_dumpItems {f : Fields α} (hnodup : f.names.Nodup) {attrs : Dict}
    (h : f.Instance attrs) : Gives (PyVal.dumpItems attrs) attrs := by
  intro entry hentry
  have hfind : Dict.find? attrs entry.1 = some entry.2 :=
    Dict.find?_of_mem ((f.names_eq h).symm ▸ hnodup) hentry
  rw [PyVal.find?_dumpItems, hfind, Option.map_some]

/-- An instance of the fields has no attribute that is not declared. -/
theorem dumpFields_eq {f : Fields α} {attrs : Dict} (h : f.Instance attrs) :
    PyVal.dumpFields attrs f.names = PyVal.dumpItems attrs := by
  apply PyVal.dumpFields_of_declared
  intro entry hentry
  rw [← f.names_eq h]
  exact List.mem_map_of_mem hentry

/-- A dict with the names of the fields is closed. -/
theorem closed_dumpItems {f : Fields α} {attrs : Dict} (h : f.Instance attrs) :
    closed (PyVal.dumpItems attrs) f.names = .ok () := by
  rw [closed, raiseIf_eq_ok, Bool.not_eq_false', Dict.keys, PyVal.map_fst_dumpItems,
    f.names_eq h, List.all_eq_true]
  intro k hk
  exact decide_eq_true (List.mem_dedup.mp hk)

end Fields

namespace Codec

variable {α : Type}

/-- A closed model with a validator of its own, by the name of its class and whether its
instances are frozen. -/
def model (name : String) (frozen : Bool) (f : Fields α) (hnodup : f.names.Nodup)
    (check : α → Except PyError Unit)
    (hcheck : ∀ {a e}, check a = .error e → e.isValueError = true) :
    Codec {a : α // check a = .ok ()} where
  parse v :=
    match v with
    | .dict d => do
        closed d f.names
        let a ← f.parse d
        match h : validator (check a) with
        | .ok () => .ok ⟨a, validator_eq_ok.mp h⟩
        | .error e => .error e
    | _ => .error (.validationError "" "Input should be a valid dictionary")
  toPy a := .model (f.cls name frozen) (f.attributes a)
  Instance v := ∃ attrs, v = .model (f.cls name frozen) attrs ∧ f.Instance attrs
  instance_toPy a := ⟨_, rfl, f.instance_attributes a⟩
  parse_toPy a := by
    have hattrs := f.instance_attributes a.val
    have hparse := f.parse_attributes (Fields.gives_dumpItems hnodup hattrs)
    simp only [PyVal.modelDump, Fields.cls, Fields.dumpFields_eq hattrs,
      Fields.closed_dumpItems hattrs, ok_bind, hparse]
    split
    · rfl
    · rename_i e he
      rw [validator_eq_ok.mpr a.property] at he
      simp at he
  eq_toPy := by
    rintro _ ⟨a, ha⟩ h ⟨attrs, rfl, hattrs⟩
    simp only [PyVal.modelDump, Fields.cls, Fields.dumpFields_eq hattrs, bind_eq_ok] at h
    obtain ⟨_, _, b, hparse, h⟩ := h
    split at h
    · obtain rfl := congrArg Subtype.val (Except.ok.inj h)
      rw [f.eq_attributes hparse (Fields.gives_dumpItems hnodup hattrs) hattrs]
    · simp at h
  isValueError {v e} h := by
    cases v with
    | dict d =>
        simp only [bind_eq_error] at h
        rcases h with h | ⟨_, _, h | ⟨a, _, h⟩⟩
        · exact isValueError_of_closed h
        · exact f.isValueError h
        · split at h
          · simp at h
          · rename_i he
            obtain rfl := Except.error.inj h
            exact isValueError_of_validator (fun _ => hcheck) he
    | _ =>
        obtain rfl := Except.error.inj h
        rfl

/-- A model is read from a closed dict whose fields pass, and its own validator. -/
theorem model_parse_eq_ok {name : String} {frozen : Bool} {f : Fields α} {hnodup : f.names.Nodup}
    {check : α → Except PyError Unit}
    (hcheck : ∀ {a e}, check a = .error e → e.isValueError = true) {v : PyVal}
    {a : {a : α // check a = .ok ()}} :
    (model name frozen f hnodup check hcheck).parse v = .ok a ↔
      ∃ d, v = .dict d ∧ closed d f.names = .ok () ∧ f.parse d = .ok a.val := by
  constructor
  · intro h
    cases v with
    | dict d =>
        simp only [model, bind_eq_ok] at h
        obtain ⟨_, hclosed, b, hparse, h⟩ := h
        split at h
        · obtain rfl := congrArg Subtype.val (Except.ok.inj h)
          exact ⟨d, rfl, hclosed, hparse⟩
        · simp at h
    | _ => simp [model] at h
  · rintro ⟨d, rfl, hclosed, hparse⟩
    simp only [model, hclosed, hparse, ok_bind]
    split
    · rfl
    · rename_i he
      rw [validator_eq_ok.mpr a.property] at he
      simp at he

/-- The validator of a model that has none. -/
def noCheck (_ : α) : Except PyError Unit := .ok ()

theorem isValueError_of_noCheck {a : α} {e : PyError} (h : noCheck a = .error e) :
    e.isValueError = true := by
  simp [noCheck] at h

/-- No model is read from `None`. -/
theorem model_ne_none {name : String} {frozen : Bool} {f : Fields α} {hnodup : f.names.Nodup}
    {check : α → Except PyError Unit}
    (hcheck : ∀ {a e}, check a = .error e → e.isValueError = true)
    (a : {a : α // check a = .ok ()}) :
    (model name frozen f hnodup check hcheck).parse .none ≠ .ok a := by
  rw [ne_eq, model_parse_eq_ok]
  simp

/-- What a model without a validator holds. -/
def unchecked : {a : α // noCheck a = .ok ()} ≃ α where
  toFun a := a.val
  invFun a := ⟨a, rfl⟩
  left_inv _ := rfl
  right_inv _ := rfl

/-- A closed model without a validator of its own. -/
def closedModel (name : String) (frozen : Bool) (f : Fields α) (hnodup : f.names.Nodup) :
    Codec α :=
  (model name frozen f hnodup noCheck isValueError_of_noCheck).equiv unchecked

/-- A model without a validator is read from a closed dict whose fields pass. -/
theorem closedModel_parse_eq_ok {name : String} {frozen : Bool} {f : Fields α} {hnodup : f.names.Nodup}
    {v : PyVal} {a : α} :
    (closedModel name frozen f hnodup).parse v = .ok a ↔
      ∃ d, v = .dict d ∧ closed d f.names = .ok () ∧ f.parse d = .ok a := by
  rw [closedModel, equiv_parse_eq_ok]
  exact model_parse_eq_ok isValueError_of_noCheck

end Codec

end Pydantic

end ResponseEngine.Python
