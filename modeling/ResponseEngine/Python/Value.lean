/-
  Python/Value.lean --- the Python values the engine reads.

  Everything that crosses the package's boundary is untrusted and loosely typed:
  an alert, a recommendation, an endpoint context, a command envelope.  `PyVal` is
  the type of such values.  A dict is kept as its entries in insertion order; a
  lookup takes the first entry with the key, so every list of entries is some
  dict.
-/
import ResponseEngine.Foundation.Text
import ResponseEngine.Python.DateTime

set_option autoImplicit false

namespace ResponseEngine.Python

open ResponseEngine.Foundation

/-- A dict key: a string, or some other hashable object. -/
inductive Key where
  | str (s : Text)
  | other (id : Nat)
  deriving DecidableEq

instance : Coe Text Key := ⟨.str⟩
instance : Coe String Key := ⟨fun s => .str s⟩

/-- A pydantic model class. -/
structure ModelClass where
  name : Text
  /-- the declared fields -/
  fields : List Key
  /-- instances cannot be assigned to, and can be hashed -/
  frozen : Bool
  deriving DecidableEq

/-- A Python value. -/
inductive PyVal where
  | none
  | bool (b : Bool)
  | int (n : Int)
  | float (x : Double)
  | str (s : Text)
  | bytes (b : List UInt8)
  | datetime (d : DateTime)
  | list (xs : List PyVal)
  | tuple (xs : List PyVal)
  | dict (items : List (Key × PyVal))
  /-- a `Mapping` that is not a `dict` -/
  | mapping (items : List (Key × PyVal))
  /-- an instance of a pydantic model, by its class and whatever attributes it has -/
  | model (cls : ModelClass) (attributes : List (Key × PyVal))
  /-- any other object -/
  | object (id : Nat)

/-- The entries of a dict. -/
abbrev Dict := List (Key × PyVal)

namespace Dict

/-- The value at a key, if the key is present. -/
def find? (d : Dict) (k : Key) : Option PyVal := d.lookup k

/-- `d.get(k)`. -/
def get (d : Dict) (k : Key) : PyVal := (find? d k).getD .none

/-- `d.get(k, default)`. -/
def getD (d : Dict) (k : Key) (default : PyVal) : PyVal := (find? d k).getD default

/-- `k in d`. -/
def contains (d : Dict) (k : Key) : Bool := (find? d k).isSome

/-- `d.keys()`, as a list without repetitions. -/
def keys (d : Dict) : List Key := (d.map Prod.fst).dedup

/-- `set(d) == {...}`. -/
def hasExactly (d : Dict) (names : List Key) : Bool :=
  (keys d).all (· ∈ names) && names.all (contains d)

/-- `{**d, **e}`. -/
def update (d e : Dict) : Dict :=
  d.map (fun entry => (entry.1, (find? e entry.1).getD entry.2)) ++
    e.filter fun entry => !contains d entry.1

/-- `d.pop(k, None)`: what it leaves. -/
def pop (d : Dict) (k : Key) : Dict := d.filter fun entry => decide (entry.1 ≠ k)

/-- Two dicts with the same value, or none, at every key. -/
def Same (d e : Dict) : Prop := ∀ k, find? d k = find? e k

@[simp] theorem find?_nil (k : Key) : find? [] k = none := rfl

@[simp] theorem find?_cons (k k' : Key) (v : PyVal) (d : Dict) :
    find? ((k', v) :: d) k = if k = k' then some v else find? d k := by
  simp only [find?, List.lookup_cons]
  by_cases h : k = k'
  · simp [h]
  · simp [h, beq_eq_false_iff_ne.mpr h]

@[simp] theorem get_nil (k : Key) : get [] k = .none := rfl

@[simp] theorem get_cons (k k' : Key) (v : PyVal) (d : Dict) :
    get ((k', v) :: d) k = if k = k' then v else get d k := by
  simp only [get, find?_cons]
  split <;> rfl

theorem get_of_find? {d : Dict} {k : Key} {v : PyVal} (h : find? d k = some v) : get d k = v := by
  simp [get, h]

theorem contains_iff {d : Dict} {k : Key} : contains d k = true ↔ ∃ v, find? d k = some v :=
  Option.isSome_iff_exists

theorem mem_keys_iff {d : Dict} {k : Key} : k ∈ keys d ↔ contains d k = true := by
  rw [keys, List.mem_dedup]
  induction d with
  | nil => simp [contains]
  | cons entry d ih =>
      obtain ⟨k', v⟩ := entry
      simp only [List.map_cons, List.mem_cons, ih, contains, find?_cons]
      split <;> simp_all

/-- A dict has exactly the given keys when those keys are the ones it has a value at. -/
theorem hasExactly_iff {d : Dict} {names : List Key} :
    hasExactly d names = true ↔ ∀ k, contains d k = true ↔ k ∈ names := by
  simp only [hasExactly, Bool.and_eq_true, List.all_eq_true, decide_eq_true_eq, mem_keys_iff]
  constructor
  · rintro ⟨hsub, hsup⟩ k
    exact ⟨hsub k, hsup k⟩
  · intro h
    exact ⟨fun k hk => (h k).mp hk, fun k hk => (h k).mpr hk⟩

/-- A key outside the entries has no value. -/
theorem mem_map_fst_iff {d : Dict} {k : Key} : k ∈ d.map Prod.fst ↔ contains d k = true := by
  rw [← mem_keys_iff, keys, List.mem_dedup]

/-- What holds of the keys of a dict depends on its lookups only. -/
theorem all_keys_iff {d : Dict} {p : Key → Bool} :
    (keys d).all p = true ↔ ∀ k, contains d k = true → p k = true := by
  simp only [List.all_eq_true, mem_keys_iff]

/-- Entries selected by their key keep their values. -/
theorem find?_filter {d : Dict} {p : Key → Bool} {k : Key} :
    find? (d.filter fun entry => p entry.1) k = if p k then find? d k else none := by
  induction d with
  | nil => simp
  | cons entry d ih =>
      obtain ⟨k', v⟩ := entry
      by_cases hp : p k'
      · simp only [List.filter_cons, hp, if_true, find?_cons, ih]
        by_cases hk : k = k'
        · subst hk
          simp [hp]
        · simp [hk]
      · simp only [List.filter_cons, hp, Bool.false_eq_true, if_false, find?_cons, ih]
        by_cases hk : k = k'
        · subst hk
          simp [hp]
        · simp [hk]

theorem find?_pop {d : Dict} {k k' : Key} :
    find? (pop d k) k' = if k' = k then none else find? d k' := by
  have hfilter := find?_filter (d := d) (p := fun key => decide (key ≠ k)) (k := k')
  rw [pop, hfilter]
  by_cases hk : k' = k
  · simp [hk]
  · simp [hk]

/-- Among distinct keys, an entry's key finds the entry's value. -/
theorem find?_of_mem {d : Dict} (hnodup : (d.map Prod.fst).Nodup) {entry : Key × PyVal}
    (hentry : entry ∈ d) : find? d entry.1 = some entry.2 := by
  induction d with
  | nil => simp at hentry
  | cons head d ih =>
      obtain ⟨k, v⟩ := head
      rw [List.map_cons, List.nodup_cons] at hnodup
      rw [find?_cons]
      rcases List.mem_cons.mp hentry with rfl | htail
      · rw [if_pos rfl]
      · have hne : entry.1 ≠ k := by
          intro heq
          exact hnodup.1 (List.mem_map.mpr ⟨entry, htail, heq⟩)
        rw [if_neg hne]
        exact ih hnodup.2 htail

/-- A dict whose keys are those of `e` and that agrees with `e` at them is the same
dict. -/
theorem same_of_hasExactly {d e : Dict} (hkeys : hasExactly d (e.map Prod.fst) = true)
    (hvalues : ∀ entry ∈ e, find? d entry.1 = find? e entry.1) : Same d e := by
  intro k
  by_cases hk : k ∈ e.map Prod.fst
  · obtain ⟨entry, hentry, rfl⟩ := List.mem_map.mp hk
    exact hvalues entry hentry
  · have hd : ¬ contains d k = true := fun h => hk ((hasExactly_iff.mp hkeys k).mp h)
    have he : ¬ contains e k = true := fun h => hk (mem_map_fst_iff.mpr h)
    simp only [contains, Option.not_isSome_iff_eq_none] at hd he
    rw [hd, he]

theorem Same.hasExactly {d e : Dict} (h : Same d e) : hasExactly d (e.map Prod.fst) = true := by
  refine hasExactly_iff.mpr fun k => ?_
  rw [mem_map_fst_iff, contains, contains, h k]

theorem Same.contains {d e : Dict} (h : Same d e) (k : Key) : contains d k = contains e k := by
  rw [Dict.contains, Dict.contains, h k]

theorem Same.refl (d : Dict) : Same d d := fun _ => rfl

theorem Same.symm {d e : Dict} (h : Same d e) : Same e d := fun k => (h k).symm

theorem Same.trans {c d e : Dict} (h₁ : Same c d) (h₂ : Same d e) : Same c e := fun k =>
  (h₁ k).trans (h₂ k)

end Dict

namespace PyVal

/-- `bool(v)`. -/
def truthy : PyVal → Bool
  | .none => false
  | .bool b => b
  | .int n => n != 0
  | .float x => !x.eq (.finite 0)
  | .str s => !s.isEmpty
  | .bytes b => !b.isEmpty
  | .list xs => !xs.isEmpty
  | .tuple xs => !xs.isEmpty
  | .dict items => !items.isEmpty
  | .mapping items => !items.isEmpty
  | .datetime _ => true
  | .model _ _ => true
  | .object _ => true

/-- `v is None`. -/
def isNone : PyVal → Bool
  | .none => true
  | _ => false

/-- The entries of a `Mapping`. -/
def asMapping? : PyVal → Option Dict
  | .dict items => some items
  | .mapping items => some items
  | _ => Option.none

/-- The entries of a `Mapping`; none of any other value. -/
def entries (v : PyVal) : Dict := v.asMapping?.getD []

/-- The entries of a `dict`. -/
def asDict? : PyVal → Option Dict
  | .dict items => some items
  | _ => Option.none

/-- The value at a key of a dict; `None` where there is none. -/
def field (v : PyVal) (k : Key) : PyVal :=
  match v with
  | .dict items => Dict.get items k
  | _ => .none

@[simp] theorem field_dict (items : Dict) (k : Key) : (dict items).field k = Dict.get items k := rfl

/-- The number that a bool, an int or a float compares as. -/
def number? : PyVal → Option Double
  | .bool b => some (.finite (if b then 1 else 0))
  | .int n => some (.finite n)
  | .float x => some x
  | _ => Option.none

/-! ## Equality

`==` compares numbers across types (`True == 1 == 1.0`), sequences by position,
mappings by key and instances of one model by their declared fields; two opaque objects
are equal when they are the same object. -/

/-- A number equals a value that is a number and compares equal. -/
def numberEq (x : Double) (v : PyVal) : Bool :=
  match v.number? with
  | some y => x.eq y
  | Option.none => false

mutual

/-- `a == b`. -/
def pyEq : PyVal → PyVal → Bool
  | .none, .none => true
  | .str s, .str t => s == t
  | .bytes a, .bytes b => a == b
  | .datetime d, .datetime e => d.pyEq e
  | .list xs, .list ys => pyEqAll xs ys
  | .tuple xs, .tuple ys => pyEqAll xs ys
  | .dict d, .dict e => (Dict.keys d).length == (Dict.keys e).length && pyEqItems d e
  | .dict d, .mapping e => (Dict.keys d).length == (Dict.keys e).length && pyEqItems d e
  | .mapping d, .dict e => (Dict.keys d).length == (Dict.keys e).length && pyEqItems d e
  | .mapping d, .mapping e => (Dict.keys d).length == (Dict.keys e).length && pyEqItems d e
  | .model c d, .model c' e =>
      c == c' && (c.fields.all fun k => Dict.contains d k == Dict.contains e k) &&
        pyEqFields d e c.fields
  | .object i, .object j => i == j
  | .bool b, v => numberEq (.finite (if b then 1 else 0)) v
  | .int n, v => numberEq (.finite n) v
  | .float x, v => numberEq x v
  | _, _ => false
termination_by structural v => v

/-- Sequences of equal elements. -/
def pyEqAll : List PyVal → List PyVal → Bool
  | [], [] => true
  | x :: xs, y :: ys => pyEq x y && pyEqAll xs ys
  | _, _ => false

/-- Every entry of the first dict has an equal one in the second. -/
def pyEqItems : List (Key × PyVal) → List (Key × PyVal) → Bool
  | [], _ => true
  | (k, v) :: rest, e =>
      (match e.lookup k with
        | some w => pyEq v w
        | Option.none => false) && pyEqItems rest e

/-- Every entry of the first dict that is a field has an equal one in the second. -/
def pyEqFields : List (Key × PyVal) → List (Key × PyVal) → List Key → Bool
  | [], _, _ => true
  | (k, v) :: rest, e, fields =>
      (decide (k ∉ fields) ||
        match e.lookup k with
        | some w => pyEq v w
        | Option.none => false) && pyEqFields rest e fields

end

theorem isNone_iff {v : PyVal} : v.isNone = true ↔ v = .none := by
  cases v <;> simp [isNone]

theorem isNone_eq_false_iff {v : PyVal} : v.isNone = false ↔ v ≠ .none := by
  cases v <;> simp [isNone]

/-- Only a string equals a string, and only itself. -/
theorem pyEq_str {v : PyVal} {t : Text} : v.pyEq (.str t) = true ↔ v = .str t := by
  cases v <;> simp [pyEq, numberEq, number?]

@[simp] theorem pyEq_str_self (t : Text) : (PyVal.str t).pyEq (.str t) = true := pyEq_str.mpr rfl

@[simp] theorem pyEq_int_self (n : Int) : (PyVal.int n).pyEq (.int n) = true := by
  simp [pyEq, numberEq, number?, Double.eq]

/-- Entries that are looked up in a dict and compare equal there. -/
theorem pyEqItems_of_forall {d e : Dict}
    (h : ∀ entry ∈ d, ∃ w, Dict.find? e entry.1 = some w ∧ entry.2.pyEq w = true) :
    pyEqItems d e = true := by
  induction d with
  | nil => rfl
  | cons entry d ih =>
      obtain ⟨k, v⟩ := entry
      obtain ⟨⟨w, hw, hv⟩, hrest⟩ := List.forall_mem_cons.mp h
      have hlookup : e.lookup k = some w := hw
      simp [pyEqItems, hlookup, hv, ih hrest]

/-- A dict with distinct keys equals itself when its values do. -/
theorem pyEq_dict_self {d : Dict} (hnodup : (d.map Prod.fst).Nodup)
    (h : ∀ entry ∈ d, entry.2.pyEq entry.2 = true) : (PyVal.dict d).pyEq (.dict d) = true := by
  have hitems : pyEqItems d d = true := pyEqItems_of_forall fun entry hentry =>
    ⟨entry.2, Dict.find?_of_mem hnodup hentry, h entry hentry⟩
  simp [pyEq, hitems]

/-- A dict that equals another has an equal value at each of its keys. -/
theorem find?_of_pyEqItems {d e : Dict} (h : pyEqItems d e = true) {k : Key} {v : PyVal}
    (hv : Dict.find? d k = some v) : ∃ w, Dict.find? e k = some w ∧ v.pyEq w = true := by
  induction d with
  | nil => simp at hv
  | cons entry d ih =>
      obtain ⟨k', v'⟩ := entry
      simp only [pyEqItems, Bool.and_eq_true] at h
      rw [Dict.find?_cons] at hv
      split at hv
      · rename_i hk
        subst hk
        obtain rfl : v' = v := by simpa using hv
        cases hw : e.lookup k with
        | none => simp [hw] at h
        | some w => exact ⟨w, hw, by simpa [hw] using h.1⟩
      · exact ih h.2 hv

/-- Equal dicts have the same keys: each entry of the right one is matched by the
left one. -/
theorem find?_of_pyEq_dict {d e : Dict} (h : (PyVal.dict d).pyEq (.dict e) = true) {k : Key}
    {w : PyVal} (hw : Dict.find? e k = some w) :
    ∃ v, Dict.find? d k = some v ∧ v.pyEq w = true := by
  simp only [pyEq, Bool.and_eq_true, beq_iff_eq] at h
  obtain ⟨hlength, hitems⟩ := h
  have hsub : Dict.keys d ⊆ Dict.keys e := by
    intro k' hk'
    obtain ⟨v, hv⟩ := Dict.contains_iff.mp (Dict.mem_keys_iff.mp hk')
    obtain ⟨w', hw', _⟩ := find?_of_pyEqItems hitems hv
    exact Dict.mem_keys_iff.mpr (Dict.contains_iff.mpr ⟨w', hw'⟩)
  -- Equally many distinct keys, one set inside the other: the sets are the same.
  have hperm : (Dict.keys d).Perm (Dict.keys e) :=
    ((List.nodup_dedup _).subperm hsub).perm_of_length_le hlength.ge
  have hk : k ∈ Dict.keys d :=
    hperm.mem_iff.mpr (Dict.mem_keys_iff.mpr (Dict.contains_iff.mpr ⟨w, hw⟩))
  obtain ⟨v, hv⟩ := Dict.contains_iff.mp (Dict.mem_keys_iff.mp hk)
  obtain ⟨w', hw', hvw⟩ := find?_of_pyEqItems hitems hv
  obtain rfl : w = w' := Option.some.inj (hw.symm.trans hw')
  exact ⟨v, hv, hvw⟩

/-! ## Hashing -/

mutual

/-- Whether `hash(v)` is defined.  A mapping and an instance of a model that is not frozen
compare by their contents and define none; a frozen instance hashes its declared fields. -/
def hashable : PyVal → Bool
  | .list _ => false
  | .dict _ => false
  | .mapping _ => false
  | .model cls attributes => cls.frozen && fieldsHashable attributes cls.fields
  | .tuple xs => allHashable xs
  | _ => true

/-- Every element is hashable. -/
def allHashable : List PyVal → Bool
  | [] => true
  | x :: xs => hashable x && allHashable xs

/-- Every declared field is hashable. -/
def fieldsHashable : List (Key × PyVal) → List Key → Bool
  | [], _ => true
  | (k, v) :: attributes, fields =>
      (decide (k ∉ fields) || hashable v) && fieldsHashable attributes fields

end

end PyVal

end ResponseEngine.Python
