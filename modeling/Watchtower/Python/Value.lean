import Watchtower.Core.Machine
import Watchtower.Python.Number

/-!
# Python values

The values `json.loads` produces and `json.dumps` consumes, and the exceptions the modelled code
raises.

Trees are one family indexed by what they are a tree of (a value, the items of a list, the
entries of a dict), so that every function over them is a plain structural recursion.

* `PyTree.eq` — Python's `==`: numbers compare by value across `bool`, `int` and `float`, dicts
  regardless of insertion order, and NaN is equal to nothing.
* `PyTree.serializable` — whether `json.dumps(v, allow_nan=False)` returns.
* `PyExc` — exceptions, each below `Exception`.
-/

namespace Py

/-! ## Trees -/

/-- A dict key.  A key of any other type is an `object`, which JSON cannot encode. -/
inductive PyKey
  | none
  | bool (b : Bool)
  | int (n : ℤ)
  | float (x : PyFloat)
  | str (s : PyStr)
  | object (id : ℕ)
  deriving DecidableEq

/-- What a tree is a tree of. -/
inductive PyIx
  | val
  | items
  | entries

/-- Python values, list bodies and dict bodies. -/
inductive PyTree : PyIx → Type
  | none : PyTree .val
  | bool (b : Bool) : PyTree .val
  | int (n : ℤ) : PyTree .val
  | float (x : PyFloat) : PyTree .val
  | str (s : PyStr) : PyTree .val
  | list (items : PyTree .items) : PyTree .val
  | dict (entries : PyTree .entries) : PyTree .val
  /-- Any object `json.dumps` has no encoding for. -/
  | object (id : ℕ) : PyTree .val
  | nil : PyTree .items
  | cons (v : PyTree .val) (rest : PyTree .items) : PyTree .items
  | empty : PyTree .entries
  | entry (k : PyKey) (v : PyTree .val) (rest : PyTree .entries) : PyTree .entries
  deriving DecidableEq

/-- A Python value. -/
abbrev PyVal := PyTree .val

/-- The body of a dict. -/
abbrev PyEntries := PyTree .entries

/-! ## Equality -/

/-- A number as an extended rational; NaN and everything that is not a number has none. -/
def toNumber : PyVal → Option (ℚ ⊕ Bool)
  | .bool b => some (.inl (if b then 1 else 0))
  | .int n => some (.inl n)
  | .float (.finite q) => some (.inl q.val)
  | .float (.inf negative) => some (.inr negative)
  | _ => Option.none

/-- Equality of numbers across types. -/
def numberEq (v w : PyVal) : Bool :=
  match toNumber v, toNumber w with
  | some x, some y => x == y
  | _, _ => false

/-- A key as a value. -/
def PyKey.toVal : PyKey → PyVal
  | .none => .none
  | .bool b => .bool b
  | .int n => .int n
  | .float x => .float x
  | .str s => .str s
  | .object id => .object id

/-- Two keys name the same slot: `1`, `1.0` and `True` do. -/
def PyKey.same (j k : PyKey) : Bool := j == k || numberEq j.toVal k.toVal

namespace PyTree

/-- Number of entries. -/
def size : PyEntries → ℕ
  | .empty => 0
  | .entry _ _ rest => size rest + 1

/-- `d.get(k)`. -/
def lookup (k : PyKey) : PyEntries → Option PyVal
  | .empty => Option.none
  | .entry j v rest => if j.same k then some v else lookup k rest

/-- Python's `==`.  On dict bodies it says that every entry of the first has an equal one in the
second. -/
def eq : {i : PyIx} → PyTree i → PyTree i → Bool
  | _, .none, w => match w with | .none => true | _ => false
  | _, .bool b, w => numberEq (.bool b) w
  | _, .int n, w => numberEq (.int n) w
  | _, .float x, w => numberEq (.float x) w
  | _, .str s, w => match w with | .str t => s == t | _ => false
  | _, .list xs, w => match w with | .list ys => eq xs ys | _ => false
  | _, .dict xs, w => match w with | .dict ys => xs.size == ys.size && eq xs ys | _ => false
  | _, .object m, w => match w with | .object n => m == n | _ => false
  | _, .nil, ws => match ws with | .nil => true | .cons _ _ => false
  | _, .cons v vs, ws => match ws with | .nil => false | .cons w ws => eq v w && eq vs ws
  | _, .empty, _ => true
  | _, .entry k v rest, ys =>
      (match ys.lookup k with | some w => eq v w | Option.none => false) && eq rest ys

/-! ## Serialization -/

/-- `json.dumps` accepts the key: keys of scalar type, finite when they are floats. -/
def keySerializable : PyKey → Bool
  | .float (.finite _) => true
  | .float _ => false
  | .object _ => false
  | _ => true

/-- `json.dumps(v, allow_nan=False)` returns instead of raising. -/
def serializable : {i : PyIx} → PyTree i → Bool
  | _, .float (.finite _) => true
  | _, .float _ => false
  | _, .object _ => false
  | _, .list xs => serializable xs
  | _, .dict kvs => serializable kvs
  | _, .cons v vs => serializable v && serializable vs
  | _, .entry k v rest => keySerializable k && serializable v && serializable rest
  | _, _ => true

@[simp] lemma serializable_none : serializable .none = true := rfl

@[simp] lemma serializable_bool (b : Bool) : serializable (.bool b) = true := rfl

@[simp] lemma serializable_int (n : ℤ) : serializable (.int n) = true := rfl

@[simp] lemma serializable_finite (q : FiniteFloat) :
    serializable (.float (.finite q)) = true := rfl

@[simp] lemma serializable_inf (negative : Bool) :
    serializable (.float (.inf negative)) = false := rfl

@[simp] lemma serializable_nan : serializable (.float .nan) = false := rfl

@[simp] lemma serializable_str (s : PyStr) : serializable (.str s) = true := rfl

@[simp] lemma serializable_dict (d : PyEntries) : serializable (.dict d) = serializable d := rfl

/-- A dict body with string keys, from a list of pairs. -/
def entries : List (PyStr × PyVal) → PyEntries
  | [] => .empty
  | (k, v) :: rest => .entry (.str k) v (entries rest)

/-- Looking a string up in a dict built from string keys. -/
lemma lookup_entries_cons (k j : PyStr) (v : PyVal) (rest : List (PyStr × PyVal)) :
    lookup (.str k) (entries ((j, v) :: rest))
      = if j = k then some v else lookup (.str k) (entries rest) := by
  have hsame : PyKey.same (.str j) (.str k) = decide (j = k) := by
    rw [Bool.eq_iff_iff]
    simp [PyKey.same, PyKey.toVal, numberEq, toNumber]
  simp only [entries, lookup, hsame, decide_eq_true_eq]

/-- A dict built from string keys serializes exactly when its values do. -/
lemma serializable_entries (kvs : List (PyStr × PyVal)) :
    serializable (entries kvs) = kvs.all fun kv => serializable kv.2 := by
  induction kvs with
  | nil => simp only [entries, serializable, List.all_nil]
  | cons kv kvs ih =>
      obtain ⟨k, v⟩ := kv
      simp only [entries, serializable, keySerializable, ih, Bool.true_and, List.all_cons]

end PyTree

/-- A dict that `json.dumps` accepts. -/
abbrev JsonDict := { d : PyEntries // d.serializable = true }

/-! ## Exceptions -/

/-- An exception, with its text. -/
inductive PyExc
  | valueError (text : String)
  /-- A `ValueError` whose text ends with the `repr` of a value. -/
  | valueErrorRepr (text : String) (v : PyVal)
  | jsonDecodeError
  | unicodeEncodeError
  | typeError (text : String)
  | attributeError
  | overflowError
  | recursionError
  | osError (text : String)
  | runtimeError (text : String)
  /-- A `RuntimeError` whose text holds the `repr` of a value. -/
  | runtimeErrorRepr (before : String) (v : PyVal) (after : String)
  | redisConnectionError
  | redisTimeoutError
  /-- Any other error of the Redis client. -/
  | redisError (text : String)
  deriving DecidableEq

end Py
