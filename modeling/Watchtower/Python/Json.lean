import Watchtower.Python.Value
import Mathlib.Data.List.Lex

/-!
# Writing values

`json.dumps(..., sort_keys=True)` writes the entries of every dict in the order of their keys, and
`json.loads` builds its dicts in the order of the text.

* `PyTree.stringKeyed` — every dict has string keys, no two of them the same: what `json.loads`
  produces.
* `PyTree.sortKeys` — a value with the entries of every dict in the order of their keys.
* **`PyTree.eq_sortKeys`** — to Python it is the same value.
* **`PyTree.sortKeys_sortKeys`** — what is in order stays as it is.
* `PyTree.frames`, `PyTree.asdictCopy` — the copy `asdict` makes, and the depth of its calls.
* `JsonValue`, `Inverts` — the values the `json` module is relied on for, and how.
-/

namespace Py

namespace PyTree

/-- Every dict in the tree has string keys, and no key twice. -/
def stringKeyed : {i : PyIx} → PyTree i → Bool
  | _, .list xs => stringKeyed xs
  | _, .dict d => stringKeyed d
  | _, .cons v vs => stringKeyed v && stringKeyed vs
  | _, .entry (.str k) v rest =>
      (lookup (.str k) rest).isNone && stringKeyed v && stringKeyed rest
  | _, .entry _ _ _ => false
  | _, _ => true

/-- The order of the keys.  Keys that are not strings do not occur in JSON. -/
def keyLe : PyKey → PyKey → Bool
  | .str s, .str t => decide (s ≤ t)
  | _, _ => true

/-- An entry in its place in a sorted dict. -/
def insertEntry (k : PyKey) (v : PyVal) : PyEntries → PyEntries
  | .empty => .entry k v .empty
  | .entry j w rest =>
      if keyLe k j then .entry k v (.entry j w rest) else .entry j w (insertEntry k v rest)

/-- The value with the entries of every dict in order. -/
def sortKeys : {i : PyIx} → PyTree i → PyTree i
  | _, .list xs => .list (sortKeys xs)
  | _, .dict d => .dict (sortKeys d)
  | _, .cons v vs => .cons (sortKeys v) (sortKeys vs)
  | _, .entry k v rest => insertEntry k (sortKeys v) (sortKeys rest)
  | _, v => v

/-! ## The same entries -/

attribute [local simp] stringKeyed keyLe insertEntry sortKeys size lookup

lemma same_str (j k : PyStr) : PyKey.same (.str j) (.str k) = decide (j = k) := by
  rw [Bool.eq_iff_iff]
  simp [PyKey.same, PyKey.toVal, numberEq, toNumber]

lemma lookup_entry_str (j k : PyStr) (v : PyVal) (rest : PyEntries) :
    lookup (.str k) (.entry (.str j) v rest) = if j = k then some v else lookup (.str k) rest := by
  simp only [lookup, same_str, decide_eq_true_eq]

/-- The conditions on an entry. -/
lemma stringKeyed_entry {k : PyKey} {v : PyVal} {rest : PyEntries}
    (h : stringKeyed (.entry k v rest) = true) :
    ∃ s, k = .str s ∧ lookup (.str s) rest = Option.none ∧ stringKeyed v = true ∧
      stringKeyed rest = true := by
  cases k with
  | str s =>
      simp only [stringKeyed, Bool.and_eq_true, Option.isNone_iff_eq_none] at h
      exact ⟨s, rfl, h.1.1, h.1.2, h.2⟩
  | none => simp [stringKeyed] at h
  | bool b => simp [stringKeyed] at h
  | int n => simp [stringKeyed] at h
  | float x => simp [stringKeyed] at h
  | object id => simp [stringKeyed] at h

lemma size_insertEntry (k : PyKey) (v : PyVal) (d : PyEntries) :
    size (insertEntry k v d) = size d + 1 := by
  induction d using size.induct with
  | case1 => simp only [insertEntry, size]
  | case2 j w rest ih =>
      simp only [insertEntry]
      split_ifs
      · simp only [size]
      · simp only [size, ih]

/-- An insertion is found, and hides nothing. -/
lemma lookup_insertEntry {k : PyStr} (v : PyVal) {d : PyEntries} (hd : stringKeyed d = true)
    (hk : lookup (.str k) d = Option.none) (a : PyStr) :
    lookup (.str a) (insertEntry (.str k) v d)
      = if k = a then some v else lookup (.str a) d := by
  induction d using size.induct with
  | case1 => simp only [insertEntry, lookup_entry_str]
  | case2 j w rest ih =>
      obtain ⟨j, rfl, -, -, hrest⟩ := stringKeyed_entry hd
      rw [lookup_entry_str] at hk
      split_ifs at hk with hjk
      simp only [insertEntry]
      split_ifs with hle hka hka
      · rw [lookup_entry_str, if_pos hka]
      · rw [lookup_entry_str, if_neg hka]
      · rw [lookup_entry_str, if_neg (hka ▸ hjk), ih hrest hk, if_pos hka]
      · rw [lookup_entry_str, lookup_entry_str, ih hrest hk, if_neg hka]

lemma stringKeyed_insertEntry {k : PyStr} {v : PyVal} {d : PyEntries} (hv : stringKeyed v = true)
    (hd : stringKeyed d = true) (hk : lookup (.str k) d = Option.none) :
    stringKeyed (insertEntry (.str k) v d) = true := by
  induction d using size.induct with
  | case1 => simp [insertEntry, stringKeyed, lookup, hv]
  | case2 j w rest ih =>
      obtain ⟨j, rfl, hj, hw, hrest⟩ := stringKeyed_entry hd
      rw [lookup_entry_str] at hk
      split_ifs at hk with hjk
      simp only [insertEntry]
      split_ifs with hle
      · simp only [stringKeyed, lookup_entry_str, if_neg hjk, hk, hv, hj, hw, hrest,
          Option.isNone_none, Bool.and_self]
      · simp only [stringKeyed, lookup_insertEntry v hrest hk, if_neg (Ne.symm hjk), hj, hw,
          ih hrest hk, Option.isNone_none, Bool.and_self]

/-- Sorting keeps the keys, and sorts each value. -/
lemma sortKeys_spec {i : PyIx} (v : PyTree i) (h : stringKeyed v = true) :
    stringKeyed (sortKeys v) = true ∧
      match i, v with
      | .entries, d => ∀ a, lookup (.str a) (sortKeys d) = (lookup (.str a) d).map sortKeys
      | _, _ => True := by
  induction v with
  | list xs ih => exact ⟨by simpa [sortKeys, stringKeyed] using (ih h).1, trivial⟩
  | dict d ih => exact ⟨by simpa [sortKeys, stringKeyed] using (ih h).1, trivial⟩
  | cons v vs ihv ihvs =>
      simp only [stringKeyed, Bool.and_eq_true] at h
      refine ⟨?_, trivial⟩
      simp only [sortKeys, stringKeyed, (ihv h.1).1, (ihvs h.2).1, Bool.and_self]
  | entry k v rest ihv ihrest =>
      obtain ⟨k, rfl, hk, hv, hrest⟩ := stringKeyed_entry h
      obtain ⟨hsorted, hlookup⟩ := ihrest hrest
      have hnone : lookup (.str k) (sortKeys rest) = Option.none := by
        rw [hlookup, hk, Option.map_none]
      refine ⟨stringKeyed_insertEntry (ihv hv).1 hsorted hnone, fun a => ?_⟩
      simp only [sortKeys]
      rw [lookup_insertEntry _ hsorted hnone, lookup_entry_str, hlookup]
      split_ifs
      · rfl
      · rfl
  | empty => exact ⟨rfl, fun a => by simp only [sortKeys, lookup, Option.map_none]⟩
  | none => exact ⟨rfl, trivial⟩
  | bool b => exact ⟨rfl, trivial⟩
  | int n => exact ⟨rfl, trivial⟩
  | float x => exact ⟨rfl, trivial⟩
  | str s => exact ⟨rfl, trivial⟩
  | object id => exact ⟨rfl, trivial⟩
  | nil => exact ⟨rfl, trivial⟩

lemma stringKeyed_sortKeys {i : PyIx} {v : PyTree i} (h : stringKeyed v = true) :
    stringKeyed (sortKeys v) = true := (sortKeys_spec v h).1

lemma lookup_sortKeys {d : PyEntries} (h : stringKeyed d = true) (a : PyStr) :
    lookup (.str a) (sortKeys d) = (lookup (.str a) d).map sortKeys := (sortKeys_spec d h).2 a

lemma size_sortKeys (d : PyEntries) : size (sortKeys d) = size d := by
  induction d using size.induct with
  | case1 => simp only [sortKeys]
  | case2 k v rest ih => simp only [sortKeys, size_insertEntry, size, ih]

lemma serializable_insertEntry (k : PyKey) (v : PyVal) (d : PyEntries) :
    serializable (insertEntry k v d) = (keySerializable k && serializable v && serializable d) := by
  induction d using size.induct with
  | case1 => simp only [insertEntry, serializable]
  | case2 j w rest ih =>
      simp only [insertEntry]
      split_ifs
      · simp only [serializable]
      · simp only [serializable, ih]
        ac_rfl

lemma serializable_sortKeys {i : PyIx} (v : PyTree i) :
    serializable (sortKeys v) = serializable v := by
  induction v with
  | list xs ih => simpa only [sortKeys, serializable] using ih
  | dict d ih => simpa only [sortKeys, serializable] using ih
  | cons v vs ihv ihvs => simp only [sortKeys, serializable, ihv, ihvs]
  | entry k v rest ihv ihrest =>
      simp only [sortKeys, serializable_insertEntry, serializable, ihv, ihrest]
  | _ => rfl

/-- A number is equal to itself, unless it is NaN. -/
lemma numberEq_self {v : PyVal} {x : ℚ ⊕ Bool} (h : toNumber v = some x) :
    numberEq v v = true := by
  simp only [numberEq, h]
  cases x with
  | inl q => exact beq_self_eq_true q
  | inr b => exact beq_self_eq_true b

/-- Dicts with the same entries are equal, whatever the order. -/
lemma eq_sortKeys_spec {i : PyIx} (v : PyTree i) (h : stringKeyed v = true)
    (hs : serializable v = true) :
    match i, v with
    | .entries, d => ∀ ys : PyEntries,
        (∀ a x, lookup (.str a) d = some x → lookup (.str a) ys = some (sortKeys x)) →
          eq d ys = true
    | _, v => eq v (sortKeys v) = true := by
  induction v with
  | list xs ih => simpa only [sortKeys, eq] using ih h hs
  | dict d ih =>
      have hd : stringKeyed d = true := h
      simp only [sortKeys, eq, size_sortKeys, beq_self_eq_true, Bool.true_and]
      refine ih h hs (sortKeys d) fun a x hx => ?_
      rw [lookup_sortKeys hd, hx, Option.map_some]
  | cons v vs ihv ihvs =>
      simp only [stringKeyed, serializable, Bool.and_eq_true] at h hs
      simp only [sortKeys, eq, ihv h.1 hs.1, ihvs h.2 hs.2, Bool.and_self]
  | entry k v rest ihv ihrest =>
      obtain ⟨k, rfl, hk, hv, hrest⟩ := stringKeyed_entry h
      simp only [serializable, Bool.and_eq_true] at hs
      intro ys hys
      have hfirst : lookup (.str k) ys = some (sortKeys v) :=
        hys k v (by rw [lookup_entry_str, if_pos rfl])
      have hlater : eq rest ys = true := by
        refine ihrest hrest hs.2 ys fun a x hx => hys a x ?_
        have hka : k ≠ a := by
          rintro rfl
          rw [hk] at hx
          cases hx
        rw [lookup_entry_str, if_neg hka, hx]
      simp only [eq, hfirst, ihv hv hs.1.2, hlater, Bool.and_self]
  | empty => exact fun ys _ => by simp only [eq]
  | float x =>
      cases x with
      | finite q =>
          simp only [sortKeys, eq]
          exact numberEq_self rfl
      | inf negative => simp at hs
      | nan => simp at hs
  | none => simp only [sortKeys, eq]
  | bool b =>
      simp only [sortKeys, eq]
      exact numberEq_self rfl
  | int n =>
      simp only [sortKeys, eq]
      exact numberEq_self rfl
  | str s => simp [sortKeys, eq]
  | object id => simp [sortKeys, eq]
  | nil => simp only [sortKeys, eq]

/-- **To Python, a value that JSON can express is the same with its keys in order.** -/
theorem eq_sortKeys {v : PyVal} (h : stringKeyed v = true) (hs : serializable v = true) :
    eq v (sortKeys v) = true := eq_sortKeys_spec v h hs

/-! ## What is in order stays as it is -/

/-- The key comes before those of a dict in order. -/
def headLe (k : PyKey) : PyEntries → Bool
  | .empty => true
  | .entry j _ _ => keyLe k j

/-- The entries of every dict are in order. -/
def keysSorted : {i : PyIx} → PyTree i → Bool
  | _, .list xs => keysSorted xs
  | _, .dict d => keysSorted d
  | _, .cons v vs => keysSorted v && keysSorted vs
  | _, .entry k v rest => headLe k rest && keysSorted v && keysSorted rest
  | _, _ => true

lemma keyLe_total {j k : PyStr} (h : ¬ keyLe (.str k) (.str j) = true) :
    keyLe (.str j) (.str k) = true := by
  simp only [keyLe, decide_eq_true_eq] at h ⊢
  exact le_of_not_ge h

lemma insertEntry_of_headLe {k : PyKey} {v : PyVal} {d : PyEntries} (h : headLe k d = true) :
    insertEntry k v d = .entry k v d := by
  cases d with
  | empty => simp only [insertEntry]
  | entry j w rest =>
      simp only [insertEntry]
      exact if_pos h

lemma headLe_insertEntry {j k : PyKey} {v : PyVal} {d : PyEntries} (hjk : keyLe j k = true)
    (hd : headLe j d = true) : headLe j (insertEntry k v d) = true := by
  cases d with
  | empty =>
      simp only [insertEntry]
      exact hjk
  | entry i w rest =>
      simp only [insertEntry]
      split_ifs
      · exact hjk
      · exact hd

lemma keysSorted_insertEntry {k : PyStr} {v : PyVal} {d : PyEntries} (hd : stringKeyed d = true)
    (hv : keysSorted v = true) (hsorted : keysSorted d = true) :
    keysSorted (insertEntry (.str k) v d) = true := by
  induction d using size.induct with
  | case1 => simp [insertEntry, keysSorted, headLe, hv]
  | case2 j w rest ih =>
      obtain ⟨j, rfl, -, -, hrest⟩ := stringKeyed_entry hd
      simp only [keysSorted, Bool.and_eq_true] at hsorted
      simp only [insertEntry]
      split_ifs with hle
      · have hhead : headLe (.str k) (.entry (.str j) w rest) = true := hle
        simp only [keysSorted, hhead, hv, hsorted, Bool.and_self]
      · simp only [keysSorted, headLe_insertEntry (keyLe_total hle) hsorted.1.1, hsorted,
          ih hrest hsorted.2, Bool.and_self]

lemma keysSorted_sortKeys {i : PyIx} {v : PyTree i} (h : stringKeyed v = true) :
    keysSorted (sortKeys v) = true := by
  induction v with
  | list xs ih => exact ih h
  | dict d ih => exact ih h
  | cons v vs ihv ihvs =>
      simp only [stringKeyed, Bool.and_eq_true] at h
      simp only [sortKeys, keysSorted, ihv h.1, ihvs h.2, Bool.and_self]
  | entry k v rest ihv ihrest =>
      obtain ⟨k, rfl, -, hv, hrest⟩ := stringKeyed_entry h
      exact keysSorted_insertEntry (stringKeyed_sortKeys hrest) (ihv hv) (ihrest hrest)
  | _ => rfl

lemma sortKeys_of_keysSorted {i : PyIx} {v : PyTree i} (h : keysSorted v = true) :
    sortKeys v = v := by
  induction v with
  | list xs ih => simp only [sortKeys, ih h]
  | dict d ih => simp only [sortKeys, ih h]
  | cons v vs ihv ihvs =>
      simp only [keysSorted, Bool.and_eq_true] at h
      simp only [sortKeys, ihv h.1, ihvs h.2]
  | entry k v rest ihv ihrest =>
      simp only [keysSorted, Bool.and_eq_true] at h
      simp only [sortKeys, ihv h.1.2, ihrest h.2, insertEntry_of_headLe h.1.1]
  | _ => rfl

/-- **Sorting a second time changes nothing.** -/
theorem sortKeys_sortKeys {i : PyIx} {v : PyTree i} (h : stringKeyed v = true) :
    sortKeys (sortKeys v) = sortKeys v :=
  sortKeys_of_keysSorted (keysSorted_sortKeys h)

/-! ## `dataclasses.asdict` -/

/-- The calls that `asdict` makes one below the other for a value: of `copy.deepcopy` for a scalar or
a key, and of a comprehension for a list or a dict. -/
def frames : {i : PyIx} → PyTree i → ℕ
  | _, .list xs => frames xs + 2
  | _, .dict d => frames d + 2
  | _, .nil => 0
  | _, .cons v vs => max (frames v) (frames vs)
  | _, .empty => 0
  | _, .entry _ v rest => max 3 (max (frames v) (frames rest))
  | _, _ => 3

/-- The copy that `asdict` makes of a value, with room on the stack for a number of calls. -/
def asdictCopy : {i : PyIx} → ℕ → PyTree i → Except PyExc (PyTree i)
  | _, room, .list xs =>
      if room < 2 then .error .recursionError else do return .list (← asdictCopy (room - 2) xs)
  | _, room, .dict d =>
      if room < 2 then .error .recursionError else do return .dict (← asdictCopy (room - 2) d)
  | _, _, .nil => .ok .nil
  | _, room, .cons v vs => do return .cons (← asdictCopy room v) (← asdictCopy room vs)
  | _, _, .empty => .ok .empty
  | _, room, .entry k v rest =>
      if room < 3 then .error .recursionError
      else do return .entry k (← asdictCopy room v) (← asdictCopy room rest)
  | _, room, v => if room < 3 then .error .recursionError else .ok v

/-- **The copy is the value itself**, when there is room for it. -/
theorem asdictCopy_eq {i : PyIx} (room : ℕ) (v : PyTree i) :
    asdictCopy room v = if frames v ≤ room then .ok v else .error .recursionError := by
  induction v generalizing room with
  | list xs ih =>
      rw [asdictCopy, frames, ih]
      split_ifs <;> first | rfl | omega
  | dict d ih =>
      rw [asdictCopy, frames, ih]
      split_ifs <;> first | rfl | omega
  | nil => exact (if_pos (Nat.zero_le _)).symm
  | cons v vs ihv ihvs =>
      rw [asdictCopy, frames, ihv, ihvs]
      split_ifs <;> first | rfl | omega
  | empty => exact (if_pos (Nat.zero_le _)).symm
  | entry k v rest ihv ihrest =>
      rw [asdictCopy, frames, ihv, ihrest]
      split_ifs <;> first | rfl | omega
  | _ =>
      show (if room < 3 then _ else _) = if 3 ≤ room then _ else _
      split_ifs <;> first | rfl | omega

lemma frames_insertEntry (k : PyKey) (v : PyVal) (d : PyEntries) :
    frames (insertEntry k v d) = max 3 (max (frames v) (frames d)) := by
  induction d using size.induct with
  | case1 => simp only [insertEntry, frames]
  | case2 j w rest ih =>
      simp only [insertEntry]
      split_ifs
      · rw [frames]
      · rw [frames, frames, ih]
        omega

/-- The order of the entries does not matter to it. -/
lemma frames_sortKeys {i : PyIx} (v : PyTree i) : frames (sortKeys v) = frames v := by
  induction v with
  | list xs ih => rw [sortKeys, frames, frames, ih]
  | dict d ih => rw [sortKeys, frames, frames, ih]
  | cons v vs ihv ihvs => rw [sortKeys, frames, frames, ihv, ihvs]
  | entry k v rest ihv ihrest => rw [sortKeys, frames_insertEntry, ihv, ihrest, frames]
  | _ => rfl

end PyTree

/-! ## The `json` module -/

/-- A value of JSON with string keys and finite numbers. -/
def JsonValue (v : PyVal) : Prop := v.stringKeyed = true ∧ v.serializable = true

/-- `json.loads` inverts `json.dumps(..., sort_keys=True)` at a value.  The text is the same for
every order of the entries, and the value that is read back has them in order. -/
def Inverts (loads : PyStr → Except PyExc PyVal) (dumps : PyVal → Except PyExc PyStr) (v : PyVal) :
    Prop :=
  ∃ s, (∀ w, PyTree.sortKeys w = PyTree.sortKeys v → dumps w = .ok s) ∧
    loads s = .ok (PyTree.sortKeys v)

end Py
