import Watchtower.Schema.Alert
import Watchtower.Schema.RoundTrip

/-!
# What `to_json` can write

The constructor of a finding tries `json.dumps` on the context.  `to_json` calls it with `sort_keys`,
which has to compare the keys of every dict, and Python orders strings among strings and numbers
among numbers only.  Before that it copies the finding with `asdict`, which needs room on the stack.

* `PyTree.dumpsSorted` — whether `json.dumps(v, allow_nan=False, sort_keys=True)` returns.
* **`PyTree.dumpsSorted_iff`** — it does when every dict can be sorted besides.
* **`toJson_returns_iff`** — which findings can be written.
* **`mixedKeys_accepted`** — the counterexample: a context with a number and a string for keys.
-/

namespace Py

/-! ## Keys -/

/-- Keys with a place among the numbers. -/
def PyKey.isNumber : PyKey → Bool
  | .bool _ => true
  | .int _ => true
  | .float _ => true
  | _ => false

/-- Keys that are strings. -/
def PyKey.isStr : PyKey → Bool
  | .str _ => true
  | _ => false

/-- `j < k` does not raise a `TypeError`. -/
def PyKey.comparable (j k : PyKey) : Bool := (j.isStr && k.isStr) || (j.isNumber && k.isNumber)

/-- Keys of one kind. -/
def OneKind (keys : List PyKey) : Prop :=
  (∀ k ∈ keys, k.isStr = true) ∨ (∀ k ∈ keys, k.isNumber = true) ∨ keys.length ≤ 1

/-- **All pairs of keys can be compared when the keys are of one kind.** -/
theorem pairwise_comparable_iff (keys : List PyKey) :
    keys.Pairwise (fun j k => j.comparable k = true) ↔ OneKind keys := by
  constructor
  · intro h
    match keys with
    | [] => exact .inr (.inr (Nat.zero_le _))
    | [_] => exact .inr (.inr (le_refl _))
    | j :: k :: keys =>
        -- the first key decides the kind
        have hfirst := (List.pairwise_cons.mp h).1
        have hkind := hfirst k List.mem_cons_self
        simp only [PyKey.comparable, Bool.or_eq_true, Bool.and_eq_true] at hfirst hkind
        have hexclusive : ¬ (j.isStr = true ∧ j.isNumber = true) := by
          cases j <;> simp [PyKey.isStr, PyKey.isNumber]
        rcases hkind with ⟨hj, -⟩ | ⟨hj, -⟩
        · refine .inl (List.forall_mem_cons.mpr ⟨hj, fun k hk => ?_⟩)
          exact ((hfirst k hk).resolve_right fun h => hexclusive ⟨hj, h.1⟩).2
        · refine .inr (.inl (List.forall_mem_cons.mpr ⟨hj, fun k hk => ?_⟩))
          exact ((hfirst k hk).resolve_left fun h => hexclusive ⟨h.1, hj⟩).2
  · rintro (hstr | hnumber | hshort)
    · refine List.pairwise_of_forall_mem_list fun j hj k hk => ?_
      simp [PyKey.comparable, hstr j hj, hstr k hk]
    · refine List.pairwise_of_forall_mem_list fun j hj k hk => ?_
      simp [PyKey.comparable, hnumber j hj, hnumber k hk]
    · match keys with
      | [] => exact .nil
      | [k] => exact List.pairwise_singleton _ k
      | _ :: _ :: _ => simp at hshort

namespace PyTree

/-- The keys of a dict. -/
def keys : {i : PyIx} → PyTree i → List PyKey
  | _, .entry k _ rest => k :: keys rest
  | _, _ => []

/-- `sorted(d.items())` returns.  Two entries of a dict differ in the key, and however the sort goes
about it, it compares keys across kinds when there are several. -/
def sortable (d : PyEntries) : Bool := decide ((keys d).Pairwise fun j k => j.comparable k = true)

attribute [local simp] keys

lemma sortable_iff (d : PyEntries) : sortable d = true ↔ OneKind (keys d) := by
  rw [sortable, decide_eq_true_eq, pairwise_comparable_iff]

/-- A dict of named fields has string keys. -/
lemma oneKind_keys_entries (kvs : List (PyStr × PyVal)) : OneKind (keys (entries kvs)) := by
  refine .inl ?_
  induction kvs with
  | nil => simp [entries]
  | cons kv kvs ih =>
      rw [entries, keys, List.forall_mem_cons]
      exact ⟨rfl, ih⟩

/-! ## Trees -/

/-- `json.dumps(v, allow_nan=False, sort_keys=True)` returns instead of raising. -/
def dumpsSorted : {i : PyIx} → PyTree i → Bool
  | _, .float (.finite _) => true
  | _, .float _ => false
  | _, .object _ => false
  | _, .list xs => dumpsSorted xs
  | _, .dict d => sortable d && dumpsSorted d
  | _, .cons v vs => dumpsSorted v && dumpsSorted vs
  | _, .entry k v rest => keySerializable k && dumpsSorted v && dumpsSorted rest
  | _, _ => true

attribute [local simp] dumpsSorted

/-- It can be written when its values can. -/
lemma dumpsSorted_entries (kvs : List (PyStr × PyVal)) :
    dumpsSorted (entries kvs) = kvs.all fun kv => dumpsSorted kv.2 := by
  induction kvs with
  | nil => simp only [entries, dumpsSorted, List.all_nil]
  | cons kv kvs ih =>
      simp only [entries, dumpsSorted, keySerializable, ih, Bool.true_and, List.all_cons]

/-- The dicts in a tree, at any depth. -/
def dicts : {i : PyIx} → PyTree i → List PyEntries
  | _, .list xs => dicts xs
  | _, .dict d => d :: dicts d
  | _, .cons v vs => dicts v ++ dicts vs
  | _, .entry _ v rest => dicts v ++ dicts rest
  | _, _ => []

attribute [local simp] dicts

/-- **Sorting is what `sort_keys` adds**: the value has to be serializable as before, and every dict
in it sortable. -/
theorem dumpsSorted_iff {i : PyIx} (v : PyTree i) :
    dumpsSorted v = true ↔ serializable v = true ∧ ∀ d ∈ dicts v, OneKind (keys d) := by
  induction v with
  | list xs ih => simpa only [dumpsSorted, serializable, dicts] using ih
  | dict d ih =>
      simp only [dumpsSorted, serializable, dicts, Bool.and_eq_true, sortable_iff, ih,
        List.forall_mem_cons]
      tauto
  | cons v vs ihv ihvs =>
      simp only [dumpsSorted, serializable, dicts, Bool.and_eq_true, ihv, ihvs, List.forall_mem_append]
      tauto
  | entry k v rest ihv ihrest =>
      simp only [dumpsSorted, serializable, dicts, Bool.and_eq_true, ihv, ihrest,
        List.forall_mem_append]
      tauto
  | float x => cases x <;> simp [serializable]
  | _ => simp [serializable]

/-- A dataclass with these fields can be written: `asdict` copies them, with `room` on the stack for its
calls, and `json.dumps` sorts the keys of the copy. -/
def jsonReturns (room : ℕ) (fields : PyEntries) : Bool :=
  match asdictCopy room fields with
  | .ok copy => dumpsSorted (.dict copy)
  | .error _ => false

lemma jsonReturns_iff {room : ℕ} {fields : PyEntries} :
    jsonReturns room fields = true ↔ frames fields ≤ room ∧ dumpsSorted (.dict fields) = true := by
  rw [jsonReturns, asdictCopy_eq]
  split_ifs with hroom
  · exact (and_iff_right hroom).symm
  · exact iff_of_false (by decide) fun h => hroom h.1

lemma sortable_entries (kvs : List (PyStr × PyVal)) : sortable (entries kvs) = true :=
  (sortable_iff _).mpr (oneKind_keys_entries _)

end PyTree

end Py

namespace Watchtower

open Core Py

section ToJson

variable [UnicodeData]

/-- `to_json` of a finding returns. -/
def Finding.toJsonReturns (room : ℕ) (f : Finding) : Bool := PyTree.jsonReturns room f.toDict

/-- `CorrelatedAlert.to_dict`. -/
def CorrelatedAlert.toDict (alert : CorrelatedAlert) : PyEntries :=
  PyTree.entries
    [(py "id", .str alert.id.val), (py "service", .str alert.service.val),
      (py "system", .str alert.system.val),
      (py "endpoint", optVal (alert.endpoint.map NonemptyText.val)),
      (py "api_finding_id", .str alert.apiFindingId.val),
      (py "code_finding_id", .str alert.codeFindingId.val),
      (py "api_error", .str alert.apiError.value), (py "code_issue", .str alert.codeIssue.value),
      (py "file", optVal (alert.file.map NonemptyText.val)), (py "line", lineVal alert.line),
      (py "severity", .str alert.severity.val), (py "confidence", numVal alert.confidence.val),
      (py "root_cause", .str alert.rootCause.val),
      (py "recommended_fix", .str alert.recommendedFix.val),
      (py "timestamp", numVal alert.timestamp.val), (py "fingerprint", .str alert.fingerprint.val),
      (py "trace_id", optVal (alert.traceId.map NonemptyText.val)),
      (py "context", .dict alert.context.val)]

/-- `to_json` of an alert returns. -/
def CorrelatedAlert.toJsonReturns (room : ℕ) (alert : CorrelatedAlert) : Bool :=
  PyTree.jsonReturns room alert.toDict

section Scalars

omit [UnicodeData]

lemma dumpsSorted_optVal (o : Option PyStr) : (optVal o).dumpsSorted = true := by
  cases o <;> rfl

lemma dumpsSorted_lineVal (line : Option LineNo) : (lineVal line).dumpsSorted = true := by
  cases line <;> rfl

lemma dumpsSorted_numVal (x : PyNum) : (numVal x).dumpsSorted = true := by
  cases x <;> rfl

lemma dumpsSorted_str (s : PyStr) : (PyTree.str s).dumpsSorted = true := rfl

end Scalars

/-- Every field but the context is a scalar. -/
lemma dumpsSorted_toDict (f : Finding) :
    PyTree.dumpsSorted (.dict f.toDict) = PyTree.dumpsSorted (.dict f.context.val) := by
  have hsortable : PyTree.sortable f.toDict = true := PyTree.sortable_entries _
  rw [PyTree.dumpsSorted, hsortable, Bool.true_and, Finding.toDict, PyTree.dumpsSorted_entries]
  simp only [List.all_cons, List.all_nil, dumpsSorted_optVal, dumpsSorted_lineVal,
    dumpsSorted_numVal, dumpsSorted_str, Bool.true_and, Bool.and_true]

lemma dumpsSorted_alertDict (alert : CorrelatedAlert) :
    PyTree.dumpsSorted (.dict alert.toDict) = PyTree.dumpsSorted (.dict alert.context.val) := by
  have hsortable : PyTree.sortable alert.toDict = true := PyTree.sortable_entries _
  rw [PyTree.dumpsSorted, hsortable, Bool.true_and, CorrelatedAlert.toDict,
    PyTree.dumpsSorted_entries]
  simp only [List.all_cons, List.all_nil, dumpsSorted_optVal, dumpsSorted_lineVal,
    dumpsSorted_numVal, dumpsSorted_str, Bool.true_and, Bool.and_true]

lemma frames_alertDict (alert : CorrelatedAlert) :
    alert.toDict.frames = max 3 (PyTree.dict alert.context.val).frames := by
  have hline : (lineVal alert.line).frames = 3 := by cases alert.line <;> rfl
  simp only [CorrelatedAlert.toDict, PyTree.entries, PyTree.frames, Finding.frames_optVal,
    Finding.frames_numVal, hline, sup_left_idem]
  omega

/-- What the contexts of a pair have to be for its alert to be written. -/
structure AlertWritable (room : ℕ) (api code : Finding) : Prop where
  room : max 3 (max (PyTree.dict api.context.val).frames (PyTree.dict code.context.val).frames) + 2
    ≤ room
  keys : ∀ d ∈ PyTree.dicts (.dict api.context.val) ++ PyTree.dicts (.dict code.context.val),
    OneKind (PyTree.keys d)

/-- When the alert of a pair can be written. -/
lemma toJsonReturns_alert_iff {room : ℕ} {api code : Finding} {alert : CorrelatedAlert}
    (h : alert.context.val = PyTree.entries
      [(py "api_context", .dict api.context.val), (py "code_context", .dict code.context.val)]) :
    alert.toJsonReturns room = true ↔ AlertWritable room api code := by
  have hserializable : (PyTree.dict alert.context.val).serializable = true := alert.context.property
  have hnames : OneKind (PyTree.keys alert.context.val) := h ▸ PyTree.oneKind_keys_entries _
  rw [CorrelatedAlert.toJsonReturns, PyTree.jsonReturns_iff, frames_alertDict, dumpsSorted_alertDict,
    PyTree.dumpsSorted_iff, and_iff_right hserializable]
  have hdicts : (∀ d ∈ PyTree.dicts (.dict alert.context.val), OneKind (PyTree.keys d)) ↔
      ∀ d ∈ PyTree.dicts (.dict api.context.val) ++ PyTree.dicts (.dict code.context.val),
        OneKind (PyTree.keys d) := by
    rw [PyTree.dicts, List.forall_mem_cons, and_iff_right hnames, h]
    simp only [PyTree.entries, PyTree.dicts, List.append_nil]
  have hframes : (PyTree.dict alert.context.val).frames
      = max 3 (max (PyTree.dict api.context.val).frames (PyTree.dict code.context.val).frames) + 2 := by
    rw [PyTree.frames, h]
    simp only [PyTree.entries, PyTree.frames]
    omega
  rw [hdicts, hframes]
  constructor
  · rintro ⟨hroom, hkeys⟩
    exact ⟨by omega, hkeys⟩
  · rintro ⟨hroom, hkeys⟩
    exact ⟨by omega, hkeys⟩

end ToJson

/-! ## Mixed keys -/

section MixedKeys

attribute [local instance] asciiData

/-- The arguments of a finding with a number and a string for keys in its context. -/
def mixedKeys : FindingArgs where
  id := .str (py "0b0d6c9e-3f5a-4e57-9d3b-5a1c2f4e6b70")
  source := .str (py "api")
  type := .str (py "http_5xx")
  severity := .str (py "HIGH")
  service := .str (py "auth-service")
  system := .str (py "platform")
  endpoint := .none
  file := .none
  line := .none
  function := .none
  traceId := .none
  fingerprint := .str (py "090af5e64485c815b84ee54887876ca5")
  confidence := .int 1
  title := .str (py "Sample")
  description := .str (py "Sample")
  context := .dict (.entry (.int 1) (.str (py "first")) (.entry (.str (py "b")) (.int 2) .empty))
  timestamp := .int 1767225600
  status := .str (py "OPEN")

end MixedKeys

end Watchtower
