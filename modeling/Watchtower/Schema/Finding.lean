import Watchtower.Schema.Types

/-!
# Findings

`Finding.__post_init__` is the contract every event passes before it is used.  Here the checks
return what they establish: a field that must hold 1 to 200 characters is a `RequiredText 200`,
a line number is a positive `LineNo`, and so on.  A `Finding` is therefore valid by construction,
and `Finding.init` — the constructor call — is the only place where an invalid one is turned
away.

* `checkRequired`, `checkOptional`, … — one definition per kind of check, applied by
  `Finding.init` to each field's own name and bound, in the order of the source.
* `Finding.init` — the dataclass constructor with its `__post_init__`.
* `Finding.fromDict`, `Finding.fromJson` — the decoders.
* **`Finding.fromDict_toDict`** — a finding survives the round trip through its dict.
* `Finding.eq` — the dataclass's `==`, which `deque.remove` uses.
-/

namespace Watchtower

open Core Py

/-! ## Checked fields -/

/-- A text with something other than white space, of at most `maximum` characters. -/
structure RequiredText (maximum : ℕ) where
  val : PyStr
  not_blank : strip val ≠ []
  length_le : val.length ≤ maximum
  deriving DecidableEq

/-- A text of at most `maximum` characters, possibly empty. -/
structure BoundedText (maximum : ℕ) where
  val : PyStr
  length_le : val.length ≤ maximum
  deriving DecidableEq

/-- A line number. -/
abbrev LineNo := { n : ℕ // 1 ≤ n }

/-- A lowercase hexadecimal digit. -/
def isLowerHex (c : PyChar) : Bool := isDigit c || decide (97 ≤ c.val ∧ c.val ≤ 102)

/-- The shape of a fingerprint: 32 lowercase hexadecimal characters. -/
def isFingerprint (s : PyStr) : Bool := decide (s.length = 32) && s.all isLowerHex

/-- A literal of hexadecimal digits, taken apart by unification. -/
lemma isFingerprint_literal (l : List Char)
    (h : (decide (l.length = 32) && l.all fun c => isLowerHex (ofChar c)) = true) :
    isFingerprint (py (String.ofList l)) = true := by
  rw [py, String.toList_ofList, isFingerprint, List.length_map, List.all_map]
  exact h

@[ext] structure Fingerprint where
  val : PyStr
  isFingerprint_val : isFingerprint val = true
  deriving DecidableEq

/-- A confidence, between 0 and 1. -/
abbrev Confidence := { x : PyNum // 0 ≤ x.value ∧ x.value ≤ 1 }

/-- `float(confidence)`.  An integer between zero and one has an exact float. -/
def Confidence.toFloat (confidence : Confidence) : Confidence :=
  ⟨.float (unitFloat confidence.val.value confidence.property), confidence.property⟩

/-- A timestamp, positive and within the range of a float. -/
abbrev Timestamp := { x : PyNum // 0 < x.value ∧ x.overflows = false }

structure Uuid [UnicodeData] where
  val : PyStr
  isUuid_val : isUuid val = true
  deriving DecidableEq

/-- A severity as it was written, in any case. -/
structure SeverityText [UnicodeData] where
  val : PyStr
  accepted : ∃ severity, Severity.fromString (.str val) = .ok severity
  deriving DecidableEq

section Checks

variable [UnicodeData]

def checkUuid (text : String) : PyVal → Except PyExc Uuid
  | .str s => if h : isUuid s = true then .ok ⟨s, h⟩ else .error (.valueError text)
  | _ => .error (.valueError text)

def checkSeverity : PyVal → Except PyExc SeverityText
  | .str s =>
      match h : Severity.fromString (.str s) with
      | .ok severity => .ok ⟨s, severity, h⟩
      | .error e => .error e
  | _ => .error .attributeError

omit [UnicodeData]

def checkRequired (name : String) (maximum : ℕ) : PyVal → Except PyExc (RequiredText maximum)
  | .str s =>
      if h : strip s ≠ [] ∧ s.length ≤ maximum then .ok ⟨s, h.1, h.2⟩
      else .error (.valueError (name ++ " must contain 1 to " ++ toString maximum ++ " characters"))
  | _ => .error (.valueError (name ++ " must contain 1 to " ++ toString maximum ++ " characters"))

def checkOptional (name : String) (maximum : ℕ) :
    PyVal → Except PyExc (Option (BoundedText maximum))
  | .none => .ok none
  | .str s =>
      if h : s.length ≤ maximum then .ok (some ⟨s, h⟩)
      else .error (.valueError
        (name ++ " must be null or at most " ++ toString maximum ++ " characters"))
  | _ => .error (.valueError
      (name ++ " must be null or at most " ++ toString maximum ++ " characters"))

/-- `bool` is a subclass of `int` and is turned away by name. -/
def checkLine : PyVal → Except PyExc (Option LineNo)
  | .none => .ok none
  | .int n =>
      if h : 1 ≤ n then .ok (some ⟨n.toNat, by omega⟩)
      else .error (.valueError "line must be a positive integer or null")
  | _ => .error (.valueError "line must be a positive integer or null")

def checkFingerprint : PyVal → Except PyExc Fingerprint
  | .str s =>
      if h : isFingerprint s = true then .ok ⟨s, h⟩
      else .error (.valueError "fingerprint must be 32 lowercase hexadecimal characters")
  | _ => .error (.valueError "fingerprint must be 32 lowercase hexadecimal characters")

/-- An `int` is converted with `float()` first, which overflows on a large one. -/
def checkConfidence : PyVal → Except PyExc Confidence
  | .int n =>
      if floatOverflows n then .error .overflowError
      else if h : 0 ≤ (n : ℚ) ∧ (n : ℚ) ≤ 1 then .ok ⟨.int n, h⟩
      else .error (.valueError "confidence must be between 0 and 1")
  | .float (.finite q) =>
      if h : 0 ≤ q.val ∧ q.val ≤ 1 then .ok ⟨.float q, h⟩
      else .error (.valueError "confidence must be between 0 and 1")
  | _ => .error (.valueError "confidence must be between 0 and 1")

def checkTimestamp : PyVal → Except PyExc Timestamp
  | .int n =>
      if hfloat : floatOverflows n = true then .error .overflowError
      else if h : 0 < (n : ℚ) then .ok ⟨.int n, h, Bool.eq_false_of_not_eq_true hfloat⟩
      else .error (.valueError "timestamp must be a positive finite number")
  | .float (.finite q) =>
      if h : 0 < q.val then .ok ⟨.float q, h, rfl⟩
      else .error (.valueError "timestamp must be a positive finite number")
  | _ => .error (.valueError "timestamp must be a positive finite number")

def checkContext : PyVal → Except PyExc JsonDict
  | .dict kvs =>
      if h : kvs.serializable = true then .ok ⟨kvs, h⟩
      else .error (.valueError "context must be JSON serializable")
  | _ => .error (.valueError "context must be an object")

def checkSchemaVersion (v : PyVal) : Except PyExc Unit :=
  if v = .str (py "2.0") then .ok ()
  else .error (.valueErrorRepr "unsupported finding schema: " v)

end Checks

/-! ## Values back to arguments

What a check has accepted, it accepts again: the factories hand checked fields to a constructor
that checks them once more.
-/

def numVal : PyNum → PyVal
  | .int n => .int n
  | .float q => .float (.finite q)

/-- An optional text as an argument. -/
def optVal : Option PyStr → PyVal
  | none => .none
  | some s => .str s

/-- An optional line number as an argument. -/
def lineVal : Option LineNo → PyVal
  | none => .none
  | some n => .int n.val

/-- The text under an optional bounded field. -/
def textOf {maximum : ℕ} (o : Option (BoundedText maximum)) : Option PyStr :=
  o.map BoundedText.val

section Accepted

@[simp] lemma checkUuid_val [UnicodeData] (text : String) (id : Uuid) :
    checkUuid text (.str id.val) = .ok id := by
  simp [checkUuid, id.isUuid_val]

lemma checkSeverity_value [UnicodeData] (severity : Severity) :
    checkSeverity (.str severity.value)
      = .ok ⟨severity.value, severity, Severity.fromString_value severity⟩ := by
  simp only [checkSeverity]
  split
  · rfl
  · next e h => rw [Severity.fromString_value] at h; cases h

lemma checkRequired_eq {name : String} {maximum : ℕ} {s : PyStr} (hblank : strip s ≠ [])
    (hlen : s.length ≤ maximum) :
    checkRequired name maximum (.str s) = .ok ⟨s, hblank, hlen⟩ := by
  simp [checkRequired, hblank, hlen]

@[simp] lemma checkRequired_val (name : String) {maximum : ℕ} (s : RequiredText maximum) :
    checkRequired name maximum (.str s.val) = .ok s :=
  checkRequired_eq s.not_blank s.length_le

lemma returns_checkRequired_iff (name : String) {maximum : ℕ} {s : PyStr} :
    Returns (checkRequired name maximum (.str s)) ↔ strip s ≠ [] ∧ s.length ≤ maximum := by
  by_cases h : strip s ≠ [] ∧ s.length ≤ maximum
  · simp [checkRequired_eq h.1 h.2, h]
  · simp [checkRequired, h]

@[simp] lemma checkOptional_val (name : String) {maximum : ℕ} (o : Option (BoundedText maximum)) :
    checkOptional name maximum (optVal (textOf o)) = .ok o := by
  cases o with
  | none => rfl
  | some s => simp [textOf, optVal, checkOptional, s.length_le]

lemma returns_checkOptional_iff (name : String) {maximum : ℕ} {o : Option PyStr} :
    Returns (checkOptional name maximum (optVal o)) ↔ ∀ s, o = some s → s.length ≤ maximum := by
  cases o with
  | none => simp [optVal, checkOptional]
  | some s =>
      by_cases h : s.length ≤ maximum
      · simp [optVal, checkOptional, h]
      · simp [optVal, checkOptional, h]

@[simp] lemma checkLine_val (o : Option LineNo) : checkLine (lineVal o) = .ok o := by
  cases o with
  | none => rfl
  | some n =>
      have h : (1 : ℤ) ≤ n.val := by exact_mod_cast n.property
      simp [lineVal, checkLine, h]

@[simp] lemma checkSeverity_val [UnicodeData] (severity : SeverityText) :
    checkSeverity (.str severity.val) = .ok severity := by
  obtain ⟨s, hs⟩ := severity.accepted
  simp only [checkSeverity]
  split
  · rfl
  · next e he => rw [hs] at he; cases he

@[simp] lemma checkConfidence_val (confidence : Confidence) :
    checkConfidence (numVal confidence.val) = .ok confidence := by
  obtain ⟨x, hlow, hhigh⟩ := confidence
  cases x with
  | int n =>
      have hn : floatOverflows n = false := by
        rw [PyNum.value_int] at hlow hhigh
        have hlow' : 0 ≤ n := by exact_mod_cast hlow
        have hhigh' : n ≤ 1 := by exact_mod_cast hhigh
        rw [floatOverflows, decide_eq_false_iff_not]
        have habs : n.natAbs ≤ 1 := by omega
        exact not_le.mpr (habs.trans_lt (by decide +kernel))
      simp only [numVal, checkConfidence, hn]
      exact dif_pos ⟨hlow, hhigh⟩
  | float q => exact dif_pos ⟨hlow, hhigh⟩

@[simp] lemma checkTimestamp_val (timestamp : Timestamp) :
    checkTimestamp (numVal timestamp.val) = .ok timestamp := by
  obtain ⟨x, hpos, hfloat⟩ := timestamp
  cases x with
  | int n =>
      have hn : ¬ floatOverflows n = true := by simpa [PyNum.overflows] using hfloat
      simp only [numVal, checkTimestamp, dif_neg hn]
      exact dif_pos hpos
  | float q => exact dif_pos hpos

@[simp] lemma checkContext_val (context : JsonDict) :
    checkContext (.dict context.val) = .ok context := by
  simp [checkContext, context.property]

@[simp] lemma checkFingerprint_val (f : Fingerprint) :
    checkFingerprint (.str f.val) = .ok f := by
  simp [checkFingerprint, f.isFingerprint_val]

lemma returns_checkConfidence_iff {q : FiniteFloat} :
    Returns (checkConfidence (.float (.finite q))) ↔ 0 ≤ q.val ∧ q.val ≤ 1 := by
  by_cases h : 0 ≤ q.val ∧ q.val ≤ 1
  · simp [checkConfidence, h]
  · simp [checkConfidence, h]

lemma returns_checkTimestamp_iff {q : FiniteFloat} :
    Returns (checkTimestamp (.float (.finite q))) ↔ 0 < q.val := by
  by_cases h : 0 < q.val
  · simp [checkTimestamp, h]
  · simp [checkTimestamp, h]

lemma returns_checkContext_iff {kvs : PyEntries} :
    Returns (checkContext (.dict kvs)) ↔ kvs.serializable = true := by
  by_cases h : kvs.serializable = true
  · simp [checkContext, h]
  · simp [checkContext, h]

end Accepted

/-! ## The record -/

section Records

variable [UnicodeData]

/-- A finding that has passed its validation.  The schema version is `"2.0"`, the only one
accepted. -/
structure Finding where
  id : Uuid
  source : FindingSource
  type : FindingType
  severity : SeverityText
  service : RequiredText 200
  system : RequiredText 200
  endpoint : Option (BoundedText 2048)
  file : Option (BoundedText 4096)
  line : Option LineNo
  function : Option (BoundedText 500)
  traceId : Option (BoundedText 256)
  fingerprint : Fingerprint
  confidence : Confidence
  title : RequiredText 500
  description : RequiredText 4000
  context : JsonDict
  timestamp : Timestamp
  status : FindingStatus

/-- The arguments of the constructor, before any check. -/
structure FindingArgs where
  id : PyVal
  source : PyVal
  type : PyVal
  severity : PyVal
  service : PyVal
  system : PyVal
  endpoint : PyVal
  file : PyVal
  line : PyVal
  function : PyVal
  traceId : PyVal
  fingerprint : PyVal
  confidence : PyVal
  title : PyVal
  description : PyVal
  context : PyVal
  timestamp : PyVal
  status : PyVal
  schemaVersion : PyVal := .str (py "2.0")

namespace Finding

/-- `Finding(...)`: the checks of `__post_init__`, in their order. -/
def init (a : FindingArgs) : Except PyExc Finding := do
  let id ← checkUuid "finding id must be a UUID" a.id
  let source ← FindingSource.ofVal a.source
  let type ← FindingType.ofVal a.type
  let severity ← checkSeverity a.severity
  let status ← FindingStatus.ofVal a.status
  checkSchemaVersion a.schemaVersion
  let service ← checkRequired "service" 200 a.service
  let system ← checkRequired "system" 200 a.system
  let title ← checkRequired "title" 500 a.title
  let description ← checkRequired "description" 4000 a.description
  let endpoint ← checkOptional "endpoint" 2048 a.endpoint
  let file ← checkOptional "file" 4096 a.file
  let function ← checkOptional "function" 500 a.function
  let traceId ← checkOptional "trace_id" 256 a.traceId
  let line ← checkLine a.line
  let fingerprint ← checkFingerprint a.fingerprint
  let confidence ← checkConfidence a.confidence
  let timestamp ← checkTimestamp a.timestamp
  let context ← checkContext a.context
  return { id, source, type, severity, service, system, endpoint, file, line, function, traceId,
           fingerprint, confidence, title, description, context, timestamp, status }

/-- `severity_numeric`. -/
def severityNumeric (f : Finding) : ℕ :=
  match Severity.fromString (.str f.severity.val) with
  | .ok severity => severity.numeric
  | .error _ => 0

/-! ## Decoding -/

omit [UnicodeData] in
/-- The names of the constructor's parameters, in order. -/
def fieldNames : List PyStr :=
  [py "id", py "source", py "type", py "severity", py "service", py "system", py "endpoint",
    py "file", py "line", py "function", py "trace_id", py "fingerprint", py "confidence",
    py "title", py "description", py "context", py "timestamp", py "status", py "schema_version"]

omit [UnicodeData] in
/-- `set(d) - allowed`, as a list value. -/
def unknownFields : PyEntries → PyTree .items
  | .empty => .nil
  | .entry k _ rest =>
      if fieldNames.any fun name => k == .str name then unknownFields rest
      else .cons k.toVal (unknownFields rest)

omit [UnicodeData] in
lemma unknownFields_entries {kvs : List (PyStr × PyVal)} (h : kvs.map Prod.fst ⊆ fieldNames) :
    unknownFields (PyTree.entries kvs) = .nil := by
  induction kvs with
  | nil => rw [PyTree.entries, unknownFields]
  | cons kv kvs ih =>
      obtain ⟨k, v⟩ := kv
      have hk : (fieldNames.any fun name => PyKey.str k == .str name) = true :=
        List.any_eq_true.mpr ⟨k, h List.mem_cons_self, beq_self_eq_true _⟩
      rw [PyTree.entries, unknownFields, if_pos hk]
      exact ih (List.subset_of_cons_subset h)

/-- `Finding.from_dict`: unknown fields are rejected, a missing one is a `TypeError` of the
constructor call. -/
def fromDict : PyVal → Except PyExc Finding
  | .dict kvs =>
      match unknownFields kvs with
      | .cons v rest => .error (.valueErrorRepr "unknown finding fields: " (.list (.cons v rest)))
      | .nil => do
          let get (name : String) : Except PyExc PyVal :=
            match kvs.lookup (.str (py name)) with
            | some v => .ok v
            | none => .error (.typeError ("missing a required argument: " ++ name))
          let args : FindingArgs :=
            { id := ← get "id", source := ← get "source", type := ← get "type",
              severity := ← get "severity", service := ← get "service",
              system := ← get "system", endpoint := ← get "endpoint", file := ← get "file",
              line := ← get "line", function := ← get "function",
              traceId := ← get "trace_id", fingerprint := ← get "fingerprint",
              confidence := ← get "confidence", title := ← get "title",
              description := ← get "description", context := ← get "context",
              timestamp := ← get "timestamp", status := ← get "status",
              schemaVersion := (kvs.lookup (.str (py "schema_version"))).getD (.str (py "2.0")) }
          init args
  | _ => .error (.valueError "finding payload must be an object")

/-- `Finding.from_json`, over the decoder `loads` of the `json` module.  A decoding error or a
`TypeError` becomes a `ValueError`; anything else `loads` raises passes through. -/
def fromJson (loads : PyStr → Except PyExc PyVal) (s : PyStr) : Except PyExc Finding :=
  match loads s with
  | .ok payload => fromDict payload
  | .error .jsonDecodeError => .error (.valueError "finding payload is not valid JSON")
  | .error (.typeError _) => .error (.valueError "finding payload is not valid JSON")
  | .error e => .error e

/-! ## Encoding -/

/-- `to_dict`. -/
def toDict (f : Finding) : PyEntries :=
  PyTree.entries
    [(py "id", .str f.id.val), (py "source", .str f.source.value), (py "type", .str f.type.value),
      (py "severity", .str f.severity.val), (py "service", .str f.service.val),
      (py "system", .str f.system.val), (py "endpoint", optVal (textOf f.endpoint)),
      (py "file", optVal (textOf f.file)), (py "line", lineVal f.line),
      (py "function", optVal (textOf f.function)), (py "trace_id", optVal (textOf f.traceId)),
      (py "fingerprint", .str f.fingerprint.val), (py "confidence", numVal f.confidence.val),
      (py "title", .str f.title.val), (py "description", .str f.description.val),
      (py "context", .dict f.context.val), (py "timestamp", numVal f.timestamp.val),
      (py "status", .str f.status.value), (py "schema_version", .str (py "2.0"))]

/-- **A finding survives the round trip through its dict.** -/
theorem fromDict_toDict (f : Finding) : fromDict (.dict f.toDict) = .ok f := by
  have hknown : unknownFields f.toDict = .nil := unknownFields_entries (List.Subset.refl fieldNames)
  simp only [fromDict, hknown]
  -- every argument is found under its name, and its check accepts it again
  simp [toDict, PyTree.lookup_entries_cons, init, checkSchemaVersion, FindingSource.ofVal_value,
    FindingType.ofVal_value, FindingStatus.ofVal_value]

/-! ## Equality -/

/-- The dataclass's `==`: field by field, numbers by value and contexts by `PyTree.eq`. -/
def eq (f g : Finding) : Bool :=
  f.id == g.id && f.source == g.source && f.type == g.type && f.severity == g.severity &&
  f.service == g.service && f.system == g.system && f.endpoint == g.endpoint &&
  f.file == g.file && f.line == g.line && f.function == g.function && f.traceId == g.traceId &&
  f.fingerprint == g.fingerprint && f.confidence.val.value == g.confidence.val.value &&
  f.title == g.title && f.description == g.description &&
  PyTree.eq (.dict f.context.val) (.dict g.context.val) &&
  f.timestamp.val.value == g.timestamp.val.value && f.status == g.status

end Finding

end Records

/-! ## Samples -/

section Sample

attribute [local instance] asciiData

def sampleApiId : Uuid := ⟨py "0b0d6c9e-3f5a-4e57-9d3b-5a1c2f4e6b70", by decide +kernel⟩

def sampleCodeId : Uuid := ⟨py "7c1f2a3d-8e4b-4c6d-a5f0-1b2c3d4e5f60", by decide +kernel⟩

/-- The moment of the samples. -/
def sampleClock : FiniteFloat := ⟨1767225600, by decide +kernel⟩

lemma sampleClock_pos : 0 < sampleClock.val := by decide +kernel

def sampleTimestamp : Timestamp := ⟨.int 1767225600, by decide +kernel, by decide +kernel⟩

def fullConfidence : Confidence := ⟨.int 1, by decide +kernel⟩

def noContext : JsonDict := ⟨.empty, rfl⟩

/-- The place the samples of code findings are about. -/
def loginFile : BoundedText 4096 := ⟨py "auth/login.py", by decide⟩

def loginLine : LineNo := ⟨42, by decide⟩

/-- A finding of one service. -/
def sampleFinding (id : Uuid) (source : FindingSource) (type : FindingType)
    (endpoint : Option (BoundedText 2048)) (file : Option (BoundedText 4096))
    (line : Option LineNo) (certain : Bool) : Finding where
  id := id
  source := source
  type := type
  severity := ⟨Severity.high.value, .high, Severity.fromString_value .high⟩
  service := ⟨py "auth-service", by decide, by decide⟩
  system := ⟨py "platform", by decide, by decide⟩
  endpoint := endpoint
  file := file
  line := line
  function := none
  traceId := none
  fingerprint := ⟨py "00000000000000000000000000000000", by decide⟩
  confidence := if certain then fullConfidence else ⟨.int 0, by decide +kernel⟩
  title := ⟨py "Sample", by decide, by decide⟩
  description := ⟨py "Sample", by decide, by decide⟩
  context := noContext
  timestamp := sampleTimestamp
  status := .open

end Sample

end Watchtower
