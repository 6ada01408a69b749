import Watchtower.Schema.Finding

/-!
# Alerts and the factory functions

`CorrelatedAlert` has a validator of its own, written independently of the one for findings.  The
difference that matters is in the optional texts: a finding may carry an empty endpoint, file or
trace id, an alert may not.

* `CorrelatedAlert.init` — the constructor with its `__post_init__`.
* `computeFingerprint` — the SHA-256 of the lower-cased parts, joined by bars.
* `newFinding`, `newCorrelatedAlert` — the factories.  A fresh UUID and a clock reading come from
  outside and are arguments.
* **`newCorrelatedAlert_returns_iff`** — exactly when the second factory returns an alert.
* **`newCorrelatedAlert_alertOf`** — what the alert takes over from its pair.
-/

namespace Watchtower

open Core Py

/-! ## The record -/

/-- A text of 1 to `maximum` characters, white space allowed. -/
@[ext] structure NonemptyText (maximum : ℕ) where
  val : PyStr
  ne_nil : val ≠ []
  length_le : val.length ≤ maximum

instance (maximum : ℕ) : DecidableEq (NonemptyText maximum) :=
  fun _ _ => decidable_of_iff _ NonemptyText.ext_iff.symm

def checkNonempty (name : String) (maximum : ℕ) :
    PyVal → Except PyExc (Option (NonemptyText maximum))
  | .none => .ok none
  | .str s =>
      if h : s ≠ [] ∧ s.length ≤ maximum then .ok (some ⟨s, h.1, h.2⟩)
      else .error (.valueError
        (name ++ " must be null or contain 1 to " ++ toString maximum ++ " characters"))
  | _ => .error (.valueError
      (name ++ " must be null or contain 1 to " ++ toString maximum ++ " characters"))

lemma returns_checkNonempty_iff (name : String) {maximum : ℕ} {o : Option PyStr}
    (hlen : ∀ s, o = some s → s.length ≤ maximum) :
    Returns (checkNonempty name maximum (optVal o)) ↔ o ≠ some [] := by
  cases o with
  | none => simp [optVal, checkNonempty]
  | some s =>
      by_cases h : s = []
      · simp [optVal, checkNonempty, h]
      · simp [optVal, checkNonempty, h, hlen s rfl]

variable [UnicodeData]

/-- An alert that has passed its validation. -/
structure CorrelatedAlert where
  id : Uuid
  service : RequiredText 200
  system : RequiredText 200
  endpoint : Option (NonemptyText 2048)
  apiFindingId : Uuid
  codeFindingId : Uuid
  apiError : FindingType
  codeIssue : FindingType
  file : Option (NonemptyText 4096)
  line : Option LineNo
  severity : SeverityText
  confidence : Confidence
  rootCause : RequiredText 4000
  recommendedFix : RequiredText 4000
  timestamp : Timestamp
  fingerprint : Fingerprint
  traceId : Option (NonemptyText 256)
  context : JsonDict

/-- The arguments of the constructor, before any check. -/
structure AlertArgs where
  id : PyVal
  service : PyVal
  system : PyVal
  endpoint : PyVal
  apiFindingId : PyVal
  codeFindingId : PyVal
  apiError : PyVal
  codeIssue : PyVal
  file : PyVal
  line : PyVal
  severity : PyVal
  confidence : PyVal
  rootCause : PyVal
  recommendedFix : PyVal
  timestamp : PyVal
  fingerprint : PyVal
  traceId : PyVal
  context : PyVal

/-- `CorrelatedAlert(...)`: the checks of `__post_init__`, in their order. -/
def CorrelatedAlert.init (a : AlertArgs) : Except PyExc CorrelatedAlert := do
  let id ← checkUuid "id must be a UUID" a.id
  let apiFindingId ← checkUuid "api_finding_id must be a UUID" a.apiFindingId
  let codeFindingId ← checkUuid "code_finding_id must be a UUID" a.codeFindingId
  let apiError ← FindingType.ofVal a.apiError
  let codeIssue ← FindingType.ofVal a.codeIssue
  let severity ← checkSeverity a.severity
  let service ← checkRequired "service" 200 a.service
  let system ← checkRequired "system" 200 a.system
  let rootCause ← checkRequired "root_cause" 4000 a.rootCause
  let recommendedFix ← checkRequired "recommended_fix" 4000 a.recommendedFix
  let endpoint ← checkNonempty "endpoint" 2048 a.endpoint
  let file ← checkNonempty "file" 4096 a.file
  let traceId ← checkNonempty "trace_id" 256 a.traceId
  let line ← checkLine a.line
  let confidence ← checkConfidence a.confidence
  let timestamp ← checkTimestamp a.timestamp
  let fingerprint ← checkFingerprint a.fingerprint
  let context ← checkContext a.context
  return { id, service, system, endpoint, apiFindingId, codeFindingId, apiError, codeIssue, file,
           line, severity, confidence, rootCause, recommendedFix, timestamp, fingerprint, traceId,
           context }

/-! ## Fingerprints -/

/-- `hashlib.sha256(text.encode()).hexdigest()[:32]`, for an encodable text. -/
class Sha256 where
  hexdigest32 : PyStr → PyStr
  isFingerprint_hexdigest32 : ∀ text, isFingerprint (hexdigest32 text) = true

variable [Sha256]

/-- The separator of the parts. -/
def bar : PyChar := 124

omit [Sha256] in
/-- What `_compute_fingerprint` hashes: every part as text, `None` as the empty one, lower-cased
and joined by bars. -/
def fingerprintText (parts : List (Option PyStr)) : PyStr :=
  joinChar bar (parts.map fun p => lower (p.getD []))

/-- `_compute_fingerprint`.  The encoding is strict, so a lone surrogate in any part raises. -/
def computeFingerprint (parts : List (Option PyStr)) : Except PyExc Fingerprint :=
  let raw := fingerprintText parts
  if encodable raw then .ok ⟨Sha256.hexdigest32 raw, Sha256.isFingerprint_hexdigest32 raw⟩
  else .error .unicodeEncodeError

/-- `str(line or "")`: zero is falsy. -/
def lineText : Option ℤ → Option PyStr
  | none => none
  | some n => if n = 0 then none else some (decimalInt n)

/-! ## The factory of findings -/

/-- The keyword arguments of `new_finding`, with its defaults. -/
structure NewFindingArgs where
  source : PyStr
  type : PyStr
  severity : PyStr
  service : PyStr
  system : PyStr
  title : PyStr
  description : PyStr
  endpoint : Option PyStr := none
  file : Option PyStr := none
  line : Option ℤ := none
  function : Option PyStr := none
  traceId : Option PyStr := none
  confidence : PyVal := .float (.finite (unitDouble 0.8).val)
  context : PyEntries := .empty
  status : PyStr := FindingStatus.open.value

/-- `new_finding`, given the UUID it draws and the clock it reads. -/
def newFinding (id : Uuid) (now : FiniteFloat) (a : NewFindingArgs) : Except PyExc Finding := do
  let source ← FindingSource.ofVal (.str a.source)
  let type ← FindingType.ofVal (.str a.type)
  let severity ← Severity.fromString (.str a.severity)
  let status ← FindingStatus.ofVal (.str a.status)
  let confidence ← checkConfidence a.confidence
  let fingerprint ← computeFingerprint
    [some a.service, a.endpoint, some type.value, a.file, lineText a.line]
  Finding.init
    { id := .str id.val, source := .str source.value, type := .str type.value,
      severity := .str severity.value, service := .str a.service, system := .str a.system,
      endpoint := optVal a.endpoint, file := optVal a.file,
      line := (a.line.map PyTree.int).getD .none, function := optVal a.function,
      traceId := optVal a.traceId, fingerprint := .str fingerprint.val,
      confidence := numVal (Confidence.toFloat confidence).val, title := .str a.title,
      description := .str a.description, context := .dict a.context,
      timestamp := .float (.finite now), status := .str status.value }

/-! ## The factory of alerts -/

omit [UnicodeData] [Sha256] in
/-- `max_sev` of two numeric severities. -/
def maxSeverity (a c : ℕ) : Severity :=
  if max a c ≥ 4 then .critical
  else if max a c ≥ 3 then .high
  else if max a c ≥ 2 then .medium
  else .low

omit [UnicodeData] [Sha256] in
/-- `x or y` on optional texts: the empty text is falsy. -/
def orText (x y : Option PyStr) : Option PyStr :=
  match x with
  | some (c :: s) => some (c :: s)
  | _ => y

omit [UnicodeData] [Sha256] in
/-- `str(line or "")` of a line number that has been checked. -/
def lineNoText : Option LineNo → Option PyStr
  | none => none
  | some n => some (decimal n.val)

/-- The parts of an alert's fingerprint. -/
def alertParts (api code : Finding) : List (Option PyStr) :=
  [some api.service.val, textOf api.endpoint, some api.type.value, textOf code.file,
    lineNoText code.line]

/-- `new_correlated_alert`, given the UUID it draws and the clock it reads. -/
def newCorrelatedAlert (id : Uuid) (now : FiniteFloat) (api code : Finding)
    (confidence : FiniteFloat) (rootCause recommendedFix : PyStr) :
    Except PyExc CorrelatedAlert := do
  let severity := maxSeverity api.severityNumeric code.severityNumeric
  let fingerprint ← computeFingerprint (alertParts api code)
  CorrelatedAlert.init
    { id := .str id.val, service := .str api.service.val, system := .str api.system.val,
      endpoint := optVal (textOf api.endpoint), apiFindingId := .str api.id.val,
      codeFindingId := .str code.id.val, apiError := .str api.type.value,
      codeIssue := .str code.type.value, file := optVal (textOf code.file),
      line := lineVal code.line, severity := .str severity.value,
      confidence := .float (.finite confidence), rootCause := .str rootCause,
      recommendedFix := .str recommendedFix, timestamp := .float (.finite now),
      fingerprint := .str fingerprint.val,
      traceId := optVal (orText (textOf api.traceId) (textOf code.traceId)),
      context := .dict (PyTree.entries
        [(py "api_context", .dict api.context.val), (py "code_context", .dict code.context.val)]) }

/-! ## When an alert is built -/

/-- What a pair of valid findings still has to satisfy for the alert's own validator: none of the
three optional texts is empty, everything that goes into the fingerprint has a UTF-8 encoding, and
the clock is past the epoch. -/
structure AlertFits (api code : Finding) (now : FiniteFloat) : Prop where
  endpoint : textOf api.endpoint ≠ some []
  file : textOf code.file ≠ some []
  trace : orText (textOf api.traceId) (textOf code.traceId) ≠ some []
  service_encodable : encodable api.service.val = true
  endpoint_encodable : encodable ((textOf api.endpoint).getD []) = true
  file_encodable : encodable ((textOf code.file).getD []) = true
  clock : 0 < now.val

omit [UnicodeData] [Sha256] in
lemma encodable_joinChar_cons (p q : PyStr) (ps : List PyStr) :
    encodable (joinChar bar (p :: q :: ps))
      = (encodable p && encodable (joinChar bar (q :: ps))) := by
  have hbar : isSurrogate bar = false := by decide
  simp [joinChar, List.intercalate_cons_cons, hbar]

omit [UnicodeData] [Sha256] in
lemma encodable_decimal (n : ℕ) : encodable (decimal n) = true := by
  simp only [encodable, List.all_eq_true]
  intro c hc
  have hdigit := isDigit_of_mem_decimal hc
  simp only [isDigit, decide_eq_true_eq] at hdigit
  simp only [isSurrogate, Bool.not_eq_true', decide_eq_false_iff_not]
  omega

omit [Sha256] in
/-- The type and the line never stand in the way of the encoding. -/
lemma encodable_alertParts (api code : Finding) :
    encodable (fingerprintText (alertParts api code)) = true ↔
      encodable api.service.val = true ∧ encodable ((textOf api.endpoint).getD []) = true ∧
        encodable ((textOf code.file).getD []) = true := by
  have hline : encodable ((lineNoText code.line).getD []) = true := by
    cases code.line with
    | none => rfl
    | some n => exact encodable_decimal n.val
  have hlast : encodable (joinChar bar [lower ((lineNoText code.line).getD [])]) = true := by
    simpa [joinChar, encodable_lower] using hline
  simp only [fingerprintText, alertParts, List.map_cons, List.map_nil, encodable_joinChar_cons,
    Option.getD_some, encodable_lower, FindingType.encodable_value, hlast, Bool.and_eq_true,
    true_and, and_true]

lemma returns_computeFingerprint_iff {parts : List (Option PyStr)} :
    Returns (computeFingerprint parts) ↔ encodable (fingerprintText parts) = true := by
  by_cases h : encodable (fingerprintText parts) = true
  · simp [computeFingerprint, h]
  · simp [computeFingerprint, h]

omit [UnicodeData] [Sha256] in
lemma length_le_of_textOf {maximum : ℕ} {o : Option (BoundedText maximum)} {s : PyStr}
    (h : textOf o = some s) : s.length ≤ maximum := by
  cases o with
  | none => simp [textOf] at h
  | some t =>
      have hval : t.val = s := by simpa [textOf] using h
      exact hval ▸ t.length_le

omit [UnicodeData] [Sha256] in
lemma orText_eq_or (x y : Option PyStr) : orText x y = x ∨ orText x y = y := by
  rcases x with _ | ⟨_ | ⟨c, s⟩⟩
  · exact Or.inr rfl
  · exact Or.inr rfl
  · exact Or.inl rfl

/-- **When `new_correlated_alert` returns.**  For a confidence between 0 and 1 and texts of an
acceptable length, exactly when the pair fits: everything else the alert's validator asks for
follows from the findings' own. -/
theorem newCorrelatedAlert_returns_iff (id : Uuid) (now : FiniteFloat) (api code : Finding)
    {confidence : FiniteFloat} (hconfidence : 0 ≤ confidence.val ∧ confidence.val ≤ 1)
    {rootCause recommendedFix : PyStr}
    (hroot : strip rootCause ≠ [] ∧ rootCause.length ≤ 4000)
    (hfix : strip recommendedFix ≠ [] ∧ recommendedFix.length ≤ 4000) :
    Returns (newCorrelatedAlert id now api code confidence rootCause recommendedFix) ↔
      AlertFits api code now := by
  have hcontext : (PyTree.entries [(py "api_context", .dict api.context.val),
      (py "code_context", .dict code.context.val)]).serializable = true := by
    have ha := api.context.property
    have hc := code.context.property
    rw [PyTree.serializable_entries]
    simp only [List.all_cons, List.all_nil, PyTree.serializable, ha, hc, Bool.and_true]
  have htrace : ∀ s, orText (textOf api.traceId) (textOf code.traceId) = some s →
      s.length ≤ 256 := by
    intro s hs
    rcases orText_eq_or (textOf api.traceId) (textOf code.traceId) with h | h <;>
      exact length_le_of_textOf (h ▸ hs)
  have hctx := returns_checkContext_iff.mpr hcontext
  have hconf := returns_checkConfidence_iff.mpr hconfidence
  simp only [newCorrelatedAlert, CorrelatedAlert.init, returns_bind, checkUuid_val,
    FindingType.ofVal_value, checkSeverity_value, checkRequired_val, checkLine_val,
    checkFingerprint_val, checkRequired_eq hroot.1 hroot.2, checkRequired_eq hfix.1 hfix.2,
    ok_bind]
  constructor
  · rintro ⟨fp, hfp, _, hendpoint, _, hfile, _, htrace', _, _, _, htime, -⟩
    obtain ⟨hservice, hendpoint', hfile'⟩ :=
      (encodable_alertParts api code).mp (returns_computeFingerprint_iff.mp ⟨fp, hfp⟩)
    exact
      { endpoint := (returns_checkNonempty_iff _ fun _ => length_le_of_textOf).mp ⟨_, hendpoint⟩
        file := (returns_checkNonempty_iff _ fun _ => length_le_of_textOf).mp ⟨_, hfile⟩
        trace := (returns_checkNonempty_iff _ htrace).mp ⟨_, htrace'⟩
        service_encodable := hservice
        endpoint_encodable := hendpoint'
        file_encodable := hfile'
        clock := returns_checkTimestamp_iff.mp ⟨_, htime⟩ }
  · intro h
    obtain ⟨fp, hfp⟩ := returns_computeFingerprint_iff.mpr
      ((encodable_alertParts api code).mpr
        ⟨h.service_encodable, h.endpoint_encodable, h.file_encodable⟩)
    obtain ⟨endpoint, hendpoint⟩ :=
      (returns_checkNonempty_iff "endpoint" fun _ => length_le_of_textOf).mpr h.endpoint
    obtain ⟨file, hfile⟩ :=
      (returns_checkNonempty_iff "file" fun _ => length_le_of_textOf).mpr h.file
    obtain ⟨trace, htrace'⟩ :=
      (returns_checkNonempty_iff "trace_id" htrace).mpr h.trace
    obtain ⟨time, htime⟩ := returns_checkTimestamp_iff.mpr h.clock
    obtain ⟨conf, hconf'⟩ := hconf
    obtain ⟨ctx, hctx'⟩ := hctx
    exact ⟨fp, hfp, endpoint, hendpoint, file, hfile, trace, htrace', conf, hconf', time, htime,
      ctx, hctx', returns_ok _⟩

/-! ## What an alert takes from its pair -/

/-- The fields of an alert that say what it is about, and the key it is filed under. -/
structure AlertOf (api code : Finding) (alert : CorrelatedAlert) : Prop where
  service : alert.service = api.service
  endpoint : alert.endpoint.map NonemptyText.val = textOf api.endpoint
  apiError : alert.apiError = api.type
  codeIssue : alert.codeIssue = code.type
  file : alert.file.map NonemptyText.val = textOf code.file
  line : alert.line = code.line
  fingerprint : alert.fingerprint.val = Sha256.hexdigest32 (fingerprintText (alertParts api code))

omit [UnicodeData] [Sha256] in
lemma checkNonempty_eq_ok {name : String} {maximum : ℕ} {o : Option PyStr}
    {r : Option (NonemptyText maximum)} (h : checkNonempty name maximum (optVal o) = .ok r) :
    r.map NonemptyText.val = o := by
  cases o with
  | none =>
      cases h
      rfl
  | some s =>
      simp only [optVal, checkNonempty] at h
      split_ifs at h
      cases h
      rfl

/-- **An alert is about what its pair is about.** -/
theorem newCorrelatedAlert_alertOf {id : Uuid} {now : FiniteFloat} {api code : Finding}
    {confidence : FiniteFloat} {rootCause recommendedFix : PyStr} {alert : CorrelatedAlert}
    (h : newCorrelatedAlert id now api code confidence rootCause recommendedFix = .ok alert) :
    AlertOf api code alert := by
  simp only [newCorrelatedAlert, CorrelatedAlert.init, bind_eq_ok_iff, checkUuid_val,
    FindingType.ofVal_value, checkSeverity_value, checkRequired_val, checkLine_val,
    checkFingerprint_val, ok_bind] at h
  obtain ⟨fp, hfp, _, -, _, -, endpoint, hendpoint, file, hfile, _, -, _, -, _, -, context, hcontext,
    hret⟩ := h
  cases hret
  have hdigest : fp.val = Sha256.hexdigest32 (fingerprintText (alertParts api code)) := by
    simp only [computeFingerprint] at hfp
    split_ifs at hfp
    cases hfp
    rfl
  exact
    { service := rfl
      endpoint := checkNonempty_eq_ok hendpoint
      apiError := rfl
      codeIssue := rfl
      file := checkNonempty_eq_ok hfile
      line := rfl
      fingerprint := hdigest }

/-- It holds the contexts of both. -/
lemma context_of_newCorrelatedAlert {id : Uuid} {now : FiniteFloat} {api code : Finding}
    {confidence : FiniteFloat} {rootCause recommendedFix : PyStr} {alert : CorrelatedAlert}
    (h : newCorrelatedAlert id now api code confidence rootCause recommendedFix = .ok alert) :
    alert.context.val = PyTree.entries
      [(py "api_context", .dict api.context.val), (py "code_context", .dict code.context.val)] := by
  simp only [newCorrelatedAlert, CorrelatedAlert.init, bind_eq_ok_iff, checkUuid_val,
    FindingType.ofVal_value, checkSeverity_value, checkRequired_val, checkLine_val,
    checkFingerprint_val, ok_bind] at h
  obtain ⟨_, -, _, -, _, -, _, -, _, -, _, -, _, -, _, -, context, hcontext, hret⟩ := h
  cases hret
  simp only [checkContext] at hcontext
  split_ifs at hcontext
  cases hcontext
  rfl

end Watchtower
