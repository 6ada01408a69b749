import Watchtower.Config.Settings
import Watchtower.Schema.Report
import Mathlib.Logic.Function.Basic

/-!
# Probing an endpoint

`_probe_endpoint` keeps two maps per URL, a count of consecutive failures and a state, and turns the
outcome of one request into a finding or into nothing.

* `ProbeOutcome` — what one request comes to.
* `probe` — the effect on the maps and the report that is due, if any.
* `probeEndpoint` — the call: the report becomes a finding, or its construction raises.
* `prober` — completions one after another, in whatever order the tasks of a round finish.
-/

namespace Watchtower

open Core Py

/-! ## State -/

inductive EndpointState
  | up
  | degraded
  | down
  deriving DecidableEq

def EndpointState.value : EndpointState → PyStr
  | .up => py "UP"
  | .degraded => py "DEGRADED"
  | .down => py "DOWN"

/-- `_failure_counts` and `_endpoint_states`, with their defaults. -/
structure ProbeState where
  failureCounts : PyStr → ℕ
  endpointStates : PyStr → EndpointState

namespace ProbeState

def initial : ProbeState where
  failureCounts _ := 0
  endpointStates _ := .up

/-- `_record_failure`. -/
def recordFailure (s : ProbeState) (key : PyStr) : ProbeState :=
  { s with failureCounts := Function.update s.failureCounts key (s.failureCounts key + 1) }

/-- `_endpoint_states[key] = state`. -/
def setEndpoint (s : ProbeState) (key : PyStr) (state : EndpointState) : ProbeState :=
  { s with endpointStates := Function.update s.endpointStates key state }

/-- `_record_success`. -/
def recordSuccess (s : ProbeState) (key : PyStr) : ProbeState :=
  { failureCounts := Function.update s.failureCounts key 0,
    endpointStates := Function.update s.endpointStates key .up }

section Fields

variable (s : ProbeState) (key : PyStr) (state : EndpointState)

@[simp] lemma recordFailure_failureCounts :
    (s.recordFailure key).failureCounts key = s.failureCounts key + 1 := by
  simp [recordFailure]

@[simp] lemma recordFailure_endpointStates :
    (s.recordFailure key).endpointStates = s.endpointStates := rfl

@[simp] lemma setEndpoint_failureCounts :
    (s.setEndpoint key state).failureCounts = s.failureCounts := rfl

@[simp] lemma setEndpoint_endpointStates :
    (s.setEndpoint key state).endpointStates key = state := by
  simp [setEndpoint]

@[simp] lemma recordSuccess_failureCounts : (s.recordSuccess key).failureCounts key = 0 := by
  simp [recordSuccess]

@[simp] lemma recordSuccess_endpointStates : (s.recordSuccess key).endpointStates key = .up := by
  simp [recordSuccess]

end Fields

end ProbeState

/-! ## Outcomes -/

/-- The status of an HTTP answer: three digits. -/
abbrev HttpStatus := { n : ℕ // 100 ≤ n ∧ n ≤ 999 }

def HttpStatus.isSuccess (status : HttpStatus) : Bool := decide (200 ≤ status.val ∧ status.val ≤ 299)

/-- What one request comes to.  A client error that is neither a timeout nor a failure of TLS comes
with the name of its class. -/
inductive ProbeOutcome
  | response (status : HttpStatus) (latencyMs : FiniteFloat)
  | timeout
  | tlsError
  | clientError (kind : PyStr)
  | cancelled
  deriving DecidableEq

/-- `x <= y` on floats, for a finite `x`. -/
def leFloat (x : FiniteFloat) : PyFloat → Bool
  | .finite y => decide (x.val ≤ y.val)
  | .inf negative => !negative
  | .nan => false

/-! ## Reports -/

/-- `_classify_status`. -/
def classifyStatus (status : ℕ) : FindingType :=
  if status = 401 ∨ status = 403 then .authFailure
  else if status = 429 then .rateLimitHit
  else if 500 ≤ status ∧ status ≤ 599 then .http5xx
  else if 400 ≤ status ∧ status ≤ 499 then .http4xx
  else .anomalousResponse

/-- `min(base + failures * 0.05, 0.99)`.  The count is far within the range of floats. -/
def failureConfidence (base : { q : FiniteFloat // 0 ≤ q.val ∧ q.val ≤ 1 }) (failures : ℕ) :
    { q : FiniteFloat // 0 ≤ q.val ∧ q.val ≤ 1 } :=
  let limit := unitDouble 0.99
  let step := roundDouble (roundDouble failures * (unitDouble 0.05).val.val)
  let sum := roundDouble (base.val.val + step)
  have hstep : 0 ≤ step :=
    roundDouble_nonneg
      (mul_nonneg (roundDouble_nonneg failures.cast_nonneg) (unitDouble 0.05).property.1)
  have hsum : 0 ≤ sum := roundDouble_nonneg (add_nonneg base.property.1 hstep)
  have h : 0 ≤ min sum limit.val.val ∧ min sum limit.val.val ≤ 1 :=
    ⟨le_min hsum limit.property.1, (min_le_right _ _).trans limit.property.2⟩
  ⟨unitFloat (min sum limit.val.val) h, h⟩

section Reports

variable (settings : Settings) (service endpoint : PyStr)

/-- What every report on an endpoint has in common. -/
def apiReport (type : FindingType) (severity : Severity) (title description : PyStr)
    (confidence : { q : FiniteFloat // 0 ≤ q.val ∧ q.val ≤ 1 }) (context : PyEntries) : Report where
  source := .api
  type := type
  severity := severity
  service := service
  system := settings.platform
  title := title ++ service ++ endpoint
  description := description
  endpoint := some endpoint
  confidence := confidence
  context := context

/-- A successful answer that took too long. -/
def slowReport (status : HttpStatus) (latencyMs : FiniteFloat) : Report :=
  apiReport settings service endpoint .highLatency .medium (py "High latency on ")
    (py "Health endpoint responded in " ++ fixed0 (.finite latencyMs) ++ py " ms; threshold is " ++
      fixed0 settings.apiWatcher.latencyWarnMs ++ py " ms")
    (unitDouble 0.9)
    (PyTree.entries
      [(py "latency_ms", .float (.finite (roundFloat 2 latencyMs))),
        (py "http_status", .int status.val),
        (py "threshold_ms", .float settings.apiWatcher.latencyWarnMs)])

/-- Another answer, once it has come often enough. -/
def statusReport (status : HttpStatus) (latencyMs : FiniteFloat) (failures : ℕ)
    (state : EndpointState) : Report :=
  apiReport settings service endpoint (classifyStatus status.val)
    (if 500 ≤ status.val then .critical else .high)
    (py "Persistent HTTP " ++ decimal status.val ++ py " on ")
    (py "GET health probe returned HTTP " ++ decimal status.val ++
      py "; consecutive failures: " ++ decimal failures)
    (failureConfidence (unitDouble 0.7) failures)
    (PyTree.entries
      [(py "http_status", .int status.val),
        (py "latency_ms", .float (.finite (roundFloat 2 latencyMs))),
        (py "method", .str (py "GET")), (py "failures", .int failures),
        (py "endpoint_state", .str state.value)])

/-- `_down_finding`. -/
def downReport (scheme : PyStr) (failures : ℕ) (title errorKind : PyStr) : Report :=
  apiReport settings service endpoint .endpointDown .critical title
    (py "GET health probe failed for " ++ service ++ endpoint ++ py "; consecutive failures: " ++
      decimal failures)
    (failureConfidence (unitDouble 0.8) failures)
    (PyTree.entries
      [(py "failures", .int failures), (py "error_kind", .str errorKind),
        (py "target_scheme", .str scheme)])

/-- A certificate that could not be validated. -/
def tlsReport : Report :=
  apiReport settings service endpoint .sslError .high (py "TLS validation failed: ")
    (py "The health probe could not validate the endpoint certificate")
    (unitDouble 0.99)
    (PyTree.entries [(py "error_kind", .str (py "tls_validation"))])

end Reports

/-! ## The call -/

/-- What a probe knows of its target: `_target_metadata`, and the scheme. -/
structure TargetMetadata where
  service : PyStr
  endpoint : PyStr
  scheme : PyStr
  deriving DecidableEq

/-- `_target_metadata`: the first label of the host name, and the path. -/
def targetMetadata [UnicodeData] [Normalization] (url : PyStr) : Except PyExc TargetMetadata := do
  let parsed ← urlsplit url
  let hostname := match parsed.hostname with
    | some (c :: s) => c :: s
    | _ => py "unknown-service"
  return { service := (partition dot hostname).1, endpoint := parsed.path, scheme := parsed.scheme }

/-- The branches of `_probe_endpoint`: the maps afterwards, and the report that is due. -/
def probe (settings : Settings) (target : TargetMetadata) (key : PyStr) (s : ProbeState) :
    ProbeOutcome → ProbeState × Option Report
  | .response status latencyMs =>
      if status.isSuccess then
        let s := s.recordSuccess key
        if leFloat latencyMs settings.apiWatcher.latencyWarnMs then (s, none)
        else (s, some (slowReport settings target.service target.endpoint status latencyMs))
      else
        let s := s.recordFailure key
        let failures := s.failureCounts key
        if (failures : ℤ) < settings.apiWatcher.failureThreshold then (s, none)
        else
          let s := s.setEndpoint key (if 500 ≤ status.val then .down else .degraded)
          (s, some (statusReport settings target.service target.endpoint status latencyMs failures
            (s.endpointStates key)))
  | .timeout =>
      let s := s.recordFailure key
      let failures := s.failureCounts key
      if (failures : ℤ) < settings.apiWatcher.failureThreshold then (s, none)
      else
        (s.setEndpoint key .down,
          some (downReport settings target.service target.endpoint target.scheme failures
            (py "Endpoint timeout: ") (py "timeout")))
  | .tlsError =>
      (s.setEndpoint key .down, some (tlsReport settings target.service target.endpoint))
  | .clientError kind =>
      let s := s.recordFailure key
      let failures := s.failureCounts key
      if (failures : ℤ) < settings.apiWatcher.failureThreshold then (s, none)
      else
        (s.setEndpoint key .down,
          some (downReport settings target.service target.endpoint target.scheme failures
            (py "Service unreachable: ") kind))
  | .cancelled => (s, none)

/-- A completed probe, with the UUID and the clock reading a finding would get.  The clock is past the
epoch. -/
structure ProbeEvent [UnicodeData] where
  url : PyStr
  outcome : ProbeOutcome
  id : Uuid
  now : { q : FiniteFloat // 0 < q.val }

variable [UnicodeData] [Normalization] [Sha256]

/-- The finding a report becomes. -/
def createFinding (e : ProbeEvent) : Option Report → Except PyExc (Option Finding)
  | none => .ok none
  | some r => (newFinding e.id e.now.val r.args).map some

/-- `_probe_endpoint`: the maps change before a finding is built, so they keep the change when the
construction raises.  A cancelled probe returns nothing here; its `CancelledError` is passed on. -/
def probeEndpoint (settings : Settings) (s : ProbeState) (e : ProbeEvent) :
    ProbeState × Except PyExc (Option Finding) :=
  match targetMetadata e.url with
  | .error exc => (s, .error exc)
  | .ok target =>
      let (s, due) := probe settings target e.url s e.outcome
      (s, createFinding e due)

/-- Probes completing one after another.  `watch` stops with a `RuntimeError` as soon as one of them
raises. -/
def prober (settings : Settings) : Machine ProbeState ProbeEvent PyExc where
  init := .initial
  step s e :=
    match probeEndpoint settings s e with
    | (s, .ok _) => .ok s
    | (_, .error exc) => .error exc

end Watchtower
