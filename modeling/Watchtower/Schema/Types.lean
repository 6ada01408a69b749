import Watchtower.Python.Value

/-!
# The enumerations of the finding schema

Each enumeration is a `str` enum in the source: a member is determined by its value, and calling
the class on a value returns the member or raises `ValueError`.  `enumOf` is that call.
-/

namespace Watchtower

open Core Py

/-- `Enum(v)`: the member whose value is `v`. -/
def enumOf {α : Type} (name : String) (members : List α) (value : α → PyStr) :
    PyVal → Except PyExc α
  | .str s =>
      match members.find? fun m => value m == s with
      | some m => .ok m
      | none => .error (.valueErrorRepr ("not a valid " ++ name) (.str s))
  | v => .error (.valueErrorRepr ("not a valid " ++ name) v)

/-! ## Severity -/

inductive Severity
  | low
  | medium
  | high
  | critical
  deriving DecidableEq

namespace Severity

def members : List Severity := [low, medium, high, critical]

def value : Severity → PyStr
  | low => py "LOW"
  | medium => py "MEDIUM"
  | high => py "HIGH"
  | critical => py "CRITICAL"

def numeric : Severity → ℕ
  | low => 1
  | medium => 2
  | high => 3
  | critical => 4

/-- `Severity.from_string`: the text is upper-cased first, so `"high"` is accepted. -/
def fromString [UnicodeData] : PyVal → Except PyExc Severity
  | .str s => enumOf "Severity" members value (.str (upper s))
  | _ => .error .attributeError

end Severity

/-! ## Source -/

inductive FindingSource
  | api
  | code
  | correlator
  | manual
  | scheduler
  deriving DecidableEq

namespace FindingSource

def members : List FindingSource := [api, code, correlator, manual, scheduler]

def value : FindingSource → PyStr
  | api => py "api"
  | code => py "code"
  | correlator => py "correlator"
  | manual => py "manual"
  | scheduler => py "scheduler"

def ofVal : PyVal → Except PyExc FindingSource := enumOf "FindingSource" members value

end FindingSource

/-! ## Type -/

inductive FindingType
  | http5xx
  | http4xx
  | highLatency
  | endpointDown
  | sslError
  | authFailure
  | rateLimitHit
  | anomalousResponse
  | hardcodedSecret
  | sqlInjectionRisk
  | nullDereference
  | reentrancyRisk
  | evalUsage
  | weakCrypto
  | ssrfRisk
  | missingAuthCheck
  | massAssignment
  | openRedirect
  | fileModified
  | suspiciousPattern
  | correlatedFailure
  | unknown
  deriving DecidableEq

namespace FindingType

def members : List FindingType :=
  [http5xx, http4xx, highLatency, endpointDown, sslError, authFailure, rateLimitHit,
    anomalousResponse, hardcodedSecret, sqlInjectionRisk, nullDereference, reentrancyRisk,
    evalUsage, weakCrypto, ssrfRisk, missingAuthCheck, massAssignment, openRedirect, fileModified,
    suspiciousPattern, correlatedFailure, unknown]

def value : FindingType → PyStr
  | http5xx => py "http_5xx"
  | http4xx => py "http_4xx"
  | highLatency => py "high_latency"
  | endpointDown => py "endpoint_down"
  | sslError => py "ssl_error"
  | authFailure => py "auth_failure"
  | rateLimitHit => py "rate_limit_hit"
  | anomalousResponse => py "anomalous_response"
  | hardcodedSecret => py "hardcoded_secret"
  | sqlInjectionRisk => py "sql_injection_risk"
  | nullDereference => py "null_dereference"
  | reentrancyRisk => py "reentrancy_risk"
  | evalUsage => py "eval_usage"
  | weakCrypto => py "weak_crypto"
  | ssrfRisk => py "ssrf_risk"
  | missingAuthCheck => py "missing_auth_check"
  | massAssignment => py "mass_assignment"
  | openRedirect => py "open_redirect"
  | fileModified => py "file_modified"
  | suspiciousPattern => py "suspicious_pattern"
  | correlatedFailure => py "correlated_failure"
  | unknown => py "unknown"

def ofVal : PyVal → Except PyExc FindingType := enumOf "FindingType" members value

end FindingType

/-! ## Status -/

inductive FindingStatus
  | open
  | investigating
  | patched
  | falsePositive
  | suppressed
  deriving DecidableEq

namespace FindingStatus

def members : List FindingStatus := [.open, investigating, patched, falsePositive, suppressed]

def value : FindingStatus → PyStr
  | .open => py "OPEN"
  | investigating => py "INVESTIGATING"
  | patched => py "PATCHED"
  | falsePositive => py "FALSE_POSITIVE"
  | suppressed => py "SUPPRESSED"

def ofVal : PyVal → Except PyExc FindingStatus := enumOf "FindingStatus" members value

end FindingStatus

/-! ## Members and values correspond -/

lemma enumOf_value {α : Type} {name : String} {members : List α} {value : α → PyStr} {m : α}
    (hmem : m ∈ members) (hinj : ∀ x ∈ members, value x = value m → x = m) :
    enumOf name members value (.str (value m)) = .ok m := by
  have hfind : members.find? (fun x => value x == value m) = some m := by
    cases hf : members.find? fun x => value x == value m with
    | none => simpa using List.find?_eq_none.mp hf m hmem
    | some x =>
        have hx : value x = value m := by simpa using List.find?_some hf
        rw [hinj x (List.mem_of_find?_eq_some hf) hx]
  simp [enumOf, hfind]

lemma FindingType.ofVal_value (t : FindingType) : FindingType.ofVal (.str t.value) = .ok t :=
  enumOf_value (by cases t <;> decide) (by cases t <;> decide)

lemma FindingSource.ofVal_value (s : FindingSource) :
    FindingSource.ofVal (.str s.value) = .ok s :=
  enumOf_value (by cases s <;> decide) (by cases s <;> decide)

lemma FindingStatus.ofVal_value (s : FindingStatus) :
    FindingStatus.ofVal (.str s.value) = .ok s :=
  enumOf_value (by cases s <;> decide) (by cases s <;> decide)

/-- A severity's own value is already upper case. -/
lemma Severity.fromString_value [UnicodeData] (s : Severity) :
    Severity.fromString (.str s.value) = .ok s := by
  have hupper : upper s.value = s.value := by
    have hall : (s.value.all fun c => isAscii c && !decide (97 ≤ c.val ∧ c.val ≤ 122)) = true := by
      cases s <;> rfl
    have hascii : ∀ c ∈ s.value, isAscii c = true ∧ ¬ (97 ≤ c.val ∧ c.val ≤ 122) := by
      simpa only [List.all_eq_true, Bool.and_eq_true, Bool.not_eq_true',
        decide_eq_false_iff_not] using hall
    have hsingle : ∀ c ∈ s.value, UnicodeData.upperFull c = [c] := by
      intro c hc
      rw [UnicodeData.upper_ascii c (hascii c hc).1, asciiUpper, dif_neg (hascii c hc).2]
    rw [upper, List.flatMap_congr hsingle]
    simp
  rw [fromString, hupper]
  exact enumOf_value (by cases s <;> decide) (by cases s <;> decide)

/-- No value of a finding type holds an unencodable character. -/
lemma FindingType.encodable_value (t : FindingType) : encodable t.value = true := by
  cases t <;> decide

end Watchtower
