import Watchtower.Core.Recency
import Watchtower.Schema.Alert

/-!
# Scope and confidence

When an API finding and a code finding belong together, and how strongly.

* `correlationKb` — the pairs of finding types with a known root cause.
* `findingsShareScope` — the matching rule: same service, close in time, and either the same route
  or a known pair of types.
* `computeConfidence` — the heuristic score, in exact arithmetic or in that of floats.
  **`confidenceScore_mem`** bounds it, which is what lets the score be passed on as a confidence.
* **`AtLeastAsStrong.confidenceScore_le`** — the score grows with the evidence, in either arithmetic.
* **`computeConfidence_strengthens`** — what this says of exact arithmetic.
-/

namespace Watchtower

open Core Py

/-! ## Knowledge base -/

/-- `_CORRELATION_KB`: root cause and recommended fix for the known pairs. -/
def correlationKb : List ((FindingType × FindingType) × (PyStr × PyStr)) :=
  [((.http5xx, .nullDereference),
      (py "A NullPointerException in the handler is causing unhandled 500 responses.",
       py "Add None-guards before chained attribute access. Use Optional[T] typing.")),
   ((.http5xx, .sqlInjectionRisk),
      (py "Unsanitized user input in the SQL query is likely causing DB errors and 500s.",
       py "Replace f-string / concatenated SQL with parameterized queries (ORM or cursor.execute with params tuple).")),
   ((.http5xx, .reentrancyRisk),
      (py "Smart contract reentrancy is likely causing transaction reversions which surface as 500 errors.",
       py "Implement CEI pattern (Checks-Effects-Interactions) + add OpenZeppelin ReentrancyGuard.")),
   ((.authFailure, .missingAuthCheck),
      (py "The endpoint is returning 401/403 because the auth decorator or middleware guard is absent in the handler.",
       py "Add @login_required / @require_auth / JWT middleware to the route handler.")),
   ((.authFailure, .hardcodedSecret),
      (py "Hardcoded credentials in source may have been rotated/revoked, causing authentication failures.",
       py "Remove hardcoded secrets immediately. Load from environment variables or a secrets manager (Vault/AWS SSM).")),
   ((.http5xx, .evalUsage),
      (py "eval()/exec() with untrusted input is likely raising exceptions that become 500 responses.",
       py "Remove eval()/exec(). Use safe deserialization (json.loads) or a whitelist-based dispatcher.")),
   ((.http5xx, .hardcodedSecret),
      (py "Hardcoded secret may have been rotated, causing authentication with downstream services to fail.",
       py "Externalize all secrets to environment variables or a secrets manager. Rotate immediately.")),
   ((.endpointDown, .nullDereference),
      (py "Startup crash due to null dereference is preventing the service from starting.",
       py "Add defensive None checks at initialization. Add startup health assertions.")),
   ((.highLatency, .sqlInjectionRisk),
      (py "Non-parameterized query is likely causing full table scans (missing index path), producing high latency.",
       py "Parameterize queries. Add EXPLAIN ANALYZE and add appropriate indexes.")),
   ((.http5xx, .ssrfRisk),
      (py "SSRF attempt on the endpoint may be causing timeout or connection errors that return 500.",
       py "Validate and whitelist all outbound URLs. Use a URL allow-list + DNS rebinding protection.")),
   ((.rateLimitHit, .missingAuthCheck),
      (py "Unauthenticated endpoint is being hammered — no auth gate to filter bots/scrapers.",
       py "Add authentication to this endpoint. Enforce per-IP rate limiting independently."))]

/-- `_DEFAULT_ROOT_CAUSE`. -/
def defaultRootCause : PyStr × PyStr :=
  (py "An API-layer anomaly correlates with a code-level security issue on the same service/endpoint.",
   py "Review the linked code finding for security hardening. Add defensive error handling.")

/-- `(api_type, code_type) in _CORRELATION_KB`. -/
def knownPair (apiType codeType : FindingType) : Bool :=
  (correlationKb.lookup (apiType, codeType)).isSome

/-- `_lookup_root_cause`. -/
def lookupRootCause (apiType codeType : FindingType) : PyStr × PyStr :=
  (correlationKb.lookup (apiType, codeType)).getD defaultRootCause

/-- A text the alert validator accepts as root cause or fix. -/
structure IsGuidance (s : PyStr) : Prop where
  not_blank : strip s ≠ []
  length_le : s.length ≤ 4000

/-- A literal that starts with a visible character. -/
lemma isGuidance_literal (c : Char) (l : List Char) (hc : isSpace (ofChar c) = false)
    (hlen : l.length < 4000) : IsGuidance (py (String.ofList (c :: l))) := by
  refine ⟨strip_literal_ne_nil c l hc, ?_⟩
  rw [py, String.toList_ofList, List.length_map, List.length_cons]
  exact hlen

lemma isGuidance_of_mem_correlationKb :
    ∀ e ∈ correlationKb, IsGuidance e.2.1 ∧ IsGuidance e.2.2 := by
  simp only [correlationKb, List.forall_mem_cons]
  and_intros
  all_goals first
    | exact isGuidance_literal _ _ (by decide) (by decide)
    | exact fun e he => absurd he List.not_mem_nil

/-- **Every text the knowledge base gives out passes the alert's validation.** -/
theorem lookupRootCause_isGuidance (apiType codeType : FindingType) :
    IsGuidance (lookupRootCause apiType codeType).1 ∧
      IsGuidance (lookupRootCause apiType codeType).2 := by
  unfold lookupRootCause
  cases hlookup : correlationKb.lookup (apiType, codeType) with
  | none =>
      exact ⟨isGuidance_literal _ _ (by decide) (by decide),
        isGuidance_literal _ _ (by decide) (by decide)⟩
  | some texts => exact isGuidance_of_mem_correlationKb _ (mem_of_lookup hlookup)

/-! ## Scope -/

/-- The truth value of an optional text: `None` and the empty text are false. -/
def truthy : Option PyStr → Bool
  | some (_ :: _) => true
  | _ => false

/-- Both texts are present and equal. -/
def bothEqual (x y : Option PyStr) : Bool := truthy x && truthy y && x == y

section Score

variable [UnicodeData]

/-- `abs(api.timestamp - code.timestamp)`. -/
def timeDistance (r : Rounding) (api code : Finding) : ℚ :=
  |PyNum.sub r api.timestamp.val code.timestamp.val|

/-- `_findings_share_scope`, for the configured correlation window. -/
def findingsShareScope (window : ℚ) (api code : Finding) : Bool :=
  if api.source ≠ .api ∨ code.source ≠ .code ∨ api.service ≠ code.service ∨
      timeDistance .double api code > window then false
  else if truthy (textOf api.endpoint) && truthy (textOf code.endpoint) then
    textOf api.endpoint == textOf code.endpoint
  else knownPair api.type code.type

/-! ## Confidence -/

section Bonus

variable (r : Rounding)

omit [UnicodeData]

/-- `score += x`, for a literal `x`. -/
def plus (score x : ℚ) : ℚ := r.round (score + r.round x)

/-- The bonus for closeness in time. -/
def plusTime (score dt : ℚ) : ℚ :=
  if dt ≤ 60 then plus r score 0.10 else if dt ≤ 300 then plus r score 0.05 else score

end Bonus

/-- The evidence for a correlation, before it is weighted. -/
def evidence (r : Rounding) (api code : Finding) : ℚ :=
  let score := r.round 0.5
  let score :=
    if bothEqual (textOf api.traceId) (textOf code.traceId) then plus r score 0.35 else score
  let score :=
    if bothEqual (textOf api.endpoint) (textOf code.endpoint) then plus r score 0.10 else score
  let score := plusTime r score (timeDistance r api code)
  let score :=
    if api.severityNumeric ≥ 3 ∧ code.severityNumeric ≥ 3 then plus r score 0.08 else score
  if knownPair api.type code.type then plus r score 0.12 else score

/-- The mean of the two confidences.  The only integers among them, 0 and 1, are floats as well. -/
def weight (r : Rounding) (api code : Finding) : ℚ :=
  r.round (r.round (api.confidence.val.value * r.round 0.5) +
    r.round (code.confidence.val.value * r.round 0.5))

/-- The weighted evidence, rounded to three decimals and capped. -/
def confidenceScore (r : Rounding) (api code : Finding) : ℚ :=
  min (r.round (roundTo 3 (r.round (evidence r api code * weight r api code)))) (r.round 0.99)

section Bounds

variable {r : Rounding}

omit [UnicodeData]

/-- A score of the arithmetic. -/
structure IsScore (r : Rounding) (score : ℚ) : Prop where
  nonneg : 0 ≤ score
  rounded : r.round score = score

lemma isScore_round {q : ℚ} (h : 0 ≤ q) : IsScore r (r.round q) := ⟨r.nonneg h, r.idem h⟩

lemma IsScore.plus {score x : ℚ} (h : IsScore r score) (hx : 0 ≤ x) : IsScore r (plus r score x) :=
  isScore_round (add_nonneg h.nonneg (r.nonneg hx))

lemma IsScore.ite {p : Prop} [Decidable p] {score x : ℚ} (h : IsScore r score) (hx : 0 ≤ x) :
    IsScore r (if p then Watchtower.plus r score x else score) := by
  split_ifs
  · exact h.plus hx
  · exact h

lemma IsScore.plusTime {score dt : ℚ} (h : IsScore r score) : IsScore r (plusTime r score dt) := by
  unfold Watchtower.plusTime
  split_ifs
  · exact h.plus (by norm_num)
  · exact h.plus (by norm_num)
  · exact h

end Bounds

lemma isScore_evidence (r : Rounding) (api code : Finding) : IsScore r (evidence r api code) := by
  have hbase : IsScore r (r.round 0.5) := isScore_round (by norm_num)
  exact ((((hbase.ite (by norm_num)).ite (by norm_num)).plusTime).ite (by norm_num)).ite
    (by norm_num)

lemma weight_nonneg (r : Rounding) (api code : Finding) : 0 ≤ weight r api code := by
  have hhalf : 0 ≤ r.round 0.5 := r.nonneg (by norm_num)
  have hapi := r.nonneg (mul_nonneg api.confidence.property.1 hhalf)
  have hcode := r.nonneg (mul_nonneg code.confidence.property.1 hhalf)
  exact r.nonneg (add_nonneg hapi hcode)

/-- **The score lies between 0 and 0.99.** -/
theorem confidenceScore_mem (r : Rounding) (api code : Finding) :
    0 ≤ confidenceScore r api code ∧ confidenceScore r api code ≤ r.round 0.99 := by
  have hevidence := (isScore_evidence r api code).nonneg
  have hproduct := r.nonneg (mul_nonneg hevidence (weight_nonneg r api code))
  refine ⟨le_min (r.nonneg (roundTo_nonneg hproduct)) (r.nonneg (by norm_num)), min_le_right _ _⟩

lemma confidenceScore_le_one (r : Rounding) (api code : Finding) : confidenceScore r api code ≤ 1 :=
  (confidenceScore_mem r api code).2.trans (r.le_one (by norm_num) (by norm_num))

/-- `_compute_confidence`. -/
def computeConfidence (r : Rounding) (api code : Finding) : FiniteFloat :=
  unitFloat (confidenceScore r api code)
    ⟨(confidenceScore_mem r api code).1, confidenceScore_le_one r api code⟩

@[simp] lemma computeConfidence_val (r : Rounding) (api code : Finding) :
    (computeConfidence r api code).val = confidenceScore r api code := rfl

/-! ## Stronger evidence -/

/-- A severity of at least `HIGH`. -/
def IsSevere (f : Finding) : Prop :=
  Severity.fromString (.str f.severity.val) = .ok .high ∨
    Severity.fromString (.str f.severity.val) = .ok .critical

/-- One pair of findings is at least as strong evidence as another on every axis. -/
structure AtLeastAsStrong (r : Rounding) (api code api' code' : Finding) : Prop where
  trace : bothEqual (textOf api.traceId) (textOf code.traceId) →
    bothEqual (textOf api'.traceId) (textOf code'.traceId)
  endpoint : bothEqual (textOf api.endpoint) (textOf code.endpoint) →
    bothEqual (textOf api'.endpoint) (textOf code'.endpoint)
  severe : IsSevere api ∧ IsSevere code → IsSevere api' ∧ IsSevere code'
  known : knownPair api.type code.type → knownPair api'.type code'.type
  close : timeDistance r api' code' ≤ timeDistance r api code
  api_confidence : api.confidence.val.value ≤ api'.confidence.val.value
  code_confidence : code.confidence.val.value ≤ code'.confidence.val.value

/-- The numbers of the severities from `HIGH` on. -/
lemma three_le_severityNumeric_iff (f : Finding) : f.severityNumeric ≥ 3 ↔ IsSevere f := by
  obtain ⟨severity, hseverity⟩ := f.severity.accepted
  rw [Finding.severityNumeric, IsSevere, hseverity]
  simp only [Except.ok.injEq]
  cases severity <;> decide

section Stronger

variable {r : Rounding}

section Steps

omit [UnicodeData]

variable {score score' x x' : ℚ}

lemma plus_le_plus (h : 0 ≤ score) (hle : score ≤ score') (hx : 0 ≤ x) (hxle : x ≤ x') :
    plus r score x ≤ plus r score' x' :=
  r.mono (add_nonneg h (r.nonneg hx)) (add_le_add hle (r.mono hx hxle))

/-- A bonus does not bring a score down. -/
lemma le_plus (h : IsScore r score) (hle : score ≤ score') (hx : 0 ≤ x) :
    score ≤ plus r score' x := by
  have hround := r.mono h.nonneg (hle.trans (le_add_of_nonneg_right (r.nonneg hx)))
  rwa [h.rounded] at hround

/-- A bonus that carries over is not smaller. -/
lemma ite_le_ite {p q : Prop} [Decidable p] [Decidable q] (h : IsScore r score)
    (hle : score ≤ score') (hx : 0 ≤ x) (hpq : p → q) :
    (if p then plus r score x else score) ≤ if q then plus r score' x else score' := by
  by_cases hp : p
  · rw [if_pos hp, if_pos (hpq hp)]
    exact plus_le_plus h.nonneg hle hx le_rfl
  · rw [if_neg hp]
    split_ifs
    · exact le_plus h hle hx
    · exact hle

/-- The closer in time, the larger the bonus. -/
lemma plusTime_le_plusTime {dt dt' : ℚ} (h : IsScore r score) (hle : score ≤ score')
    (hdt : dt' ≤ dt) : plusTime r score dt ≤ plusTime r score' dt' := by
  unfold plusTime
  by_cases hnear : dt ≤ 60
  · rw [if_pos hnear, if_pos (hdt.trans hnear)]
    exact plus_le_plus h.nonneg hle (by norm_num) le_rfl
  · rw [if_neg hnear]
    by_cases hmid : dt ≤ 300
    · rw [if_pos hmid, if_pos (hdt.trans hmid)]
      split_ifs
      · exact plus_le_plus h.nonneg hle (by norm_num) (by norm_num)
      · exact plus_le_plus h.nonneg hle (by norm_num) le_rfl
    · rw [if_neg hmid]
      split_ifs
      · exact le_plus h hle (by norm_num)
      · exact le_plus h hle (by norm_num)
      · exact hle

end Steps

variable {api code api' code' : Finding}

lemma AtLeastAsStrong.evidence_le (h : AtLeastAsStrong r api code api' code') :
    evidence r api code ≤ evidence r api' code' := by
  have hbase : IsScore r (r.round 0.5) := isScore_round (by norm_num)
  have hsevere : api.severityNumeric ≥ 3 ∧ code.severityNumeric ≥ 3 →
      api'.severityNumeric ≥ 3 ∧ code'.severityNumeric ≥ 3 := by
    simp only [three_le_severityNumeric_iff]
    exact h.severe
  -- one step for each of the five bonuses
  have htrace := ite_le_ite (x := 0.35) hbase le_rfl (by norm_num) h.trace
  have hendpoint := ite_le_ite (x := 0.10) (hbase.ite (by norm_num)) htrace (by norm_num) h.endpoint
  have htime := plusTime_le_plusTime ((hbase.ite (by norm_num)).ite (by norm_num)) hendpoint h.close
  have hhigh := ite_le_ite (x := 0.08)
    (((hbase.ite (by norm_num)).ite (by norm_num)).plusTime) htime (by norm_num) hsevere
  exact ite_le_ite ((((hbase.ite (by norm_num)).ite (by norm_num)).plusTime).ite (by norm_num)) hhigh
    (by norm_num) h.known

lemma AtLeastAsStrong.weight_le (h : AtLeastAsStrong r api code api' code') :
    weight r api code ≤ weight r api' code' := by
  have hhalf : 0 ≤ r.round 0.5 := r.nonneg (by norm_num)
  have hapi := mul_nonneg api.confidence.property.1 hhalf
  have hcode := mul_nonneg code.confidence.property.1 hhalf
  refine r.mono (add_nonneg (r.nonneg hapi) (r.nonneg hcode)) (add_le_add ?_ ?_)
  · exact r.mono hapi (mul_le_mul_of_nonneg_right h.api_confidence hhalf)
  · exact r.mono hcode (mul_le_mul_of_nonneg_right h.code_confidence hhalf)

/-- **The score grows with the evidence**, in any arithmetic that keeps the order. -/
theorem AtLeastAsStrong.confidenceScore_le (h : AtLeastAsStrong r api code api' code') :
    confidenceScore r api code ≤ confidenceScore r api' code' := by
  have hevidence := isScore_evidence r api code
  have hproduct := mul_nonneg hevidence.nonneg (weight_nonneg r api code)
  have hmul : evidence r api code * weight r api code ≤ evidence r api' code' * weight r api' code' :=
    mul_le_mul h.evidence_le h.weight_le (weight_nonneg r api code)
      (isScore_evidence r api' code').nonneg
  refine min_le_min_right _ (r.mono (roundTo_nonneg (r.nonneg hproduct)) (roundTo_mono ?_))
  exact r.mono hproduct hmul

end Stronger

/-- **The score grows with the evidence, and lies between 0 and 0.99**, in exact arithmetic. -/
theorem computeConfidence_strengthens :
    (∀ api code api' code' : Finding, AtLeastAsStrong .exact api code api' code' →
      (computeConfidence .exact api code).val ≤ (computeConfidence .exact api' code').val) ∧
    ∀ api code : Finding,
      0 ≤ (computeConfidence .exact api code).val ∧ (computeConfidence .exact api code).val ≤ 0.99 :=
  ⟨fun _ _ _ _ h => h.confidenceScore_le, confidenceScore_mem .exact⟩

end Score

section Sample

attribute [local instance] asciiData

/-- An API finding with a code finding of confidence zero, and with one of confidence one. -/
theorem computeConfidence_strengthens_certain :
    (computeConfidence .exact (sampleFinding sampleApiId .api .http5xx none none none true)
        (sampleFinding sampleCodeId .code .nullDereference none none none false)).val
      ≤ (computeConfidence .exact (sampleFinding sampleApiId .api .http5xx none none none true)
        (sampleFinding sampleCodeId .code .nullDereference none none none true)).val :=
  computeConfidence_strengthens.1 _ _ _ _
    { trace := id
      endpoint := id
      severe := id
      known := id
      close := le_refl _
      api_confidence := le_refl _
      code_confidence := by decide +kernel }

end Sample

end Watchtower
