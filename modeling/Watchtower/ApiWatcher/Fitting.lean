import Watchtower.ApiWatcher.Probe
import Watchtower.ApiWatcher.Resolver

/-!
# Probes that raise

The texts of a finding are made of the target's first host label and path, and nothing bounds those
two when the settings are validated.  A target whose texts exceed the schema goes unnoticed until it
fails: then the construction of the finding raises, and `watch` with it.

* `TargetFits` — the lengths, alphabet and settings the texts depend on.
* `Due` — the outcomes that call for a report.
* **`returns_probeEndpoint_iff`** — a call raises exactly when it owes a report that does not fit.
* **`probes_return_iff`** — so a run of probes raises exactly when one of its calls does.
-/

namespace Watchtower

open Core Py

/-! ## Texts -/

/-- The characters of a title that are the outcome's own. -/
def titleOverhead : ProbeOutcome → ℕ
  | .response status _ => if status.isSuccess then 16 else 23
  | .timeout => 18
  | .tlsError => 23
  | .clientError _ => 21
  | .cancelled => 0

/-- The length of a description, but for the one of a slow answer, which is always short enough. -/
def descriptionLength (service endpoint : PyStr) (failures : ℕ) : ProbeOutcome → ℕ
  | .response status _ => if status.isSuccess then 0 else 58 + (decimal failures).length
  | .timeout => 52 + service.length + endpoint.length + (decimal failures).length
  | .tlsError => 63
  | .clientError _ => 52 + service.length + endpoint.length + (decimal failures).length
  | .cancelled => 0

/-- What a report on a target depends on, after an outcome and so many failures. -/
structure TargetFits (settings : Settings) (service endpoint : PyStr) (failures : ℕ)
    (outcome : ProbeOutcome) : Prop where
  platform : strip settings.platform ≠ []
  service_not_blank : strip service ≠ []
  service_length : service.length ≤ 200
  title : titleOverhead outcome + service.length + endpoint.length ≤ 500
  description : descriptionLength service endpoint failures outcome ≤ 4000
  service_encodable : encodable service = true
  endpoint_encodable : encodable endpoint = true
  threshold : ∀ status latencyMs, outcome = .response status latencyMs → status.isSuccess = true →
    ∃ q, settings.apiWatcher.latencyWarnMs = .finite q

section Fits

variable {settings : Settings} {service endpoint : PyStr} {type : FindingType} {severity : Severity}
  {title description : PyStr} {confidence : { q : FiniteFloat // 0 ≤ q.val ∧ q.val ≤ 1 }}
  {context : PyEntries} {failures : ℕ} {outcome : ProbeOutcome}

/-- A report on an endpoint fits when its target does; the bound on the title keeps the endpoint
short. -/
lemma apiReport_fits_iff (hplatform : settings.platform.length ≤ 200) (htitle : strip title ≠ [])
    (hdescription : strip description ≠ []) (hoverhead : title.length = titleOverhead outcome)
    (hlength : description.length ≤ 4000 ↔
      descriptionLength service endpoint failures outcome ≤ 4000)
    (hcontext : context.serializable = true ↔
      ∀ status latencyMs, outcome = .response status latencyMs → status.isSuccess = true →
        ∃ q, settings.apiWatcher.latencyWarnMs = .finite q) :
    (apiReport settings service endpoint type severity title description confidence context).Fits ↔
      TargetFits settings service endpoint failures outcome := by
  constructor
  · intro h
    have hlen := h.title.2
    simp only [apiReport, List.length_append, hoverhead] at hlen
    exact
      { platform := h.system.1
        service_not_blank := h.service.1
        service_length := h.service.2
        title := hlen
        description := hlength.mp h.description.2
        service_encodable := h.service_encodable
        endpoint_encodable := h.endpoint_encodable
        threshold := hcontext.mp h.context }
  · intro h
    have hlen := h.title
    exact
      { service := ⟨h.service_not_blank, h.service_length⟩
        system := ⟨h.platform, hplatform⟩
        title := ⟨by
          simp only [apiReport, List.append_assoc]
          exact strip_append_ne_nil htitle _, by
          simpa only [apiReport, List.length_append, hoverhead] using hlen⟩
        description := ⟨hdescription, hlength.mpr h.description⟩
        endpoint := by
          rintro s hs
          cases hs
          omega
        file := by
          rintro s hs
          cases hs
        line := by
          rintro n hn
          cases hn
        service_encodable := h.service_encodable
        endpoint_encodable := h.endpoint_encodable
        file_encodable := rfl
        context := hcontext.mpr h.threshold }

end Fits

/-- The outcomes that call for a report, given the count of earlier failures. -/
def Due (settings : Settings) (failures : ℕ) : ProbeOutcome → Prop
  | .response status latencyMs =>
      if status.isSuccess = true then leFloat latencyMs settings.apiWatcher.latencyWarnMs = false
      else settings.apiWatcher.failureThreshold ≤ failures + 1
  | .timeout => settings.apiWatcher.failureThreshold ≤ failures + 1
  | .tlsError => True
  | .clientError _ => settings.apiWatcher.failureThreshold ≤ failures + 1
  | .cancelled => False

variable {settings : Settings}

lemma length_decimal_status (status : HttpStatus) : (decimal status.val).length = 3 := by
  have hlow : ¬ (decimal status.val).length ≤ 2 := by
    simp only [decimal, List.length_map, Nat.length_toDigits_le_iff (b := 10) (by omega) two_pos]
    omega
  have hhigh := length_decimal_le (k := 3) (by omega) (by omega : status.val < 10 ^ 3)
  omega

section Reports

variable {service endpoint : PyStr} (hplatform : settings.platform.length ≤ 200)

include hplatform

lemma slowReport_fits_iff {status : HttpStatus} (hstatus : status.isSuccess = true)
    (latencyMs : FiniteFloat) (failures : ℕ) :
    (slowReport settings service endpoint status latencyMs).Fits ↔
      TargetFits settings service endpoint failures (.response status latencyMs) := by
  refine apiReport_fits_iff hplatform (by decide) ?_ ?_ ?_ ?_
  · simpa only [List.append_assoc] using strip_append_ne_nil (by decide) _
  · simp only [titleOverhead, hstatus, if_true]
    decide
  · -- two formatted floats are short
    have h₁ := length_fixed0_le (.finite latencyMs)
    have h₂ := length_fixed0_le settings.apiWatcher.latencyWarnMs
    have h₃ : (py "Health endpoint responded in ").length = 29 := by decide
    have h₄ : (py " ms; threshold is ").length = 18 := by decide
    have h₅ : (py " ms").length = 3 := by decide
    simp only [maxFloatDigits] at h₁ h₂
    simp only [List.length_append, h₃, h₄, h₅, descriptionLength, hstatus, if_true]
    omega
  · rw [PyTree.serializable_entries]
    simp only [List.all_cons, List.all_nil, PyTree.serializable_int, PyTree.serializable_finite,
      Bool.true_and, Bool.and_true]
    -- the threshold is part of the evidence
    cases hwarn : settings.apiWatcher.latencyWarnMs with
    | finite q => exact iff_of_true rfl fun _ _ _ _ => ⟨q, rfl⟩
    | inf negative =>
        refine iff_of_false (by rw [PyTree.serializable_inf]; decide) fun h => ?_
        obtain ⟨q, hq⟩ := h status latencyMs rfl hstatus
        cases hq
    | nan =>
        refine iff_of_false (by decide) fun h => ?_
        obtain ⟨q, hq⟩ := h status latencyMs rfl hstatus
        cases hq

lemma statusReport_fits_iff {status : HttpStatus} (hstatus : status.isSuccess = false)
    (latencyMs : FiniteFloat) (failures : ℕ) (state : EndpointState) :
    (statusReport settings service endpoint status latencyMs failures state).Fits ↔
      TargetFits settings service endpoint failures (.response status latencyMs) := by
  refine apiReport_fits_iff hplatform ?_ ?_ ?_ ?_ ?_
  · simpa only [List.append_assoc] using strip_append_ne_nil (by decide) _
  · simpa only [List.append_assoc] using strip_append_ne_nil (by decide) _
  · have h₁ : (py "Persistent HTTP ").length = 16 := by decide
    have h₂ : (py " on ").length = 4 := by decide
    simp [titleOverhead, hstatus, h₁, h₂, length_decimal_status]
  · have h₁ : (py "GET health probe returned HTTP ").length = 31 := by decide
    have h₂ : (py "; consecutive failures: ").length = 24 := by decide
    simp only [List.length_append, h₁, h₂, length_decimal_status, descriptionLength, hstatus,
      Bool.false_eq_true, if_false]
  · refine iff_of_true (by simp [PyTree.serializable_entries]) fun status' latencyMs' h hsuccess => ?_
    cases h
    rw [hstatus] at hsuccess
    cases hsuccess

/-- The reports of an endpoint that did not answer, under either title. -/
lemma downReport_fits_iff {title : PyStr} (outcome : ProbeOutcome) (htitle : strip title ≠ [])
    (hoverhead : title.length = titleOverhead outcome)
    (hlength : ∀ failures, descriptionLength service endpoint failures outcome
      = 52 + service.length + endpoint.length + (decimal failures).length)
    (hresponse : ∀ status latencyMs, outcome ≠ .response status latencyMs)
    (scheme errorKind : PyStr) (failures : ℕ) :
    (downReport settings service endpoint scheme failures title errorKind).Fits ↔
      TargetFits settings service endpoint failures outcome := by
  refine apiReport_fits_iff hplatform htitle ?_ hoverhead ?_ ?_
  · simpa only [List.append_assoc] using strip_append_ne_nil (by decide) _
  · have h₁ : (py "GET health probe failed for ").length = 28 := by decide
    have h₂ : (py "; consecutive failures: ").length = 24 := by decide
    simp only [List.length_append, h₁, h₂, hlength]
    omega
  · exact iff_of_true (by simp [PyTree.serializable_entries])
      fun status latencyMs h => absurd h (hresponse status latencyMs)

lemma tlsReport_fits_iff (failures : ℕ) :
    (tlsReport settings service endpoint).Fits ↔
      TargetFits settings service endpoint failures .tlsError := by
  refine apiReport_fits_iff hplatform (by decide) (by decide) (by decide) ?_ ?_
  · have h : (py "The health probe could not validate the endpoint certificate").length = 60 := by
      decide
    rw [h, descriptionLength]
    omega
  · exact iff_of_true (by simp [PyTree.serializable_entries]) fun status latencyMs h => by cases h

end Reports

/-- What `probe` decides: whether a report is due, and that its texts are as `TargetFits` says. -/
lemma probe_report (hplatform : settings.platform.length ≤ 200) (target : TargetMetadata)
    (key : PyStr) (s : ProbeState) (outcome : ProbeOutcome) :
    (¬ Due settings (s.failureCounts key) outcome ∧
        (probe settings target key s outcome).2 = none) ∨
      (Due settings (s.failureCounts key) outcome ∧
        ∃ r, (probe settings target key s outcome).2 = some r ∧
          (r.Fits ↔ TargetFits settings target.service target.endpoint (s.failureCounts key + 1)
            outcome)) := by
  cases outcome with
  | response status latencyMs =>
      cases hstatus : status.isSuccess with
      | true =>
          cases hslow : leFloat latencyMs settings.apiWatcher.latencyWarnMs with
          | true => simp [probe, Due, hstatus, hslow]
          | false =>
              simpa [probe, Due, hstatus, hslow] using
                slowReport_fits_iff hplatform hstatus latencyMs (s.failureCounts key + 1)
      | false =>
          by_cases hcount : settings.apiWatcher.failureThreshold ≤ s.failureCounts key + 1
          · simp [probe, Due, hstatus, hcount, not_lt.mpr hcount,
              statusReport_fits_iff hplatform hstatus]
          · simp [probe, Due, hstatus, hcount, not_le.mp hcount]
  | timeout =>
      by_cases hcount : settings.apiWatcher.failureThreshold ≤ s.failureCounts key + 1
      · simpa [probe, Due, hcount, not_lt.mpr hcount] using
          downReport_fits_iff hplatform .timeout (by decide) (by decide) (fun _ => rfl) (by simp)
            target.scheme _ (s.failureCounts key + 1)
      · simp [probe, Due, hcount, not_le.mp hcount]
  | tlsError => simpa [probe, Due] using tlsReport_fits_iff hplatform (s.failureCounts key + 1)
  | clientError kind =>
      by_cases hcount : settings.apiWatcher.failureThreshold ≤ s.failureCounts key + 1
      · simpa [probe, Due, hcount, not_lt.mpr hcount] using
          downReport_fits_iff hplatform (.clientError kind) (by decide) rfl (fun _ => rfl) (by simp)
            target.scheme kind (s.failureCounts key + 1)
      · simp [probe, Due, hcount, not_le.mp hcount]
  | cancelled => simp [probe, Due]

/-! ## Calls and runs -/

section Calls

variable [UnicodeData] [Normalization] [Sha256]

omit [Normalization] in
/-- A finding is built when the report that is due fits. -/
lemma returns_createFinding_iff (e : ProbeEvent) (due : Option Report) :
    Returns (createFinding e due) ↔ ∀ r, due = some r → r.Fits := by
  cases due with
  | none => simp [createFinding]
  | some r =>
      have hnow := newFinding_returns_iff e.id e.now.val r
      rw [and_iff_left e.now.property] at hnow
      rw [← hnow.trans (by simp : r.Fits ↔ ∀ r', some r = some r' → r'.Fits)]
      cases h : newFinding e.id e.now.val r.args <;> simp [createFinding, h, Except.map]

/-- What the validated settings say about a target's texts after an outcome. -/
def EventFits (settings : Settings) (s : ProbeState) (e : ProbeEvent) : Prop :=
  Due settings (s.failureCounts e.url) e.outcome →
    ∀ target, targetMetadata e.url = .ok target →
      TargetFits settings target.service target.endpoint (s.failureCounts e.url + 1) e.outcome

/-- **A call raises exactly when it owes a report that does not fit.** -/
theorem returns_probeEndpoint_iff (hplatform : settings.platform.length ≤ 200) (s : ProbeState)
    {e : ProbeEvent} (hurl : Returns (targetMetadata e.url)) :
    Returns (probeEndpoint settings s e).2 ↔ EventFits settings s e := by
  obtain ⟨target, htarget⟩ := hurl
  simp only [probeEndpoint, htarget, returns_createFinding_iff, EventFits, Except.ok.injEq,
    forall_eq']
  rcases probe_report hplatform target e.url s e.outcome with ⟨hdue, hnone⟩ | ⟨hdue, r, hr, hfits⟩
  · simp [hdue, hnone]
  · simp [hdue, hr, hfits]

omit [Sha256] in
/-- The target of accepted settings is taken apart without an error. -/
lemma returns_targetMetadata {url : PyStr} {parsed : SplitResult} {host : PyStr}
    (h : AcceptedUrl url parsed host) : Returns (targetMetadata url) := by
  rw [targetMetadata, h.split, ok_bind]
  exact returns_ok _

lemma returns_prober_step_iff (s : ProbeState) (e : ProbeEvent) :
    Returns ((prober settings).step s e) ↔ Returns (probeEndpoint settings s e).2 := by
  simp only [prober]
  obtain ⟨t, _ | found⟩ := probeEndpoint settings s e
  · simp
  · simp

/-- **A run of probes over accepted targets raises exactly when one of its calls owes a report that does
not fit.** -/
theorem probes_return_iff {cwd : PyStr} (h : settings.validate cwd = .ok ())
    {events : List ProbeEvent} (hurls : ∀ e ∈ events, e.url ∈ settings.apiWatcher.targetUrls) :
    Returns ((prober settings).run events) ↔
      (prober settings).Always events (EventFits settings) := by
  have hplatform : settings.platform.length ≤ 200 :=
    (Settings.platform_accepted h).2.trans (by norm_num)
  rw [Machine.returns_run_iff]
  refine Machine.always_congr_of_mem fun e he s => ?_
  obtain ⟨parsed, host, haccepted⟩ := Settings.targets_accepted h e.url (hurls e he)
  rw [← returns_probeEndpoint_iff hplatform s (returns_targetMetadata haccepted)]
  exact returns_prober_step_iff s e

end Calls

/-! ## A long path -/

section LongPath

attribute [local instance] asciiData asciiNormalization

/-- SHA-256 on the text that is hashed for a sample target. -/
@[reducible] def probeDigest : Sha256 where
  hexdigest32 text :=
    if text = py "api|/health|ssl_error||" then py "818d11caa723f73127b8d0082f0aca86"
    else py "00000000000000000000000000000000"
  isFingerprint_hexdigest32 text := by
    split_ifs <;> exact isFingerprint_literal _ rfl

attribute [local instance] probeDigest

def healthTarget : PyStr := py "https://api.example.com/health"

/-- A target whose path alone is as long as a title may be. -/
def longTarget : PyStr := py "https://api.example.com/" ++ List.replicate 500 97

def sampleProbe (url : PyStr) (outcome : ProbeOutcome) : ProbeEvent where
  url := url
  outcome := outcome
  id := sampleApiId
  now := ⟨sampleClock, sampleClock_pos⟩

theorem probes_return_iff_healthTarget :
    (settingsFor healthTarget).validate (py "/app") = .ok () ∧
      (Returns ((prober (settingsFor healthTarget)).run [sampleProbe healthTarget .tlsError]) ↔
        (prober (settingsFor healthTarget)).Always [sampleProbe healthTarget .tlsError]
          (EventFits (settingsFor healthTarget))) :=
  have haccepted : (settingsFor healthTarget).validate (py "/app") = .ok () := by decide +kernel
  ⟨haccepted, probes_return_iff haccepted (by simp [sampleProbe, settingsFor])⟩

/-- The validator accepts the target; its first failed handshake stops the watcher. -/
theorem longTarget_stops_watch :
    (settingsFor longTarget).validate (py "/app") = .ok () ∧
      ¬ Returns ((prober (settingsFor longTarget)).run [sampleProbe longTarget .tlsError]) := by
  decide +kernel

end LongPath

end Watchtower
