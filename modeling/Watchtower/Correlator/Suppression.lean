import Watchtower.Correlator.Accounting

/-!
# Suppressed findings

The loop's comment says that findings which are already correlated or suppressed are skipped.  What
is checked is the source alone: the status is validated and buffered with the rest of the finding,
and neither the scope, nor the score, nor the alert looks at it.

* `NoAlertFromSuppressed`, `SkipsSuppressed` — what the comment promises of one iteration.
* `ConsumesUnsuppressed` — the finding an iteration consumes is not suppressed.
* **`suppressed_skipped_iff`** — along a run the promise is kept exactly when no suppressed finding is
  consumed.
* `suppressedFinding_alerts` — a suppressed finding that an alert is built from.
-/

namespace Watchtower

open Core Py

section Suppression

variable [UnicodeData] [Sha256] {cfg : CorrelatorSettings} {loads : PyStr → Except PyExc PyVal}

/-- No alert is built from a suppressed finding.  An alert that is not built is not claimed,
published or sent either. -/
def NoAlertFromSuppressed (cfg : CorrelatorSettings) (loads : PyStr → Except PyExc PyVal)
    (s : LoopState) (i : Input cfg.alertCooldownSecs) : Prop :=
  ∀ finding, receive cfg loads i = some finding →
    ∀ k api code alert, (matchPass cfg s i.now finding).1[k]? = some (api, code) →
      Qualifies cfg api code → buildAlert (i.env k) api code = .ok alert →
      api.finding.status ≠ .suppressed ∧ code.finding.status ≠ .suppressed

omit [Sha256] in
/-- No suppressed finding is in the buffer when the arriving one has been appended. -/
def SkipsSuppressed (cfg : CorrelatorSettings) (loads : PyStr → Except PyExc PyVal)
    (s : LoopState) (i : Input cfg.alertCooldownSecs) : Prop :=
  ∀ finding, receive cfg loads i = some finding →
    ∀ x ∈ (appended cfg s finding).held, x.finding.status ≠ .suppressed

omit [Sha256] in
/-- The finding an iteration consumes, if it is of a source that is correlated, is not
suppressed. -/
def ConsumesUnsuppressed (cfg : CorrelatorSettings) (loads : PyStr → Except PyExc PyVal)
    (i : Input cfg.alertCooldownSecs) : Prop :=
  ∀ finding, receive cfg loads i = some finding → finding.status ≠ .suppressed

/-! ## One iteration -/

/-- What an alert is built from is in the buffer. -/
lemma noAlertFromSuppressed_of_skips {s : LoopState} {i : Input cfg.alertCooldownSecs}
    (hs : s.Orderly cfg) (hskips : SkipsSuppressed cfg loads s i) :
    NoAlertFromSuppressed cfg loads s i := by
  intro finding hreceive k api code alert hk _ _
  obtain ⟨hapi, hcode, -⟩ := (hs.mem_pairs i.now finding).mem (api, code) (List.mem_of_getElem? hk)
  have hnone := hskips finding hreceive
  exact ⟨hnone api (mem_of_mem_matchPass (List.mem_append_left _ hapi)),
    hnone code (mem_of_mem_matchPass (List.mem_append_right _ hcode))⟩

/-! ## Along a run -/

omit [Sha256] in
/-- A buffer of size zero holds nothing. -/
lemma held_eq_nil {arrivals : ℕ} {b : Buffer} (hb : b.Orderly cfg arrivals)
    (hzero : cfg.bufferMaxSize = 0) : b.held = [] := by
  have hapi := hb.api.length_le
  have hcode := hb.code.length_le
  rw [hzero, Nat.le_zero, List.length_eq_zero_iff] at hapi hcode
  rw [Buffer.held, hapi, hcode, List.append_nil]

/-- None reaches the buffer exactly when none is consumed. -/
lemma skipsSuppressed_iff (inputs : List (Input cfg.alertCooldownSecs)) :
    (correlator cfg loads).Always inputs (SkipsSuppressed cfg loads) ↔
      (correlator cfg loads).Always inputs fun _ i =>
        0 < cfg.bufferMaxSize → ConsumesUnsuppressed cfg loads i := by
  constructor
  · intro h before i after s hinputs hrun hpos finding hreceive
    exact h before i after s hinputs hrun finding hreceive _
      ((passAccounts (correlator_orderly hrun) hreceive).enters hpos)
  · intro h before i after s hinputs hrun finding hreceive x hx
    rcases Nat.eq_zero_or_pos cfg.bufferMaxSize with hzero | hpos
    · rw [held_eq_nil ((correlator_orderly hrun).appended finding) hzero] at hx
      cases hx
    · rcases mem_of_mem_appended hx with hold | rfl
      · -- what was held before has been consumed
        have hreceived : (correlator cfg loads).Always before fun _ j =>
            ∀ g, receive cfg loads j = some g → g.status ≠ .suppressed := by
          intro first j rest t hbefore ht
          exact h first j (rest ++ i :: after) t (by simp [hinputs, hbefore]) ht hpos
        exact holds_run hreceived hrun x hold
      · exact h before i after s hinputs hrun hpos finding hreceive

/-- **When suppressed findings are skipped.**  Along a run none reaches the buffer and no alert is built
from one exactly when none is consumed, or the buffer takes nothing at all; and the same holds of the
buffer alone. -/
theorem suppressed_skipped_iff (inputs : List (Input cfg.alertCooldownSecs)) :
    (((correlator cfg loads).Always inputs (NoAlertFromSuppressed cfg loads) ∧
        (correlator cfg loads).Always inputs (SkipsSuppressed cfg loads)) ↔
      (correlator cfg loads).Always inputs fun _ i =>
        0 < cfg.bufferMaxSize → ConsumesUnsuppressed cfg loads i) ∧
    ((correlator cfg loads).Always inputs (SkipsSuppressed cfg loads) ↔
      (correlator cfg loads).Always inputs fun _ i =>
        0 < cfg.bufferMaxSize → ConsumesUnsuppressed cfg loads i) := by
  refine ⟨?_, skipsSuppressed_iff inputs⟩
  rw [← skipsSuppressed_iff]
  refine ⟨fun h => h.2, fun h => ⟨?_, h⟩⟩
  intro before i after s hinputs hrun
  exact noAlertFromSuppressed_of_skips (correlator_orderly hrun) (h before i after s hinputs hrun)

end Suppression

/-! ## A suppressed finding that is not skipped -/

section SuppressedFinding

attribute [local instance] asciiData sampleDigest

/-- An API finding that has been suppressed. -/
def suppressedFinding : Finding :=
  { sampleFinding sampleApiId .api .http5xx none none none true with status := .suppressed }

/-- The state after the suppressed finding has arrived. -/
def suppressedHeld : LoopState where
  buffer := { api := [{ arrival := 0, finding := suppressedFinding }], code := [] }
  arrivals := 1

/-- **A suppressed finding is buffered, paired and alerted on** like any other. -/
theorem suppressedFinding_alerts :
    ¬ (correlator defaultSettings (sampleLoads [suppressedFinding, certainFinding])).Always
      [promptInput defaultSettings suppressedFinding, promptInput defaultSettings certainFinding]
      (NoAlertFromSuppressed defaultSettings (sampleLoads [suppressedFinding, certainFinding])) := by
  have hnodup : ([suppressedFinding, certainFinding].map sampleJson).Nodup := by decide +kernel
  have hapi : receive defaultSettings (sampleLoads [suppressedFinding, certainFinding])
      (promptInput defaultSettings suppressedFinding) = some suppressedFinding :=
    receive_sample defaultSettings_polls hnodup (by simp) (Or.inl rfl) rfl
  have hcode : receive defaultSettings (sampleLoads [suppressedFinding, certainFinding])
      (promptInput defaultSettings certainFinding) = some certainFinding :=
    receive_sample defaultSettings_polls hnodup (by simp) (Or.inr rfl) rfl
  have hfirst : (correlator defaultSettings
      (sampleLoads [suppressedFinding, certainFinding])).run
        [promptInput defaultSettings suppressedFinding] = .ok suppressedHeld :=
    run_first_api rfl rfl hapi
  have hinv : suppressedHeld.Inv defaultSettings := inv_first_api rfl rfl hapi
  have hpairs : (matchPass defaultSettings suppressedHeld sampleClock.val certainFinding).1
      = [({ arrival := 0, finding := suppressedFinding },
          { arrival := 1, finding := certainFinding })] :=
    pairs_second_code hinv rfl rfl ⟨rfl, rfl⟩ rfl (by decide +kernel)
  have hfits : AlertFits suppressedFinding certainFinding sampleClock :=
    ⟨by decide, by decide, by decide, by decide, by decide, by decide, sampleClock_pos⟩
  obtain ⟨alert, halert⟩ := (returns_buildAlert_iff (promptEnv defaultSettings.alertCooldownSecs)
    { arrival := 0, finding := suppressedFinding }
    { arrival := 1, finding := certainFinding }).mpr hfits
  intro halways
  have hnone := halways [promptInput defaultSettings suppressedFinding]
    (promptInput defaultSettings certainFinding) [] suppressedHeld rfl hfirst certainFinding hcode 0 _ _
    alert (congrArg (·[0]?) hpairs) (by decide +kernel) halert
  exact hnone.1 rfl

/-- Two findings that are open: the alert they make is built from no suppressed finding. -/
theorem suppressed_skipped_iff_openFindings :
    (correlator defaultSettings (sampleLoads [certainFinding, serverErrorFinding])).Always
      [promptInput defaultSettings certainFinding, promptInput defaultSettings serverErrorFinding]
      (NoAlertFromSuppressed defaultSettings
        (sampleLoads [certainFinding, serverErrorFinding])) := by
  refine ((suppressed_skipped_iff _).1.mpr ?_).1
  have hnodup : ([certainFinding, serverErrorFinding].map sampleJson).Nodup := by decide +kernel
  have hreceive : ∀ f ∈ [certainFinding, serverErrorFinding],
      receive defaultSettings (sampleLoads [certainFinding, serverErrorFinding])
        (promptInput defaultSettings f) = some f ∧ f.status ≠ .suppressed := by
    intro f hf
    have hopen : (f.source = .api ∨ f.source = .code) ∧ f.status ≠ .suppressed := by
      simp only [List.mem_cons, List.not_mem_nil, or_false] at hf
      rcases hf with rfl | rfl
      · exact ⟨Or.inr rfl, by decide⟩
      · exact ⟨Or.inl rfl, by decide⟩
    exact ⟨receive_sample defaultSettings_polls hnodup hf hopen.1 rfl, hopen.2⟩
  intro before i after s hinputs _ _ finding hfinding
  have hi : i ∈ [certainFinding, serverErrorFinding].map (promptInput defaultSettings) := by
    have hmem : i ∈ before ++ i :: after := by simp
    rw [← hinputs] at hmem
    exact hmem
  obtain ⟨f, hf, rfl⟩ := List.mem_map.mp hi
  obtain ⟨hsome, hopen⟩ := hreceive f hf
  rw [hsome] at hfinding
  cases hfinding
  exact hopen

end SuppressedFinding

end Watchtower
