import Watchtower.Correlator.Loop

/-!
# Which runs of the loop survive

Every handler of `correlate` is written to carry on; the one call outside all of them is the
construction of the alert.

* `PairsFit` — the pairs of a match pass that are worth an alert fit one.
* **`correlate_returns_iff`** — the loop survives a run exactly when this holds at each iteration.
* `emptyEndpoint_stops_correlate` — a finding with an empty endpoint, accepted by the decoder,
  stops the loop.
-/

namespace Watchtower

open Core Py

section Survival

variable [UnicodeData] [Sha256] {cfg : CorrelatorSettings} {loads : PyStr → Except PyExc PyVal}

/-- The pairs that the pass finds satisfy what the alert's validator asks beyond what is true of all
findings, provided they are worth an alert at all. -/
def PairsFit (cfg : CorrelatorSettings) (loads : PyStr → Except PyExc PyVal) (s : LoopState)
    (i : Input cfg.alertCooldownSecs) : Prop :=
  ∀ finding, receive cfg loads i = some finding →
    ∀ k api code, (matchPass cfg s i.now finding).1[k]? = some (api, code) →
      Qualifies cfg api code → AlertFits api.finding code.finding (i.env k).clock

/-- An iteration raises only in its pass over the matches. -/
lemma returns_step_iff {s : LoopState} {i : Input cfg.alertCooldownSecs} :
    Returns ((correlator cfg loads).step s i) ↔
      ∀ finding, receive cfg loads i = some finding →
        Returns (alertPass cfg i.env 0 (matchPass cfg s i.now finding).1
          (matchPass cfg s i.now finding).2) := by
  simp only [correlator, iteration]
  cases receive cfg loads i with
  | none => simp [Except.map]
  | some finding =>
      simp only [Option.some.injEq, forall_eq']
      cases alertPass cfg i.env 0 (matchPass cfg s i.now finding).1
          (matchPass cfg s i.now finding).2 with
      | error e => simp [Except.map]
      | ok r => simp [Except.map, pure, Except.pure]

lemma returns_step_iff_pairsFit {s : LoopState} {i : Input cfg.alertCooldownSecs} :
    Returns ((correlator cfg loads).step s i) ↔ PairsFit cfg loads s i := by
  rw [returns_step_iff]
  constructor
  · intro h finding hreceive k api code hk hqualifies
    have hfits := returns_alertPass_iff.mp (h finding hreceive) k api code hk hqualifies
    rwa [Nat.zero_add] at hfits
  · intro h finding hreceive
    refine returns_alertPass_iff.mpr fun k api code hk hqualifies => ?_
    rw [Nat.zero_add]
    exact h finding hreceive k api code hk hqualifies

/-- **The loop survives exactly the runs in which every pair that is worth an alert fits one.** -/
theorem correlate_returns_iff (inputs : List (Input cfg.alertCooldownSecs)) :
    Returns ((correlator cfg loads).run inputs) ↔
      (correlator cfg loads).Always inputs (PairsFit cfg loads) := by
  rw [Machine.returns_run_iff]
  exact Machine.always_congr_of_mem fun i _ s => returns_step_iff_pairsFit

end Survival

/-! ## A run that does not survive -/

section EmptyEndpoint

attribute [local instance] asciiData sampleDigest

/-- An API finding whose endpoint is the empty text. -/
def emptyEndpointFinding : Finding :=
  sampleFinding sampleApiId .api .http5xx (some ⟨[], by decide⟩) none none true

def loginFinding : Finding :=
  sampleFinding sampleCodeId .code .nullDereference none (some loginFile)
    (some loginLine) true

/-- The state after the API finding has arrived. -/
def emptyEndpointHeld : LoopState where
  buffer := { api := [{ arrival := 0, finding := emptyEndpointFinding }], code := [] }
  arrivals := 1

/-- **A finding with an empty endpoint stops the loop**: the decoder accepts it, the knowledge base
pairs it, and the alert's validator raises. -/
theorem emptyEndpoint_stops_correlate :
    ¬ Returns ((correlator defaultSettings
        (sampleLoads [emptyEndpointFinding, loginFinding])).run
      [promptInput defaultSettings emptyEndpointFinding,
        promptInput defaultSettings loginFinding]) := by
  have hnodup : ([emptyEndpointFinding, loginFinding].map sampleJson).Nodup := by decide +kernel
  have hapi : receive defaultSettings (sampleLoads [emptyEndpointFinding, loginFinding])
      (promptInput defaultSettings emptyEndpointFinding) = some emptyEndpointFinding :=
    receive_sample defaultSettings_polls hnodup (by simp) (Or.inl rfl) rfl
  have hcode : receive defaultSettings (sampleLoads [emptyEndpointFinding, loginFinding])
      (promptInput defaultSettings loginFinding) = some loginFinding :=
    receive_sample defaultSettings_polls hnodup (by simp) (Or.inr rfl) rfl
  have hfirst : (correlator defaultSettings
      (sampleLoads [emptyEndpointFinding, loginFinding])).run
        [promptInput defaultSettings emptyEndpointFinding] = .ok emptyEndpointHeld :=
    run_first_api rfl rfl hapi
  have hinv : emptyEndpointHeld.Inv defaultSettings := inv_first_api rfl rfl hapi
  have hpairs : (matchPass defaultSettings emptyEndpointHeld sampleClock.val loginFinding).1
      = [({ arrival := 0, finding := emptyEndpointFinding },
          { arrival := 1, finding := loginFinding })] :=
    pairs_second_code hinv rfl rfl ⟨rfl, rfl⟩ rfl (by decide +kernel)
  intro hreturns
  have hstep := Machine.returns_run_iff.mp hreturns
    [promptInput defaultSettings emptyEndpointFinding] (promptInput defaultSettings loginFinding) []
    emptyEndpointHeld rfl hfirst
  have hfits : AlertFits emptyEndpointFinding loginFinding sampleClock :=
    returns_step_iff_pairsFit.mp hstep loginFinding hcode 0
      { arrival := 0, finding := emptyEndpointFinding } { arrival := 1, finding := loginFinding }
      (congrArg (·[0]?) hpairs) (by decide +kernel)
  exact hfits.endpoint rfl

end EmptyEndpoint

end Watchtower
