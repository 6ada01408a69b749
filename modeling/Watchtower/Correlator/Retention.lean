import Watchtower.Correlator.Survival

/-!
# What becomes of a correlation

A pair that is worth an alert is taken out of the buffer whatever happens to the alert, so what
matters is how the alert step ended.

* `Accounted` — the alert was delivered, or somebody else's claim or a suppression held it back, or
  the pair is still in the buffer.
* `StepCompletes` — nothing in the alert step fails, and no lost command of the claim stands in its
  own way.
* `PairsComplete` — so it is for every pair, or older copies of the pair go in its place.
* **`correlations_accounted_iff`** — along a run every correlation is accounted for exactly when
  this holds at each iteration.
* `refusedWrite_loses_correlation` — a server that refuses the evidence record.
-/

namespace Watchtower

open Core Py

section Retention

variable [UnicodeData] [Sha256] {cfg : CorrelatorSettings} {loads : PyStr → Except PyExc PyVal}

/-- When the claim was answered, the key held a value that is not the call's own: the claim of
another alert step, or a suppression. -/
def BlockedByOther {fingerprint : PyStr} {cooldownSecs : ℤ}
    (call : ClaimCall fingerprint cooldownSecs) : Prop :=
  ∃ before v, call.AnsweredAfter before ∧ call.holder before = some v ∧ v ≠ call.token

/-- The claim an alert step makes for a pair, if it comes to that. -/
def ClaimOf (cfg : CorrelatorSettings) (env : AlertEnv cfg.alertCooldownSecs) (api code : Held)
    (P : ∀ {fingerprint : PyStr}, ClaimCall fingerprint cfg.alertCooldownSecs → Prop) : Prop :=
  ∃ alert, buildAlert env api code = .ok alert ∧ P (env.claim alert.fingerprint.val)

/-- A pair is accounted for at the end of an iteration. -/
def Accounted (cfg : CorrelatorSettings) (env : AlertEnv cfg.alertCooldownSecs) (api code : Held)
    (exit : Option AlertExit) (after : LoopState) : Prop :=
  exit = some .delivered ∨
    (exit = some .suppressed ∧ ClaimOf cfg env api code BlockedByOther) ∨
    (api ∈ after.buffer.api ∧ code ∈ after.buffer.code)

/-- Every pair that is worth an alert is accounted for at the end of the iteration, unless the loop
has raised. -/
def NoneLost (cfg : CorrelatorSettings) (loads : PyStr → Except PyExc PyVal) (s : LoopState)
    (i : Input cfg.alertCooldownSecs) : Prop :=
  ∀ finding exits after, receive cfg loads i = some finding →
    iteration cfg loads s i = .ok (exits, after) →
    ∀ k api code, (matchPass cfg s i.now finding).1[k]? = some (api, code) →
      Qualifies cfg api code → Accounted cfg (i.env k) api code exits[k]? after

/-- Nothing fails in the alert step of a pair, once its alert is built: the alert can be written and
the record is stored; the claim gets an answer, and no lost command of its own holds the key by then;
and if the key is free, the alert is published and delivered. -/
structure StepCompletes (cfg : CorrelatorSettings) (env : AlertEnv cfg.alertCooldownSecs)
    (api code : Held) : Prop where
  writable : AlertWritable env.room api.finding code.finding
  stored : storeAlertRecord env.store = .ok ()
  claimed : ClaimOf cfg env api code fun call => ∃ before, call.AnsweredAfter before ∧
    ¬ call.LostHolds before ∧
    (call.holder before = none → publishAlert env.publish = .ok () ∧ env.send = .ok true)

/-- The alert step completes for every pair of the pass that is worth an alert, unless both findings of
the pair have older copies, which are taken out in their place; or the loop is stopped by one of the
alerts. -/
def PairsComplete (cfg : CorrelatorSettings) (loads : PyStr → Except PyExc PyVal) (s : LoopState)
    (i : Input cfg.alertCooldownSecs) : Prop :=
  PairsFit cfg loads s i →
    ∀ finding, receive cfg loads i = some finding →
      ∀ k api code, (matchPass cfg s i.now finding).1[k]? = some (api, code) →
        Qualifies cfg api code →
        StepCompletes cfg (i.env k) api code ∨
          (Buffer.HasCopy cfg.correlationWindowSecs i.now (appended cfg s finding).api api ∧
            Buffer.HasCopy cfg.correlationWindowSecs i.now (appended cfg s finding).code code)

/-! ## How the alert step ends -/

/-- The two exits that account for a pair, once its alert is built. -/
lemma alertStep_exit {env : AlertEnv cfg.alertCooldownSecs} {api code : Held} {b b' : Buffer}
    {exit : AlertExit} {alert : CorrelatedAlert} (hqualifies : Qualifies cfg api code)
    (halert : buildAlert env api code = .ok alert)
    (h : alertStep cfg env api code b = .ok (exit, b')) :
    (exit = .delivered ↔
      AlertWritable env.room api.finding code.finding ∧ storeAlertRecord env.store = .ok () ∧
      ∃ token, (env.claim alert.fingerprint.val).result = .ok (some token) ∧
        publishAlert env.publish = .ok () ∧ env.send = .ok true) ∧
    (exit = .suppressed ↔
      AlertWritable env.room api.finding code.finding ∧ storeAlertRecord env.store = .ok () ∧
      (env.claim alert.fingerprint.val).result = .ok none) := by
  have hjson : alert.toJsonReturns env.room = true ↔ AlertWritable env.room api.finding code.finding :=
    toJsonReturns_alert_iff (context_of_newCorrelatedAlert halert)
  simp only [alertStep, if_neg (not_lt.mpr hqualifies), halert] at h
  rw [← hjson]
  split_ifs at h with hwritable
  · cases h
    simp [hwritable]
  rw [Bool.not_eq_false] at hwritable
  simp only [hwritable, true_and]
  split at h
  · next e hstore =>
      cases h
      simp [hstore]
  · next hstore =>
      split at h
      · next e hclaim =>
          cases h
          simp [hclaim]
      · next hclaim =>
          cases h
          simp [hstore, hclaim]
      · next token hclaim =>
          split at h
          · next e hpublish =>
              cases h
              simp [hclaim, hpublish]
          · next hpublish =>
              split at h
              · next hsend =>
                  cases h
                  simp [hstore, hclaim, hpublish, hsend]
              · next hsend =>
                  cases h
                  refine ⟨⟨fun hexit => (by cases hexit), ?_⟩, by simp [hclaim]⟩
                  rintro ⟨-, -, -, -, hdelivered⟩
                  exact absurd hdelivered hsend

lemma alert_of_exit {env : AlertEnv cfg.alertCooldownSecs} {api code : Held} {b b' : Buffer}
    {exit : AlertExit} (hqualifies : Qualifies cfg api code)
    (h : alertStep cfg env api code b = .ok (exit, b')) :
    ∃ alert, buildAlert env api code = .ok alert := by
  have hfits := returns_alertStep_iff.mp ⟨_, h⟩ hqualifies
  exact (returns_buildAlert_iff env api code).mpr hfits

/-- **A pair is delivered or blocked by somebody else exactly when its alert step completes.** -/
lemma completes_iff {env : AlertEnv cfg.alertCooldownSecs} {api code : Held} {b b' : Buffer}
    {exit : AlertExit} (hqualifies : Qualifies cfg api code)
    (h : alertStep cfg env api code b = .ok (exit, b')) :
    (exit = .delivered ∨ (exit = .suppressed ∧ ClaimOf cfg env api code BlockedByOther)) ↔
      StepCompletes cfg env api code := by
  obtain ⟨alert, halert⟩ := alert_of_exit hqualifies h
  obtain ⟨hdelivered, hsuppressed⟩ := alertStep_exit hqualifies halert h
  constructor
  · rintro (hexit | ⟨hexit, alert', halert', before, v, hanswered, hheld, hother⟩)
    · obtain ⟨hwritable, hstore, token, hclaim, hpublish, hsend⟩ := hdelivered.mp hexit
      obtain ⟨before, hanswered⟩ :=
        (env.claim alert.fingerprint.val).exists_answered_of_result hclaim
      have hresult := (env.claim alert.fingerprint.val).result_of_answered hanswered
      refine ⟨hwritable, hstore, alert, halert, before, hanswered, ?_, fun _ => ⟨hpublish, hsend⟩⟩
      intro hlost
      rw [(env.claim alert.fingerprint.val).lostHolds_iff_holder hanswered] at hlost
      rw [hclaim, if_neg (by simp [hlost])] at hresult
      cases hresult
    · obtain ⟨hwritable, hstore, -⟩ := hsuppressed.mp hexit
      refine ⟨hwritable, hstore, alert', halert', before, hanswered, ?_, fun hfree => ?_⟩
      · rw [(env.claim alert'.fingerprint.val).lostHolds_iff_holder hanswered, hheld]
        intro hv
        cases hv
        exact hother rfl
      · rw [hheld] at hfree
        cases hfree
  · rintro ⟨hwritable, hstore, alert', halert', before, hanswered, hlost, hrest⟩
    rw [halert] at halert'
    cases halert'
    have hresult := (env.claim alert.fingerprint.val).result_of_answered hanswered
    rcases Option.eq_none_or_eq_some ((env.claim alert.fingerprint.val).holder before) with
      hfree | ⟨v, hheld⟩
    · rw [if_pos hfree] at hresult
      obtain ⟨hpublish, hsend⟩ := hrest hfree
      exact Or.inl (hdelivered.mpr ⟨hwritable, hstore, _, hresult, hpublish, hsend⟩)
    · rw [if_neg (by simp [hheld])] at hresult
      refine Or.inr ⟨hsuppressed.mpr ⟨hwritable, hstore, hresult⟩, alert, halert, before, v, hanswered,
        hheld, ?_⟩
      rintro rfl
      exact hlost (((env.claim alert.fingerprint.val).lostHolds_iff_holder hanswered).mpr hheld)

/-! ## The run -/

/-- A pair of an iteration that returns is accounted for exactly when its alert step completes or it
stays in the buffer. -/
lemma accounted_iff {s after : LoopState} {i : Input cfg.alertCooldownSecs} {finding : Finding}
    {exits : List AlertExit} {k : ℕ} {api code : Held} (hs : s.Orderly cfg)
    (hreceive : receive cfg loads i = some finding)
    (hiter : iteration cfg loads s i = .ok (exits, after))
    (hk : (matchPass cfg s i.now finding).1[k]? = some (api, code))
    (hqualifies : Qualifies cfg api code) :
    Accounted cfg (i.env k) api code exits[k]? after ↔
      StepCompletes cfg (i.env k) api code ∨
        (Buffer.HasCopy cfg.correlationWindowSecs i.now (appended cfg s finding).api api ∧
          Buffer.HasCopy cfg.correlationWindowSecs i.now (appended cfg s finding).code code) := by
  rcases iteration_buffer hiter with ⟨hnone, -, -⟩ | ⟨finding', hsome, rfl, b', hpass⟩
  · rw [hreceive] at hnone
    cases hnone
  · rw [hreceive] at hsome
    cases hsome
    obtain ⟨exit, b₁, b₂, hexit, hstep⟩ := alertPass_exit hpass hk
    rw [Nat.zero_add] at hstep
    rw [Accounted, hexit, ← or_assoc, ← completes_iff hqualifies hstep,
      hs.mem_removePairs_iff i.now finding (List.mem_of_getElem? hk)]
    simp only [Option.some.injEq]

lemma noneLost_iff {s : LoopState} {i : Input cfg.alertCooldownSecs} (hs : s.Orderly cfg) :
    NoneLost cfg loads s i ↔ PairsComplete cfg loads s i := by
  constructor
  · intro h hfits finding hreceive k api code hk hqualifies
    obtain ⟨t, hstep⟩ := returns_step_iff_pairsFit.mpr hfits
    obtain ⟨exits, hiter⟩ := exists_exits_of_step hstep
    exact (accounted_iff hs hreceive hiter hk hqualifies).mp
      (h finding exits t hreceive hiter k api code hk hqualifies)
  · intro h finding exits after hreceive hiter k api code hk hqualifies
    have hreturns : Returns ((correlator cfg loads).step s i) :=
      ⟨after, by simp only [correlator, hiter]; rfl⟩
    exact (accounted_iff hs hreceive hiter hk hqualifies).mpr
      (h (returns_step_iff_pairsFit.mp hreturns) finding hreceive k api code hk hqualifies)

/-- **Along a run every correlation is accounted for exactly when every alert step completes**, or its
pair is one of two copies. -/
theorem correlations_accounted_iff (inputs : List (Input cfg.alertCooldownSecs)) :
    (correlator cfg loads).Always inputs (NoneLost cfg loads) ↔
      (correlator cfg loads).Always inputs (PairsComplete cfg loads) :=
  Machine.always_congr orderly_init orderly_step (fun _ _ hs => noneLost_iff hs) inputs

end Retention

/-! ## A correlation that is lost -/

section RefusedWrite

attribute [local instance] asciiData sampleDigest

def erroringFinding : Finding :=
  sampleFinding sampleApiId .api .http5xx none none none true

def dereferenceFinding : Finding :=
  sampleFinding sampleCodeId .code .nullDereference none (some loginFile)
    (some loginLine) true

/-- The iteration that brings the code finding: the server is at its memory limit. -/
def refusedInput : Input defaultSettings.alertCooldownSecs :=
  { promptInput defaultSettings dereferenceFinding with
    env := fun _ =>
      { promptEnv defaultSettings.alertCooldownSecs with
        store := fun _ => .error (.redisError
          "OOM command not allowed when used memory > 'maxmemory'.") } }

def erroringHeld : LoopState where
  buffer := { api := [{ arrival := 0, finding := erroringFinding }], code := [] }
  arrivals := 1

/-- **A server that refuses to store the evidence record loses the correlation**: the error is
caught, and the pair is taken out of the buffer. -/
theorem refusedWrite_loses_correlation :
    ¬ (correlator defaultSettings (sampleLoads [erroringFinding, dereferenceFinding])).Always
      [promptInput defaultSettings erroringFinding, refusedInput]
      (NoneLost defaultSettings (sampleLoads [erroringFinding, dereferenceFinding])) := by
  have hnodup : ([erroringFinding, dereferenceFinding].map sampleJson).Nodup := by decide +kernel
  have hapi : receive defaultSettings (sampleLoads [erroringFinding, dereferenceFinding])
      (promptInput defaultSettings erroringFinding) = some erroringFinding :=
    receive_sample defaultSettings_polls hnodup (by simp) (Or.inl rfl) rfl
  have hcode : receive defaultSettings (sampleLoads [erroringFinding, dereferenceFinding])
      refusedInput = some dereferenceFinding :=
    receive_sample defaultSettings_polls hnodup (by simp) (Or.inr rfl) rfl
  have hfirst : (correlator defaultSettings
      (sampleLoads [erroringFinding, dereferenceFinding])).run
        [promptInput defaultSettings erroringFinding] = .ok erroringHeld :=
    run_first_api rfl rfl hapi
  have hinv : erroringHeld.Inv defaultSettings := inv_first_api rfl rfl hapi
  have hpairs : (matchPass defaultSettings erroringHeld refusedInput.now dereferenceFinding).1
      = [({ arrival := 0, finding := erroringFinding },
          { arrival := 1, finding := dereferenceFinding })] :=
    pairs_second_code hinv rfl rfl ⟨rfl, rfl⟩ rfl (by decide +kernel)
  have hfits : PairsFit defaultSettings (sampleLoads [erroringFinding, dereferenceFinding]) erroringHeld
      refusedInput := by
    intro finding hreceive k api code hk _
    rw [hcode] at hreceive
    cases hreceive
    rw [hpairs] at hk
    cases k with
    | zero =>
        cases hk
        exact ⟨by decide, by decide, by decide, by decide, by decide, by decide, sampleClock_pos⟩
    | succ k => simp at hk
  intro halways
  have hnone := halways [promptInput defaultSettings erroringFinding] refusedInput [] erroringHeld
    rfl hfirst
  rcases (noneLost_iff hinv.orderly).mp hnone hfits dereferenceFinding hcode 0 _ _
    (congrArg (·[0]?) hpairs) (by decide +kernel) with hcompletes | ⟨hcopy, -⟩
  · exact absurd hcompletes.stored (by decide)
  · obtain ⟨y, -, -, holder, -⟩ := hcopy
    exact absurd holder (Nat.not_lt_zero _)

end RefusedWrite

end Watchtower
