import Watchtower.ApiWatcher.Fitting

/-!
# What the two maps remember

The count and the state of a URL are functions of the outcomes of its own probes: the count is the
number of counted failures since the last successful answer, the state says whether that count or a
TLS error has crossed the line, and what crossed it last.

* `failuresSince`, `sinceSuccess` — the history as the count sees it.
* `SetsState`, `latestSetter` — the history as the state sees it.
* `Remembers` — the maps agree with the history of a URL.
* **`probe_remembers`** — every completion keeps that agreement.
* **`prober_history`** — so it holds after any run, in any interleaving of the URLs.
-/

namespace Watchtower

open Core Py

/-! ## Histories -/

namespace ProbeOutcome

/-- A 2xx answer. -/
def isSuccess : ProbeOutcome → Bool
  | .response status _ => status.isSuccess
  | _ => false

/-- A failure that is counted: any other answer, a timeout, a client error. -/
def isCounted : ProbeOutcome → Bool
  | .response status _ => !status.isSuccess
  | .timeout => true
  | .clientError _ => true
  | _ => false

/-- The state an outcome sets when it sets one. -/
def stateAfter : ProbeOutcome → EndpointState
  | .response status _ =>
      if status.isSuccess then .up else if 500 ≤ status.val then .down else .degraded
  | _ => .down

end ProbeOutcome

open ProbeOutcome

/-- The outcomes since the last successful one, latest first. -/
def sinceSuccess (history : List ProbeOutcome) : List ProbeOutcome :=
  history.reverse.takeWhile fun o => !o.isSuccess

/-- The number of counted failures since the last success. -/
def failuresSince (history : List ProbeOutcome) : ℕ := (sinceSuccess history).countP isCounted

@[simp] lemma sinceSuccess_nil : sinceSuccess [] = [] := rfl

lemma sinceSuccess_snoc (history : List ProbeOutcome) (o : ProbeOutcome) :
    sinceSuccess (history ++ [o]) = if o.isSuccess then [] else o :: sinceSuccess history := by
  rw [sinceSuccess, List.reverse_append, List.reverse_singleton, List.singleton_append,
    List.takeWhile_cons]
  cases o.isSuccess
  · rfl
  · rfl

lemma failuresSince_snoc (history : List ProbeOutcome) (o : ProbeOutcome) :
    failuresSince (history ++ [o]) =
      if o.isSuccess then 0 else failuresSince history + if o.isCounted then 1 else 0 := by
  rw [failuresSince, sinceSuccess_snoc]
  cases o.isSuccess
  · simp [failuresSince, List.countP_cons]
  · rfl

lemma failuresSince_le_length (history : List ProbeOutcome) :
    failuresSince history ≤ history.length := by
  refine List.countP_le_length.trans ?_
  have h := (List.takeWhile_sublist (l := history.reverse) fun o => !o.isSuccess).length_le
  rwa [List.length_reverse] at h

/-- The outcome sets the state: a success, a TLS error, or a counted failure at the threshold. -/
def SetsState (threshold : ℤ) (before : List ProbeOutcome) (o : ProbeOutcome) : Prop :=
  o.isSuccess = true ∨ o = .tlsError ∨
    (o.isCounted = true ∧ threshold ≤ failuresSince (before ++ [o]))

instance (threshold : ℤ) (before : List ProbeOutcome) (o : ProbeOutcome) :
    Decidable (SetsState threshold before o) :=
  inferInstanceAs (Decidable (_ ∨ _ ∨ (_ ∧ _)))

/-- The latest outcome that set the state, over a history with the latest outcome first. -/
def latestSetterFrom (threshold : ℤ) : List ProbeOutcome → Option ProbeOutcome
  | [] => none
  | o :: before =>
      if SetsState threshold before.reverse o then some o else latestSetterFrom threshold before

/-- The latest outcome that set the state. -/
def latestSetter (threshold : ℤ) (history : List ProbeOutcome) : Option ProbeOutcome :=
  latestSetterFrom threshold history.reverse

lemma latestSetter_snoc (threshold : ℤ) (history : List ProbeOutcome) (o : ProbeOutcome) :
    latestSetter threshold (history ++ [o]) =
      if SetsState threshold history o then some o else latestSetter threshold history := by
  rw [latestSetter, List.reverse_append, List.reverse_singleton, List.singleton_append,
    latestSetterFrom, List.reverse_reverse, latestSetter]

/-! ## The maps and the history -/

/-- The maps remember a URL's history. -/
structure Remembers (threshold : ℤ) (history : List ProbeOutcome) (count : ℕ)
    (state : EndpointState) : Prop where
  count : count = failuresSince history
  up : state = .up ↔
    (failuresSince history : ℤ) < threshold ∧ .tlsError ∉ sinceSuccess history
  setter : ∀ o, latestSetter threshold history = some o → state = o.stateAfter
  unset : latestSetter threshold history = none → state = .up

lemma remembers_nil {threshold : ℤ} (h : 1 ≤ threshold) : Remembers threshold [] 0 .up where
  count := rfl
  up := by
    simp only [failuresSince, sinceSuccess_nil, List.countP_nil, List.not_mem_nil,
      not_false_eq_true, and_true, true_iff]
    omega
  setter := by simp [latestSetter, latestSetterFrom]
  unset _ := rfl

/-- What an outcome does to the count and the state, given the new count. -/
def nextCount (count : ℕ) (o : ProbeOutcome) : ℕ :=
  if o.isSuccess then 0 else count + if o.isCounted then 1 else 0

/-- The state after an outcome. -/
def nextState (threshold : ℤ) (count : ℕ) (state : EndpointState) (o : ProbeOutcome) :
    EndpointState :=
  if o.isSuccess = true ∨ o = .tlsError ∨ (o.isCounted = true ∧ threshold ≤ nextCount count o) then
    o.stateAfter
  else state

lemma stateAfter_eq_up_iff (o : ProbeOutcome) : o.stateAfter = .up ↔ o.isSuccess = true := by
  cases o with
  | response status _ =>
      simp only [stateAfter, isSuccess]
      split_ifs with hsuccess <;> simp [hsuccess]
  | _ => simp [stateAfter, isSuccess]

/-- The new state is `UP` as the new history says. -/
lemma nextState_eq_up_iff {threshold : ℤ} {history : List ProbeOutcome} {count : ℕ}
    {state : EndpointState} (hthreshold : 1 ≤ threshold) (h : Remembers threshold history count state)
    (o : ProbeOutcome) :
    nextState threshold count state o = .up ↔
      (nextCount count o : ℤ) < threshold ∧
        .tlsError ∉ if o.isSuccess then [] else o :: sinceSuccess history := by
  rw [nextState]
  cases hsuccess : o.isSuccess with
  | true =>
      have hzero : nextCount count o = 0 := by rw [nextCount, if_pos hsuccess]
      have hup := (stateAfter_eq_up_iff o).mpr hsuccess
      simp only [true_or, if_true, hup, hzero, true_iff, List.not_mem_nil, not_false_eq_true,
        and_true]
      omega
  | false =>
      have hnot : o.stateAfter ≠ .up := fun hup => by
        rw [(stateAfter_eq_up_iff o).mp hup] at hsuccess
        cases hsuccess
      by_cases htls : o = .tlsError
      · subst htls
        simp [hnot]
      · by_cases hcrossed : o.isCounted = true ∧ threshold ≤ nextCount count o
        · simp [hcrossed.1, hcrossed.2, hnot, not_lt.mpr hcrossed.2]
        · -- the state is left alone, and the count stays below the threshold
          have hbelow : (count : ℤ) < threshold ↔ (nextCount count o : ℤ) < threshold := by
            rw [nextCount, hsuccess] at hcrossed ⊢
            cases hcounted : o.isCounted with
            | true =>
                simp only [hcounted, true_and, not_le] at hcrossed
                simp only [Bool.false_eq_true, if_false, if_true] at hcrossed ⊢
                push_cast at hcrossed ⊢
                omega
            | false => simp
          have hup := h.up
          rw [← h.count, hbelow] at hup
          simp [htls, hcrossed, hup, Ne.symm htls]

/-- One outcome more is remembered. -/
lemma Remembers.snoc {threshold : ℤ} {history : List ProbeOutcome} {count : ℕ}
    {state : EndpointState} (hthreshold : 1 ≤ threshold) (h : Remembers threshold history count state)
    (o : ProbeOutcome) :
    Remembers threshold (history ++ [o]) (nextCount count o)
      (nextState threshold count state o) := by
  have hcount : failuresSince (history ++ [o]) = nextCount count o := by
    rw [failuresSince_snoc, nextCount, h.count]
  have hsets : SetsState threshold history o ↔
      (o.isSuccess = true ∨ o = .tlsError ∨
        (o.isCounted = true ∧ threshold ≤ nextCount count o)) := by
    rw [SetsState, hcount]
  constructor
  · exact hcount.symm
  · rw [hcount, sinceSuccess_snoc]
    exact nextState_eq_up_iff hthreshold h o
  · intro x hx
    rw [latestSetter_snoc] at hx
    rw [nextState]
    split_ifs at hx with hset
    · cases hx
      rw [if_pos (hsets.mp hset)]
    · rw [if_neg (hsets.not.mp hset)]
      exact h.setter x hx
  · intro hx
    rw [latestSetter_snoc] at hx
    split_ifs at hx with hset
    rw [nextState, if_neg (hsets.not.mp hset)]
    exact h.unset hx

/-! ## One completion -/

section Completion

variable {settings : Settings}

/-- **A completion moves its own URL's count and state, and no other's.** -/
theorem probe_maps (target : TargetMetadata) (key : PyStr) (s : ProbeState) (o : ProbeOutcome) :
    (probe settings target key s o).1 =
      { failureCounts := Function.update s.failureCounts key (nextCount (s.failureCounts key) o),
        endpointStates := Function.update s.endpointStates key
          (nextState settings.apiWatcher.failureThreshold (s.failureCounts key)
            (s.endpointStates key) o) } := by
  cases o with
  | response status latencyMs =>
      cases hstatus : status.isSuccess with
      | true =>
          cases hslow : leFloat latencyMs settings.apiWatcher.latencyWarnMs with
          | true => simp [probe, nextCount, nextState, isSuccess, stateAfter, hstatus, hslow,
              ProbeState.recordSuccess]
          | false => simp [probe, nextCount, nextState, isSuccess, stateAfter, hstatus, hslow,
              ProbeState.recordSuccess]
      | false =>
          by_cases hcount : settings.apiWatcher.failureThreshold ≤ s.failureCounts key + 1
          · simp [probe, nextCount, nextState, isSuccess, isCounted, stateAfter, hstatus, hcount,
              not_lt.mpr hcount, ProbeState.recordFailure, ProbeState.setEndpoint]
          · simp [probe, nextCount, nextState, isSuccess, isCounted, hstatus, hcount,
              not_le.mp hcount, ProbeState.recordFailure]
  | timeout =>
      by_cases hcount : settings.apiWatcher.failureThreshold ≤ s.failureCounts key + 1
      · simp [probe, nextCount, nextState, isSuccess, isCounted, stateAfter, hcount,
          not_lt.mpr hcount, ProbeState.recordFailure, ProbeState.setEndpoint]
      · simp [probe, nextCount, nextState, isSuccess, isCounted, hcount, not_le.mp hcount,
          ProbeState.recordFailure]
  | tlsError => simp [probe, nextCount, nextState, isSuccess, isCounted, stateAfter,
      ProbeState.setEndpoint]
  | clientError kind =>
      by_cases hcount : settings.apiWatcher.failureThreshold ≤ s.failureCounts key + 1
      · simp [probe, nextCount, nextState, isSuccess, isCounted, stateAfter, hcount,
          not_lt.mpr hcount, ProbeState.recordFailure, ProbeState.setEndpoint]
      · simp [probe, nextCount, nextState, isSuccess, isCounted, hcount, not_le.mp hcount,
          ProbeState.recordFailure]
  | cancelled => simp [probe, nextCount, nextState, isSuccess, isCounted]

variable [UnicodeData] [Normalization] [Sha256]

/-- The texts of a finding on a URL, after an outcome and so many failures, fit the schema. -/
def FitsAt (settings : Settings) (url : PyStr) (outcome : ProbeOutcome) (failures : ℕ) : Prop :=
  settings.platform.length ≤ 200 ∧ ∃ target, targetMetadata url = .ok target ∧
    TargetFits settings target.service target.endpoint failures outcome

/-- What one completion does, in terms of the maps before and after it. -/
structure Completes (settings : Settings) (s : ProbeState) (e : ProbeEvent) : Prop where
  counted : e.outcome.isCounted = true →
    ((∃ f, (probeEndpoint settings s e).2 = .ok (some f)) ↔
      settings.apiWatcher.failureThreshold ≤ (probeEndpoint settings s e).1.failureCounts e.url)
  tls : e.outcome = .tlsError →
    (∃ f, (probeEndpoint settings s e).2 = .ok (some f)) ∧
      (probeEndpoint settings s e).1.failureCounts e.url = s.failureCounts e.url
  cancelled : e.outcome = .cancelled → (probeEndpoint settings s e).1 = s
  others : ∀ url, url ≠ e.url →
    (probeEndpoint settings s e).1.failureCounts url = s.failureCounts url ∧
      (probeEndpoint settings s e).1.endpointStates url = s.endpointStates url

variable {s : ProbeState} {e : ProbeEvent}

/-- A finding comes out of a completion exactly when a report is due, if its texts fit. -/
lemma emits_iff_due (h : FitsAt settings e.url e.outcome (s.failureCounts e.url + 1)) :
    Returns (probeEndpoint settings s e).2 ∧
      ((∃ f, (probeEndpoint settings s e).2 = .ok (some f)) ↔
        Due settings (s.failureCounts e.url) e.outcome) := by
  obtain ⟨hplatform, target, htarget, hfits⟩ := h
  have hnow := e.now.property
  simp only [probeEndpoint, htarget]
  rcases probe_report hplatform target e.url s e.outcome with ⟨hdue, hnone⟩ | ⟨hdue, r, hr, hrfits⟩
  · simp [hdue, hnone, createFinding]
  · obtain ⟨f, hf⟩ := (newFinding_returns_iff e.id e.now.val r).mpr ⟨hrfits.mpr hfits, hnow⟩
    simp [hdue, hr, createFinding, hf, Except.map]

omit [Sha256] in
lemma exists_target (h : FitsAt settings e.url e.outcome (s.failureCounts e.url + 1)) :
    ∃ target, targetMetadata e.url = .ok target :=
  ⟨h.2.choose, h.2.choose_spec.1⟩

/-- The maps after a completion. -/
lemma probeEndpoint_fst (hurl : Returns (targetMetadata e.url)) :
    (probeEndpoint settings s e).1 =
      { failureCounts := Function.update s.failureCounts e.url
          (nextCount (s.failureCounts e.url) e.outcome),
        endpointStates := Function.update s.endpointStates e.url
          (nextState settings.apiWatcher.failureThreshold (s.failureCounts e.url)
            (s.endpointStates e.url) e.outcome) } := by
  obtain ⟨target, htarget⟩ := hurl
  simp only [probeEndpoint, htarget]
  exact probe_maps target e.url s e.outcome

omit [UnicodeData] [Normalization] [Sha256] in
/-- A counted failure is reported from the threshold on. -/
lemma due_iff_of_counted {count : ℕ} {o : ProbeOutcome} (h : o.isCounted = true) :
    Due settings count o ↔ settings.apiWatcher.failureThreshold ≤ nextCount count o := by
  cases o with
  | response status latencyMs =>
      have hstatus : status.isSuccess = false := by simpa [isCounted] using h
      simp [Due, nextCount, isSuccess, isCounted, hstatus]
  | timeout => simp [Due, nextCount, isSuccess, isCounted]
  | clientError kind => simp [Due, nextCount, isSuccess, isCounted]
  | _ => simp [isCounted] at h

/-- **What a completion whose texts fit does.** -/
theorem completes_of_fits (h : FitsAt settings e.url e.outcome (s.failureCounts e.url + 1)) :
    Completes settings s e := by
  have hmaps : (probeEndpoint settings s e).1 = _ := probeEndpoint_fst (exists_target h)
  obtain ⟨-, hemits⟩ := emits_iff_due h
  constructor
  · intro hcounted
    simp only [hemits, due_iff_of_counted hcounted, hmaps, Function.update_self]
  · intro htls
    simp only [hemits, hmaps, Function.update_self, htls]
    exact ⟨trivial, rfl⟩
  · intro hcancelled
    rw [hmaps, hcancelled]
    simp [nextCount, nextState, isSuccess, isCounted]
  · intro url hurl
    rw [hmaps]
    exact ⟨Function.update_of_ne hurl _ _, Function.update_of_ne hurl _ _⟩

end Completion

/-! ## Runs -/

section Runs

variable [UnicodeData] [Normalization] [Sha256] {settings : Settings}

lemma prober_step_of_ok {s : ProbeState} {e : ProbeEvent} {found : Option Finding}
    (h : (probeEndpoint settings s e).2 = .ok found) :
    (prober settings).step s e = .ok (probeEndpoint settings s e).1 := by
  simp only [prober]
  rw [← Prod.mk.eta (p := probeEndpoint settings s e), h]

/-- The outcomes of a URL's own probes, oldest first. -/
def outcomesOf (url : PyStr) (events : List ProbeEvent) : List ProbeOutcome :=
  (events.filter fun e => e.url == url).map ProbeEvent.outcome

/-- The state of every URL remembers that URL's history. -/
def RemembersAll (settings : Settings) (events : List ProbeEvent) (s : ProbeState) : Prop :=
  ∀ url, Remembers settings.apiWatcher.failureThreshold (outcomesOf url events)
    (s.failureCounts url) (s.endpointStates url)

/-- **Every completion keeps the agreement of the maps with the histories.** -/
theorem RemembersAll.snoc (hthreshold : 1 ≤ settings.apiWatcher.failureThreshold)
    {events : List ProbeEvent} {s : ProbeState} (h : RemembersAll settings events s)
    {e : ProbeEvent} (hurl : Returns (targetMetadata e.url)) :
    RemembersAll settings (events ++ [e]) (probeEndpoint settings s e).1 := by
  intro url
  rw [probeEndpoint_fst hurl]
  by_cases heq : url = e.url
  · subst heq
    have hhistory : outcomesOf e.url (events ++ [e]) = outcomesOf e.url events ++ [e.outcome] := by
      simp [outcomesOf]
    simp only [hhistory, Function.update_self]
    exact (h e.url).snoc hthreshold e.outcome
  · have hhistory : outcomesOf url (events ++ [e]) = outcomesOf url events := by
      simp [outcomesOf, Ne.symm heq]
    simp only [hhistory, Function.update_of_ne heq]
    exact h url

omit [Normalization] [Sha256] in
/-- A URL's count never exceeds the number of completions. -/
lemma RemembersAll.count_le {events : List ProbeEvent} {s : ProbeState}
    (h : RemembersAll settings events s) (url : PyStr) : s.failureCounts url ≤ events.length := by
  rw [(h url).count]
  refine (failuresSince_le_length _).trans ?_
  simpa [outcomesOf] using List.length_filter_le (fun e => e.url == url) events

/-- A run whose texts fit goes through, and its maps remember it. -/
lemma exists_run_remembers (hthreshold : 1 ≤ settings.apiWatcher.failureThreshold)
    {events : List ProbeEvent}
    (hfits : ∀ e ∈ events, ∀ n ≤ events.length, FitsAt settings e.url e.outcome n) :
    ∃ s, (prober settings).run events = .ok s ∧ RemembersAll settings events s := by
  induction events using List.reverseRecOn with
  | nil => exact ⟨.initial, rfl, fun url => remembers_nil hthreshold⟩
  | append_singleton events e ih =>
      obtain ⟨s, hs, hremembers⟩ := ih fun e' he' n hn =>
        hfits e' (List.mem_append_left _ he') n (by simp; omega)
      have hle := hremembers.count_le e.url
      have hfit := hfits e (by simp) (s.failureCounts e.url + 1) (by simp; omega)
      obtain ⟨⟨found, hfound⟩, -⟩ := emits_iff_due hfit
      refine ⟨(probeEndpoint settings s e).1, ?_, hremembers.snoc hthreshold (exists_target hfit)⟩
      rw [Machine.run_snoc _ hs]
      exact prober_step_of_ok hfound

omit [UnicodeData] [Normalization] [Sha256] in
/-- The outcome is an answer with a status below 500. -/
def isBelow500 : ProbeOutcome → Bool
  | .response status _ => decide (status.val < 500)
  | _ => false

/-- What a URL's count and state are after a run, said of its history alone. -/
structure UrlState (threshold : ℤ) (history : List ProbeOutcome) (count : ℕ)
    (state : EndpointState) : Prop where
  count : count = failuresSince history
  up : state = .up ↔
    (failuresSince history : ℤ) < threshold ∧ .tlsError ∉ sinceSuccess history
  otherwise : state ≠ .up →
    state = if (latestSetter threshold history).any isBelow500 then .degraded else .down

omit [UnicodeData] [Normalization] [Sha256] in
lemma Remembers.urlState {threshold : ℤ} {history : List ProbeOutcome} {count : ℕ}
    {state : EndpointState} (h : Remembers threshold history count state) :
    UrlState threshold history count state where
  count := h.count
  up := h.up
  otherwise hup := by
    cases hsetter : latestSetter threshold history with
    | none => exact absurd (h.unset hsetter) hup
    | some o =>
        have hstate := h.setter o hsetter
        rw [hstate, ne_eq, stateAfter_eq_up_iff] at hup
        rw [hstate, Option.any_some]
        cases o with
        | response status latencyMs =>
            have hstatus : status.isSuccess = false := by simpa [isSuccess] using hup
            by_cases hlow : status.val < 500
            · simp [stateAfter, isBelow500, hstatus, hlow]
            · simp [stateAfter, isBelow500, hstatus, hlow, not_lt.mp hlow]
        | _ => rfl

/-- **After any run of probes whose texts fit, in any interleaving, each URL's count and state are what
its own history says, and every completion reported what it had to.** -/
theorem prober_history {int : PyStr → Option ℤ} {raw : Option PyStr}
    (henv : failureThresholdFromEnv int raw = .ok settings.apiWatcher.failureThreshold)
    {events : List ProbeEvent}
    (hfits : ∀ e ∈ events, ∀ n ≤ events.length, FitsAt settings e.url e.outcome n) :
    ∃ s, (prober settings).run events = .ok s ∧
      (∀ url, UrlState settings.apiWatcher.failureThreshold (outcomesOf url events)
        (s.failureCounts url) (s.endpointStates url)) ∧
      (prober settings).Always events (Completes settings) := by
  have hthreshold : 1 ≤ settings.apiWatcher.failureThreshold := (envInt_mem (by decide) henv).1
  obtain ⟨s, hs, hremembers⟩ := exists_run_remembers hthreshold hfits
  refine ⟨s, hs, fun url => (hremembers url).urlState, fun before e after t hsplit ht => ?_⟩
  -- the state before a completion remembers the part of the run before it
  have hbefore : ∀ e' ∈ before, ∀ n ≤ before.length, FitsAt settings e'.url e'.outcome n :=
    fun e' he' n hn => hfits e' (by simp [hsplit, he']) n (by simp [hsplit]; omega)
  obtain ⟨t', ht', hremembers'⟩ := exists_run_remembers hthreshold hbefore
  cases ht.symm.trans ht'
  have hle := hremembers'.count_le e.url
  exact completes_of_fits (hfits e (by simp [hsplit]) _ (by simp [hsplit]; omega))

end Runs

/-! ## A run of one target -/

section Sample

attribute [local instance] asciiData asciiNormalization probeDigest

/-- Three timeouts, a failed handshake and an answer. -/
def sampleRun : List ProbeEvent :=
  [sampleProbe healthTarget .timeout, sampleProbe healthTarget .timeout,
    sampleProbe healthTarget .timeout, sampleProbe healthTarget .tlsError,
    sampleProbe healthTarget (.response ⟨204, by decide⟩ ⟨12, by decide +kernel⟩)]

lemma healthTarget_fitsAt {outcome : ProbeOutcome} {n : ℕ} (hn : n < 10) :
    FitsAt (settingsFor healthTarget) healthTarget outcome n := by
  have htarget : targetMetadata healthTarget = .ok ⟨py "api", py "/health", py "https"⟩ := by
    decide +kernel
  have hlen := length_decimal_le (k := 1) (by omega) (by omega : n < 10 ^ 1)
  refine ⟨by decide, _, htarget, ?_⟩
  have hservice : (py "api").length = 3 := by decide
  have hendpoint : (py "/health").length = 7 := by decide
  exact
    { platform := by decide
      service_not_blank := by decide
      service_length := by decide
      title := by
        rw [hservice, hendpoint]
        cases outcome <;> simp only [titleOverhead] <;> try omega
        split_ifs <;> omega
      description := by
        cases outcome <;> simp only [descriptionLength, hservice, hendpoint] <;> try omega
        split_ifs <;> omega
      service_encodable := by decide
      endpoint_encodable := by decide
      threshold := fun _ _ _ _ => ⟨_, rfl⟩ }

theorem prober_history_sampleRun :
    ∃ s, (prober (settingsFor healthTarget)).run sampleRun = .ok s ∧
      (∀ url, UrlState 3 (outcomesOf url sampleRun) (s.failureCounts url) (s.endpointStates url)) ∧
      (prober (settingsFor healthTarget)).Always sampleRun (Completes (settingsFor healthTarget)) :=
  have henv : failureThresholdFromEnv (fun _ => none) none
      = .ok (settingsFor healthTarget).apiWatcher.failureThreshold := rfl
  prober_history henv (by
    intro e he n hn
    have hurl : e.url = healthTarget := by
      revert e
      decide +kernel
    rw [hurl]
    exact healthTarget_fitsAt (by simp [sampleRun] at hn; omega))

end Sample

end Watchtower
