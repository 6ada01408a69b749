import Watchtower.Correlator.Cooldown
import Watchtower.Notifier.Delivery

/-!
# Notifications across processes

The cluster of correlator processes once more, with the requests `send_alert` makes while an alert
step stands at the call: one channel after the other, in between whatever the other processes do.

* `NotifyState` — the cluster, with the alert of each step and what its requests have met.
* `notifier_refines` — without the requests, it is the cluster.
* `NotifyState.Inv` — an accepted notification stands for a claim that is not given up.
* **`notifications_apart`** — two accepted notifications of one fingerprint belong to one alert step, or
  to two steps that claimed it a cooldown apart.
-/

namespace Watchtower

open Core Py

/-! ## Frames -/

namespace Cluster

variable {cooldownSecs : ℤ} {s t : Cluster}

/-- What one event does to a step: nothing, or the step goes on.  It leaves the call of `send_alert`
by the event of that name only. -/
def Moves (cooldownSecs : ℤ) (s t : Cluster) (e : ClusterEvent) (token : PyStr) (r : AlertRun) :
    Prop :=
  t.runs token = some r ∨
    ∃ met, t.runs token = some (r.reply cooldownSecs s.now met) ∧
      (r.place.isSending = true →
        ∃ process, e = .send process met ∧ s.active process = some (token, r))

/-- A step that is recorded where another one has got to. -/
lemma moves_settle {e : ClusterEvent} {token : PyStr} {r : AlertRun} (hr : s.runs token = some r)
    {s' : Cluster} (hruns : s'.runs = s.runs) {process : ℕ} {token' : PyStr} {r' : AlertRun}
    (hactive : s.active process = some (token', r')) {met : Except PyExc Bool}
    (hsend : r'.place.isSending = true → e = .send process met) :
    Moves cooldownSecs s (s'.settle process token' (r'.reply cooldownSecs s.now met)) e token r := by
  by_cases htoken : token = token'
  · subst htoken
    have hsame : some r' = some r := (runs_of_active hactive).symm.trans hr
    cases hsame
    exact Or.inr ⟨met, Function.update_self _ _ _, fun hplace => ⟨process, hsend hplace, hactive⟩⟩
  · left
    simp only [settle, Function.update_of_ne htoken, hruns, hr]

/-- **What one event does to a step.** -/
lemma step_moves {e : ClusterEvent} (h : s.step cooldownSecs e = .ok t) {token : PyStr} {r : AlertRun}
    (hr : s.runs token = some r) : Moves cooldownSecs s t e token r := by
  cases e with
  | wait secs =>
      simp only [step] at h
      split_ifs at h
      cases h
      exact Or.inl hr
  | other c =>
      simp only [step] at h
      split_ifs at h
      cases h
      exact Or.inl hr
  | start process token' fingerprint record =>
      simp only [step] at h
      split_ifs at h with hbusy
      cases h
      have htoken : token ≠ token' := by
        rintro rfl
        exact hbusy (Or.inr (Or.inl (by rw [hr]; rfl)))
      left
      simp only [Function.update_of_ne htoken, hr]
  | attempt process contact =>
      simp only [step] at h
      cases hactive : s.active process with
      | none => simp [hactive] at h
      | some p =>
          obtain ⟨token', r'⟩ := p
          simp only [hactive] at h
          split_ifs at h with hsending
          cases contact with
          | failed e =>
              cases h
              exact moves_settle hr rfl hactive fun hplace => absurd hplace hsending
          | answered =>
              cases hcommand : r'.command cooldownSecs token' with
              | none =>
                  simp only [hcommand] at h
                  cases h
                  exact moves_settle hr rfl hactive fun hplace => absurd hplace hsending
              | some c =>
                  simp only [hcommand] at h
                  cases h
                  exact moves_settle hr rfl hactive fun hplace => absurd hplace hsending
  | send process outcome =>
      simp only [step] at h
      cases hactive : s.active process with
      | none => simp [hactive] at h
      | some p =>
          obtain ⟨token', r'⟩ := p
          simp only [hactive] at h
          split_ifs at h with hsending
          cases h
          exact moves_settle hr rfl hactive fun _ => rfl
  | arrive index =>
      simp only [step] at h
      cases hc : s.inFlight[index]? with
      | none => simp [hc] at h
      | some c =>
          simp only [hc] at h
          cases h
          exact Or.inl hr

/-- A step stays the one of its fingerprint. -/
lemma step_fingerprint {e : ClusterEvent} (h : s.step cooldownSecs e = .ok t) {token : PyStr}
    {r : AlertRun} (hr : s.runs token = some r) :
    ∃ r', t.runs token = some r' ∧ r'.fingerprint = r.fingerprint := by
  rcases step_moves h hr with hkept | ⟨met, hmoved, -⟩
  · exact ⟨r, hkept, rfl⟩
  · exact ⟨_, hmoved, rfl⟩

/-- A step that waits for `send_alert`, or has delivered its alert, stays there until the call
returns. -/
lemma step_keeps {e : ClusterEvent} (h : s.step cooldownSecs e = .ok t) {token : PyStr} {r : AlertRun}
    (hr : s.runs token = some r) (hplace : r.place = .sending ∨ r.place = .finished .delivered)
    (hsend : ∀ process met, e = .send process met → s.active process ≠ some (token, r)) :
    t.runs token = some r := by
  rcases step_moves h hr with hkept | ⟨met, hmoved, hleft⟩
  · exact hkept
  · rcases hplace with hplace | hplace
    · obtain ⟨process, he, hactive⟩ := hleft (by rw [hplace]; rfl)
      exact absurd hactive (hsend process met he)
    · -- a finished step replies to nothing
      have hsame : r.reply cooldownSecs s.now met = r := by
        obtain ⟨fingerprint, record, place, claimedAt⟩ := r
        cases hplace
        rfl
      rw [hmoved, hsame]

end Cluster

/-! ## The requests -/

section Notifier

variable [UnicodeData] [WordData]

/-- The cluster, and what its alert steps have to do with the notifier, by their tokens. -/
structure NotifyState where
  cluster : Cluster
  alerts : PyStr → Option CorrelatedAlert
  /-- What the requests of a step have met. -/
  met : PyStr → Channel → Option PostOutcome

inductive NotifyEvent
  /-- Anything but the start of a step and the end of its call of `send_alert`. -/
  | cluster (e : ClusterEvent)
  | start (process : ℕ) (token : PyStr) (alert : CorrelatedAlert) (record : PyStr)
  /-- A process makes its next request. -/
  | post (process : ℕ) (outcome : PostOutcome)
  /-- `send_alert` returns. -/
  | sent (process : ℕ)

/-- The events that `NotifyEvent` has under other names. -/
def ClusterEvent.isRenamed : ClusterEvent → Bool
  | .start _ _ _ _ => true
  | .send _ _ => true
  | _ => false

/-- An exception of `send_alert`, of which the correlator sees the class only. -/
def NotifierExc.toExc : NotifierExc → PyExc
  | .keyError key => .valueErrorRepr "KeyError" (.str key)
  | .raised e => e

/-- The channel the next request goes to. -/
def nextChannel (settings : NotifierSettings) (met : Channel → Option PostOutcome) : Option Channel :=
  (allChannels.filter (isConfigured settings)).find? fun c => (met c).isNone

/-- What the requests have met, once all have been made. -/
def answers (met : Channel → Option PostOutcome) (c : Channel) : PostOutcome := (met c).getD .timeout

namespace NotifyState

/-- The alert a process is sending, with the token of its step. -/
def sending (s : NotifyState) (process : ℕ) : Option (PyStr × CorrelatedAlert) :=
  match s.cluster.active process with
  | none => none
  | some (token, r) =>
      if r.place.isSending then (s.alerts token).map fun alert => (token, alert) else none

/-- One event; an event that is not possible in the state is an error. -/
def step (settings : NotifierSettings) (timeoutSecs : ℚ) (cooldownSecs : ℤ) (s : NotifyState) :
    NotifyEvent → Except Unit NotifyState
  | .cluster e =>
      if e.isRenamed then .error ()
      else (s.cluster.step cooldownSecs e).map fun c => { s with cluster := c }
  | .start process token alert record =>
      (s.cluster.step cooldownSecs (.start process token alert.fingerprint.val record)).map fun c =>
        { cluster := c
          alerts := Function.update s.alerts token (some alert)
          met := Function.update s.met token fun _ => none }
  | .post process outcome =>
      match s.sending process with
      | none => .error ()
      | some (token, alert) =>
          match shouldNotify settings alert, nextChannel settings (s.met token) with
          | .ok true, some channel =>
              let met := Function.update s.met token
                (Function.update (s.met token) channel (some outcome))
              match outcome with
              | .raised e =>
                  -- the exception leaves `send_alert` at once
                  (s.cluster.step cooldownSecs (.send process (.error e))).map fun c =>
                    { s with cluster := c, met }
              | _ => .ok { s with met }
          | _, _ => .error ()
  | .sent process =>
      match s.sending process with
      | none => .error ()
      | some (token, alert) =>
          match shouldNotify settings alert, nextChannel settings (s.met token) with
          | .ok true, some _ => .error ()
          | _, _ =>
              let outcome := (sendAlert settings timeoutSecs alert (answers (s.met token))).outcome
              (s.cluster.step cooldownSecs
                (.send process (outcome.mapError NotifierExc.toExc))).map fun c =>
                  { s with cluster := c }

end NotifyState

/-- The cluster with its requests, with whatever the server holds when it starts. -/
def notifier (settings : NotifierSettings) (timeoutSecs : ℚ) (cooldownSecs : ℤ) (now : ℚ)
    (store : Redis) : Machine NotifyState NotifyEvent Unit where
  init :=
    { cluster := (cluster cooldownSecs now store).init
      alerts := fun _ => none
      met := fun _ _ => none }
  step := NotifyState.step settings timeoutSecs cooldownSecs

/-! ## Refinement -/

variable {settings : NotifierSettings} {timeoutSecs : ℚ} {cooldownSecs : ℤ}

namespace NotifyState

variable {s t : NotifyState}

omit [WordData] in
/-- What a process is sending is at the call of `send_alert`. -/
lemma active_of_sending {process : ℕ} {token : PyStr} {alert : CorrelatedAlert}
    (h : s.sending process = some (token, alert)) :
    s.alerts token = some alert ∧ ∃ r, s.cluster.active process = some (token, r) ∧
      r.place = .sending := by
  simp only [sending] at h
  cases hactive : s.cluster.active process with
  | none => simp [hactive] at h
  | some p =>
      obtain ⟨token', r⟩ := p
      simp only [hactive] at h
      split_ifs at h with hplace
      obtain ⟨alert', halert, hpair⟩ := Option.map_eq_some_iff.mp h
      cases hpair
      refine ⟨halert, r, rfl, ?_⟩
      cases hr : r.place <;> simp [AlertPlace.isSending, hr] at hplace ⊢

/-- What one event does, apart from the requests: something within the cluster. -/
inductive Steps (settings : NotifierSettings) (timeoutSecs : ℚ) (cooldownSecs : ℤ)
    (s : NotifyState) : NotifyEvent → NotifyState → Prop
  | cluster {e : ClusterEvent} {c : Cluster} (hrenamed : e.isRenamed = false)
      (hstep : s.cluster.step cooldownSecs e = .ok c) :
      Steps settings timeoutSecs cooldownSecs s (.cluster e) { s with cluster := c }
  | start {process : ℕ} {token : PyStr} {alert : CorrelatedAlert} {record : PyStr} {c : Cluster}
      (hstep : s.cluster.step cooldownSecs (.start process token alert.fingerprint.val record)
        = .ok c) :
      Steps settings timeoutSecs cooldownSecs s (.start process token alert record)
        { cluster := c
          alerts := Function.update s.alerts token (some alert)
          met := Function.update s.met token fun _ => none }
  | post {process : ℕ} {outcome : PostOutcome} {token : PyStr} {alert : CorrelatedAlert}
      {channel : Channel} (hsending : s.sending process = some (token, alert))
      (hnotify : shouldNotify settings alert = .ok true)
      (hnext : nextChannel settings (s.met token) = some channel)
      (hanswered : ∀ e, outcome ≠ .raised e) :
      Steps settings timeoutSecs cooldownSecs s (.post process outcome)
        { s with
          met := Function.update s.met token
            (Function.update (s.met token) channel (some outcome)) }
  | raised {process : ℕ} {e : PyExc} {token : PyStr} {alert : CorrelatedAlert} {channel : Channel}
      {c : Cluster} (hsending : s.sending process = some (token, alert))
      (hnotify : shouldNotify settings alert = .ok true)
      (hnext : nextChannel settings (s.met token) = some channel)
      (hstep : s.cluster.step cooldownSecs (.send process (.error e)) = .ok c) :
      Steps settings timeoutSecs cooldownSecs s (.post process (.raised e))
        { s with
          cluster := c
          met := Function.update s.met token
            (Function.update (s.met token) channel (some (.raised e))) }
  | sent {process : ℕ} {token : PyStr} {alert : CorrelatedAlert} {c : Cluster}
      (hsending : s.sending process = some (token, alert))
      (hdone : shouldNotify settings alert = .ok true → nextChannel settings (s.met token) = none)
      (hstep : s.cluster.step cooldownSecs (.send process
        ((sendAlert settings timeoutSecs alert (answers (s.met token))).outcome.mapError
          NotifierExc.toExc)) = .ok c) :
      Steps settings timeoutSecs cooldownSecs s (.sent process) { s with cluster := c }

/-- **One event, case by case.** -/
lemma steps_of_step {e : NotifyEvent} (h : s.step settings timeoutSecs cooldownSecs e = .ok t) :
    Steps settings timeoutSecs cooldownSecs s e t := by
  cases e with
  | cluster e =>
      simp only [step] at h
      split_ifs at h with hrenamed
      obtain ⟨c, hc, rfl⟩ := map_eq_ok h
      exact .cluster (Bool.eq_false_iff.mpr hrenamed) hc
  | start process token alert record =>
      obtain ⟨c, hc, rfl⟩ := map_eq_ok h
      exact .start hc
  | post process outcome =>
      simp only [step] at h
      split at h
      · cases h
      · next token alert hsending =>
          split at h
          · next channel hnotify hnext =>
              split at h
              · obtain ⟨c, hc, rfl⟩ := map_eq_ok h
                exact .raised hsending hnotify hnext hc
              · next hanswered =>
                  cases h
                  exact .post hsending hnotify hnext hanswered
          · cases h
  | sent process =>
      simp only [step] at h
      split at h
      · cases h
      · next token alert hsending =>
          split at h
          · cases h
          · next hopen =>
              obtain ⟨c, hc, rfl⟩ := map_eq_ok h
              refine .sent hsending (fun hnotify => ?_) hc
              cases hnext : nextChannel settings (s.met token) with
              | none => rfl
              | some channel => exact absurd hnext (hopen channel hnotify)

/-- **Every event is one of the cluster, or none.** -/
lemma Steps.refines {e : NotifyEvent} (h : Steps settings timeoutSecs cooldownSecs s e t) :
    t.cluster = s.cluster ∨ ∃ e', s.cluster.step cooldownSecs e' = .ok t.cluster := by
  cases h with
  | cluster hrenamed hstep => exact Or.inr ⟨_, hstep⟩
  | start hstep => exact Or.inr ⟨_, hstep⟩
  | post hsending hnotify hnext hanswered => exact Or.inl rfl
  | raised hsending hnotify hnext hstep => exact Or.inr ⟨_, hstep⟩
  | sent hsending hdone hstep => exact Or.inr ⟨_, hstep⟩

end NotifyState

/-- **Without its requests the machine is the cluster.** -/
theorem notifier_refines {now : ℚ} {store : Redis} {events : List NotifyEvent} {s : NotifyState}
    (hrun : (notifier settings timeoutSecs cooldownSecs now store).run events = .ok s) :
    ∃ events', (cluster cooldownSecs now store).run events' = .ok s.cluster :=
  Machine.refines NotifyState.cluster rfl
    (fun _ _ _ h => (NotifyState.steps_of_step h).refines) hrun

/-! ## The invariant -/

namespace NotifyState

/-- A request of the step has met an exception that is none of `requests`. -/
def Raised (s : NotifyState) (token : PyStr) : Prop := ∃ c e, s.met token c = some (.raised e)

/-- What the requests of a step have to do with its place. -/
structure Inv (settings : NotifierSettings) (s : NotifyState) : Prop where
  alert : ∀ token alert, s.alerts token = some alert →
    ∃ r, s.cluster.runs token = some r ∧ r.fingerprint = alert.fingerprint.val
  /-- Requests are made for configured channels, and for an alert that is to be passed on. -/
  met : ∀ token c outcome, s.met token c = some outcome → isConfigured settings c = true ∧
    ∃ alert, s.alerts token = some alert ∧ shouldNotify settings alert = .ok true
  /-- An accepted notification keeps its step at the call, or has it delivered. -/
  accepted : ∀ token c, s.met token c = some (.response true) → s.Raised token ∨
    ∃ r, s.cluster.runs token = some r ∧ (r.place = .sending ∨ r.place = .finished .delivered)

lemma inv_init (now : ℚ) (store : Redis) :
    (notifier settings timeoutSecs cooldownSecs now store).init.Inv settings where
  alert := by simp [notifier]
  met := by simp [notifier]
  accepted := by simp [notifier]

variable {s t : NotifyState}

omit [WordData] in
/-- The cluster may go on, as long as the steps with an accepted notification stay where they are. -/
lemma Inv.cluster_step (h : s.Inv settings) {e : ClusterEvent} {c : Cluster}
    (hstep : s.cluster.step cooldownSecs e = .ok c)
    (hkeeps : ∀ token channel r, s.met token channel = some (.response true) → ¬ s.Raised token →
      s.cluster.runs token = some r → (r.place = .sending ∨ r.place = .finished .delivered) →
      ∃ r', c.runs token = some r' ∧ (r'.place = .sending ∨ r'.place = .finished .delivered)) :
    Inv settings { s with cluster := c } where
  alert token alert halert := by
    obtain ⟨r, hr, hfp⟩ := h.alert token alert halert
    obtain ⟨r', hr', hfp'⟩ := Cluster.step_fingerprint hstep hr
    exact ⟨r', hr', hfp'.trans hfp⟩
  met := h.met
  accepted token channel haccepted := by
    by_cases hraised : s.Raised token
    · exact Or.inl hraised
    · obtain ⟨r, hr, hplace⟩ := (h.accepted token channel haccepted).resolve_left hraised
      exact Or.inr (hkeeps token channel r haccepted hraised hr hplace)

omit [UnicodeData] [WordData] in
lemma mem_of_nextChannel {met : Channel → Option PostOutcome} {channel : Channel}
    (h : nextChannel settings met = some channel) :
    isConfigured settings channel = true ∧ met channel = none := by
  have hmem := List.mem_of_find?_eq_some h
  have hnone := List.find?_some h
  exact ⟨(List.mem_filter.mp hmem).2, Option.isNone_iff_eq_none.mp hnone⟩

omit [WordData] in
/-- A process at the call may make its next request. -/
lemma Inv.post (h : s.Inv settings) {process : ℕ} {token : PyStr} {alert : CorrelatedAlert}
    {channel : Channel} (hsending : s.sending process = some (token, alert))
    (hnotify : shouldNotify settings alert = .ok true)
    (hnext : nextChannel settings (s.met token) = some channel) (outcome : PostOutcome) :
    Inv settings
      { s with
        met := Function.update s.met token
          (Function.update (s.met token) channel (some outcome)) } where
  alert := h.alert
  met token' c outcome' hmet := by
    by_cases htoken : token' = token
    · subst htoken
      by_cases hc : c = channel
      · subst hc
        exact ⟨(mem_of_nextChannel hnext).1, alert, (active_of_sending hsending).1, hnotify⟩
      · simp only [Function.update_self, Function.update_of_ne hc] at hmet
        exact h.met token' c outcome' hmet
    · simp only [Function.update_of_ne htoken] at hmet
      exact h.met token' c outcome' hmet
  accepted token' c haccepted := by
    by_cases htoken : token' = token
    · subst htoken
      obtain ⟨-, r, hactive, hplace⟩ := active_of_sending hsending
      exact Or.inr ⟨r, Cluster.runs_of_active hactive, Or.inl hplace⟩
    · simp only [Function.update_of_ne htoken] at haccepted
      refine (h.accepted token' c haccepted).imp_left fun hraised => ?_
      simpa only [Raised, Function.update_of_ne htoken] using hraised

/-- `send_alert` returns true in a step with an accepted notification. -/
lemma Inv.outcome_of_accepted (h : s.Inv settings) {token : PyStr} {alert : CorrelatedAlert}
    (halert : s.alerts token = some alert)
    {channel : Channel} (haccepted : s.met token channel = some (.response true))
    (hraised : ¬ s.Raised token) :
    (sendAlert settings timeoutSecs alert (answers (s.met token))).outcome = .ok true := by
  obtain ⟨hconfigured, alert', halert', hnotify⟩ := h.met token channel _ haccepted
  cases halert.symm.trans halert'
  have hquiet : ∀ c ∈ allChannels.filter (isConfigured settings), Quiet (answers (s.met token)) c := by
    intro c _ e hc
    cases hmet : s.met token c with
    | none => simp [answers, hmet] at hc
    | some outcome =>
        refine hraised ⟨c, e, ?_⟩
        rw [hmet, ← hc, answers, hmet, Option.getD_some]
  have hmem : channel ∈ allChannels.filter (isConfigured settings) :=
    List.mem_filter.mpr ⟨by cases channel <;> decide, hconfigured⟩
  have hmet : answers (s.met token) channel = .response true := by
    rw [answers, haccepted, Option.getD_some]
  rw [sendAlert_of_quiet hnotify hquiet]
  exact congrArg Except.ok (decide_eq_true ⟨channel, hmem, hmet⟩)

/-- **One event keeps the invariant.** -/
theorem inv_step {e : NotifyEvent} (h : s.Inv settings)
    (hstep : s.step settings timeoutSecs cooldownSecs e = .ok t) : t.Inv settings := by
  cases steps_of_step hstep with
  | @cluster e c hrenamed hc =>
      refine h.cluster_step hc fun token channel r _ _ hr hplace => ⟨r, ?_, hplace⟩
      refine Cluster.step_keeps hc hr hplace ?_
      rintro process met rfl
      cases hrenamed
  | @start process token alert record c hc =>
      have hcluster : Inv settings { s with cluster := c } :=
        h.cluster_step hc fun token channel r _ _ hr hplace =>
          ⟨r, Cluster.step_keeps hc hr hplace (fun _ _ hsend => by cases hsend), hplace⟩
      have hstarted : c.runs token
          = some { fingerprint := alert.fingerprint.val, record, place := .storing 1,
                   claimedAt := none } := by
        simp only [Cluster.step] at hc
        split_ifs at hc
        cases hc
        exact Function.update_self _ _ _
      constructor
      · intro token' alert' halert'
        by_cases htoken : token' = token
        · subst htoken
          simp only [Function.update_self, Option.some.injEq] at halert'
          subst halert'
          exact ⟨_, hstarted, rfl⟩
        · simp only [Function.update_of_ne htoken] at halert'
          exact hcluster.alert token' alert' halert'
      · intro token' channel outcome hmet
        by_cases htoken : token' = token
        · subst htoken
          simp only [Function.update_self] at hmet
          cases hmet
        · simp only [Function.update_of_ne htoken] at hmet ⊢
          exact hcluster.met token' channel outcome hmet
      · intro token' channel haccepted
        by_cases htoken : token' = token
        · subst htoken
          simp only [Function.update_self] at haccepted
          cases haccepted
        · simp only [Function.update_of_ne htoken] at haccepted
          simpa only [Raised, Function.update_of_ne htoken] using
            hcluster.accepted token' channel haccepted
  | post hsending hnotify hnext hanswered => exact h.post hsending hnotify hnext _
  | @raised process e token alert channel c hsending hnotify hnext hc =>
      refine (h.post hsending hnotify hnext (.raised e)).cluster_step hc ?_
      intro token' channel' r _ hraised hr hplace
      obtain ⟨-, r', hactive, -⟩ := active_of_sending hsending
      have htoken : token' ≠ token := by
        rintro rfl
        exact hraised ⟨channel, e, by simp⟩
      refine ⟨r, Cluster.step_keeps hc hr hplace ?_, hplace⟩
      rintro process' met hsend hactive'
      cases hsend
      rw [hactive] at hactive'
      cases hactive'
      exact htoken rfl
  | @sent process token alert c hsending hdone hc =>
      obtain ⟨halert, r', hactive, hsent⟩ := active_of_sending hsending
      refine h.cluster_step hc fun token' channel r haccepted hraised hr hplace => ?_
      rcases Cluster.step_moves hc hr with hkept | ⟨met, hmoved, hleft⟩
      · exact ⟨r, hkept, hplace⟩
      · refine ⟨_, hmoved, ?_⟩
        rcases hplace with hplace | hplace
        · -- the step whose call returns is this one
          obtain ⟨process', hsend, hactive'⟩ := hleft (by rw [hplace]; rfl)
          cases hsend
          rw [hactive] at hactive'
          cases hactive'
          rw [h.outcome_of_accepted halert haccepted hraised]
          right
          simp only [AlertRun.reply, hplace, Except.mapError, AlertPlace.reply]
        · right
          simp only [AlertRun.reply, hplace, AlertPlace.reply]

end NotifyState

/-- **Two accepted notifications of one fingerprint belong to one alert step, or to two that claimed it
a cooldown apart**, in whatever order the events of any number of processes come; a step in which a
request meets an exception that is none of `requests` is left out of account.  And the processes come
to no state of the cluster but those it comes to with a `send_alert` of one step. -/
theorem notifications_apart {now : ℚ} {store : Redis} {events : List NotifyEvent} {s : NotifyState}
    (hrun : (notifier settings timeoutSecs cooldownSecs now store).run events = .ok s) :
    (∀ {a b : PyStr} {alertA alertB : CorrelatedAlert} {c c' : Channel}, a ≠ b →
        s.alerts a = some alertA → s.alerts b = some alertB →
        alertA.fingerprint = alertB.fingerprint →
        s.met a c = some (.response true) → s.met b c' = some (.response true) →
        ¬ s.Raised a → ¬ s.Raised b →
        ∃ ra rb ta tb, s.cluster.runs a = some ra ∧ s.cluster.runs b = some rb ∧
          ra.claimedAt = some ta ∧ rb.claimedAt = some tb ∧ (cooldownSecs : ℚ) ≤ |ta - tb|) ∧
      ∃ events', (cluster cooldownSecs now store).run events' = .ok s.cluster := by
  have hinv : s.Inv settings :=
    Machine.invariant (NotifyState.inv_init now store) (fun _ _ _ h => NotifyState.inv_step h) hrun
  obtain ⟨events', hrun'⟩ := notifier_refines hrun
  refine ⟨fun {a b alertA alertB c c'} hab ha hb hfp hacceptedA hacceptedB hquietA hquietB => ?_,
    events', hrun'⟩
  have hcluster : s.cluster.Inv cooldownSecs :=
    Machine.invariant (Cluster.inv_init now store) (fun _ e t h => Cluster.inv_step e t h) hrun'
  have hstanding : ∀ {r : AlertRun}, (r.place = .sending ∨ r.place = .finished .delivered) →
      r.place.standing = true := by
    rintro r (hplace | hplace)
    · rw [hplace]
      rfl
    · rw [hplace]
      rfl
  obtain ⟨ra, hra, hplaceA⟩ := (hinv.accepted a c hacceptedA).resolve_left hquietA
  obtain ⟨rb, hrb, hplaceB⟩ := (hinv.accepted b c' hacceptedB).resolve_left hquietB
  obtain ⟨ra', hra', hfpA⟩ := hinv.alert a alertA ha
  obtain ⟨rb', hrb', hfpB⟩ := hinv.alert b alertB hb
  cases hra.symm.trans hra'
  cases hrb.symm.trans hrb'
  have hsame : ra.fingerprint = rb.fingerprint := by rw [hfpA, hfpB, hfp]
  obtain ⟨ta, tb, hta, htb, hle⟩ := hcluster.apart a b ra rb hab hra hrb (hstanding hplaceA)
    (hstanding hplaceB) hsame
  exact ⟨ra, rb, ta, tb, hra, hrb, hta, htb, hle⟩

end Notifier

/-! ## Two notifications -/

section Sample

attribute [local instance] asciiData latinWords

/-- A deployment whose only channel is a webhook. -/
def webhookOnly : NotifierSettings where
  slackWebhookUrl := none
  telegramBotToken := none
  telegramChatId := none
  genericWebhookUrl := some (py "https://hooks.example.com/b")
  minAlertSeverity := Severity.high.value

/-- Two processes notify of the same alert, the second one as soon as the cooldown is over. -/
def secondNotification : List NotifyEvent :=
  [.start 0 (py "a") longNameAlert (py "r"), .start 1 (py "b") longNameAlert (py "r"),
    .cluster (.attempt 0 .answered), .cluster (.attempt 1 .answered),
    .cluster (.attempt 0 .answered), .cluster (.attempt 0 .answered), .post 0 (.response true),
    .cluster (.wait 300), .cluster (.attempt 1 .answered), .cluster (.attempt 1 .answered),
    .post 1 (.response true)]

theorem notifications_apart_second :
    ∃ s, (notifier webhookOnly 10 300 0 fun _ => none).run secondNotification = .ok s ∧
      ∃ ra rb ta tb, s.cluster.runs (py "a") = some ra ∧ s.cluster.runs (py "b") = some rb ∧
        ra.claimedAt = some ta ∧ rb.claimedAt = some tb ∧ ((300 : ℤ) : ℚ) ≤ |ta - tb| := by
  have hrun : ∃ s, (notifier webhookOnly 10 300 0 fun _ => none).run secondNotification = .ok s ∧
      ((s.alerts (py "a")).map CorrelatedAlert.fingerprint
          = some longNameAlert.fingerprint ∧
        (s.alerts (py "b")).map CorrelatedAlert.fingerprint = some longNameAlert.fingerprint) ∧
      ∀ token ∈ [py "a", py "b"], s.met token .webhook = some (.response true) ∧
        s.met token .slack = none ∧ s.met token .telegram = none := by
    decide +kernel
  obtain ⟨s, hs, ⟨halertA, halertB⟩, hmet⟩ := hrun
  obtain ⟨alertA, hA, hfpA⟩ := Option.map_eq_some_iff.mp halertA
  obtain ⟨alertB, hB, hfpB⟩ := Option.map_eq_some_iff.mp halertB
  obtain ⟨hmetA, hmetB, -⟩ := List.forall_mem_cons.mp hmet |>.imp_right List.forall_mem_cons.mp
  have hquiet : ∀ {token : PyStr}, (s.met token .webhook = some (.response true) ∧
      s.met token .slack = none ∧ s.met token .telegram = none) → ¬ s.Raised token := by
    rintro token ⟨hwebhook, hslack, htelegram⟩ ⟨c, e, hc⟩
    cases c with
    | slack => simp [hslack] at hc
    | telegram => simp [htelegram] at hc
    | webhook => simp [hwebhook] at hc
  exact ⟨s, hs, (notifications_apart hs).1 (by decide) hA hB (hfpA.trans hfpB.symm) hmetA.1 hmetB.1
    (hquiet hmetA) (hquiet hmetB)⟩

end Sample

end Watchtower
