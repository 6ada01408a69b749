import Watchtower.ApiWatcher.History
import Watchtower.Core.Cells
import Watchtower.Core.Traced
import Watchtower.Redis.Retry
import Watchtower.Schema.RoundTrip

/-!
# Rounds of probes

`watch` probes all targets of a round at once and waits until each probe has come to a result; then
it emits the findings in the order of the targets.  The probes share the two maps and complete in any
order.

* `runProbe` — a probe as a task of `gather`.
* `watchRounds` — the loop, with the calls that reach Redis.
* `dueReport` — what a probe reports, from the count of failures alone.
* **`watch_order_independent`** — the order in which the probes complete does not show.
* **`watch_eq_historyRounds`** — with distinct targets the watcher does what it would do without its
  maps, from the history of each target.
-/

namespace Watchtower

open Core Py

/-- `type(e).__name__`, as far as the model tells classes apart. -/
def className : PyExc → String
  | .valueError _ => "ValueError"
  | .valueErrorRepr _ _ => "ValueError"
  | .jsonDecodeError => "JSONDecodeError"
  | .unicodeEncodeError => "UnicodeEncodeError"
  | .typeError _ => "TypeError"
  | .attributeError => "AttributeError"
  | .overflowError => "OverflowError"
  | .recursionError => "RecursionError"
  | .osError _ => "OSError"
  | .runtimeError _ => "RuntimeError"
  | .runtimeErrorRepr _ _ _ => "RuntimeError"
  | .redisConnectionError => "ConnectionError"
  | .redisTimeoutError => "TimeoutError"
  | .redisError _ => "RedisError"

/-! ## The tasks -/

section Tasks

variable [UnicodeData]

/-- An entry of what `gather(..., return_exceptions=True)` returns. -/
inductive ProbeResult
  | returned (found : Option Finding)
  | raised (e : PyExc)
  | cancelled

/-- What the probe of one target meets in a round, and what Redis answers to the attempts of the two
calls that follow if a finding comes out. -/
structure Attempt where
  outcome : ProbeOutcome
  id : Uuid
  now : { q : FiniteFloat // 0 < q.val }
  push : ℕ → Except PyExc Unit
  store : ℕ → Except PyExc Unit

/-- The completion of a target's probe. -/
def Attempt.event (a : Attempt) (url : PyStr) : ProbeEvent where
  url := url
  outcome := a.outcome
  id := a.id
  now := a.now

/-- The position of a target among the targets. -/
abbrev TargetIx (settings : Settings) := Fin settings.apiWatcher.targetUrls.length

/-- A round: what each target's probe meets, and the order in which the probes complete. -/
structure Round (settings : Settings) where
  attempts : TargetIx settings → Attempt
  order : List (TargetIx settings)
  complete : order.Perm (List.finRange _)

variable {settings : Settings}

def urlAt (settings : Settings) (i : TargetIx settings) : PyStr :=
  settings.apiWatcher.targetUrls.get i

/-- The probe of a target as a task. -/
def Round.task (r : Round settings) (i : TargetIx settings) : ProbeEvent :=
  (r.attempts i).event (urlAt settings i)

variable [Normalization] [Sha256]

/-- `_probe_endpoint` as a task of `gather`. -/
def runProbe (settings : Settings) (s : ProbeState) (e : ProbeEvent) : ProbeState × ProbeResult :=
  match probeEndpoint settings s e with
  | (s, .error exc) => (s, .raised exc)
  | (s, .ok found) => (s, if e.outcome = .cancelled then .cancelled else .returned found)

end Tasks

/-! ## The loop -/

/-- The calls of a round that reach Redis, each with its own retries. -/
inductive PersistCall
  | pushFinding (payload : PyStr)
  | setWithTtl (key payload : PyStr) (ttlSecs : ℤ)
  deriving DecidableEq

/-- How `watch` is left other than by the stop event. -/
inductive WatchExit
  | cancelled
  | raised (e : PyExc)
  deriving DecidableEq

section Loop

variable [UnicodeData] (room : ℕ) (dumps : PyVal → Except PyExc PyStr)

/-- `store_finding_record`, with its default lifetime of a day. -/
def storeFindingRecord (id payload : PyStr) (operation : ℕ → Except PyExc Unit) :
    Traced PersistCall PyExc Unit :=
  .perform (.setWithTtl (py "watchtower:findings:record:" ++ id) payload 86400)
    (setWithTtl 86400 operation)

/-- `_persist_finding`. -/
def persistFinding (a : Attempt) (f : Finding) : Traced PersistCall PyExc Unit := do
  let payload ← ⟨[], f.toJson room dumps⟩
  .perform (.pushFinding payload) (withRetry a.push)
  storeFindingRecord f.id.val payload a.store

/-- One turn of the loop over the results. -/
def emitResult (a : Attempt) : ProbeResult → Traced PersistCall WatchExit Unit
  | .returned none => pure ()
  | .returned (some f) =>
      ⟨(persistFinding room dumps a f).calls, (persistFinding room dumps a f).outcome.mapError .raised⟩
  | .cancelled => .raise .cancelled
  | .raised e => .raise (.raised (.runtimeError ("probe task failed with " ++ className e)))

/-- The loop over the results. -/
def emitResults : List (Attempt × ProbeResult) → Traced PersistCall WatchExit Unit
  | [] => pure ()
  | (a, result) :: rest => do
      emitResult room dumps a result
      emitResults rest

variable [Normalization] [Sha256] {settings : Settings}

/-- The probes of a round: the maps once all have completed, and the results in the order of the
targets. -/
def probeAll (s : ProbeState) (r : Round settings) : ProbeState × List (Attempt × ProbeResult) :=
  let (t, results) := gather (runProbe settings) r.task s r.order
  (t, (List.finRange _).filterMap fun i => (results i).map fun result => (r.attempts i, result))

/-- `watch`, over the rounds it goes through before the stop event is seen. -/
def watchRounds : ProbeState → List (Round settings) → Traced PersistCall WatchExit Unit
  | _, [] => pure ()
  | s, r :: rest => do
      emitResults room dumps (probeAll s r).2
      watchRounds (probeAll s r).1 rest

/-- `watch`, with the maps a fresh process starts with. -/
def watch (rounds : List (Round settings)) : Traced PersistCall WatchExit Unit :=
  watchRounds room dumps .initial rounds

end Loop

/-! ## What a probe depends on -/

/-- What a probe reports, from the number of failures counted before it. -/
def dueReport (settings : Settings) (target : TargetMetadata) (failures : ℕ) :
    ProbeOutcome → Option Report
  | .response status latencyMs =>
      if status.isSuccess then
        if leFloat latencyMs settings.apiWatcher.latencyWarnMs then none
        else some (slowReport settings target.service target.endpoint status latencyMs)
      else if settings.apiWatcher.failureThreshold ≤ failures + 1 then
        some (statusReport settings target.service target.endpoint status latencyMs (failures + 1)
          (if 500 ≤ status.val then .down else .degraded))
      else none
  | .timeout =>
      if settings.apiWatcher.failureThreshold ≤ failures + 1 then
        some (downReport settings target.service target.endpoint target.scheme (failures + 1)
          (py "Endpoint timeout: ") (py "timeout"))
      else none
  | .tlsError => some (tlsReport settings target.service target.endpoint)
  | .clientError kind =>
      if settings.apiWatcher.failureThreshold ≤ failures + 1 then
        some (downReport settings target.service target.endpoint target.scheme (failures + 1)
          (py "Service unreachable: ") kind)
      else none
  | .cancelled => none

/-- **A probe reports what the count before it calls for.** -/
lemma probe_snd (settings : Settings) (target : TargetMetadata) (key : PyStr) (s : ProbeState)
    (o : ProbeOutcome) :
    (probe settings target key s o).2 = dueReport settings target (s.failureCounts key) o := by
  cases o with
  | response status latencyMs =>
      cases hstatus : status.isSuccess with
      | true =>
          cases hslow : leFloat latencyMs settings.apiWatcher.latencyWarnMs with
          | true => simp [probe, dueReport, hstatus, hslow]
          | false => simp [probe, dueReport, hstatus, hslow]
      | false =>
          by_cases hcount : settings.apiWatcher.failureThreshold ≤ s.failureCounts key + 1
          · simp [probe, dueReport, hstatus, hcount, not_lt.mpr hcount]
          · simp [probe, dueReport, hstatus, hcount, not_le.mp hcount]
  | timeout =>
      by_cases hcount : settings.apiWatcher.failureThreshold ≤ s.failureCounts key + 1
      · simp [probe, dueReport, hcount, not_lt.mpr hcount]
      · simp [probe, dueReport, hcount, not_le.mp hcount]
  | tlsError => rfl
  | clientError kind =>
      by_cases hcount : settings.apiWatcher.failureThreshold ≤ s.failureCounts key + 1
      · simp [probe, dueReport, hcount, not_lt.mpr hcount]
      · simp [probe, dueReport, hcount, not_le.mp hcount]
  | cancelled => rfl

/-- What the two maps hold for a URL. -/
def ProbeState.cell (s : ProbeState) (url : PyStr) : ℕ × EndpointState :=
  (s.failureCounts url, s.endpointStates url)

lemma ProbeState.ext_cell {s s' : ProbeState} (h : ∀ url, s.cell url = s'.cell url) : s = s' := by
  obtain ⟨counts, states⟩ := s
  obtain ⟨counts', states'⟩ := s'
  have hcounts : counts = counts' := funext fun url => congrArg Prod.fst (h url)
  have hstates : states = states' := funext fun url => congrArg Prod.snd (h url)
  rw [hcounts, hstates]

/-- What a probe comes to, from the number of failures counted before it. -/
def expectedResult [UnicodeData] [Normalization] [Sha256] (settings : Settings) (e : ProbeEvent)
    (failures : ℕ) : ProbeResult :=
  match targetMetadata e.url with
  | .error exc => .raised exc
  | .ok target =>
      match createFinding e (dueReport settings target failures e.outcome) with
      | .error exc => .raised exc
      | .ok found => if e.outcome = .cancelled then .cancelled else .returned found

section Cells

variable [UnicodeData] [Normalization] [Sha256] {settings : Settings}

lemma runProbe_fst (s : ProbeState) (e : ProbeEvent) :
    (runProbe settings s e).1 = (probeEndpoint settings s e).1 := by
  unfold runProbe
  split
  · next h => rw [h]
  · next h => rw [h]

lemma runProbe_snd (s : ProbeState) (e : ProbeEvent) :
    (runProbe settings s e).2 = expectedResult settings e (s.failureCounts e.url) := by
  cases htarget : targetMetadata e.url with
  | error exc => simp only [runProbe, probeEndpoint, htarget, expectedResult]
  | ok target =>
      simp only [runProbe, probeEndpoint, htarget, expectedResult, probe_snd]
      cases createFinding e (dueReport settings target (s.failureCounts e.url) e.outcome) with
      | error exc => rfl
      | ok found => rfl

/-- The cells after a probe. -/
lemma cell_runProbe (s : ProbeState) (e : ProbeEvent) (url : PyStr) :
    (runProbe settings s e).1.cell url =
      if url = e.url ∧ Returns (targetMetadata e.url) then
        (nextCount (s.failureCounts e.url) e.outcome,
          nextState settings.apiWatcher.failureThreshold (s.failureCounts e.url)
            (s.endpointStates e.url) e.outcome)
      else s.cell url := by
  rw [runProbe_fst]
  cases htarget : targetMetadata e.url with
  | error exc => simp [probeEndpoint, htarget]
  | ok target =>
      rw [probeEndpoint_fst ⟨target, htarget⟩]
      by_cases hurl : url = e.url
      · subst hurl
        simp [ProbeState.cell]
      · simp [ProbeState.cell, hurl]

/-- **A probe knows of no other URL than its own.** -/
theorem runProbe_cellLocal (settings : Settings) :
    CellLocal ProbeState.cell ProbeEvent.url (runProbe settings) where
  ext _ _ h := ProbeState.ext_cell h
  others s e url hurl := by rw [cell_runProbe, if_neg fun h => hurl h.1]
  own s s' e h := by
    have hcount : s.failureCounts e.url = s'.failureCounts e.url := congrArg Prod.fst h
    have hstate : s.endpointStates e.url = s'.endpointStates e.url := congrArg Prod.snd h
    rw [cell_runProbe, cell_runProbe, hcount, hstate, h]
  result s s' e h := by
    have hcount : s.failureCounts e.url = s'.failureCounts e.url := congrArg Prod.fst h
    rw [runProbe_snd, runProbe_snd, hcount]

end Cells

/-! ## Orders of completion -/

section Orders

variable [UnicodeData]

/-- The same round, with another order of completion among different URLs. -/
structure Round.Reorders {settings : Settings} (r r' : Round settings) : Prop where
  attempts : r.attempts = r'.attempts
  order : SameOrder (urlAt settings) r.order r'.order

variable [Normalization] [Sha256] {settings : Settings}

lemma probeAll_reorders {r r' : Round settings} (h : r.Reorders r') (s : ProbeState) :
    probeAll s r = probeAll s r' := by
  have htask : r.task = r'.task := by
    funext i
    rw [Round.task, Round.task, h.attempts]
  have hgather : gather (runProbe settings) r.task s r.order
      = gather (runProbe settings) r'.task s r'.order := by
    rw [htask]
    exact (runProbe_cellLocal settings).gather_eq h.order s
  simp only [probeAll, hgather, h.attempts]

/-- From the same maps on. -/
lemma watchRounds_reorders (room : ℕ) (dumps : PyVal → Except PyExc PyStr)
    {rounds rounds' : List (Round settings)} (h : List.Forall₂ Round.Reorders rounds rounds') :
    ∀ s, watchRounds room dumps s rounds = watchRounds room dumps s rounds' := by
  induction h with
  | nil => exact fun s => rfl
  | cons hround _ ih =>
      intro s
      simp only [watchRounds, probeAll_reorders hround, ih]

/-- **The order in which the probes of a round complete does not show**, in no run: the same findings
are pushed in the same order, and the watcher is left the same way, as long as probes of one URL keep
their order. -/
theorem watch_order_independent (room : ℕ) (dumps : PyVal → Except PyExc PyStr)
    {rounds rounds' : List (Round settings)} (h : List.Forall₂ Round.Reorders rounds rounds') :
    watch room dumps rounds = watch room dumps rounds' :=
  watchRounds_reorders room dumps h .initial

end Orders

/-! ## Histories in place of the maps -/

section Histories

variable [UnicodeData] {settings : Settings}

/-- What a target's probes have met in the rounds so far. -/
def historyOf (past : List (Round settings)) (i : TargetIx settings) : List ProbeOutcome :=
  past.map fun r => (r.attempts i).outcome

variable [Normalization] [Sha256]

/-- The results of a round, each from the history of its own target. -/
def historyRound (past : List (Round settings)) (r : Round settings) : List (Attempt × ProbeResult) :=
  (List.finRange _).map fun i =>
    (r.attempts i, expectedResult settings (r.task i) (failuresSince (historyOf past i)))

/-- A watcher without maps and without an order of completion: every target is looked at alone. -/
def historyRounds (room : ℕ) (dumps : PyVal → Except PyExc PyStr) :
    List (Round settings) → List (Round settings) → Traced PersistCall WatchExit Unit
  | _, [] => pure ()
  | past, r :: rest => do
      emitResults room dumps (historyRound past r)
      historyRounds room dumps (past ++ [r]) rest

omit [Sha256] in
/-- The counts are those of the histories, for every target a probe gets as far as asking. -/
def CountsHistory (past : List (Round settings)) (s : ProbeState) : Prop :=
  ∀ i, Returns (targetMetadata (urlAt settings i)) →
    s.failureCounts (urlAt settings i) = failuresSince (historyOf past i)

/-- With the count of its history, a target comes to what its history calls for. -/
lemma expectedResult_of_countsHistory {past : List (Round settings)} {s : ProbeState}
    (h : CountsHistory past s) (r : Round settings) (i : TargetIx settings) :
    expectedResult settings (r.task i) (s.failureCounts (urlAt settings i))
      = expectedResult settings (r.task i) (failuresSince (historyOf past i)) := by
  cases htarget : targetMetadata (urlAt settings i) with
  | error exc =>
      have htask : targetMetadata (r.task i).url = .error exc := htarget
      simp only [expectedResult, htask]
  | ok target => rw [h i ⟨target, htarget⟩]

section Step

variable (hnodup : settings.apiWatcher.targetUrls.Nodup) (r : Round settings) (s : ProbeState)
  (i : TargetIx settings)

include hnodup

/-- In a round over distinct targets each probe runs as if it were alone. -/
lemma gather_round :
    (gather (runProbe settings) r.task s r.order).1.cell (urlAt settings i)
        = (runProbe settings s (r.task i)).1.cell (urlAt settings i) ∧
      (gather (runProbe settings) r.task s r.order).2 i = some (runProbe settings s (r.task i)).2 := by
  have hinjective : Function.Injective fun i => (r.task i).url :=
    List.nodup_iff_injective_get.mp hnodup
  have horder : r.order.Nodup := r.complete.nodup_iff.mpr (List.nodup_finRange _)
  have hmem : i ∈ r.order := r.complete.mem_iff.mpr (List.mem_finRange i)
  exact (runProbe_cellLocal settings).gather_distinct hinjective horder hmem rfl

variable {r s} {past : List (Round settings)}

/-- **A round does what the histories say, and adds itself to them.** -/
lemma probeAll_of_countsHistory (h : CountsHistory past s) :
    (probeAll s r).2 = historyRound past r ∧ CountsHistory (past ++ [r]) (probeAll s r).1 := by
  constructor
  · have hresults : ∀ i, ((gather (runProbe settings) r.task s r.order).2 i).map
        (fun result => (r.attempts i, result))
        = some (r.attempts i,
            expectedResult settings (r.task i) (failuresSince (historyOf past i))) := by
      intro i
      rw [(gather_round hnodup r s i).2, Option.map_some, runProbe_snd]
      exact congrArg (fun result => some (r.attempts i, result))
        (expectedResult_of_countsHistory h r i)
    simp only [probeAll, hresults, List.filterMap_eq_map', historyRound]
  · intro i hurl
    have hcell : (probeAll s r).1.failureCounts (urlAt settings i)
        = nextCount (s.failureCounts (urlAt settings i)) (r.attempts i).outcome := by
      have hcells := (gather_round hnodup r s i).1
      rw [cell_runProbe, if_pos ⟨rfl, hurl⟩] at hcells
      exact congrArg Prod.fst hcells
    have hhistory : historyOf (past ++ [r]) i = historyOf past i ++ [(r.attempts i).outcome] :=
      List.map_append
    rw [hcell, hhistory, failuresSince_snoc, h i hurl, nextCount]

end Step

lemma watchRounds_eq_historyRounds (room : ℕ) (dumps : PyVal → Except PyExc PyStr)
    (hnodup : settings.apiWatcher.targetUrls.Nodup) (rounds : List (Round settings)) :
    ∀ {past : List (Round settings)} {s : ProbeState}, CountsHistory past s →
      watchRounds room dumps s rounds = historyRounds room dumps past rounds := by
  induction rounds with
  | nil => exact fun _ => rfl
  | cons r rest ih =>
      intro past s h
      obtain ⟨hresults, hcounts⟩ := probeAll_of_countsHistory hnodup (r := r) h
      simp only [watchRounds, historyRounds, hresults, ih hcounts]

/-- **With distinct targets the watcher is the one without maps**: in every run it pushes what each
target's own history calls for, and is left the same way. -/
theorem watch_eq_historyRounds (room : ℕ) (dumps : PyVal → Except PyExc PyStr)
    (hnodup : settings.apiWatcher.targetUrls.Nodup) (rounds : List (Round settings)) :
    watch room dumps rounds = historyRounds room dumps [] rounds :=
  watchRounds_eq_historyRounds room dumps hnodup rounds fun _ _ => rfl

end Histories

/-! ## Two targets -/

section TwoTargets

attribute [local instance] asciiData asciiNormalization probeDigest

def twoTargets : Settings :=
  { settingsFor healthTarget with
    apiWatcher :=
      { targetUrls := [healthTarget, py "https://web.example.com/ready"], failureThreshold := 1,
        latencyWarnMs := defaultLatencyWarnMs } }

lemma twoTargets_nodup : twoTargets.apiWatcher.targetUrls.Nodup := by decide

/-- A round in which the first target times out and the handshake with the second one fails. -/
def twoFailures (order : List (TargetIx twoTargets))
    (complete : order.Perm (List.finRange twoTargets.apiWatcher.targetUrls.length)) :
    Round twoTargets where
  attempts i :=
    { outcome := if i.val = 0 then .timeout else .tlsError, id := sampleApiId,
      now := ⟨sampleClock, sampleClock_pos⟩, push := fun _ => .ok (), store := fun _ => .ok () }
  order := order
  complete := complete

def inTargetOrder : Round twoTargets := twoFailures [⟨0, by decide⟩, ⟨1, by decide⟩] (by decide)

def inReverseOrder : Round twoTargets := twoFailures [⟨1, by decide⟩, ⟨0, by decide⟩] (by decide)

theorem watch_order_independent_twoTargets :
    watch 900 (fun _ => .ok (py "\x7b\x7d")) [inTargetOrder, inTargetOrder]
      = watch 900 (fun _ => .ok (py "\x7b\x7d")) [inTargetOrder, inReverseOrder] :=
  have hreorders : inTargetOrder.Reorders inReverseOrder :=
    { attempts := rfl
      order := sameOrder_of_perm (List.nodup_iff_injective_get.mp twoTargets_nodup)
        (inTargetOrder.complete.trans inReverseOrder.complete.symm) }
  have hsame : inTargetOrder.Reorders inTargetOrder := ⟨rfl, fun _ => rfl⟩
  watch_order_independent _ _ (.cons hsame (.cons hreorders .nil))

theorem watch_eq_historyRounds_twoTargets :
    watch 900 (fun _ => .ok (py "\x7b\x7d")) [inTargetOrder, inReverseOrder]
      = historyRounds 900 (fun _ => .ok (py "\x7b\x7d")) [] [inTargetOrder, inReverseOrder] :=
  watch_eq_historyRounds _ _ twoTargets_nodup _

end TwoTargets

end Watchtower
