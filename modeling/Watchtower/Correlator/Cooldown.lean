import Watchtower.Correlator.Loop

/-!
# The cooldown across processes

Any number of correlator processes share one Redis.  Each works on one alert step at a time, in
the places `alertStep` goes through: store the record, claim the key, publish, send, and release the
claim where publishing or sending failed.  A command whose attempt fails at the client may reach the
server at any later moment, or never.

* `AlertPlace.reply` — the control flow of one alert step, attempt by attempt.
* **`alertStep_walks`** — it is the control flow of `alertStep`.
* `Cluster` — the processes, the server and the commands on their way, as a machine over events.
* `Cluster.Inv` — a claim that has not been given up holds its key for the whole cooldown.
* **`deliveries_apart`** — two delivered alerts with one fingerprint were claimed a cooldown apart.
-/

namespace Watchtower

open Core Py

/-! ## One alert step -/

/-- Where an alert step stands, with the number of the attempt to be made next. -/
inductive AlertPlace
  | storing (attempt : ℕ)
  | claiming (attempt : ℕ)
  | publishing (attempt : ℕ)
  | sending
  | releasing (published : Bool) (attempt : ℕ)
  | finished (exit : AlertExit)
  deriving DecidableEq

namespace AlertPlace

/-- Where the step goes on once the record is stored: `claim_alert` refuses a cooldown below one
second before it makes any attempt. -/
def stored (cooldownSecs : ℤ) : AlertPlace :=
  if cooldownSecs < 1 then .finished .notPersisted else .claiming 1

/-- How the step ends once the claim is released. -/
def released (published : Bool) (outcome : Except PyExc Bool) : AlertPlace :=
  .finished (if published then .undelivered outcome else .notPublished outcome)

/-- Where the step goes on, given what its attempt met.  A reply of the server is reduced to its
truth value, the only part the code looks at. -/
def reply (cooldownSecs : ℤ) : AlertPlace → Except PyExc Bool → AlertPlace
  | .storing k, r =>
      (retryTurn k r).elim .storing (fun _ => stored cooldownSecs)
        (fun _ => .finished .notPersisted)
  | .claiming k, r =>
      (retryTurn k r).elim .claiming
        (fun claimed => if claimed then .publishing 1 else .finished .suppressed)
        (fun _ => .finished .notPersisted)
  | .publishing k, r =>
      (retryTurn k r).elim .publishing (fun _ => .sending) (fun _ => .releasing false 1)
  | .sending, r =>
      match r with
      | .ok true => .finished .delivered
      | _ => .releasing true 1
  | .releasing published k, r =>
      (retryTurn k r).elim (.releasing published) (fun deleted => released published (.ok deleted))
        (fun e => released published (.error e))
  | .finished exit, _ => .finished exit

/-- The claim has been obtained and not been given up. -/
def standing : AlertPlace → Bool
  | .publishing _ => true
  | .sending => true
  | .finished .delivered => true
  | _ => false

/-- The claim has been obtained and given up again. -/
def givenUp : AlertPlace → Bool
  | .releasing _ _ => true
  | .finished (.notPublished _) => true
  | .finished (.undelivered _) => true
  | _ => false

def isFinished : AlertPlace → Bool
  | .finished _ => true
  | _ => false

def isSending : AlertPlace → Bool
  | .sending => true
  | _ => false

end AlertPlace

/-! ## The control flow of `alertStep` -/

section Walk

variable [UnicodeData] [Sha256] {cfg : CorrelatorSettings}

/-- What the step meets at each place, for given replies to its `SET NX`. -/
def AlertEnv.met {cooldownSecs : ℤ} (env : AlertEnv cooldownSecs)
    (claims : ℕ → Except PyExc Bool) : AlertPlace → Except PyExc Bool
  | .storing k => (env.store k).map fun _ => true
  | .claiming k => claims k
  | .publishing k => (env.publish k).map fun _ => true
  | .sending => env.send
  | .releasing _ k => env.release k
  | .finished _ => .ok true

/-- One move of the step. -/
def AlertEnv.move {cooldownSecs : ℤ} (env : AlertEnv cooldownSecs)
    (claims : ℕ → Except PyExc Bool) (place : AlertPlace) : AlertPlace :=
  place.reply cooldownSecs (env.met claims place)

/-- `claim_alert` on the replies of its attempts. -/
def claimAlert (cooldownSecs : ℤ) (token : PyStr) (claims : ℕ → Except PyExc Bool) :
    Except PyExc (Option PyStr) :=
  if cooldownSecs < 1 then .error (.valueError "cooldown_secs must be positive")
  else (withRetry claims).map fun claimed => if claimed then some token else none

omit [UnicodeData] [Sha256] in
lemma withRetry_error {α : Type} (e : PyExc) : withRetry (α := α) (fun _ => .error e) = .error e := by
  cases hretry : isRetryable e <;>
    simp [withRetry, retryLoop, retryTurn, maxAttempts, hretry]

omit [UnicodeData] [Sha256] in
/-- Every call of `claim_alert` is one on some replies. -/
lemma ClaimCall.exists_claims {fingerprint : PyStr} {cooldownSecs : ℤ}
    (call : ClaimCall fingerprint cooldownSecs) :
    ∃ claims, call.result = claimAlert cooldownSecs call.token claims := by
  by_cases hcooldown : cooldownSecs < 1
  · -- the loop is never entered
    have hstart : call.start.turn = .raised (.valueError "cooldown_secs must be positive") := by
      simp only [start, ClaimState.start, if_pos hcooldown]
    have hend : (call.after call.events).turn = call.start.turn :=
      ClaimState.run_turn_of_ne_trying call.events (by simp [hstart])
    refine ⟨fun _ => .ok true, ?_⟩
    rw [claimAlert, if_pos hcooldown]
    simp only [result, hend, hstart]
  · simp only [claimAlert, if_neg hcooldown]
    cases hresult : call.result with
    | error e => exact ⟨fun _ => .error e, by rw [withRetry_error]; rfl⟩
    | ok a =>
        obtain ⟨before, hanswered⟩ := call.exists_answered_of_result hresult
        rw [call.result_of_answered hanswered] at hresult
        cases hresult
        exact ⟨fun _ => .ok (decide (call.holder before = none)), by
          split_ifs with hfree <;>
            simp [withRetry, retryLoop, retryTurn, maxAttempts, hfree, Except.map]⟩

/-- From one place the step gets to another. -/
def AlertEnv.Leads {cooldownSecs : ℤ} (env : AlertEnv cooldownSecs)
    (claims : ℕ → Except PyExc Bool) (p q : AlertPlace) : Prop :=
  ∃ n, (env.move claims)^[n] p = q

namespace AlertEnv

variable {cooldownSecs : ℤ} (env : AlertEnv cooldownSecs) (claims : ℕ → Except PyExc Bool)

omit [Sha256] in
variable {env claims} in
lemma Leads.trans {p q r : AlertPlace} (hpq : env.Leads claims p q) (hqr : env.Leads claims q r) :
    env.Leads claims p r := by
  obtain ⟨m, hm⟩ := hpq
  obtain ⟨n, hn⟩ := hqr
  exact ⟨n + m, by rw [Function.iterate_add_apply, hm, hn]⟩

omit [Sha256] in
lemma leads_storing : env.Leads claims (.storing 1)
    (match storeAlertRecord env.store with
      | .ok () => .stored cooldownSecs
      | .error _ => .finished .notPersisted) := by
  obtain ⟨n, hok, herror⟩ := exists_iterate_withRetry (env.move claims) AlertPlace.storing
    (fun _ => .stored cooldownSecs) (fun _ => .finished .notPersisted) env.store fun k => by
      simp only [move, met, AlertPlace.reply]
      cases env.store k with
      | ok a => rfl
      | error e =>
          simp only [Except.map, retryTurn]
          split_ifs <;> rfl
  have hcall : storeAlertRecord env.store = withRetry env.store := by
    rw [storeAlertRecord, setWithTtl, if_neg (by decide)]
  rw [hcall]
  cases hretry : withRetry env.store with
  | ok a => exact ⟨n, hok a hretry⟩
  | error e => exact ⟨n, herror e hretry⟩

omit [Sha256] in
lemma leads_claiming : env.Leads claims (.claiming 1)
    (match withRetry claims with
      | .ok claimed => if claimed then .publishing 1 else .finished .suppressed
      | .error _ => .finished .notPersisted) := by
  obtain ⟨n, hok, herror⟩ := exists_iterate_withRetry (env.move claims) AlertPlace.claiming
    (fun claimed => if claimed then .publishing 1 else .finished .suppressed)
    (fun _ => .finished .notPersisted) claims fun _ => rfl
  cases hretry : withRetry claims with
  | ok claimed => exact ⟨n, hok claimed hretry⟩
  | error e => exact ⟨n, herror e hretry⟩

omit [Sha256] in
lemma leads_publishing : env.Leads claims (.publishing 1)
    (match publishAlert env.publish with
      | .ok () => .sending
      | .error _ => .releasing false 1) := by
  obtain ⟨n, hok, herror⟩ := exists_iterate_withRetry (env.move claims) AlertPlace.publishing
    (fun _ => .sending) (fun _ => .releasing false 1) env.publish fun k => by
      simp only [move, met, AlertPlace.reply]
      cases env.publish k with
      | ok a => rfl
      | error e =>
          simp only [Except.map, retryTurn]
          split_ifs <;> rfl
  rw [publishAlert]
  cases hretry : withRetry env.publish with
  | ok a => exact ⟨n, hok a hretry⟩
  | error e => exact ⟨n, herror e hretry⟩

omit [Sha256] in
lemma leads_releasing (published : Bool) : env.Leads claims (.releasing published 1)
    (.released published (withRetry env.release)) := by
  obtain ⟨n, hok, herror⟩ := exists_iterate_withRetry (env.move claims)
    (AlertPlace.releasing published) (fun deleted => .released published (.ok deleted))
    (fun e => .released published (.error e)) env.release fun _ => rfl
  cases hretry : withRetry env.release with
  | ok deleted => exact ⟨n, hok deleted hretry⟩
  | error e => exact ⟨n, herror e hretry⟩

omit [Sha256] in
lemma leads_sending : env.Leads claims .sending
    (match env.send with
      | .ok true => .finished .delivered
      | _ => .releasing true 1) := ⟨1, rfl⟩

end AlertEnv

/-- **The places are those of `alertStep`**: for an alert that gets built and encoded, it ends as the
step that goes from place to place does. -/
theorem alertStep_walks {env : AlertEnv cfg.alertCooldownSecs} {api code : Held} {b : Buffer}
    {alert : CorrelatedAlert} (hqualifies : Qualifies cfg api code)
    (halert : buildAlert env api code = .ok alert)
    (hjson : alert.toJsonReturns env.room = true) :
    ∃ claims exit, (env.claim alert.fingerprint.val).result
        = claimAlert cfg.alertCooldownSecs (env.claim alert.fingerprint.val).token claims ∧
      alertStep cfg env api code b = .ok (exit, b.removePair api code) ∧
      env.Leads claims (.storing 1) (.finished exit) := by
  obtain ⟨claims, hclaim⟩ := (env.claim alert.fingerprint.val).exists_claims
  refine ⟨claims, ?_⟩
  have hrelease : releaseAlertClaim (env.claim alert.fingerprint.val).token env.release
      = withRetry env.release := if_neg (env.claim alert.fingerprint.val).token_ne_nil
  have hstoring := env.leads_storing claims
  have hclaiming := env.leads_claiming claims
  have hpublishing := env.leads_publishing claims
  have hsending := env.leads_sending claims
  simp only [alertStep, if_neg hqualifies.not_gt, halert, hjson, Bool.true_eq_false, if_false, hclaim,
    true_and]
  cases hstore : storeAlertRecord env.store with
  | error e => exact ⟨_, rfl, by simpa only [hstore] using hstoring⟩
  | ok u =>
      simp only [hstore, AlertPlace.stored] at hstoring
      simp only [claimAlert]
      by_cases hcooldown : cfg.alertCooldownSecs < 1
      · rw [if_pos hcooldown] at hstoring
        simp only [if_pos hcooldown]
        exact ⟨_, rfl, hstoring⟩
      · rw [if_neg hcooldown] at hstoring
        simp only [if_neg hcooldown]
        rcases hretry : withRetry claims with e | (_ | _)
        · rw [hretry] at hclaiming
          exact ⟨_, rfl, hstoring.trans hclaiming⟩
        · rw [hretry] at hclaiming
          exact ⟨_, rfl, hstoring.trans hclaiming⟩
        · rw [hretry] at hclaiming
          simp only [Except.map, if_true]
          have hclaimed := hstoring.trans hclaiming
          cases hpublish : publishAlert env.publish with
          | error e =>
              rw [hpublish] at hpublishing
              refine ⟨_, rfl, ?_⟩
              rw [hrelease]
              exact (hclaimed.trans hpublishing).trans (env.leads_releasing claims false)
          | ok u =>
              rw [hpublish] at hpublishing
              have hpublished := (hclaimed.trans hpublishing).trans hsending
              rcases hsend : env.send with e | (_ | _)
              · rw [hsend] at hpublished
                refine ⟨_, rfl, ?_⟩
                rw [hrelease]
                exact hpublished.trans (env.leads_releasing claims true)
              · rw [hsend] at hpublished
                refine ⟨_, rfl, ?_⟩
                rw [hrelease]
                exact hpublished.trans (env.leads_releasing claims true)
              · rw [hsend] at hpublished
                exact ⟨_, rfl, hpublished⟩

end Walk

/-! ## The cluster -/

/-- An alert step that some process has started. -/
structure AlertRun where
  fingerprint : PyStr
  record : PyStr
  place : AlertPlace
  /-- When the `SET NX` by which the claim succeeded took effect. -/
  claimedAt : Option ℚ
  deriving DecidableEq

namespace AlertRun

/-- The command to the key store that the step's next attempt sends.  A `PUBLISH` touches no key. -/
def command (cooldownSecs : ℤ) (token : PyStr) (r : AlertRun) : Option RedisCommand :=
  match r.place with
  | .storing _ => some (.setEx (recordKey r.fingerprint) r.record 86400)
  | .claiming _ => some (setNx (cooldownKey r.fingerprint) token cooldownSecs)
  | .releasing _ _ => some (.compareDel (cooldownKey r.fingerprint) token)
  | _ => none

/-- The step after an attempt. -/
def reply (cooldownSecs : ℤ) (now : ℚ) (r : AlertRun) (met : Except PyExc Bool) : AlertRun :=
  { r with
    place := r.place.reply cooldownSecs met
    claimedAt :=
      match r.place, met with
      | .claiming _, .ok true => some now
      | _, _ => r.claimedAt }

end AlertRun

/-- The server, the commands on their way to it, and the processes.  A step is known by the token it
draws for its claim. -/
structure Cluster where
  now : ℚ
  store : Redis
  inFlight : List RedisCommand
  runs : PyStr → Option AlertRun
  /-- The step each process is working on. -/
  current : ℕ → Option PyStr

inductive ClusterEvent
  /-- Time passes. -/
  | wait (secs : ℚ)
  /-- Some other client writes a key that is not a cooldown key. -/
  | other (c : RedisCommand)
  /-- A process starts an alert step. -/
  | start (process : ℕ) (token fingerprint record : PyStr)
  /-- A process makes the next attempt of its Redis call. -/
  | attempt (process : ℕ) (contact : Contact)
  /-- `send_alert` returns or raises. -/
  | send (process : ℕ) (outcome : Except PyExc Bool)
  /-- A command whose attempt has failed reaches the server after all. -/
  | arrive (index : ℕ)

/-- A key of the family that claims are stored under. -/
def isCooldownKey (key : PyStr) : Bool := (py "watchtower:alert_cooldown:").isPrefixOf key

lemma isCooldownKey_cooldownKey (fingerprint : PyStr) :
    isCooldownKey (cooldownKey fingerprint) = true :=
  List.isPrefixOf_iff_prefix.mpr (List.prefix_append _ _)

lemma isCooldownKey_recordKey (fingerprint : PyStr) :
    isCooldownKey (recordKey fingerprint) = false := by
  rw [Bool.eq_false_iff]
  intro h
  obtain ⟨f, hf⟩ := List.isPrefixOf_iff_prefix.mp h
  exact recordKey_ne_cooldownKey fingerprint f hf.symm

namespace Cluster

/-- The step a process is working on, with its token. -/
def active (s : Cluster) (process : ℕ) : Option (PyStr × AlertRun) :=
  (s.current process).bind fun token => (s.runs token).map fun r => (token, r)

/-- Record where a step has got to; a finished one leaves its process idle. -/
def settle (s : Cluster) (process : ℕ) (token : PyStr) (r : AlertRun) : Cluster :=
  { s with
    runs := Function.update s.runs token (some r)
    current := if r.place.isFinished then Function.update s.current process none else s.current }

/-- One event; an event that is not possible in the state is an error. -/
def step (cooldownSecs : ℤ) (s : Cluster) : ClusterEvent → Except Unit Cluster
  | .wait secs => if 0 ≤ secs then .ok { s with now := s.now + secs } else .error ()
  | .other c =>
      if isCooldownKey c.key then .error () else .ok { s with store := (c.exec s.now s.store).2 }
  | .start process token fingerprint record =>
      if token = [] ∨ (s.runs token).isSome ∨ (s.current process).isSome then .error ()
      else
        .ok { s with
              runs := Function.update s.runs token
                (some { fingerprint, record, place := .storing 1, claimedAt := none })
              current := Function.update s.current process (some token) }
  | .attempt process contact =>
      match s.active process with
      | none => .error ()
      | some (token, r) =>
          if r.place.isSending then .error ()
          else
            match contact with
            | .answered =>
                match r.command cooldownSecs token with
                | none => .ok (s.settle process token (r.reply cooldownSecs s.now (.ok true)))
                | some c =>
                    let (took, store) := c.exec s.now s.store
                    .ok ({ s with store }.settle process token
                      (r.reply cooldownSecs s.now (.ok took)))
            | .failed e =>
                .ok ({ s with inFlight := (r.command cooldownSecs token).toList ++ s.inFlight }.settle
                  process token (r.reply cooldownSecs s.now (.error e)))
  | .send process outcome =>
      match s.active process with
      | none => .error ()
      | some (token, r) =>
          if r.place.isSending then
            .ok (s.settle process token (r.reply cooldownSecs s.now outcome))
          else .error ()
  | .arrive index =>
      match s.inFlight[index]? with
      | none => .error ()
      | some c =>
          .ok { s with
                store := (c.exec s.now s.store).2
                inFlight := s.inFlight.eraseIdx index }

end Cluster

/-- The cluster, with whatever the server holds when it starts. -/
def cluster (cooldownSecs : ℤ) (now : ℚ) (store : Redis) : Machine Cluster ClusterEvent Unit where
  init := { now, store, inFlight := [], runs := fun _ => none, current := fun _ => none }
  step := Cluster.step cooldownSecs

/-! ## The invariant -/

/-- A command that cannot take a standing claim away: to a cooldown key it is a conditional write, or
the deletion of a claim that has been given up. -/
def Harmless (runs : PyStr → Option AlertRun) (c : RedisCommand) : Prop :=
  isCooldownKey c.key = true →
    match c with
    | .setEx _ _ _ => False
    | .setNxEx _ _ _ => True
    | .compareDel _ token => ∃ r, runs token = some r ∧ r.place.givenUp = true

/-- What was harmless stays so while no step takes a claim back that it has given up. -/
lemma Harmless.update {runs : PyStr → Option AlertRun} {c : RedisCommand} (h : Harmless runs c)
    {token : PyStr} {r : AlertRun}
    (hr : ∀ r', runs token = some r' → r'.place.givenUp = true → r.place.givenUp = true) :
    Harmless (Function.update runs token (some r)) c := by
  intro hkey
  cases c with
  | setEx key value ttl => exact h hkey
  | setNxEx key value ttl => trivial
  | compareDel key t =>
      obtain ⟨r', hr', hgiven⟩ := h hkey
      by_cases ht : t = token
      · subst ht
        exact ⟨r, Function.update_self _ _ _, hr r' hr' hgiven⟩
      · exact ⟨r', by rw [Function.update_of_ne ht, hr'], hgiven⟩

lemma AlertPlace.givenUp_of_standing {place : AlertPlace} (h : place.standing = true) :
    place.givenUp = false := by
  cases place with
  | finished exit => cases exit <;> first | rfl | cases h
  | _ => first | rfl | cases h

/-- A claim that has been given up stays given up. -/
lemma AlertPlace.givenUp_reply (cooldownSecs : ℤ) {place : AlertPlace} (h : place.givenUp = true)
    (met : Except PyExc Bool) : (place.reply cooldownSecs met).givenUp = true := by
  cases place with
  | releasing published k =>
      rw [reply]
      cases retryTurn k met with
      | trying k' => rfl
      | returned deleted => cases published <;> rfl
      | raised e => cases published <;> rfl
  | finished exit => exact h
  | _ => cases h

/-- A claim comes to stand only where a `SET NX` has taken its key. -/
lemma AlertPlace.standing_of_reply {cooldownSecs : ℤ} {place : AlertPlace} {met : Except PyExc Bool}
    (h : (place.reply cooldownSecs met).standing = true) :
    place.standing = true ∨ met = .ok true ∧ ∃ k, place = .claiming k := by
  cases place with
  | storing k =>
      exfalso
      rw [reply] at h
      cases hturn : retryTurn k met with
      | trying k' => simp [hturn, Turn.elim, standing] at h
      | returned a =>
          simp only [hturn, Turn.elim, stored] at h
          split_ifs at h <;> cases h
      | raised e => simp [hturn, Turn.elim, standing] at h
  | claiming k =>
      right
      rw [reply] at h
      rcases met with e | (_ | _)
      · simp only [retryTurn] at h
        split_ifs at h <;> cases h
      · cases h
      · exact ⟨rfl, k, rfl⟩
  | publishing k => exact Or.inl rfl
  | sending => exact Or.inl rfl
  | releasing published k =>
      have hgiven : ((AlertPlace.releasing published k).reply cooldownSecs met).givenUp = true :=
        givenUp_reply cooldownSecs rfl met
      have hnot := givenUp_of_standing h
      rw [hgiven] at hnot
      cases hnot
  | finished exit => exact Or.inl h

namespace Cluster

/-- What holds in every state of the cluster. -/
structure Inv (cooldownSecs : ℤ) (s : Cluster) : Prop where
  /-- A standing claim holds its key for the whole cooldown. -/
  held : ∀ token r, s.runs token = some r → r.place.standing = true →
    ∃ t, r.claimedAt = some t ∧ t ≤ s.now ∧ (s.now < t + cooldownSecs →
      s.store (cooldownKey r.fingerprint) = some ⟨token, t + cooldownSecs⟩)
  /-- Two standing claims to one key are a cooldown apart. -/
  apart : ∀ a b ra rb, a ≠ b → s.runs a = some ra → s.runs b = some rb →
    ra.place.standing = true → rb.place.standing = true → ra.fingerprint = rb.fingerprint →
    ∃ ta tb, ra.claimedAt = some ta ∧ rb.claimedAt = some tb ∧ (cooldownSecs : ℚ) ≤ |ta - tb|
  harmless : ∀ c ∈ s.inFlight, Harmless s.runs c

variable {cooldownSecs : ℤ} {s : Cluster}

lemma inv_init (now : ℚ) (store : Redis) : (cluster cooldownSecs now store).init.Inv cooldownSecs where
  held := by simp [cluster]
  apart := by simp [cluster]
  harmless := by simp [cluster]

lemma Inv.wait (h : s.Inv cooldownSecs) {secs : ℚ} (hsecs : 0 ≤ secs) :
    Inv cooldownSecs { s with now := s.now + secs } where
  held := by
    intro token r hr hstanding
    obtain ⟨t, ht, hle, hheld⟩ := h.held token r hr hstanding
    refine ⟨t, ht, ?_, fun hnow => hheld ?_⟩
    · exact hle.trans (le_add_of_nonneg_right hsecs)
    · exact lt_of_le_of_lt (le_add_of_nonneg_right hsecs) hnow
  apart := h.apart
  harmless := h.harmless

/-- A harmless command may be executed. -/
lemma Inv.exec (h : s.Inv cooldownSecs) {c : RedisCommand} (hc : Harmless s.runs c) :
    Inv cooldownSecs { s with store := (c.exec s.now s.store).2 } where
  held := by
    intro token r hr hstanding
    obtain ⟨t, ht, hle, hheld⟩ := h.held token r hr hstanding
    refine ⟨t, ht, hle, fun hnow => Command.exec_keeps (hheld hnow) hnow ?_ ?_⟩
    · rintro w ttl rfl
      exact hc (isCooldownKey_cooldownKey _)
    · -- whoever deletes this token has given its claim up
      rintro rfl
      obtain ⟨r', hr', hgiven⟩ := hc (isCooldownKey_cooldownKey _)
      rw [hr] at hr'
      cases hr'
      rw [AlertPlace.givenUp_of_standing hstanding] at hgiven
      cases hgiven
  apart := h.apart
  harmless := h.harmless

/-- A command may be put on its way. -/
lemma Inv.send (h : s.Inv cooldownSecs) {cs : List RedisCommand}
    (hcs : ∀ c ∈ cs, Harmless s.runs c) : Inv cooldownSecs { s with inFlight := cs ++ s.inFlight } where
  held := h.held
  apart := h.apart
  harmless := by
    intro c hc
    rcases List.mem_append.mp hc with hc | hc
    · exact hcs c hc
    · exact h.harmless c hc

lemma Inv.arrive (h : s.Inv cooldownSecs) {cs : List RedisCommand} (hcs : cs ⊆ s.inFlight) :
    Inv cooldownSecs { s with inFlight := cs } where
  held := h.held
  apart := h.apart
  harmless := fun c hc => h.harmless c (hcs hc)

/-- A step may move to a place where it does not stand, or stay where it stands. -/
lemma Inv.update (h : s.Inv cooldownSecs) {token : PyStr} {r : AlertRun}
    {current : ℕ → Option PyStr}
    (hgiven : ∀ r', s.runs token = some r' → r'.place.givenUp = true → r.place.givenUp = true)
    (hstanding : r.place.standing = true → ∃ r', s.runs token = some r' ∧
      r'.place.standing = true ∧ r'.claimedAt = r.claimedAt ∧ r'.fingerprint = r.fingerprint) :
    Inv cooldownSecs { s with runs := Function.update s.runs token (some r), current } := by
  -- a standing claim after the move was one before it
  have hbefore : ∀ t q, Function.update s.runs token (some r) t = some q →
      q.place.standing = true → ∃ q', s.runs t = some q' ∧ q'.place.standing = true ∧
        q'.claimedAt = q.claimedAt ∧ q'.fingerprint = q.fingerprint := by
    intro t q hq hq'
    by_cases ht : t = token
    · subst ht
      rw [Function.update_self, Option.some.injEq] at hq
      subst hq
      exact hstanding hq'
    · rw [Function.update_of_ne ht] at hq
      exact ⟨q, hq, hq', rfl, rfl⟩
  constructor
  · intro t q hq hq'
    obtain ⟨q', hruns, hplace, hclaimed, hfp⟩ := hbefore t q hq hq'
    rw [← hclaimed, ← hfp]
    exact h.held t q' hruns hplace
  · intro a b ra rb hab ha hb hsa hsb hfp
    obtain ⟨ra', hra, hpa, hca, hfa⟩ := hbefore a ra ha hsa
    obtain ⟨rb', hrb, hpb, hcb, hfb⟩ := hbefore b rb hb hsb
    rw [← hca, ← hcb]
    exact h.apart a b ra' rb' hab hra hrb hpa hpb (hfa.trans (hfp.trans hfb.symm))
  · exact fun c hc => (h.harmless c hc).update hgiven

/-- A step may claim a free key. -/
lemma Inv.claim (h : s.Inv cooldownSecs) {token : PyStr} {r : AlertRun}
    {current : ℕ → Option PyStr}
    (hgiven : ∀ r', s.runs token = some r' → r'.place.givenUp = true → r.place.givenUp = true)
    (hclaimed : r.claimedAt = some s.now)
    (hfree : s.store.live s.now (cooldownKey r.fingerprint) = none) :
    Inv cooldownSecs
      { s with
        store := Function.update s.store (cooldownKey r.fingerprint)
          (some ⟨token, s.now + cooldownSecs⟩)
        runs := Function.update s.runs token (some r)
        current } := by
  -- a claim that stands already has outlived its cooldown
  have hover : ∀ t q, s.runs t = some q → q.place.standing = true →
      q.fingerprint = r.fingerprint → ∃ u, q.claimedAt = some u ∧ u + cooldownSecs ≤ s.now := by
    intro t q hq hstanding hfp
    obtain ⟨u, hu, -, hheld⟩ := h.held t q hq hstanding
    refine ⟨u, hu, not_lt.mp fun hnow => ?_⟩
    rw [← hfp, Store.live_of_lease (hheld hnow) hnow] at hfree
    cases hfree
  constructor
  · intro t q hq hstanding
    by_cases ht : t = token
    · subst ht
      have hq' : r = q := by simpa only [Function.update_self, Option.some.injEq] using hq
      subst hq'
      exact ⟨s.now, hclaimed, le_rfl, fun _ => Function.update_self _ _ _⟩
    · have hq' : s.runs t = some q := by simpa only [Function.update_of_ne ht] using hq
      obtain ⟨u, hu, hle, hheld⟩ := h.held t q hq' hstanding
      refine ⟨u, hu, hle, fun hnow => ?_⟩
      have hkey : cooldownKey q.fingerprint ≠ cooldownKey r.fingerprint := by
        intro hkey
        obtain ⟨u', hu', hexpired⟩ := hover t q hq' hstanding (cooldownKey_injective hkey)
        rw [hu] at hu'
        cases hu'
        exact absurd hnow hexpired.not_gt
      simp only [Function.update_of_ne hkey]
      exact hheld hnow
  · intro a b ra rb hab ha hb hsa hsb hfp
    by_cases hat : a = token
    · subst hat
      have hra : r = ra := by simpa only [Function.update_self, Option.some.injEq] using ha
      subst hra
      have hrb : s.runs b = some rb := by simpa only [Function.update_of_ne hab.symm] using hb
      obtain ⟨tb, htb, hexpired⟩ := hover b rb hrb hsb hfp.symm
      exact ⟨s.now, tb, hclaimed, htb, le_abs.mpr (Or.inl (by linarith))⟩
    · have hra : s.runs a = some ra := by simpa only [Function.update_of_ne hat] using ha
      by_cases hbt : b = token
      · subst hbt
        have hrb : r = rb := by simpa only [Function.update_self, Option.some.injEq] using hb
        subst hrb
        obtain ⟨ta, hta, hexpired⟩ := hover a ra hra hsa hfp
        exact ⟨ta, s.now, hta, hclaimed, le_abs.mpr (Or.inr (by linarith))⟩
      · have hrb : s.runs b = some rb := by simpa only [Function.update_of_ne hbt] using hb
        exact h.apart a b ra rb hab hra hrb hsa hsb hfp
  · exact fun c hc => (h.harmless c hc).update hgiven

/-- What an attempt sends is harmless. -/
lemma harmless_command {token : PyStr} {r : AlertRun} (hr : s.runs token = some r)
    {c : RedisCommand} (hc : r.command cooldownSecs token = some c) : Harmless s.runs c := by
  intro hkey
  cases hplace : r.place with
  | storing k =>
      simp only [AlertRun.command, hplace, Option.some.injEq] at hc
      subst hc
      rw [Command.key, isCooldownKey_recordKey] at hkey
      cases hkey
  | claiming k =>
      simp only [AlertRun.command, hplace, Option.some.injEq] at hc
      subst hc
      trivial
  | releasing published k =>
      simp only [AlertRun.command, hplace, Option.some.injEq] at hc
      subst hc
      exact ⟨r, hr, by rw [hplace]; rfl⟩
  | _ => simp [AlertRun.command, hplace] at hc

lemma runs_of_active {process : ℕ} {token : PyStr} {r : AlertRun}
    (h : s.active process = some (token, r)) : s.runs token = some r := by
  simp only [active, Option.bind_eq_some_iff, Option.map_eq_some_iff, Prod.mk.injEq] at h
  obtain ⟨t, -, r', hr', rfl, rfl⟩ := h
  exact hr'

/-- A step may go on, whatever its attempt met, except that a claim needs a free key. -/
lemma Inv.settle (h : s.Inv cooldownSecs) {process : ℕ} {token : PyStr} {r : AlertRun}
    (hr : s.runs token = some r) {met : Except PyExc Bool}
    (hmet : met = .ok true → ∀ k, r.place ≠ .claiming k) :
    (s.settle process token (r.reply cooldownSecs s.now met)).Inv cooldownSecs := by
  refine h.update ?_ fun hstanding => ?_
  · intro r' hr' hgiven
    rw [hr] at hr'
    cases hr'
    exact AlertPlace.givenUp_reply cooldownSecs hgiven met
  · rcases AlertPlace.standing_of_reply hstanding with hbefore | ⟨htrue, k, hplace⟩
    · refine ⟨r, hr, hbefore, ?_, rfl⟩
      cases hplace : r.place <;> simp [AlertRun.reply, hplace, AlertPlace.standing] at hbefore ⊢
    · exact absurd hplace (hmet htrue k)

/-- An answered `SET NX` that finds the key free. -/
lemma Inv.settle_claim (h : s.Inv cooldownSecs) {process : ℕ} {token : PyStr} {r : AlertRun}
    (hr : s.runs token = some r) {k : ℕ} (hplace : r.place = .claiming k)
    (hfree : s.store.live s.now (cooldownKey r.fingerprint) = none) :
    (Cluster.settle
      { s with
        store := Function.update s.store (cooldownKey r.fingerprint)
          (some ⟨token, s.now + cooldownSecs⟩) }
      process token (r.reply cooldownSecs s.now (.ok true))).Inv cooldownSecs := by
  refine h.claim (r := r.reply cooldownSecs s.now (.ok true)) ?_ ?_ hfree
  · intro r' hr' hgiven
    rw [hr] at hr'
    cases hr'
    rw [hplace] at hgiven
    cases hgiven
  · simp only [AlertRun.reply, hplace]

/-- **One event keeps the invariant.** -/
theorem inv_step (e : ClusterEvent) (t : Cluster) (h : s.Inv cooldownSecs)
    (hstep : s.step cooldownSecs e = .ok t) : t.Inv cooldownSecs := by
  cases e with
  | wait secs =>
      simp only [step] at hstep
      split_ifs at hstep with hsecs
      cases hstep
      exact h.wait hsecs
  | other c =>
      simp only [step] at hstep
      split_ifs at hstep with hkey
      cases hstep
      exact h.exec fun hkey' => absurd hkey' hkey
  | start process token fingerprint record =>
      simp only [step] at hstep
      split_ifs at hstep with hbusy
      cases hstep
      simp only [not_or, Bool.not_eq_true, Option.isSome_eq_false_iff, Option.isNone_iff_eq_none]
        at hbusy
      refine h.update (fun r' hr' => ?_) fun hstanding => by cases hstanding
      rw [hbusy.2.1] at hr'
      cases hr'
  | attempt process contact =>
      simp only [step] at hstep
      cases hactive : s.active process with
      | none => simp [hactive] at hstep
      | some p =>
          obtain ⟨token, r⟩ := p
          have hr := runs_of_active hactive
          simp only [hactive] at hstep
          split_ifs at hstep with hsending
          cases contact with
          | failed e =>
              cases hstep
              refine Inv.settle (h.send fun c hc => ?_) hr (by simp)
              exact harmless_command hr (Option.mem_toList.mp hc)
          | answered =>
              cases hcommand : r.command cooldownSecs token with
              | none =>
                  simp only [hcommand] at hstep
                  cases hstep
                  refine h.settle hr fun _ k hplace => ?_
                  simp [AlertRun.command, hplace] at hcommand
              | some c =>
                  simp only [hcommand] at hstep
                  cases hstep
                  by_cases hclaiming : ∃ k, r.place = .claiming k
                  · obtain ⟨k, hplace⟩ := hclaiming
                    have hc : c = setNx (cooldownKey r.fingerprint) token cooldownSecs := by
                      simpa only [AlertRun.command, hplace, Option.some.injEq, eq_comm]
                        using hcommand
                    subst hc
                    cases hlive : s.store.live s.now (cooldownKey r.fingerprint) with
                    | none =>
                        rw [setNx, Command.exec_setNxEx_free token _ hlive]
                        exact h.settle_claim hr hplace hlive
                    | some w =>
                        rw [setNx, Command.exec_setNxEx_held token _ hlive]
                        exact h.settle hr (by simp)
                  · exact (h.exec (harmless_command hr hcommand)).settle hr
                      fun _ k hplace => hclaiming ⟨k, hplace⟩
  | send process outcome =>
      simp only [step] at hstep
      cases hactive : s.active process with
      | none => simp [hactive] at hstep
      | some p =>
          obtain ⟨token, r⟩ := p
          simp only [hactive] at hstep
          split_ifs at hstep with hsending
          cases hstep
          refine h.settle (runs_of_active hactive) fun _ k hplace => ?_
          rw [hplace] at hsending
          cases hsending
  | arrive index =>
      simp only [step] at hstep
      cases hc : s.inFlight[index]? with
      | none => simp [hc] at hstep
      | some c =>
          simp only [hc] at hstep
          cases hstep
          have hmem : c ∈ s.inFlight := List.mem_of_getElem? hc
          exact (h.exec (h.harmless c hmem)).arrive (List.eraseIdx_subset)

end Cluster

/-- **Two delivered alerts with one fingerprint were claimed a cooldown apart**, in whatever order
the events of any number of processes come. -/
theorem deliveries_apart {cooldownSecs : ℤ} {now : ℚ} {store : Redis} {events : List ClusterEvent}
    {s : Cluster} (hrun : (cluster cooldownSecs now store).run events = .ok s)
    {a b : PyStr} {ra rb : AlertRun} (hab : a ≠ b) (ha : s.runs a = some ra)
    (hb : s.runs b = some rb) (hda : ra.place = .finished .delivered)
    (hdb : rb.place = .finished .delivered) (hfp : ra.fingerprint = rb.fingerprint) :
    ∃ ta tb, ra.claimedAt = some ta ∧ rb.claimedAt = some tb ∧
      (cooldownSecs : ℚ) ≤ |ta - tb| := by
  have hinv : s.Inv cooldownSecs :=
    Machine.invariant (Cluster.inv_init now store) (fun _ e t h => Cluster.inv_step e t h) hrun
  exact hinv.apart a b ra rb hab ha hb (by rw [hda]; rfl) (by rw [hdb]; rfl) hfp

/-- Two processes deliver the same alert.  The second one loses a `SET NX` that finds the key taken,
and makes its next attempt at the moment the first claim expires. -/
def secondDelivery : List ClusterEvent :=
  [.start 0 (py "a") (py "f") (py "r"), .start 1 (py "b") (py "f") (py "r"),
    .attempt 0 .answered, .attempt 1 .answered, .attempt 0 .answered, .attempt 0 .answered,
    .send 0 (.ok true), .attempt 1 (.failed .redisTimeoutError), .arrive 0, .wait 300,
    .attempt 1 .answered, .attempt 1 .answered, .send 1 (.ok true)]

/-- The two claims of this run are a cooldown apart. -/
theorem secondDelivery_apart :
    ∃ s ra rb, (cluster 300 0 fun _ => none).run secondDelivery = .ok s ∧
      s.runs (py "a") = some ra ∧ s.runs (py "b") = some rb ∧
      ∃ ta tb, ra.claimedAt = some ta ∧ rb.claimedAt = some tb ∧ ((300 : ℤ) : ℚ) ≤ |ta - tb| := by
  have hrun : ∃ s, (cluster 300 0 fun _ => none).run secondDelivery = .ok s ∧
      s.runs (py "a") = some ⟨py "f", py "r", .finished .delivered, some 0⟩ ∧
      s.runs (py "b") = some ⟨py "f", py "r", .finished .delivered, some 300⟩ := by
    decide +kernel
  obtain ⟨s, hs, ha, hb⟩ := hrun
  exact ⟨s, _, _, hs, ha, hb, deliveries_apart hs (by decide) ha hb rfl rfl rfl⟩

end Watchtower
