import Watchtower.Core.ExpiringStore
import Watchtower.Redis.Retry
import Mathlib.Algebra.Order.BigOperators.Group.List

/-!
# Claiming an alert

`claim_alert` writes a fresh token under the alert's cooldown key with `SET NX EX`, inside the
retry loop.  The write is conditional and not idempotent: an attempt whose reply is lost may have
taken the key, and the next attempt then finds it taken.

* `ClaimState.step` — everything that can happen while a call is in progress: time passes, other
  clients write, a lost command reaches the server after all, or the next attempt is made.
* `ClaimCall` — a finished call, with the assumptions on its surroundings: the token is fresh and
  nobody else writes it.
* `ClaimCall.Orphaned` — a lost command of the call took the free key and still holds it.
* **`claimAlert_none_iff`** — a call that returns `None` leaves the key without its own token
  exactly when it is not orphaned.
-/

namespace Watchtower

open Core Py

/-! ## Keys and commands -/

/-- The key a claim or a suppression writes. -/
def cooldownKey (fingerprint : PyStr) : PyStr := py "watchtower:alert_cooldown:" ++ fingerprint

/-- The key of an alert's evidence record. -/
def recordKey (fingerprint : PyStr) : PyStr := py "watchtower:alerts:record:" ++ fingerprint

/-- The two families of keys are disjoint. -/
lemma recordKey_ne_cooldownKey (f g : PyStr) : recordKey f ≠ cooldownKey g := by
  intro h
  have htake := congrArg (List.take 17) h
  rw [recordKey, cooldownKey, List.take_append_of_le_length (by decide),
    List.take_append_of_le_length (by decide)] at htake
  exact absurd htake (by decide)

lemma cooldownKey_injective : Function.Injective cooldownKey :=
  fun _ _ h => List.append_cancel_left h

/-- The Redis server: its keys with their expiry, by the server's clock. -/
abbrev Redis := Store PyStr PyStr ℚ

/-- A command to the server. -/
abbrev RedisCommand := Command PyStr PyStr ℚ

/-! ## A call in progress -/

inductive ClaimEvent
  /-- Time passes. -/
  | wait (secs : ℚ)
  /-- Another client's command is executed. -/
  | other (c : RedisCommand)
  /-- A command of this call, given up by the client, is executed by the server. -/
  | arrive
  /-- The client makes its next attempt. -/
  | attempt (contact : Contact)
  deriving DecidableEq

structure ClaimState where
  now : ℚ
  store : Redis
  /-- The number of commands of this call that may still reach the server. -/
  inFlight : ℕ
  turn : Turn (Option PyStr)

section Step

variable (key token : PyStr) (cooldownSecs : ℤ)

/-- `SET key token NX EX cooldown_secs`. -/
def setNx : RedisCommand := .setNxEx key token cooldownSecs

/-- One event of a call.  A connection or timeout error leaves the command in flight; any other
error means that it was not carried out. -/
def ClaimState.step (s : ClaimState) : ClaimEvent → ClaimState
  | .wait secs => { s with now := s.now + secs }
  | .other c => { s with store := (c.exec s.now s.store).2 }
  | .arrive =>
      match s.inFlight with
      | 0 => s
      | n + 1 =>
          { s with store := ((setNx key token cooldownSecs).exec s.now s.store).2, inFlight := n }
  | .attempt contact =>
      match s.turn with
      | .trying k =>
          match contact with
          | .answered =>
              let (claimed, store) := (setNx key token cooldownSecs).exec s.now s.store
              { s with store, turn := retryTurn k (.ok (if claimed then some token else none)) }
          | .failed e =>
              { s with
                inFlight := if isRetryable e then s.inFlight + 1 else s.inFlight
                turn := retryTurn k (.error e) }
      | _ => s

/-- A lost command is in flight that would take the key: it is free, and the call has not
claimed it. -/
structure ClaimState.CanOrphan (key : PyStr) (s : ClaimState) : Prop where
  inFlight : 0 < s.inFlight
  free : s.store.live s.now key = none
  unclaimed : ∀ t, s.turn ≠ .returned (some t)

/-- A sequence of events. -/
def ClaimState.run (s : ClaimState) (events : List ClaimEvent) : ClaimState :=
  events.foldl (ClaimState.step key token cooldownSecs) s

/-- The state in which `claim_alert` starts its loop. -/
def ClaimState.start (now : ℚ) (store : Redis) : ClaimState :=
  { now, store, inFlight := 0
    turn := if cooldownSecs < 1 then .raised (.valueError "cooldown_secs must be positive")
            else .trying 1 }

end Step

/-- The surroundings of a call behave: time does not go back, and nobody else writes its token. -/
def ClaimEvent.Valid (token : PyStr) : ClaimEvent → Prop
  | .wait secs => 0 ≤ secs
  | .other c => c.value ≠ token
  | .arrive => True
  | .attempt _ => True

instance (token : PyStr) (e : ClaimEvent) : Decidable (e.Valid token) :=
  match e with
  | .wait secs => inferInstanceAs (Decidable (0 ≤ secs))
  | .other c => inferInstanceAs (Decidable (c.value ≠ token))
  | .arrive => .isTrue trivial
  | .attempt _ => .isTrue trivial

/-- How much time an event takes. -/
def ClaimEvent.secs : ClaimEvent → ℚ
  | .wait secs => secs
  | _ => 0

/-- How much time a sequence of events takes. -/
def elapsed (events : List ClaimEvent) : ℚ := (events.map ClaimEvent.secs).sum

lemma elapsed_nonneg {token : PyStr} {events : List ClaimEvent}
    (h : ∀ e ∈ events, e.Valid token) : 0 ≤ elapsed events := by
  refine List.sum_nonneg fun secs hsecs => ?_
  obtain ⟨e, he, rfl⟩ := List.mem_map.mp hsecs
  have hvalid := h e he
  cases e with
  | wait secs => exact hvalid
  | other c => exact le_rfl
  | arrive => exact le_rfl
  | attempt contact => exact le_rfl

/-! ## What the events do -/

namespace ClaimState

variable {key token : PyStr} {cooldownSecs : ℤ}

/-- Once the loop is left, it stays left. -/
lemma step_turn_of_ne_trying (key token : PyStr) (cooldownSecs : ℤ) {s : ClaimState}
    (h : ∀ k, s.turn ≠ .trying k) (e : ClaimEvent) :
    (s.step key token cooldownSecs e).turn = s.turn := by
  cases e with
  | wait secs => rfl
  | other c => rfl
  | arrive => cases hn : s.inFlight <;> simp only [step, hn]
  | attempt contact =>
      cases hturn : s.turn with
      | trying k => exact absurd hturn (h k)
      | returned a => simp only [step, hturn]
      | raised e => simp only [step, hturn]

lemma run_turn_of_ne_trying (events : List ClaimEvent) {s : ClaimState}
    (h : ∀ k, s.turn ≠ .trying k) : (s.run key token cooldownSecs events).turn = s.turn := by
  induction events generalizing s with
  | nil => rfl
  | cons e events ih =>
      have hstep := step_turn_of_ne_trying key token cooldownSecs h e
      rw [← hstep]
      exact ih (by rw [hstep]; exact h)

lemma step_now (s : ClaimState) (e : ClaimEvent) :
    (s.step key token cooldownSecs e).now = s.now + e.secs := by
  cases e with
  | wait secs => rfl
  | other c => simp [step, ClaimEvent.secs]
  | arrive => cases hn : s.inFlight <;> simp [step, hn, ClaimEvent.secs]
  | attempt contact =>
      cases hturn : s.turn <;> cases contact <;> simp [step, hturn, ClaimEvent.secs]

/-- The clock of a run. -/
lemma run_now (events : List ClaimEvent) (s : ClaimState) :
    (s.run key token cooldownSecs events).now = s.now + elapsed events := by
  induction events generalizing s with
  | nil => simp [run, elapsed]
  | cons e events ih =>
      show ((s.step key token cooldownSecs e).run key token cooldownSecs events).now = _
      rw [ih, step_now]
      simp only [elapsed, List.map_cons, List.sum_cons, add_assoc]

/-- While the key holds the call's own token, an attempt finds it taken. -/
lemma step_keeps (cooldownSecs : ℤ) {s : ClaimState} {e : ClaimEvent} {exp : ℚ}
    (hheld : s.store key = some ⟨token, exp⟩) (hnow : s.now < exp) (hvalid : e.Valid token)
    (hset : ∀ w ttl, e ≠ .other (.setEx key w ttl)) :
    (s.step key token cooldownSecs e).store key = some ⟨token, exp⟩ ∧
      ((∀ t, s.turn ≠ .returned (some t)) →
        ∀ t, (s.step key token cooldownSecs e).turn ≠ .returned (some t)) := by
  have hlive := Store.live_of_lease hheld hnow
  cases e with
  | wait secs => exact ⟨hheld, fun h => h⟩
  | other c =>
      refine ⟨Command.exec_keeps hheld hnow (fun w ttl hc => hset w ttl (by rw [hc])) ?_, ?_⟩
      · intro hc
        subst hc
        exact hvalid rfl
      · exact fun h => h
  | arrive =>
      cases hn : s.inFlight with
      | zero => simpa only [step, hn] using ⟨hheld, fun h => h⟩
      | succ n =>
          simp only [step, hn, setNx, Command.exec_setNxEx_held token _ hlive]
          exact ⟨hheld, fun h => h⟩
  | attempt contact =>
      cases hturn : s.turn with
      | trying k =>
          cases contact with
          | answered =>
              simp only [step, hturn, setNx, Command.exec_setNxEx_held token _ hlive, retryTurn]
              exact ⟨hheld, fun _ t => by simp⟩
          | failed e =>
              simp only [step, hturn, retryTurn]
              refine ⟨hheld, fun _ t => ?_⟩
              split_ifs <;> simp
      | returned a => simpa only [step, hturn] using ⟨hheld, fun h => h⟩
      | raised e => simpa only [step, hturn] using ⟨hheld, fun h => h⟩

/-- The same over a run that stays within the lifetime. -/
lemma run_keeps (cooldownSecs : ℤ) (events : List ClaimEvent) {s : ClaimState} {exp : ℚ}
    (hheld : s.store key = some ⟨token, exp⟩) (hnow : s.now + elapsed events < exp)
    (hvalid : ∀ e ∈ events, e.Valid token)
    (hset : ∀ w ttl, .other (.setEx key w ttl) ∉ events)
    (hturn : ∀ t, s.turn ≠ .returned (some t)) :
    (s.run key token cooldownSecs events).store key = some ⟨token, exp⟩ ∧
      ∀ t, (s.run key token cooldownSecs events).turn ≠ .returned (some t) := by
  induction events generalizing s with
  | nil => exact ⟨hheld, hturn⟩
  | cons e events ih =>
      have helapsed : elapsed (e :: events) = e.secs + elapsed events := by
        simp only [elapsed, List.map_cons, List.sum_cons]
      have hlater := elapsed_nonneg hvalid
      have hexp : s.now < exp := by linarith
      obtain ⟨hstore, hclaim⟩ := step_keeps cooldownSecs hheld hexp
        (hvalid e List.mem_cons_self) fun w ttl he => hset w ttl (by simp [he])
      refine ih hstore ?_ (fun e' he' => hvalid e' (List.mem_cons_of_mem _ he')) ?_
        (hclaim hturn)
      · rw [step_now]
        rw [helapsed] at hnow
        linarith
      · exact fun w ttl hmem => hset w ttl (List.mem_cons_of_mem _ hmem)

/-- A lost command took the key during a run, with no unconditional write since. -/
def TakenByLost (key token : PyStr) (cooldownSecs : ℤ) (s : ClaimState) (events : List ClaimEvent)
    (exp : ℚ) : Prop :=
  ∃ before after, events = before ++ .arrive :: after ∧
    (s.run key token cooldownSecs before).CanOrphan key ∧
    (∀ w ttl, .other (.setEx key w ttl) ∉ after) ∧
    exp = (s.run key token cooldownSecs before).now + cooldownSecs

lemma TakenByLost.snoc {s : ClaimState} {events : List ClaimEvent} {exp : ℚ} {e : ClaimEvent}
    (h : s.TakenByLost key token cooldownSecs events exp)
    (he : ∀ w ttl, e ≠ .other (.setEx key w ttl)) :
    s.TakenByLost key token cooldownSecs (events ++ [e]) exp := by
  obtain ⟨before, after, hsplit, htake, hset, hexp⟩ := h
  refine ⟨before, after ++ [e], by simp [hsplit], htake, ?_, hexp⟩
  intro w ttl hmem
  rcases List.mem_append.mp hmem with hmem | hmem
  · exact hset w ttl hmem
  · exact he w ttl (List.mem_singleton.mp hmem).symm

/-- Where the call's own token under the key comes from: the call has claimed it, or a lost command
has taken the key. -/
lemma run_origin (events : List ClaimEvent) {s : ClaimState} {exp : ℚ}
    (hfresh : ∀ e, s.store key ≠ some ⟨token, e⟩) (hvalid : ∀ e ∈ events, e.Valid token)
    (hheld : (s.run key token cooldownSecs events).store key = some ⟨token, exp⟩) :
    (∃ t, (s.run key token cooldownSecs events).turn = .returned (some t)) ∨
      s.TakenByLost key token cooldownSecs events exp := by
  induction events using List.reverseRecOn generalizing exp with
  | nil => exact absurd hheld (hfresh exp)
  | append_singleton events e ih =>
      have hsnoc : s.run key token cooldownSecs (events ++ [e])
          = (s.run key token cooldownSecs events).step key token cooldownSecs e := by
        simp only [run, List.foldl_append, List.foldl_cons, List.foldl_nil]
      have hvalid' : ∀ e ∈ events, e.Valid token := fun e he => hvalid e (by simp [he])
      have he : e.Valid token := hvalid e (by simp)
      rw [hsnoc] at hheld ⊢
      obtain ⟨u, hu⟩ : ∃ u, s.run key token cooldownSecs events = u := ⟨_, rfl⟩
      rw [hu] at hheld ih ⊢
      -- an event that leaves the key alone carries the origin on
      have hcarry : u.store key = some ⟨token, exp⟩ →
          ((∃ t, u.turn = .returned (some t)) →
            ∃ t, (u.step key token cooldownSecs e).turn = .returned (some t)) →
          (∀ w ttl, e ≠ .other (.setEx key w ttl)) →
          (∃ t, (u.step key token cooldownSecs e).turn = .returned (some t)) ∨
            s.TakenByLost key token cooldownSecs (events ++ [e]) exp := by
        intro hsame hturn hset
        rcases ih hvalid' hsame with hclaimed | htaken
        · exact Or.inl (hturn hclaimed)
        · exact Or.inr (htaken.snoc hset)
      cases e with
      | wait secs => exact hcarry hheld (fun h => h) (by simp)
      | other c =>
          rcases Command.exec_origin hheld with hsame | ⟨hkey, hvalue⟩
          · refine hcarry hsame (fun h => h) ?_
            intro w ttl hc
            cases hc
            simp [step, Command.exec] at hheld
            exact he hheld.1
          · exact absurd hvalue he
      | arrive =>
          cases hn : u.inFlight with
          | zero =>
              simp only [step, hn] at hheld
              exact hcarry hheld (fun h => by simpa only [step, hn] using h) (by simp)
          | succ n =>
              cases hlive : u.store.live u.now key with
              | none =>
                  simp only [step, hn, setNx, Command.exec_setNxEx_free token _ hlive,
                    Function.update_self, Option.some.injEq, Lease.mk.injEq, true_and] at hheld
                  by_cases hclaimed : ∃ t, u.turn = .returned (some t)
                  · exact Or.inl (by simpa only [step, hn] using hclaimed)
                  · rw [not_exists] at hclaimed
                    refine Or.inr ⟨events, [], rfl, ?_, by simp, ?_⟩
                    · rw [hu]
                      exact ⟨by omega, hlive, hclaimed⟩
                    · rw [hu]
                      exact hheld.symm
              | some w =>
                  simp only [step, hn, setNx, Command.exec_setNxEx_held token _ hlive] at hheld
                  exact hcarry hheld (fun h => by simpa only [step, hn] using h) (by simp)
      | attempt contact =>
          cases hturn : u.turn with
          | trying k =>
              cases contact with
              | answered =>
                  cases hlive : u.store.live u.now key with
                  | none =>
                      refine Or.inl ⟨token, ?_⟩
                      simp only [step, hturn, setNx, Command.exec_setNxEx_free token _ hlive,
                        retryTurn, if_true]
                  | some w =>
                      simp only [step, hturn, setNx, Command.exec_setNxEx_held token _ hlive]
                        at hheld
                      refine hcarry hheld ?_ (by simp)
                      rintro ⟨t, ht⟩
                      rw [hturn] at ht
                      cases ht
              | failed e =>
                  simp only [step, hturn] at hheld
                  refine hcarry hheld ?_ (by simp)
                  rintro ⟨t, ht⟩
                  rw [hturn] at ht
                  cases ht
          | returned a =>
              simp only [step, hturn] at hheld
              exact hcarry hheld (fun h => by simpa only [step, hturn] using h) (by simp)
          | raised e =>
              simp only [step, hturn] at hheld
              exact hcarry hheld (fun h => by simpa only [step, hturn] using h) (by simp)

/-- A lost command took the key during a run and holds it at the end: no unconditional write
follows, and the lifetime does not run out. -/
def HeldByLost (key token : PyStr) (cooldownSecs : ℤ) (s : ClaimState)
    (events : List ClaimEvent) : Prop :=
  ∃ before after, events = before ++ .arrive :: after ∧
    (s.run key token cooldownSecs before).CanOrphan key ∧
    (∀ w ttl, .other (.setEx key w ttl) ∉ after) ∧ elapsed after < cooldownSecs

lemma run_split (before after : List ClaimEvent) (e : ClaimEvent) (s : ClaimState) :
    s.run key token cooldownSecs (before ++ e :: after)
      = ((s.run key token cooldownSecs before).step key token cooldownSecs e).run
          key token cooldownSecs after := by
  simp only [run, List.foldl_append, List.foldl_cons]

/-- The key a lost command has taken is held to the end, and the call never claims it. -/
lemma HeldByLost.held {events : List ClaimEvent} {s : ClaimState}
    (h : s.HeldByLost key token cooldownSecs events) (hvalid : ∀ e ∈ events, e.Valid token) :
    (s.run key token cooldownSecs events).store.live
        (s.run key token cooldownSecs events).now key = some token ∧
      ∀ t, (s.run key token cooldownSecs events).turn ≠ .returned (some t) := by
  obtain ⟨before, after, rfl, ⟨hflight, hfree, hunclaimed⟩, hset, helapsed⟩ := h
  obtain ⟨n, hn⟩ := Nat.exists_eq_succ_of_ne_zero hflight.ne'
  rw [run_split]
  obtain ⟨u, hu⟩ : ∃ u, s.run key token cooldownSecs before = u := ⟨_, rfl⟩
  rw [hu] at hn hfree hunclaimed ⊢
  have harrive : u.step key token cooldownSecs .arrive
      = { u with
          store := Function.update u.store key (some ⟨token, u.now + cooldownSecs⟩)
          inFlight := n } := by
    simp only [step, hn, setNx, Command.exec_setNxEx_free token _ hfree]
  rw [harrive]
  have hnow : u.now + elapsed after < u.now + cooldownSecs := by linarith
  obtain ⟨hstore, hturn⟩ := run_keeps cooldownSecs after
    (s := { u with
            store := Function.update u.store key (some ⟨token, u.now + cooldownSecs⟩)
            inFlight := n })
    (Function.update_self _ _ _) hnow (fun e he => hvalid e (by simp [he])) hset hunclaimed
  refine ⟨Store.live_of_lease hstore ?_, hturn⟩
  rw [run_now]
  exact hnow

/-- **While the call has not claimed the key, the key holds its token exactly when a lost command
has taken it.** -/
theorem live_token_iff {events : List ClaimEvent} {s : ClaimState}
    (hfresh : ∀ e, s.store key ≠ some ⟨token, e⟩) (hvalid : ∀ e ∈ events, e.Valid token)
    (hunclaimed : ∀ t, (s.run key token cooldownSecs events).turn ≠ .returned (some t)) :
    (s.run key token cooldownSecs events).store.live
        (s.run key token cooldownSecs events).now key = some token ↔
      s.HeldByLost key token cooldownSecs events := by
  constructor
  · intro hlive
    obtain ⟨exp, hheld, hnow⟩ := Store.live_eq_some_iff.mp hlive
    rcases run_origin events hfresh hvalid hheld with ⟨t, ht⟩ | ⟨before, after, hsplit, horphan,
      hset, hexp⟩
    · exact absurd ht (hunclaimed t)
    · refine ⟨before, after, hsplit, horphan, hset, ?_⟩
      have hclock : (s.run key token cooldownSecs events).now
          = (s.run key token cooldownSecs before).now + elapsed after := by
        rw [hsplit, run_split, run_now, step_now]
        simp [ClaimEvent.secs]
      linarith
  · exact fun h => (h.held hvalid).1

/-- The loop is left with a value only through an answered attempt. -/
lemma exists_answered {events : List ClaimEvent} {s : ClaimState} {a : Option PyStr}
    (hstart : s.turn ≠ .returned a)
    (h : (s.run key token cooldownSecs events).turn = .returned a) :
    ∃ before after k, events = before ++ .attempt .answered :: after ∧
      (s.run key token cooldownSecs before).turn = .trying k := by
  induction events using List.reverseRecOn with
  | nil => exact absurd h hstart
  | append_singleton events e ih =>
      by_cases hbefore : (s.run key token cooldownSecs events).turn = .returned a
      · obtain ⟨before, after, k, hsplit, hk⟩ := ih hbefore
        exact ⟨before, after ++ [e], k, by simp [hsplit], hk⟩
      · -- the last event is the one that returns
        rw [run_split] at h
        obtain ⟨u, hu⟩ : ∃ u, s.run key token cooldownSecs events = u := ⟨_, rfl⟩
        rw [hu] at h hbefore
        cases hturn : u.turn with
        | returned b =>
            have hkeep := step_turn_of_ne_trying key token cooldownSecs (s := u)
              (by simp [hturn]) e
            exact absurd (hkeep.symm.trans h) hbefore
        | raised b =>
            have hkeep := step_turn_of_ne_trying key token cooldownSecs (s := u)
              (by simp [hturn]) e
            exact absurd (hkeep.symm.trans h) hbefore
        | trying k =>
            cases e with
            | wait secs => exact absurd h hbefore
            | other c => exact absurd h hbefore
            | arrive =>
                cases hn : u.inFlight <;>
                  exact absurd (by simpa only [step, run, hn, List.foldl_nil] using h) hbefore
            | attempt contact =>
                cases contact with
                | answered => exact ⟨events, [], k, rfl, by rw [hu, hturn]⟩
                | failed e =>
                    simp only [run, List.foldl_nil, step, hturn, retryTurn] at h
                    split_ifs at h

end ClaimState

/-- A call of `claim_alert` from its start to the moment it returns or raises. -/
structure ClaimCall (fingerprint : PyStr) (cooldownSecs : ℤ) where
  token : PyStr
  now : ℚ
  store : Redis
  events : List ClaimEvent
  token_ne_nil : token ≠ []
  fresh : ∀ e, store (cooldownKey fingerprint) ≠ some ⟨token, e⟩
  valid : ∀ e ∈ events, e.Valid token
  finished : (ClaimState.run (cooldownKey fingerprint) token cooldownSecs
    (ClaimState.start cooldownSecs now store) events).turn.isOver = true

namespace ClaimCall

variable {fingerprint : PyStr} {cooldownSecs : ℤ} (call : ClaimCall fingerprint cooldownSecs)

/-- The state in which the loop starts. -/
def start : ClaimState := .start cooldownSecs call.now call.store

/-- The state after some of the events. -/
def after (events : List ClaimEvent) : ClaimState :=
  call.start.run (cooldownKey fingerprint) call.token cooldownSecs events

/-- What `claim_alert` returns or raises. -/
def result : Except PyExc (Option PyStr) :=
  match (call.after call.events).turn with
  | .returned a => .ok a
  | .raised e => .error e
  | .trying _ => .error (.runtimeError "Redis operation failed without an exception")

/-- What the cooldown key holds after some of the events. -/
def holder (events : List ClaimEvent) : Option PyStr :=
  (call.after events).store.live (call.after events).now (cooldownKey fingerprint)

/-- An attempt of the call is answered by the server, after the given events. -/
def AnsweredAfter (before : List ClaimEvent) : Prop :=
  ∃ after k, call.events = before ++ .attempt .answered :: after ∧
    (call.after before).turn = .trying k

/-- After the given events a lost command of the call holds the key. -/
def LostHolds (events : List ClaimEvent) : Prop :=
  call.start.HeldByLost (cooldownKey fingerprint) call.token cooldownSecs events

/-- The call gets an answer, and returns while one of its lost commands holds the key. -/
def Orphaned : Prop := (∃ before, call.AnsweredAfter before) ∧ call.LostHolds call.events

lemma start_ne_returned (a : Option PyStr) : call.start.turn ≠ .returned a := by
  simp only [start, ClaimState.start]
  split_ifs <;> simp

lemma result_eq_ok_iff {a : Option PyStr} :
    call.result = .ok a ↔ (call.after call.events).turn = .returned a := by
  unfold result
  cases (call.after call.events).turn <;> simp

/-- An answered attempt ends the call: with the token if the key was free, with `None` if not. -/
lemma result_of_answered {before : List ClaimEvent} (h : call.AnsweredAfter before) :
    call.result = .ok (if call.holder before = none then some call.token else none) := by
  obtain ⟨after, k, hsplit, hk⟩ := h
  have hret : ((call.after before).step (cooldownKey fingerprint) call.token cooldownSecs
      (.attempt .answered)).turn
        = .returned (if call.holder before = none then some call.token else none) := by
    simp only [ClaimState.step, hk, retryTurn, setNx, holder]
    rcases Option.eq_none_or_eq_some ((call.after before).store.live (call.after before).now
        (cooldownKey fingerprint)) with hlive | ⟨w, hlive⟩
    · simp [Command.exec_setNxEx_free _ _ hlive, hlive]
    · simp [Command.exec_setNxEx_held _ _ hlive, hlive]
  refine call.result_eq_ok_iff.mpr ?_
  rw [ClaimCall.after, hsplit, ClaimState.run_split, ClaimState.run_turn_of_ne_trying after ?_]
  · exact hret
  · intro k'
    rw [← ClaimCall.after, hret]
    simp

/-- A call that returns a value has been answered. -/
lemma exists_answered_of_result {a : Option PyStr} (h : call.result = .ok a) :
    ∃ before, call.AnsweredAfter before := by
  obtain ⟨before, after, k, hsplit, hk⟩ :=
    ClaimState.exists_answered (call.start_ne_returned a) (call.result_eq_ok_iff.mp h)
  exact ⟨before, after, k, hsplit, hk⟩

/-- Before the answer the key holds the call's own token exactly when a lost command put it there. -/
lemma lostHolds_iff_holder {before : List ClaimEvent} (h : call.AnsweredAfter before) :
    call.LostHolds before ↔ call.holder before = some call.token := by
  obtain ⟨after, k, hsplit, hk⟩ := h
  refine (ClaimState.live_token_iff call.fresh (fun e he => call.valid e ?_) fun t ht => ?_).symm
  · rw [hsplit]
    exact List.mem_append_left _ he
  · rw [ClaimCall.after] at hk
    rw [hk] at ht
    cases ht

end ClaimCall

/-- **A call that returns `None` leaves the key without its own token exactly when it is not
orphaned.** -/
theorem claimAlert_none_iff {fingerprint : PyStr} {cooldownSecs : ℤ}
    (call : ClaimCall fingerprint cooldownSecs) :
    (call.result = .ok none → call.holder call.events ≠ some call.token) ↔ ¬ call.Orphaned := by
  constructor
  · rintro h ⟨⟨before, hanswered⟩, hlost⟩
    obtain ⟨hlive, hunclaimed⟩ := hlost.held call.valid
    have hresult := call.result_of_answered hanswered
    split_ifs at hresult
    · exact hunclaimed call.token (call.result_eq_ok_iff.mp hresult)
    · exact h hresult hlive
  · intro h hnone hlive
    have hunclaimed : ∀ t, (call.after call.events).turn ≠ .returned (some t) := by
      intro t ht
      rw [call.result_eq_ok_iff.mp hnone] at ht
      cases ht
    exact h ⟨call.exists_answered_of_result hnone,
      (ClaimState.live_token_iff call.fresh call.valid hunclaimed).mp hlive⟩

def sampleToken : PyStr := py "9f1c2d3e4a5b4c6d8e7f0a1b2c3d4e5f"

lemma sampleToken_ne_nil : sampleToken ≠ [] := by decide

/-- An empty store holds no claim. -/
lemma none_ne_entry (e : ℚ) : (none : Option (Lease PyStr ℚ)) ≠ some ⟨sampleToken, e⟩ := by
  intro h
  cases h

/-- The reply to the first `SET NX` is lost after the server has carried it out; the second attempt
finds the key taken. -/
def lostReplyCall : ClaimCall (py "0123456789abcdef0123456789abcdef") 300 where
  token := sampleToken
  now := 0
  store := fun _ => none
  events := [.attempt (.failed .redisTimeoutError), .arrive, .wait (1 / 2), .attempt .answered]
  token_ne_nil := sampleToken_ne_nil
  fresh := none_ne_entry
  valid := by decide +kernel
  finished := by decide +kernel

/-- The lost reply makes the call report its own claim as somebody else's. -/
theorem lostReplyCall_orphaned :
    ¬ (lostReplyCall.result = .ok none →
      lostReplyCall.holder lostReplyCall.events ≠ some lostReplyCall.token) := by
  decide +kernel

end Watchtower
