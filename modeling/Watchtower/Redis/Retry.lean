import Watchtower.Python.Value

/-!
# The retry loop

Every Redis call goes through `_with_retry`: up to three attempts, another one only after a
connection or timeout error.  Such an error says nothing about the server, which may have carried
the command out before the reply was lost.

* `retryTurn` — one turn of the loop, which the concurrent models step through one by one.
* `withRetry` — the whole loop over what its attempts meet.
* **`withRetry_eq_ok_iff`** — it returns what the first attempt to get through returned.
-/

namespace Watchtower

open Core Py

/-- The errors `_with_retry` tries again after. -/
def isRetryable : PyExc → Bool
  | .redisConnectionError => true
  | .redisTimeoutError => true
  | _ => false

/-- What an attempt meets: an answer, or an error raised at the client. -/
inductive Contact
  | answered
  | failed (e : PyExc)
  deriving DecidableEq

/-- Where the loop stands: at an attempt, or out of it. -/
inductive Turn (α : Type)
  | trying (attempt : ℕ)
  | returned (a : α)
  | raised (e : PyExc)
  deriving DecidableEq

/-- The loop has been left. -/
def Turn.isOver {α : Type} : Turn α → Bool
  | .trying _ => false
  | .returned _ => true
  | .raised _ => true

/-- What follows a turn: the next attempt, or one of the two ways out of the loop. -/
def Turn.elim {α σ : Type} (next : ℕ → σ) (returned : α → σ) (raised : PyExc → σ) : Turn α → σ
  | .trying attempt => next attempt
  | .returned a => returned a
  | .raised e => raised e

/-- The default of `max_attempts`, which every caller uses. -/
def maxAttempts : ℕ := 3

section

variable {α : Type}

/-- One turn of the loop, on what the attempt met. -/
def retryTurn (attempt : ℕ) : Except PyExc α → Turn α
  | .ok a => .returned a
  | .error e =>
      if isRetryable e then
        if attempt = maxAttempts then .raised e else .trying (attempt + 1)
      else .raised e

/-- The loop from an attempt on, with the number of attempts that are left. -/
def retryLoop (operation : ℕ → Except PyExc α) : ℕ → ℕ → Except PyExc α
  | 0, _ => .error (.runtimeError "Redis operation failed without an exception")
  | left + 1, attempt =>
      match retryTurn attempt (operation attempt) with
      | .trying next => retryLoop operation left next
      | .returned a => .ok a
      | .raised e => .error e

/-- `_with_retry`, on what the first, second and third attempt meet if they are made. -/
def withRetry (operation : ℕ → Except PyExc α) : Except PyExc α :=
  retryLoop operation maxAttempts 1

/-- An attempt fails in a way that is tried again. -/
def Retried (operation : ℕ → Except PyExc α) (attempt : ℕ) : Prop :=
  ∃ e, operation attempt = .error e ∧ isRetryable e = true

lemma retryLoop_eq_ok_iff {operation : ℕ → Except PyExc α} {a : α} :
    ∀ left attempt, left + attempt = maxAttempts + 1 →
      (retryLoop operation left attempt = .ok a ↔
        ∃ k, attempt ≤ k ∧ k ≤ maxAttempts ∧ operation k = .ok a ∧
          ∀ j, attempt ≤ j → j < k → Retried operation j) := by
  intro left
  induction left with
  | zero =>
      intro attempt hsum
      constructor
      · intro h
        simp [retryLoop] at h
      · rintro ⟨k, hk, hmax, -, -⟩
        omega
  | succ left ih =>
      intro attempt hsum
      cases hop : operation attempt with
      | ok b =>
          simp only [retryLoop, hop, retryTurn]
          constructor
          · intro h
            cases h
            exact ⟨attempt, le_rfl, by omega, hop, fun j hj hlt => by omega⟩
          · rintro ⟨k, hk, -, hka, hbefore⟩
            rcases hk.lt_or_eq with hlt | rfl
            · obtain ⟨e, he, -⟩ := hbefore attempt le_rfl hlt
              rw [hop] at he
              cases he
            · rw [hop] at hka
              rw [hka]
      | error e =>
          by_cases hretry : isRetryable e = true
          · by_cases hlast : attempt = maxAttempts
            · -- the last attempt: its error is raised
              simp only [retryLoop, hop, retryTurn, if_pos hretry, if_pos hlast]
              constructor
              · intro h
                cases h
              · rintro ⟨k, hk, hmax, hka, -⟩
                have hkeq : k = attempt := by omega
                rw [hkeq, hop] at hka
                cases hka
            · simp only [retryLoop, hop, retryTurn, if_pos hretry, if_neg hlast]
              rw [ih (attempt + 1) (by omega)]
              constructor
              · rintro ⟨k, hk, hmax, hka, hbefore⟩
                refine ⟨k, by omega, hmax, hka, fun j hj hlt => ?_⟩
                rcases hj.lt_or_eq with hjlt | rfl
                · exact hbefore j hjlt hlt
                · exact ⟨e, hop, hretry⟩
              · rintro ⟨k, hk, hmax, hka, hbefore⟩
                rcases hk.lt_or_eq with hlt | rfl
                · exact ⟨k, hlt, hmax, hka, fun j hj => hbefore j (by omega)⟩
                · rw [hop] at hka
                  cases hka
          · simp only [retryLoop, hop, retryTurn, if_neg hretry]
            constructor
            · intro h
              cases h
            · rintro ⟨k, hk, -, hka, hbefore⟩
              rcases hk.lt_or_eq with hlt | rfl
              · obtain ⟨e', he', hretry'⟩ := hbefore attempt le_rfl hlt
                rw [hop] at he'
                cases he'
                exact absurd hretry' hretry
              · rw [hop] at hka
                cases hka

/-- **`_with_retry` returns what the first attempt to get through returned**, when at most two
connection or timeout errors come before it. -/
theorem withRetry_eq_ok_iff {operation : ℕ → Except PyExc α} {a : α} :
    withRetry operation = .ok a ↔
      ∃ k, 1 ≤ k ∧ k ≤ maxAttempts ∧ operation k = .ok a ∧
        ∀ j, 1 ≤ j → j < k → Retried operation j :=
  retryLoop_eq_ok_iff maxAttempts 1 rfl

/-- A transition system that takes the turns of the loop, at the places `place k`, leaves them the
way the loop does. -/
lemma exists_iterate_retryLoop {σ : Type} (next : σ → σ) (place : ℕ → σ) (returned : α → σ)
    (raised : PyExc → σ) (operation : ℕ → Except PyExc α)
    (hnext : ∀ k, next (place k) = (retryTurn k (operation k)).elim place returned raised) :
    ∀ left attempt, left + attempt = maxAttempts → ∃ n,
      (∀ a, retryLoop operation (left + 1) attempt = .ok a → next^[n] (place attempt) = returned a) ∧
      ∀ e, retryLoop operation (left + 1) attempt = .error e →
        next^[n] (place attempt) = raised e := by
  intro left
  induction left with
  | zero =>
      intro attempt hsum
      refine ⟨1, ?_⟩
      rw [Function.iterate_one, hnext, retryLoop]
      cases operation attempt with
      | ok a => simp [retryTurn, Turn.elim]
      | error e =>
          -- the last attempt is not tried again
          have hlast : attempt = maxAttempts := by omega
          simp only [retryTurn, if_pos hlast, ite_self, Turn.elim]
          simp
  | succ left ih =>
      intro attempt hsum
      have hfirst := hnext attempt
      rw [retryLoop]
      cases hturn : retryTurn attempt (operation attempt) with
      | trying next' =>
          rw [hturn] at hfirst
          have hsucc : next' = attempt + 1 := by
            cases hop : operation attempt with
            | ok a => simp [hop, retryTurn] at hturn
            | error e =>
                simp only [hop, retryTurn] at hturn
                split_ifs at hturn
                cases hturn
                rfl
          obtain ⟨n, hn⟩ := ih next' (by omega)
          refine ⟨n + 1, ?_⟩
          rw [Function.iterate_succ_apply, hfirst]
          exact hn
      | returned a =>
          refine ⟨1, ?_⟩
          rw [Function.iterate_one, hfirst, hturn]
          simp [Turn.elim]
      | raised e =>
          refine ⟨1, ?_⟩
          rw [Function.iterate_one, hfirst, hturn]
          simp [Turn.elim]

/-- The same for the whole loop. -/
theorem exists_iterate_withRetry {σ : Type} (next : σ → σ) (place : ℕ → σ) (returned : α → σ)
    (raised : PyExc → σ) (operation : ℕ → Except PyExc α)
    (hnext : ∀ k, next (place k) = (retryTurn k (operation k)).elim place returned raised) :
    ∃ n, (∀ a, withRetry operation = .ok a → next^[n] (place 1) = returned a) ∧
      ∀ e, withRetry operation = .error e → next^[n] (place 1) = raised e :=
  exists_iterate_retryLoop next place returned raised operation hnext 2 1 rfl

end

/-! ## The calls -/

section

variable {α : Type}

/-- `set_with_ttl`. -/
def setWithTtl (ttlSecs : ℤ) (operation : ℕ → Except PyExc Unit) : Except PyExc Unit :=
  if ttlSecs < 1 then .error (.valueError "ttl_secs must be positive") else withRetry operation

/-- `store_alert_record`, with its default lifetime of a day. -/
def storeAlertRecord (operation : ℕ → Except PyExc Unit) : Except PyExc Unit :=
  setWithTtl 86400 operation

/-- `publish_alert`. -/
def publishAlert (operation : ℕ → Except PyExc Unit) : Except PyExc Unit := withRetry operation

/-- `pop_finding`. -/
def popFinding (timeoutSecs : ℚ) (operation : ℕ → Except PyExc (Option PyStr)) :
    Except PyExc (Option PyStr) :=
  if timeoutSecs ≤ 0 then .error (.valueError "timeout_secs must be positive")
  else withRetry operation

end

end Watchtower
