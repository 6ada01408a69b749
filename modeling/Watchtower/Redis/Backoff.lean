import Watchtower.Core.Traced
import Watchtower.Python.Number
import Watchtower.Redis.Retry

/-!
# The pauses between attempts

`_with_retry` with its two parameters and everything it calls: the attempts, and the sleeps between
them, each twice as long as the one before.

* `timeSleep` — which pauses `time.sleep` accepts.
* `retryRun` — the function with its calls.
* `backoff` — a number of attempts with the pauses between them.
* **`retryRun_backs_off`** — every run is such a sequence, and comes out as its last attempt does.
* `outcome_retryRun` — with the defaults it comes out as `withRetry` does.
-/

namespace Watchtower

open Core Py

inductive RetryCall
  | attempt (number : ℕ)
  | sleep (secs : ℚ)
  deriving DecidableEq

/-- `base_delay * (2 ** (attempt - 1))`. -/
def retryDelay (baseDelay : ℚ) (attempt : ℕ) : ℚ := baseDelay * 2 ^ (attempt - 1)

/-- `time.sleep`, which converts its argument to nanoseconds. -/
def timeSleep (secs : ℚ) : Except PyExc Unit :=
  let nanos := roundDouble (secs * 10 ^ 9)
  if nanos < -2 ^ 63 ∨ 2 ^ 63 ≤ nanos then .error .overflowError
  else if secs < 0 then .error (.valueError "sleep length must be non-negative")
  else .ok ()

/-- The pause after an attempt.  Above 1024 attempts the integer factor is too large for a float. -/
def retryPause (baseDelay : ℚ) (attempt : ℕ) : Traced RetryCall PyExc Unit :=
  if 1024 < attempt then .raise .overflowError
  else .perform (.sleep (retryDelay baseDelay attempt)) (timeSleep (retryDelay baseDelay attempt))

/-- The pause after an attempt is one that `time.sleep` accepts: it does not count more than the
nanoseconds of 64 bits. -/
structure PauseFits (baseDelay : ℚ) (attempt : ℕ) : Prop where
  factor : attempt ≤ 1024
  nanos : roundDouble (retryDelay baseDelay attempt * 10 ^ 9) < 2 ^ 63

lemma retryPause_eq {baseDelay : ℚ} (hdelay : 0 ≤ baseDelay) {attempt : ℕ}
    (h : PauseFits baseDelay attempt) :
    retryPause baseDelay attempt = .perform (.sleep (retryDelay baseDelay attempt)) (.ok ()) := by
  have hpause : 0 ≤ retryDelay baseDelay attempt := mul_nonneg hdelay (by positivity)
  have hnanos : 0 ≤ roundDouble (retryDelay baseDelay attempt * 10 ^ 9) :=
    Rounding.double.nonneg (mul_nonneg hpause (by norm_num))
  have hlarge : ¬ (roundDouble (retryDelay baseDelay attempt * 10 ^ 9) < -2 ^ 63 ∨
      2 ^ 63 ≤ roundDouble (retryDelay baseDelay attempt * 10 ^ 9)) := by
    rintro (hlow | hhigh)
    · linarith
    · exact absurd h.nanos hhigh.not_gt
  rw [retryPause, if_neg h.factor.not_gt, timeSleep, if_neg hlarge, if_neg hpause.not_gt]

section

variable {α : Type} (maxAttempts : ℕ) (baseDelay : ℚ) (operation : ℕ → Except PyExc α)

/-- The loop from an attempt on, with the number of attempts that are left. -/
def retryRunLoop : ℕ → ℕ → Traced RetryCall PyExc α
  | 0, _ => .raise (.runtimeError "Redis operation failed without an exception")
  | left + 1, attempt => do
      .perform (.attempt attempt) (.ok ())
      match operation attempt with
      | .ok a => return a
      | .error e =>
          if isRetryable e then
            if attempt = maxAttempts then .raise e
            else
              retryPause baseDelay attempt
              retryRunLoop left (attempt + 1)
          else .raise e

/-- `_with_retry`. -/
def retryRun : Traced RetryCall PyExc α :=
  if maxAttempts < 1 then .raise (.valueError "max_attempts must be positive")
  else retryRunLoop maxAttempts baseDelay operation maxAttempts 1

/-- An attempt, and a number of further ones, each after its pause. -/
def backoff : ℕ → ℕ → List RetryCall
  | attempt, 0 => [.attempt attempt]
  | attempt, further + 1 =>
      .attempt attempt :: .sleep (retryDelay baseDelay attempt) :: backoff (attempt + 1) further

/-- The pauses among the calls. -/
def pauses (calls : List RetryCall) : List ℚ :=
  calls.filterMap fun
    | .attempt _ => none
    | .sleep secs => some secs

variable {maxAttempts baseDelay operation}

/-- The pauses add up to a geometric sum. -/
lemma sum_pauses_backoff (baseDelay : ℚ) (attempt further : ℕ) :
    (pauses (backoff baseDelay (attempt + 1) further)).sum
      = baseDelay * 2 ^ attempt * (2 ^ further - 1) := by
  induction further generalizing attempt with
  | zero =>
      have hnone : pauses (backoff baseDelay (attempt + 1) 0) = [] := rfl
      rw [hnone, List.sum_nil, pow_zero, sub_self, mul_zero]
  | succ further ih =>
      have hsum : (pauses (backoff baseDelay (attempt + 1) (further + 1))).sum
          = retryDelay baseDelay (attempt + 1)
            + (pauses (backoff baseDelay (attempt + 1 + 1) further)).sum := List.sum_cons
      rw [hsum, ih, retryDelay, Nat.add_sub_cancel]
      ring

/-- An attempt that is the last one, or is not tried again. -/
lemma retryRunLoop_stop (left : ℕ) {attempt : ℕ}
    (h : Retried operation attempt → attempt = maxAttempts) :
    retryRunLoop maxAttempts baseDelay operation (left + 1) attempt
      = ⟨[.attempt attempt], operation attempt⟩ := by
  cases hop : operation attempt with
  | ok a =>
      simp only [retryRunLoop, hop, Traced.perform_ok_bind]
      rfl
  | error e =>
      cases hretry : isRetryable e with
      | true =>
          have hlast := h ⟨e, hop, hretry⟩
          simp only [retryRunLoop, hop, hretry, if_pos, if_pos hlast, Traced.perform_ok_bind]
          rfl
      | false =>
          simp only [retryRunLoop, hop, hretry, Bool.false_eq_true, if_false, Traced.perform_ok_bind]
          rfl

/-- An attempt that is tried again. -/
lemma retryRunLoop_retry (left : ℕ) {attempt : ℕ} (h : Retried operation attempt)
    (hlast : attempt ≠ maxAttempts) (hdelay : 0 ≤ baseDelay) (hfits : PauseFits baseDelay attempt) :
    retryRunLoop maxAttempts baseDelay operation (left + 1) attempt
      = ⟨.attempt attempt :: .sleep (retryDelay baseDelay attempt)
          :: (retryRunLoop maxAttempts baseDelay operation left (attempt + 1)).calls,
        (retryRunLoop maxAttempts baseDelay operation left (attempt + 1)).outcome⟩ := by
  obtain ⟨e, hop, hretry⟩ := h
  simp only [retryRunLoop, hop, hretry, if_pos, if_neg hlast, retryPause_eq hdelay hfits,
    Traced.perform_ok_bind]

/-- The loop makes attempts up to the first one that is not tried again, or to the last. -/
lemma exists_retryRunLoop (operation : ℕ → Except PyExc α) (hdelay : 0 ≤ baseDelay)
    (hfits : ∀ attempt, 1 ≤ attempt → attempt < maxAttempts → PauseFits baseDelay attempt) :
    ∀ left attempt, 1 ≤ attempt → left + attempt = maxAttempts →
    ∃ further, attempt + further ≤ maxAttempts ∧
      (∀ j, attempt ≤ j → j < attempt + further → Retried operation j) ∧
      (Retried operation (attempt + further) → attempt + further = maxAttempts) ∧
      retryRunLoop maxAttempts baseDelay operation (left + 1) attempt
        = ⟨backoff baseDelay attempt further, operation (attempt + further)⟩ := by
  intro left
  induction left with
  | zero =>
      intro attempt hpos hsum
      have hlast : attempt = maxAttempts := by omega
      exact ⟨0, by omega, fun j hj hlt => by omega, fun _ => hlast, retryRunLoop_stop 0 fun _ => hlast⟩
  | succ left ih =>
      intro attempt hpos hsum
      by_cases hretried : Retried operation attempt
      · obtain ⟨further, hle, hbefore, hlast, hrun⟩ := ih (attempt + 1) (by omega) (by omega)
        have hindex : attempt + (further + 1) = attempt + 1 + further := by omega
        refine ⟨further + 1, by omega, fun j hj hlt => ?_, by rwa [hindex], ?_⟩
        · rcases hj.lt_or_eq with hj | rfl
          · exact hbefore j hj (by omega)
          · exact hretried
        · rw [retryRunLoop_retry (left + 1) hretried (by omega) hdelay
            (hfits attempt hpos (by omega)), hrun, hindex]
          rfl
      · exact ⟨0, by omega, fun j hj hlt => by omega, fun h => absurd h hretried,
          retryRunLoop_stop (left + 1) fun h => absurd h hretried⟩

/-- **Every run backs off**, as long as `time.sleep` accepts the pauses: it makes attempts one after the
other, each but the first after a pause twice as long as the one before, up to the first attempt that
gets through or fails for good, or to the last one; it comes out as that attempt does. -/
theorem retryRun_backs_off (operation : ℕ → Except PyExc α) (h : 1 ≤ maxAttempts)
    (hdelay : 0 ≤ baseDelay)
    (hfits : ∀ attempt, 1 ≤ attempt → attempt < maxAttempts → PauseFits baseDelay attempt) :
    ∃ further, 1 + further ≤ maxAttempts ∧
      (∀ j, 1 ≤ j → j < 1 + further → Retried operation j) ∧
      (Retried operation (1 + further) → 1 + further = maxAttempts) ∧
      (retryRun maxAttempts baseDelay operation).calls = backoff baseDelay 1 further ∧
      (retryRun maxAttempts baseDelay operation).outcome = operation (1 + further) ∧
      (pauses (retryRun maxAttempts baseDelay operation).calls).sum
        = baseDelay * (2 ^ further - 1) := by
  obtain ⟨left, rfl⟩ := Nat.exists_eq_add_of_le' h
  obtain ⟨further, hle, hbefore, hlast, hrun⟩ :=
    exists_retryRunLoop operation hdelay hfits left 1 le_rfl rfl
  have hcall : retryRun (left + 1) baseDelay operation
      = ⟨backoff baseDelay 1 further, operation (1 + further)⟩ := by
    rw [retryRun, if_neg (by omega), hrun]
  refine ⟨further, hle, hbefore, hlast, by rw [hcall], by rw [hcall], ?_⟩
  rw [hcall, sum_pauses_backoff baseDelay 0 further, pow_zero, mul_one]

end

section

variable {α : Type} (operation : ℕ → Except PyExc α)

/-- The default pauses. -/
lemma pauseFits_default :
    ∀ attempt, 1 ≤ attempt → attempt < maxAttempts → PauseFits (1 / 2) attempt := by
  have hnanos : ∀ attempt < 3, roundDouble (retryDelay (1 / 2) attempt * 10 ^ 9) < 2 ^ 63 := by
    decide +kernel
  exact fun attempt _ hlt => ⟨by have hthree : maxAttempts = 3 := rfl; omega, hnanos attempt hlt⟩

lemma outcome_retryRunLoop (left attempt : ℕ) (h : left + attempt = maxAttempts + 1)
    (hpos : 1 ≤ attempt) :
    (retryRunLoop maxAttempts (1 / 2) operation left attempt).outcome
      = retryLoop operation left attempt := by
  induction left generalizing attempt with
  | zero => rfl
  | succ left ih =>
      by_cases hagain : Retried operation attempt ∧ attempt ≠ maxAttempts
      · obtain ⟨hretried, hnot⟩ := hagain
        rw [retryRunLoop_retry left hretried hnot (by norm_num)
          (pauseFits_default attempt hpos (by omega))]
        obtain ⟨e, hop, hretry⟩ := hretried
        simp only [retryLoop, hop, retryTurn, if_pos hretry, if_neg hnot,
          ih (attempt + 1) (by omega) (by omega)]
      · have hstop : Retried operation attempt → attempt = maxAttempts :=
          fun h => not_not.mp fun hnot => hagain ⟨h, hnot⟩
        rw [retryRunLoop_stop left hstop]
        cases hop : operation attempt with
        | ok a => simp only [retryLoop, hop, retryTurn]
        | error e =>
            cases hretry : isRetryable e with
            | true =>
                simp only [retryLoop, hop, retryTurn, hretry, if_true, if_pos (hstop ⟨e, hop, hretry⟩)]
            | false => simp [retryLoop, hop, retryTurn, hretry]

/-- With the defaults it comes out as the loop that keeps no record. -/
theorem outcome_retryRun :
    (retryRun maxAttempts (1 / 2) operation).outcome = withRetry operation := by
  rw [retryRun, if_neg (by decide), withRetry, outcome_retryRunLoop operation maxAttempts 1 rfl le_rfl]

end

/-- A server that cannot be reached: the defaults pause for a second and a half. -/
theorem retryRun_backs_off_refused :
    (pauses (retryRun 3 (1 / 2) fun _ => (.error .redisConnectionError : Except PyExc Unit)).calls).sum
      ≤ 3 / 2 := by
  obtain ⟨further, hle, -, -, -, -, hsum⟩ :=
    retryRun_backs_off (fun _ => (.error .redisConnectionError : Except PyExc Unit))
      (by decide : 1 ≤ 3) (by norm_num : (0 : ℚ) ≤ 1 / 2) pauseFits_default
  rw [hsum]
  have hpow : (2 : ℚ) ^ further ≤ 2 ^ 2 := pow_le_pow_right₀ (by norm_num) (by omega)
  linarith

end Watchtower
