import Watchtower.Config.Settings
import Watchtower.Redis.Retry

/-!
# Waiting on an idle queue

`pop_finding` has the server hold a `BRPOP` for the poll timeout, rounded up to whole seconds, and
the connection gives up on any reply after the socket timeout.  The two are read from the
environment in different places, each within a range of its own.

* `blockTime` — what `BRPOP` is told.
* `readReply` — a reply that takes as long as the socket timeout is an error.
* `QuietWhenIdle` — an empty queue makes `pop_finding` return nothing.
* **`quietWhenIdle_iff`** — it does so exactly when a whole number of seconds fits between the two
  timeouts; with the defaults, none does.
-/

namespace Watchtower

open Core Py

/-! ## The two timeouts -/

/-- `CORRELATOR_POLL_TIMEOUT`. -/
def pollTimeoutFromEnv (float : PyStr → Option PyFloat) (raw : Option PyStr) : Except PyExc ℚ :=
  envFloat float "CORRELATOR_POLL_TIMEOUT" 5 ⟨1, "1.0"⟩ ⟨60, "60.0"⟩ raw

/-- `REDIS_SOCKET_TIMEOUT`. -/
def socketTimeoutFromEnv (float : PyStr → Option PyFloat) (raw : Option PyStr) : Except PyExc ℚ :=
  envFloat float "REDIS_SOCKET_TIMEOUT" 5 ⟨1 / 10, "0.1"⟩ ⟨120, "120.0"⟩ raw

/-- The variables hold the two timeouts, and the settings as a whole are valid. -/
structure Configured [UnicodeData] [Normalization] (float : PyStr → Option PyFloat) (cwd : PyStr)
    (settings : Settings) (pollRaw socketRaw : Option PyStr) (poll socket : ℚ) : Prop where
  poll : pollTimeoutFromEnv float pollRaw = .ok poll
  socket : socketTimeoutFromEnv float socketRaw = .ok socket
  valid : settings.validate cwd = .ok ()

/-! ## An attempt on an empty queue -/

/-- The block time `pop_finding` passes to `BRPOP`. -/
def blockTime (timeoutSecs : ℚ) : ℤ := max 1 ⌈timeoutSecs⌉

/-- A reply that comes after so many seconds, as the connection sees it. -/
def readReply {α : Type} (socketTimeout after : ℚ) (reply : α) : Except PyExc α :=
  if after < socketTimeout then .ok reply else .error .redisTimeoutError

/-- The operation of `pop_finding`, on the reply to `BRPOP`: a queue and a finding, or nothing. -/
def pop (reply : Except PyExc (Option (PyStr × PyStr))) : Except PyExc (Option PyStr) :=
  reply.map fun result => result.map Prod.snd

/-- An attempt on an empty queue, which the server answers after so many seconds. -/
def popEmpty (socketTimeout after : ℚ) : Except PyExc (Option PyStr) :=
  pop (readReply socketTimeout after none)

lemma popEmpty_of_lt {socketTimeout after : ℚ} (h : after < socketTimeout) :
    popEmpty socketTimeout after = .ok none := by
  rw [popEmpty, readReply, if_pos h]
  rfl

lemma popEmpty_of_le {socketTimeout after : ℚ} (h : socketTimeout ≤ after) :
    popEmpty socketTimeout after = .error .redisTimeoutError := by
  rw [popEmpty, readReply, if_neg h.not_gt]
  rfl

/-- A poll timeout within its range is only rounded up. -/
lemma blockTime_eq_ceil {timeoutSecs : ℚ} (h : 1 ≤ timeoutSecs) :
    blockTime timeoutSecs = ⌈timeoutSecs⌉ := by
  have hceil : 1 ≤ ⌈timeoutSecs⌉ := by
    have hcast : (1 : ℚ) ≤ (⌈timeoutSecs⌉ : ℚ) := h.trans (Int.le_ceil timeoutSecs)
    exact_mod_cast hcast
  rw [blockTime, max_eq_right hceil]

/-- The block time stays below the socket timeout when the poll timeout is at most the last whole
number below it. -/
lemma blockTime_lt_iff {poll socket : ℚ} (h : 1 ≤ poll) :
    (blockTime poll : ℚ) < socket ↔ poll ≤ ((⌈socket⌉ - 1 : ℤ) : ℚ) := by
  rw [blockTime_eq_ceil h]
  calc (⌈poll⌉ : ℚ) < socket
      ↔ ⌈poll⌉ < ⌈socket⌉ := Int.lt_ceil.symm
    _ ↔ ⌈poll⌉ ≤ ⌈socket⌉ - 1 := Int.le_sub_one_iff.symm
    _ ↔ poll ≤ ((⌈socket⌉ - 1 : ℤ) : ℚ) := Int.ceil_le

/-! ## All attempts -/

/-- The server answers every attempt no earlier than its block time. -/
def HeldBack (poll : ℚ) (after : ℕ → ℚ) : Prop := ∀ k, (blockTime poll : ℚ) ≤ after k

/-- On an empty queue `pop_finding` returns nothing: the block time is below the socket timeout, and
whenever the server answers in time for it, every attempt gets the empty reply. -/
def QuietWhenIdle (poll socket : ℚ) : Prop :=
  (blockTime poll : ℚ) < socket ∧
    ∃ margin > 0, ∀ after, HeldBack poll after → (∀ k, after k ≤ blockTime poll + margin) →
      (∀ k, popEmpty socket (after k) = .ok none) ∧
        popFinding poll (fun k => popEmpty socket (after k)) = .ok none

variable {poll socket : ℚ}

/-- With a block time below the socket timeout there is room for the reply to arrive. -/
lemma quietWhenIdle_of_lt (hpoll : 0 < poll) (h : (blockTime poll : ℚ) < socket) :
    QuietWhenIdle poll socket := by
  refine ⟨h, (socket - blockTime poll) / 2, by linarith, fun after _ hafter => ?_⟩
  have hanswered : ∀ k, popEmpty socket (after k) = .ok none := by
    intro k
    have hk := hafter k
    exact popEmpty_of_lt (by linarith)
  refine ⟨hanswered, ?_⟩
  rw [popFinding, if_neg hpoll.not_ge]
  exact withRetry_eq_ok_iff.mpr ⟨1, le_rfl, by decide, hanswered 1, fun j hj hlt => by omega⟩

/-- Attempts that all time out make the loop raise. -/
lemma withRetry_timeout {α : Type} {operation : ℕ → Except PyExc α}
    (h : ∀ k, operation k = .error .redisTimeoutError) :
    withRetry operation = .error .redisTimeoutError := by
  simp [withRetry, retryLoop, retryTurn, isRetryable, maxAttempts, h]

/-- Otherwise no attempt is answered in time, however prompt the server is. -/
lemma popFinding_of_le (hpoll : 0 < poll) (h : socket ≤ blockTime poll) {after : ℕ → ℚ}
    (hafter : HeldBack poll after) :
    popFinding poll (fun k => popEmpty socket (after k)) = .error .redisTimeoutError := by
  rw [popFinding, if_neg hpoll.not_ge]
  exact withRetry_timeout fun k => popEmpty_of_le (h.trans (hafter k))

section

variable [UnicodeData] [Normalization] {float : PyStr → Option PyFloat} {cwd : PyStr}
variable {settings : Settings} {pollRaw socketRaw : Option PyStr}

/-- **An idle queue is no failure exactly when the poll timeout is at most the last whole number of
seconds below the socket timeout.**  Otherwise every idle poll ends in a timeout error. -/
theorem quietWhenIdle_iff (h : Configured float cwd settings pollRaw socketRaw poll socket) :
    (QuietWhenIdle poll socket ↔ poll ≤ ((⌈socket⌉ - 1 : ℤ) : ℚ)) ∧
      (¬ poll ≤ ((⌈socket⌉ - 1 : ℤ) : ℚ) → ∀ after, HeldBack poll after →
        popFinding poll (fun k => popEmpty socket (after k)) = .error .redisTimeoutError) := by
  have hmin : 1 ≤ poll := (envFloat_mem (by norm_num) h.poll).1
  have hpos : 0 < poll := lt_of_lt_of_le one_pos hmin
  rw [← blockTime_lt_iff hmin]
  refine ⟨⟨fun hquiet => hquiet.1, quietWhenIdle_of_lt hpos⟩, fun hle after hafter => ?_⟩
  exact popFinding_of_le hpos (not_lt.mp hle) hafter

end

section

attribute [local instance] asciiData asciiNormalization

lemma deployment_configured (float : PyStr → Option PyFloat) {pollRaw socketRaw : Option PyStr}
    (hpoll : pollTimeoutFromEnv float pollRaw = .ok poll)
    (hsocket : socketTimeoutFromEnv float socketRaw = .ok socket) :
    Configured float (py "/app") (deployment [py "./src"]) pollRaw socketRaw poll socket :=
  ⟨hpoll, hsocket, by decide +kernel⟩

/-- A socket timeout of ten seconds leaves room for the default poll. -/
theorem quietWhenIdle_ten_seconds :
    QuietWhenIdle 5 10 ↔ (5 : ℚ) ≤ ((⌈(10 : ℚ)⌉ - 1 : ℤ) : ℚ) := by
  have hpoll : pollTimeoutFromEnv (fun _ => some (.finite ⟨10, by decide +kernel⟩)) none
      = .ok 5 := rfl
  have hsocket : socketTimeoutFromEnv (fun _ => some (.finite ⟨10, by decide +kernel⟩))
      (some (py "10")) = .ok 10 := by decide +kernel
  exact (quietWhenIdle_iff (deployment_configured _ hpoll hsocket)).1

/-- With both variables unset the block time is the socket timeout, and every idle poll raises. -/
theorem defaults_not_quiet :
    Configured (fun _ => none) (py "/app") (deployment [py "./src"]) none none 5 5 ∧
      ¬ QuietWhenIdle 5 5 ∧
      ∀ after, HeldBack 5 after →
        popFinding 5 (fun k => popEmpty 5 (after k)) = .error .redisTimeoutError := by
  have hblock : ((blockTime 5 : ℤ) : ℚ) = 5 := by decide +kernel
  refine ⟨deployment_configured _ rfl rfl, fun h => ?_, fun after hafter => ?_⟩
  · exact absurd h.1 (by rw [hblock]; exact lt_irrefl 5)
  · exact popFinding_of_le (by norm_num) hblock.ge hafter

end

end Watchtower
