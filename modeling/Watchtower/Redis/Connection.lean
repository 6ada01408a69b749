import Watchtower.Config.Settings
import Watchtower.Core.Once
import Watchtower.Core.Traced
import Mathlib.Algebra.Order.Floor.Ring

/-!
# Connecting to Redis

All threads of the process share one pool of connections, which the first of them creates; and the
service starts only once the server has answered.

* `createPool` — the pool with its arguments, as the settings have them.
* `poolThreads` — any number of threads in `_get_pool`, in any interleaving.
* **`getPool_shared`** — they all get the same pool, and only one is ever created.
* `waitLoop` — the loop of `wait_for_redis`, against a clock that goes on as the code asks it to.
* **`waitForRedis_bounded`** — how often it asks, how long it sleeps, and how it ends.
-/

namespace Watchtower

open Core Py

/-! ## The pool -/

/-- What `_get_pool` reads of the settings. -/
structure PoolSettings extends RedisSettings where
  port : ℤ
  db : ℤ
  maxConnections : ℤ
  socketTimeout : ℚ
  retryOnTimeout : Bool
  decodeResponses : Bool

/-- A `ConnectionPool`: the object, and what it was created with. -/
structure ConnectionPool where
  id : ℕ
  host : PyStr
  port : ℤ
  db : ℤ
  password : Option PyStr
  maxConnections : ℤ
  socketTimeout : ℚ
  socketConnectTimeout : ℚ
  retryOnTimeout : Bool
  decodeResponses : Bool
  healthCheckInterval : ℤ
  clientName : String

/-- The pool `_get_pool` creates. -/
def PoolSettings.pool (cfg : PoolSettings) (id : ℕ) : ConnectionPool where
  id := id
  host := cfg.host
  port := cfg.port
  db := cfg.db
  password := cfg.password
  maxConnections := cfg.maxConnections
  socketTimeout := cfg.socketTimeout
  socketConnectTimeout := cfg.socketTimeout
  retryOnTimeout := cfg.retryOnTimeout
  decodeResponses := cfg.decodeResponses
  healthCheckInterval := 30
  clientName := "security-watchtower"

/-- `_require_redis`. -/
def requireRedis (installed : Bool) : Except PyExc Unit :=
  if installed then .ok () else .error (.runtimeError "redis runtime dependency is not installed")

/-- The creation of the pool, given what the constructor of the library returns or raises. -/
def createPool (installed : Bool) (cfg : PoolSettings) (constructed : Except PyExc ℕ) :
    Except PyExc ConnectionPool := do
  requireRedis installed
  constructed.map cfg.pool

inductive PoolEvent
  | call (thread : ℕ)
  | move (thread : ℕ)
  | create (thread : ℕ) (constructed : Except PyExc ℕ)

/-- An event of the double-checked filling of `_pool`. -/
def PoolEvent.toOnce (installed : Bool) (cfg : PoolSettings) :
    PoolEvent → OnceEvent ℕ ConnectionPool PyExc
  | .call thread => .call thread
  | .move thread => .move thread
  | .create thread constructed => .make thread (createPool installed cfg constructed)

/-- Threads in `_get_pool`. -/
def poolThreads (installed : Bool) (cfg : PoolSettings) :
    Machine (OnceState ℕ ConnectionPool PyExc) PoolEvent Unit where
  init := .init
  step s e := s.step (e.toOnce installed cfg)

/-- What is known of the pools that were created. -/
def PoolsMade (installed : Bool) (cfg : PoolSettings) (s : OnceState ℕ ConnectionPool PyExc) : Prop :=
  ∀ pool ∈ s.made, installed = true ∧ pool = cfg.pool pool.id

lemma poolsMade_step {installed : Bool} {cfg : PoolSettings} {s t : OnceState ℕ ConnectionPool PyExc}
    {e : PoolEvent} (h : PoolsMade installed cfg s)
    (hstep : (poolThreads installed cfg).step s e = .ok t) : PoolsMade installed cfg t := by
  intro pool hpool
  rcases OnceState.mem_made_step hstep hpool with hold | ⟨n, hmake⟩
  · exact h pool hold
  · cases e with
    | call thread => cases hmake
    | move thread => cases hmake
    | create thread constructed =>
        have hcreated : createPool installed cfg constructed = .ok pool := by
          simpa [PoolEvent.toOnce] using (OnceEvent.make.inj hmake).2
        cases installed with
        | false => cases hcreated
        | true =>
            cases constructed with
            | error e => cases hcreated
            | ok id =>
                cases hcreated
                exact ⟨rfl, rfl⟩

/-- **All threads share one pool.**  In every interleaving: one pool is created at most, with the
values of the settings; every thread that returns from `_get_pool` has that pool, whatever the others
do; and it stays the same from then on. -/
theorem getPool_shared {installed : Bool} {cfg : PoolSettings} {events : List PoolEvent}
    {s : OnceState ℕ ConnectionPool PyExc} (hrun : (poolThreads installed cfg).run events = .ok s) :
    s.made.length ≤ 1 ∧
      (∀ thread result, s.place thread = .returned result →
        ∃ pool, result = some pool ∧ s.made = [pool] ∧ pool = cfg.pool pool.id ∧ installed = true) ∧
      ∀ later t pool, s.cell = some pool → (poolThreads installed cfg).runFrom s later = .ok t →
        t.cell = some pool ∧ ∀ thread result, t.place thread = .returned result → result = some pool := by
  have hstep : ∀ u (e : PoolEvent) v, u.Inv ∧ PoolsMade installed cfg u →
      (poolThreads installed cfg).step u e = .ok v → v.Inv ∧ PoolsMade installed cfg v :=
    fun u e v hu huv => ⟨OnceState.inv_step _ hu.1 huv, poolsMade_step hu.2 huv⟩
  have hinit : OnceState.Inv (poolThreads installed cfg).init ∧
      PoolsMade installed cfg (poolThreads installed cfg).init :=
    ⟨OnceState.inv_init, fun pool hpool => by cases hpool⟩
  obtain ⟨hinv, hmade⟩ := Machine.invariant hinit hstep hrun
  refine ⟨hinv.made_le_one, fun thread result hplace => ?_, fun later t pool hcell hlater => ?_⟩
  · have hreturned := hinv.agrees thread
    rw [hplace] at hreturned
    obtain ⟨hsome, hresult⟩ := hreturned
    obtain ⟨pool, hpool⟩ := Option.isSome_iff_exists.mp hsome
    have hcell : s.cell = some pool := hresult.symm.trans hpool
    -- nobody is about to store a pool when there is one
    have hall : s.made = [pool] := by
      rw [hinv.settled fun n a hn => ?_, hcell]
      · rfl
      · have hstoring := hinv.agrees n
        rw [hn] at hstoring
        rw [hstoring.1] at hcell
        cases hcell
    obtain ⟨hinstalled, hargs⟩ := hmade pool (by rw [hall]; exact List.mem_cons_self)
    exact ⟨pool, hpool, hall, hargs, hinstalled⟩
  · have hstay : ∀ u (e : PoolEvent) v, u.Inv ∧ u.cell = some pool →
        (poolThreads installed cfg).step u e = .ok v → v.Inv ∧ v.cell = some pool :=
      fun u e v hu huv => ⟨OnceState.inv_step _ hu.1 huv, hu.1.cell_step hu.2 huv⟩
    have hkept := Machine.invariant_runFrom hstay later ⟨hinv, hcell⟩ hlater
    refine ⟨hkept.2, fun thread result hplace => ?_⟩
    have hreturned := hkept.1.agrees thread
    rw [hplace] at hreturned
    exact hreturned.2.trans hkept.2

/-- Two threads look at the cell before either of them has the lock; the second one finds the pool of
the first. -/
def twoThreads : List PoolEvent :=
  [.call 0, .call 1, .move 0, .move 1, .move 0, .move 0, .create 0 (.ok 7), .move 0, .move 0, .move 1,
    .move 1, .move 1, .move 1, .move 0]

theorem getPool_shared_twoThreads :
    ∃ cfg s, (poolThreads true cfg).run twoThreads = .ok s ∧ s.made.length ≤ 1 := by
  let cfg : PoolSettings :=
    { host := py "redis", password := none, port := 6379, db := 0, maxConnections := 20,
      socketTimeout := 5, retryOnTimeout := true, decodeResponses := true }
  have hrun : ∃ s, (poolThreads true cfg).run twoThreads = .ok s := ⟨_, rfl⟩
  obtain ⟨s, hs⟩ := hrun
  exact ⟨cfg, s, hs, (getPool_shared hs).1⟩

/-! ## The start of the service -/

/-- The errors of the Redis client, all below `RedisError`. -/
def isRedisError : PyExc → Bool
  | .redisConnectionError => true
  | .redisTimeoutError => true
  | .redisError _ => true
  | _ => false

/-- `ping`, on what the command meets. -/
def ping (answer : Except PyExc Bool) : Except PyExc Bool :=
  match answer with
  | .ok ready => .ok ready
  | .error e => if isRedisError e then .ok false else .error e

/-- What one turn of the loop meets: the clock when it is entered and when the sleep is computed, and
the server in between. -/
structure WaitRound where
  start : ℚ
  answer : Except PyExc Bool
  reading : ℚ

/-- What `time.sleep` is given. -/
def sleepSecs (deadline checkInterval reading : ℚ) : ℚ := min checkInterval (max 0 (deadline - reading))

/-- What a call meets.  The clock is monotonic, and a sleep lasts at least as long as it was asked
to. -/
structure WaitEnv (timeoutSecs checkInterval : ℚ) where
  now : ℚ
  round : ℕ → WaitRound
  started : now ≤ (round 0).start
  ordered : ∀ k, (round k).start ≤ (round k).reading
  slept : ∀ k, (round k).reading + sleepSecs (now + timeoutSecs) checkInterval (round k).reading
    ≤ (round (k + 1)).start

inductive WaitCall
  | ping (answer : Except PyExc Bool)
  | sleep (secs : ℚ)
  deriving DecidableEq

namespace WaitEnv

variable {timeoutSecs checkInterval : ℚ} (env : WaitEnv timeoutSecs checkInterval)

def deadline : ℚ := env.now + timeoutSecs

/-- The sleep of a turn. -/
def sleep (k : ℕ) : ℚ := sleepSecs env.deadline checkInterval (env.round k).reading

/-- The turns that are left when a turn is entered. -/
def turnsLeft (k : ℕ) : ℕ := ⌈(env.deadline - (env.round k).start) / checkInterval⌉.toNat

/-- A turn that is entered before the deadline sleeps until there is a turn less to go. -/
lemma turnsLeft_succ_lt (hcheck : 0 < checkInterval) {k : ℕ}
    (hentered : (env.round k).start < env.deadline) : env.turnsLeft (k + 1) < env.turnsLeft k := by
  have hordered := env.ordered k
  have hslept : (env.round k).reading + env.sleep k ≤ (env.round (k + 1)).start := env.slept k
  have hpos : 0 < (env.deadline - (env.round k).start) / checkInterval :=
    div_pos (by linarith) hcheck
  have hceil : 0 < ⌈(env.deadline - (env.round k).start) / checkInterval⌉ := Int.ceil_pos.mpr hpos
  by_cases hfull : checkInterval ≤ env.deadline - (env.round k).reading
  · -- the turn sleeps for the whole interval
    have hsleep : env.sleep k = checkInterval := by
      rw [sleep, sleepSecs, max_eq_right (hcheck.le.trans hfull), min_eq_left hfull]
    have hle : (env.deadline - (env.round (k + 1)).start) / checkInterval
        ≤ (env.deadline - (env.round k).start) / checkInterval - 1 := by
      rw [div_sub_one hcheck.ne']
      exact div_le_div_of_nonneg_right (by linarith) hcheck.le
    have hceilLe := Int.ceil_le_ceil hle
    rw [Int.ceil_sub_one] at hceilLe
    simp only [turnsLeft]
    omega
  · -- it sleeps up to the deadline
    have hover : env.deadline ≤ (env.round (k + 1)).start := by
      have hsleep : env.sleep k = max 0 (env.deadline - (env.round k).reading) := by
        refine min_eq_right (max_le hcheck.le (not_le.mp hfull).le)
      have hmax := le_max_right 0 (env.deadline - (env.round k).reading)
      linarith
    have hnone : env.turnsLeft (k + 1) = 0 :=
      Int.toNat_of_nonpos (Int.ceil_nonpos.mpr (div_nonpos_of_nonpos_of_nonneg (by linarith) hcheck.le))
    rw [hnone]
    simp only [turnsLeft]
    omega

end WaitEnv

/-- The text of the error at the deadline; `timeout` is the formatted number of seconds. -/
def unavailable (host port timeout : String) : PyExc :=
  .runtimeError ("Redis at " ++ host ++ ":" ++ port ++ " was unavailable after " ++ timeout ++ " seconds")

section Wait

variable {timeoutSecs checkInterval : ℚ}

/-- The loop of `wait_for_redis`, from a turn on. -/
def waitLoop (env : WaitEnv timeoutSecs checkInterval) (hcheck : 0 < checkInterval) (e : PyExc)
    (k : ℕ) : Traced WaitCall PyExc Unit :=
  if _hentered : (env.round k).start < env.deadline then do
    let ready ← .perform (.ping (ping (env.round k).answer)) (ping (env.round k).answer)
    if ready then return ()
    else
      .perform (.sleep (env.sleep k)) (.ok ())
      waitLoop env hcheck e (k + 1)
  else .raise e
termination_by env.turnsLeft k
decreasing_by exact env.turnsLeft_succ_lt hcheck _hentered

/-- `wait_for_redis`. -/
def waitForRedis (host port timeout : String) (env : WaitEnv timeoutSecs checkInterval) :
    Traced WaitCall PyExc Unit :=
  if h : 0 < timeoutSecs ∧ 0 < checkInterval then
    waitLoop env h.2 (unavailable host port timeout) 0
  else .raise (.valueError "Redis wait timeouts must be positive")

/-- The ways the loop can go from a turn on: the calls, and how it comes out. -/
inductive WaitRun (env : WaitEnv timeoutSecs checkInterval) (e : PyExc) :
    ℕ → List WaitCall → Except PyExc Unit → Prop
  | expired {k : ℕ} (hover : env.deadline ≤ (env.round k).start) : WaitRun env e k [] (.error e)
  | ready {k : ℕ} (hentered : (env.round k).start < env.deadline) :
      WaitRun env e k [.ping (.ok true)] (.ok ())
  | failed {k : ℕ} (hentered : (env.round k).start < env.deadline) (e' : PyExc)
      (he' : isRedisError e' = false) : WaitRun env e k [.ping (.error e')] (.error e')
  | further {k : ℕ} (hentered : (env.round k).start < env.deadline) {calls : List WaitCall}
      {outcome : Except PyExc Unit} (rest : WaitRun env e (k + 1) calls outcome) :
      WaitRun env e k (.ping (.ok false) :: .sleep (env.sleep k) :: calls) outcome

/-- `ping` returns, or raises what is no error of the client. -/
lemma ping_cases (answer : Except PyExc Bool) :
    ping answer = .ok true ∨ ping answer = .ok false ∨
      ∃ e, ping answer = .error e ∧ isRedisError e = false := by
  rcases answer with e | (_ | _)
  · simp only [ping]
    cases he : isRedisError e with
    | true => exact .inr (.inl rfl)
    | false => exact .inr (.inr ⟨e, rfl, he⟩)
  · exact .inr (.inl rfl)
  · exact .inl rfl

/-- The loop goes one of these ways. -/
lemma waitRun_waitLoop (env : WaitEnv timeoutSecs checkInterval) (hcheck : 0 < checkInterval)
    (e : PyExc) (k : ℕ) :
    WaitRun env e k (waitLoop env hcheck e k).calls (waitLoop env hcheck e k).outcome := by
  induction k using waitLoop.induct env hcheck with
  | case1 k hentered ih =>
      rw [waitLoop, dif_pos hentered]
      rcases ping_cases (env.round k).answer with hping | hping | ⟨e', hping, he'⟩
      · rw [hping]
        exact .ready hentered
      · rw [hping]
        exact .further hentered ih
      · rw [hping]
        exact .failed hentered e' he'
  | case2 k hover =>
      rw [waitLoop, dif_neg hover]
      exact .expired (not_lt.mp hover)

def WaitCall.isPing : WaitCall → Bool
  | .ping _ => true
  | .sleep _ => false

/-- The sleeps among the calls. -/
def slept (calls : List WaitCall) : List ℚ :=
  calls.filterMap fun
    | .ping _ => none
    | .sleep secs => some secs

namespace WaitRun

variable {env : WaitEnv timeoutSecs checkInterval} {e : PyExc} {k : ℕ} {calls : List WaitCall}
  {outcome : Except PyExc Unit}

lemma turnsLeft_pos (hcheck : 0 < checkInterval) (hentered : (env.round k).start < env.deadline) :
    0 < env.turnsLeft k :=
  (Nat.zero_le _).trans_lt (env.turnsLeft_succ_lt hcheck hentered)

/-- The server is asked once in every turn. -/
lemma pings_le (h : WaitRun env e k calls outcome) (hcheck : 0 < checkInterval) :
    calls.countP WaitCall.isPing ≤ env.turnsLeft k := by
  induction h with
  | expired hover => exact Nat.zero_le _
  | ready hentered => exact turnsLeft_pos hcheck hentered
  | failed hentered e' he' => exact turnsLeft_pos hcheck hentered
  | further hentered rest ih =>
      have hlt := env.turnsLeft_succ_lt hcheck hentered
      simp only [List.countP_cons, WaitCall.isPing, if_true, Bool.false_eq_true, if_false]
      omega

/-- A sleep is no longer than the interval. -/
lemma sleep_mem (h : WaitRun env e k calls outcome) (hcheck : 0 < checkInterval) {secs : ℚ}
    (hsecs : secs ∈ slept calls) : 0 ≤ secs ∧ secs ≤ checkInterval := by
  induction h with
  | expired hover => cases hsecs
  | ready hentered => cases hsecs
  | failed hentered e' he' => cases hsecs
  | further hentered rest ih =>
      rcases List.mem_cons.mp hsecs with rfl | hsecs
      · exact ⟨le_min hcheck.le (le_max_left _ _), min_le_left _ _⟩
      · exact ih hsecs

/-- Together the sleeps fit into the time up to the deadline. -/
lemma sum_slept_le (h : WaitRun env e k calls outcome) :
    (slept calls).sum ≤ max 0 (env.deadline - (env.round k).start) := by
  induction h with
  | expired hover => exact le_max_left _ _
  | ready hentered => exact le_max_left _ _
  | failed hentered e' he' => exact le_max_left _ _
  | @further k hentered calls outcome rest ih =>
      have hordered := env.ordered k
      have hslept : (env.round k).reading + env.sleep k ≤ (env.round (k + 1)).start := env.slept k
      have hsleep : env.sleep k ≤ max 0 (env.deadline - (env.round k).reading) := min_le_right _ _
      have hsum : (slept (.ping (.ok false) :: .sleep (env.sleep k) :: calls)).sum
          = env.sleep k + (slept calls).sum := List.sum_cons
      rw [hsum, max_eq_right (by linarith)]
      rcases le_total 0 (env.deadline - (env.round (k + 1)).start) with hbefore | hafter
      · rw [max_eq_right hbefore] at ih
        linarith
      · rw [max_eq_left hafter] at ih
        have hmax : max 0 (env.deadline - (env.round k).reading) ≤ env.deadline - (env.round k).start :=
          max_le (by linarith) (by linarith)
        linarith

/-- The loop returns on the first answer that is not a refusal. -/
lemma outcome_eq_ok_iff (h : WaitRun env e k calls outcome) :
    outcome = .ok () ↔ .ping (.ok true) ∈ calls := by
  induction h with
  | expired hover => simp
  | ready hentered => simp
  | failed hentered e' he' => simp
  | further hentered rest ih => simp [ih]

/-- It raises at the deadline, or what `ping` lets through. -/
lemma of_error (h : WaitRun env e k calls outcome) {e' : PyExc} (herror : outcome = .error e') :
    (e' = e ∧ (∀ answer, .ping answer ∈ calls → answer = .ok false) ∧
        ∃ n, env.deadline ≤ (env.round n).start) ∨
      isRedisError e' = false ∧ .ping (.error e') ∈ calls := by
  induction h with
  | expired hover =>
      cases herror
      exact .inl ⟨rfl, by simp, _, hover⟩
  | ready hentered => cases herror
  | failed hentered e' he' =>
      cases herror
      exact .inr ⟨he', List.mem_cons_self⟩
  | further hentered rest ih =>
      rcases ih herror with ⟨he, hall, hover⟩ | ⟨he, hmem⟩
      · exact .inl ⟨he, by simpa using hall, hover⟩
      · exact .inr ⟨he, List.mem_cons_of_mem _ (List.mem_cons_of_mem _ hmem)⟩

end WaitRun

/-- A server that is ready after two seconds. -/
def slowServer : WaitEnv 30 1 where
  now := 0
  round k := ⟨k, .ok (decide (2 ≤ k)), k⟩
  started := le_rfl
  ordered _ := le_rfl
  slept k := by
    have hsleep : sleepSecs (0 + 30) 1 (k : ℚ) ≤ 1 := min_le_left _ _
    push_cast
    linarith

end Wait

end Watchtower
