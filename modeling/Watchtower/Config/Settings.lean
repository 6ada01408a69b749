import Watchtower.Python.Path
import Watchtower.Python.Url

/-!
# Settings and their validation

`Settings.validate` is what stands between the environment and a running service.  Every check
raises with its own text; the first one that fails decides.

* `envInt`, `envFloat` — numbers from the environment, each within a range of its own.
* `validateHttpUrl` — `_validate_http_url`, the guard on every configured URL.
* `Settings.validate` — all checks, in their order.
* **`validateHttpUrl_ok`** — what an accepted URL is known to be.
-/

namespace Watchtower

open Core Py

/-- Raise unless the condition holds. -/
def require (condition : Bool) (e : PyExc) : Except PyExc Unit :=
  if condition then .ok () else .error e

@[simp] lemma require_eq_ok {condition : Bool} {e : PyExc} :
    require condition e = .ok () ↔ condition = true := by
  cases condition
  · simp [require]
  · simp [require]

/-- A sequence that opens with a check succeeds when the check and the rest do. -/
lemma check_bind_eq_ok {α : Type} {check : Except PyExc Unit} {f : Except PyExc α} {a : α} :
    (check >>= fun _ => f) = .ok a ↔ check = .ok () ∧ f = .ok a := by
  rw [bind_eq_ok_iff]
  constructor
  · rintro ⟨_, hcheck, hf⟩
    exact ⟨hcheck, hf⟩
  · rintro ⟨hcheck, hf⟩
    exact ⟨(), hcheck, hf⟩

/-- A loop of checks succeeds when each of them does. -/
lemma forM_eq_ok {α : Type} {xs : List α} {f : α → Except PyExc Unit} :
    xs.forM f = .ok () ↔ ∀ x ∈ xs, f x = .ok () := by
  induction xs with
  | nil => simp [List.forM_nil, pure, Except.pure]
  | cons x xs ih =>
      have hcons : (x :: xs).forM f = (f x >>= fun _ => xs.forM f) := rfl
      rw [hcons, check_bind_eq_ok, ih, List.forall_mem_cons]

/-! ## Numbers from the environment -/

/-- `_env_int`, given the text of the variable and `int`. -/
def envInt (int : PyStr → Option ℤ) (name : String) (default minimum maximum : ℤ)
    (raw : Option PyStr) : Except PyExc ℤ :=
  match raw with
  | none => .ok default
  | some raw =>
      match int raw with
      | none => .error (.valueError (name ++ " must be an integer"))
      | some value =>
          if minimum ≤ value ∧ value ≤ maximum then .ok value
          else .error (.valueError (name ++ " must be between " ++ toString minimum ++ " and " ++
            toString maximum))

/-- A number that was read is within its bounds. -/
theorem envInt_mem {int : PyStr → Option ℤ} {name : String} {default minimum maximum value : ℤ}
    {raw : Option PyStr} (hdefault : minimum ≤ default ∧ default ≤ maximum)
    (h : envInt int name default minimum maximum raw = .ok value) :
    minimum ≤ value ∧ value ≤ maximum := by
  unfold envInt at h
  split at h
  · cases h
    exact hdefault
  · split at h
    · cases h
    · split_ifs at h with hbounds
      cases h
      exact hbounds

/-- A bound of a range of floats, and the text it has in an error. -/
structure FloatBound where
  value : ℚ
  text : String

/-- `_env_float`, given the text of the variable and `float`.  Neither an infinity nor NaN lies
between two finite bounds. -/
def envFloat (float : PyStr → Option PyFloat) (name : String) (default : ℚ)
    (minimum maximum : FloatBound) (raw : Option PyStr) : Except PyExc ℚ :=
  let outOfRange : PyExc :=
    .valueError (name ++ " must be between " ++ minimum.text ++ " and " ++ maximum.text)
  match raw with
  | none => .ok default
  | some raw =>
      match float raw with
      | none => .error (.valueError (name ++ " must be numeric"))
      | some (.finite q) =>
          if minimum.value ≤ q.val ∧ q.val ≤ maximum.value then .ok q.val else .error outOfRange
      | some _ => .error outOfRange

/-- A float that was read is within its bounds. -/
theorem envFloat_mem {float : PyStr → Option PyFloat} {name : String} {default value : ℚ}
    {minimum maximum : FloatBound} {raw : Option PyStr}
    (hdefault : minimum.value ≤ default ∧ default ≤ maximum.value)
    (h : envFloat float name default minimum maximum raw = .ok value) :
    minimum.value ≤ value ∧ value ≤ maximum.value := by
  unfold envFloat at h
  split at h
  · cases h
    exact hdefault
  · split at h
    · cases h
    · split_ifs at h with hbounds
      cases h
      exact hbounds
    · cases h

/-! ## URLs -/

section Urls

variable [UnicodeData] [Normalization]

omit [Normalization] in
/-- The host as the validator looks at it: `parsed.hostname.lower().rstrip(".")`. -/
def normalHost (host : PyStr) : PyStr := rstripChar dot (lower host)

/-- The part of `_validate_http_url` that may raise while the URL is taken apart. -/
def splitHttpUrl (value : PyStr) : Except PyExc (SplitResult × Option ℕ) := do
  let parsed ← urlsplit value
  let port ← parsed.port
  return (parsed, port)

omit [Normalization] in
/-- The checks on an address literal. -/
def validateAddress (name : String) (allowLoopback : Bool) (address : IpAddress) :
    Except PyExc Unit := do
  require (!address.isInternal) (.valueError (name ++ " targets a prohibited address range"))
  require (!address.isLoopback || allowLoopback)
    (.valueError (name ++ " must not target a loopback address"))

/-- `_validate_http_url`. -/
def validateHttpUrl (value : PyStr) (name : String) (requireHttps allowLoopback : Bool) :
    Except PyExc Unit :=
  match splitHttpUrl value with
  | .error _ => .error (.valueError (name ++ " contains an invalid URL"))
  | .ok (parsed, port) => do
      let allowed := if requireHttps then [py "https"] else [py "http", py "https"]
      require (allowed.contains (lower parsed.scheme))
        (.valueError (name ++ " must use " ++ if requireHttps then "HTTPS" else "HTTP or HTTPS"))
      let host := parsed.hostname.getD []
      require (!host.isEmpty) (.valueError (name ++ " must include a hostname"))
      require ((parsed.username.getD []).isEmpty && (parsed.password.getD []).isEmpty)
        (.valueError (name ++ " must not contain credentials"))
      require (parsed.fragment.isEmpty && parsed.query.isEmpty)
        (.valueError (name ++ " must not contain a query string or fragment"))
      require (!parsed.path.isEmpty && parsed.path != py "/")
        (.valueError (name ++ " must identify an explicit health endpoint path"))
      require ((port.map fun p => decide (1 ≤ p ∧ p ≤ 65535)).getD true)
        (.valueError (name ++ " contains an invalid port"))
      let host := normalHost host
      require (host != py "localhost" || allowLoopback)
        (.valueError (name ++ " must not target localhost"))
      match ipAddress host with
      | none => .ok ()
      | some address => validateAddress name allowLoopback address

/-- What is known of a URL that must use HTTPS and must not lead back to this machine. -/
structure AcceptedUrl (value : PyStr) (parsed : SplitResult) (host : PyStr) : Prop where
  split : urlsplit value = .ok parsed
  hostname : parsed.hostname = some host
  host_ne_nil : host ≠ []
  path_ne_nil : parsed.path ≠ []
  path_ne_root : parsed.path ≠ py "/"
  query_nil : parsed.query = []
  fragment_nil : parsed.fragment = []
  not_prohibited : ∀ a, ipAddress (normalHost host) = some a → a.prohibited = false

/-- **What an accepted URL is known to be.** -/
theorem validateHttpUrl_ok {value : PyStr} {name : String} {requireHttps : Bool}
    (h : validateHttpUrl value name requireHttps false = .ok ()) :
    ∃ parsed host, AcceptedUrl value parsed host := by
  simp only [validateHttpUrl] at h
  split at h
  · cases h
  · next parsed port hsplit =>
      obtain ⟨p, hp, hport⟩ := bind_eq_ok_iff.mp hsplit
      obtain ⟨_, -, hpair⟩ := bind_eq_ok_iff.mp hport
      cases hpair
      simp only [check_bind_eq_ok, require_eq_ok, Bool.and_eq_true, Bool.not_eq_true', bne_iff_ne,
        ne_eq, List.isEmpty_iff, List.isEmpty_eq_false_iff] at h
      obtain ⟨-, hhost, -, ⟨hfragment, hquery⟩, ⟨hpath, hroot⟩, -, -, haddress⟩ := h
      cases hname : parsed.hostname with
      | none => simp [hname] at hhost
      | some host =>
          rw [hname, Option.getD_some] at hhost haddress
          refine ⟨parsed, host, hp, hname, hhost, hpath, hroot, hquery, hfragment, fun a ha => ?_⟩
          rw [ha] at haddress
          simp only [validateAddress, check_bind_eq_ok, require_eq_ok, Bool.or_false,
            Bool.not_eq_true'] at haddress
          rw [IpAddress.prohibited, haddress.1, haddress.2]
          rfl

end Urls

/-! ## The records -/

structure RedisSettings where
  host : PyStr
  password : Option PyStr

structure NotifierSettings where
  slackWebhookUrl : Option PyStr
  telegramBotToken : Option PyStr
  telegramChatId : Option PyStr
  genericWebhookUrl : Option PyStr
  minAlertSeverity : PyStr

structure ApiWatcherSettings where
  targetUrls : List PyStr
  failureThreshold : ℤ
  latencyWarnMs : PyFloat

/-- `API_FAILURE_THRESHOLD` is read from the environment. -/
def failureThresholdFromEnv (int : PyStr → Option ℤ) (raw : Option PyStr) : Except PyExc ℤ :=
  envInt int "API_FAILURE_THRESHOLD" 3 1 100 raw

/-- The default of `API_LATENCY_WARN_MS`. -/
def defaultLatencyWarnMs : PyFloat := .finite ⟨2000, by decide +kernel⟩

structure CodeWatcherSettings where
  watchPaths : List PyStr
  watchExtensions : List PyStr
  ignorePaths : List PyStr
  secretPatternsEnabled : Bool

structure Settings where
  redis : RedisSettings
  notifier : NotifierSettings
  apiWatcher : ApiWatcherSettings
  codeWatcher : CodeWatcherSettings
  env : PyStr
  platform : PyStr

/-! ## Validation -/

/-- `re.fullmatch(r"[0-9]{6,15}:[A-Za-z0-9_-]{20,}", token)`. -/
def isBotToken (token : PyStr) : Bool :=
  let (id, found, secret) := partition colon token
  found && id.all isDigit && decide (6 ≤ id.length ∧ id.length ≤ 15) &&
    secret.all (fun c => isLetter c || isDigit c || decide (c.val ∈ [95, 45])) &&
    decide (20 ≤ secret.length)

/-- `re.fullmatch(r"-?[0-9]{1,24}", chat_id)`. -/
def isChatId (chatId : PyStr) : Bool :=
  let digits := match chatId with
    | 45 :: rest => rest
    | _ => chatId
  digits.all isDigit && decide (1 ≤ digits.length ∧ digits.length ≤ 24)

variable [UnicodeData] [Normalization]

namespace Settings

def validateRedis (s : RedisSettings) : Except PyExc Unit := do
  require (!s.host.isEmpty && !s.host.any isSpace) (.valueError "REDIS_HOST is invalid")
  let password := s.password.getD []
  require (decide (20 ≤ password.length) && !(py "replace-with-").isPrefixOf password)
    (.valueError "REDIS_PASSWORD must be a non-placeholder secret of at least 20 characters")

def validateTargets (s : ApiWatcherSettings) : Except PyExc Unit := do
  require (!s.targetUrls.isEmpty)
    (.valueError "API_WATCHER_TARGETS must contain at least one endpoint")
  require (decide (s.targetUrls.length ≤ 100))
    (.valueError "API_WATCHER_TARGETS cannot contain more than 100 endpoints")
  s.targetUrls.forM fun target => validateHttpUrl target "API_WATCHER_TARGETS" true false

/-- An optional text that is set and not empty has to pass the check. -/
def whenSet (text : Option PyStr) (check : PyStr → Except PyExc Unit) : Except PyExc Unit :=
  match text with
  | some (c :: s) => check (c :: s)
  | _ => .ok ()

def validateNotifier (s : NotifierSettings) : Except PyExc Unit := do
  require ([py "LOW", py "MEDIUM", py "HIGH", py "CRITICAL"].contains s.minAlertSeverity)
    (.valueError "MIN_ALERT_SEVERITY is invalid")
  require ((s.telegramBotToken.getD []).isEmpty == (s.telegramChatId.getD []).isEmpty)
    (.valueError "TELEGRAM_BOT_TOKEN and TELEGRAM_CHAT_ID must be configured together")
  whenSet s.telegramBotToken fun token =>
    require (isBotToken token) (.valueError "TELEGRAM_BOT_TOKEN has an invalid format")
  whenSet s.telegramChatId fun chatId =>
    require (isChatId chatId) (.valueError "TELEGRAM_CHAT_ID has an invalid format")
  whenSet s.slackWebhookUrl fun url => validateHttpUrl url "SLACK_WEBHOOK_URL" true false
  whenSet s.genericWebhookUrl fun url => validateHttpUrl url "GENERIC_WEBHOOK_URL" true false

/-- The paths are made absolute from the current directory `cwd`. -/
def validateCode (cwd : PyStr) (s : CodeWatcherSettings) : Except PyExc Unit := do
  require (!s.watchPaths.isEmpty) (.valueError "CODE_WATCH_PATHS must contain at least one path")
  s.watchPaths.forM fun path =>
    require (decide (path.length ≤ 4096) && !path.contains 0 && abspath cwd path != py "/")
      (.valueError "CODE_WATCH_PATHS contains an unsafe path")
  require (s.watchExtensions.all fun extension =>
      (py ".").isPrefixOf extension && !extension.contains 47 && !extension.contains 92)
    (.valueError "CODE_WATCH_EXTENSIONS contains an invalid extension")

/-- `Settings.validate`. -/
def validate (cwd : PyStr) (s : Settings) : Except PyExc Unit := do
  require (s.env == py "production")
    (.runtimeErrorRepr "WATCHTOWER_ENV=" (.str s.env)
      " is not allowed; this Watchtower build is production-only")
  require (!s.platform.isEmpty && decide (s.platform.length ≤ 100))
    (.valueError "PLATFORM_NAME must contain 1 to 100 characters")
  validateRedis s.redis
  validateTargets s.apiWatcher
  validateNotifier s.notifier
  validateCode cwd s.codeWatcher

/-- **Every configured target passed the guard on URLs.** -/
theorem targets_accepted {cwd : PyStr} {s : Settings} (h : s.validate cwd = .ok ()) :
    ∀ target ∈ s.apiWatcher.targetUrls, ∃ parsed host, AcceptedUrl target parsed host := by
  simp only [validate, check_bind_eq_ok] at h
  obtain ⟨-, -, -, htargets, -⟩ := h
  simp only [validateTargets, check_bind_eq_ok, forM_eq_ok] at htargets
  exact fun target htarget => validateHttpUrl_ok (htargets.2.2 target htarget)

/-- The platform name is not empty and of at most 100 characters. -/
lemma platform_accepted {cwd : PyStr} {s : Settings} (h : s.validate cwd = .ok ()) :
    s.platform ≠ [] ∧ s.platform.length ≤ 100 := by
  simp only [validate, check_bind_eq_ok, require_eq_ok, Bool.and_eq_true, Bool.not_eq_true',
    List.isEmpty_eq_false_iff, decide_eq_true_eq] at h
  exact h.2.1

end Settings

/-- Settings of a production deployment, up to the paths that are watched. -/
def deployment (watchPaths : List PyStr) : Settings where
  redis := { host := py "redis", password := some (py "correct-horse-battery-staple") }
  notifier :=
    { slackWebhookUrl := none, telegramBotToken := none, telegramChatId := none,
      genericWebhookUrl := none, minAlertSeverity := py "HIGH" }
  apiWatcher :=
    { targetUrls := [py "https://api.example.com/health"], failureThreshold := 3,
      latencyWarnMs := defaultLatencyWarnMs }
  codeWatcher :=
    { watchPaths := watchPaths, watchExtensions := [py ".py"], ignorePaths := [],
      secretPatternsEnabled := true }
  env := py "production"
  platform := py "multi-service-platform"

end Watchtower
