import Watchtower.Config.Settings

/-!
# Where a probe may connect

Two guards stand between a configured target and a connection.  The validator looks at address
literals in the URL, `SafeResolver` at the addresses a name resolves to.  A host that looks like an
address never reaches the resolver: the client hands it to the operating system.

* `SafeResolver.resolve` — the check on every resolved address.
* `probeAddresses` — the addresses a probe of a URL may connect to.
* `Misread` — the spellings of an address that only the operating system understands.
* **`probes_safe_iff`** — accepted targets lead to no prohibited address exactly when none is misread.
-/

namespace Watchtower

open Core Py

/-! ## The resolver -/

/-- The address in a result of the resolver: `ip_address(str(result["host"]).split("%", 1)[0])`. -/
def resolvedAddress (host : PyStr) : Except PyExc IpAddress :=
  match ipAddress (partition percent host).1 with
  | some a => .ok a
  | none => .error (.valueErrorRepr "does not appear to be an IPv4 or IPv6 address" (.str host))

/-- The check on one result. -/
def checkResolved (allowLoopback : Bool) (host : PyStr) : Except PyExc Unit := do
  let address ← resolvedAddress host
  if address.isLoopback then
    require allowLoopback (.osError "hostname resolved to a prohibited address")
  else
    require (!address.isInternal) (.osError "hostname resolved to a prohibited address")

/-- `SafeResolver.resolve`, given what the underlying resolver returns. -/
def SafeResolver.resolve (allowLoopback : Bool) (results : List PyStr) :
    Except PyExc (List PyStr) := do
  require (!results.isEmpty) (.osError "hostname did not resolve")
  results.forM (checkResolved allowLoopback)
  return results

lemma SafeResolver.resolve_ok {allowLoopback : Bool} {results kept : List PyStr}
    (h : resolve allowLoopback results = .ok kept) :
    kept = results ∧ ∀ result ∈ results, checkResolved allowLoopback result = .ok () := by
  simp only [resolve, check_bind_eq_ok, forM_eq_ok] at h
  obtain ⟨-, hchecked, hkept⟩ := h
  cases hkept
  exact ⟨rfl, hchecked⟩

lemma exists_ipAddress_of_checkResolved {allowLoopback : Bool} {host : PyStr}
    (h : checkResolved allowLoopback host = .ok ()) :
    ∃ a, ipAddress (partition percent host).1 = some a := by
  obtain ⟨a, ha, -⟩ := bind_eq_ok_iff.mp h
  unfold resolvedAddress at ha
  split at ha
  · next b hb => exact ⟨b, hb⟩
  · cases ha

/-- A resolved address that passed is not prohibited. -/
lemma prohibited_of_checkResolved {host : PyStr} {a : IpAddress}
    (h : checkResolved false host = .ok ()) (ha : ipAddress (partition percent host).1 = some a) :
    a.prohibited = false := by
  simp only [checkResolved, resolvedAddress, ha, ok_bind] at h
  split_ifs at h with hloop
  · simp [require] at h
  · simp only [require_eq_ok, Bool.not_eq_true'] at h
    simp [IpAddress.prohibited, h, hloop]

/-- The connection goes to the address that was checked. -/
lemma systemAddress_of_resolved {isInterface : PyStr → Bool} {host : PyStr} {a b : IpAddress}
    (ha : ipAddress (partition percent host).1 = some a)
    (hb : systemAddress isInterface host = some b) : a = b := by
  by_cases hcolon : colon ∈ host
  · rw [systemAddress, if_pos hcolon] at hb
    simp only at hb
    split_ifs at hb
    obtain ⟨n, hn, rfl⟩ := Option.map_eq_some_iff.mp hb
    rw [ipAddress_of_colon (chars_of_parseIPv6 hn).1, parseScopedIPv6,
      partition_of_not_mem (not_mem_partition percent host)] at ha
    simp only [Bool.false_eq_true, false_and, if_false, hn] at ha
    split_ifs at ha
    exact (Option.some.inj ha).symm
  · rw [systemAddress, if_neg hcolon] at hb
    obtain ⟨n, hn, rfl⟩ := Option.map_eq_some_iff.mp hb
    have hpercent : percent ∉ host := by
      intro hmem
      rcases isDigit_or_dot_of_inetAton hn hmem with h | h
      · exact absurd h (by decide)
      · exact absurd h (by decide)
    rw [partition_of_not_mem hpercent] at ha
    exact ipAddress_of_inetAton hcolon ha hn

/-! ## The probe -/

section Probe

variable [UnicodeData]

/-- The addresses a probe of a host may connect to.  A literal goes to the system as it is; `results` is
what a lookup of any other name returns.  `isInterface` says which zones name a network interface. -/
def hostAddresses (isInterface : PyStr → Bool) (results : List PyStr) (host : PyStr) :
    List IpAddress :=
  if isLiteral host then (systemAddress isInterface host).toList
  else
    match SafeResolver.resolve false results with
    | .ok results => results.filterMap (systemAddress isInterface)
    | .error _ => []

omit [UnicodeData] in
/-- No lookup leads to a prohibited address. -/
lemma hostAddresses_of_name {isInterface : PyStr → Bool} {results : List PyStr} {host : PyStr}
    (h : isLiteral host = false) :
    ∀ a ∈ hostAddresses isInterface results host, a.prohibited = false := by
  intro a ha
  rw [hostAddresses, if_neg (by simp [h])] at ha
  cases hresolve : SafeResolver.resolve false results with
  | error e => simp [hresolve] at ha
  | ok kept =>
      obtain ⟨rfl, hchecked⟩ := SafeResolver.resolve_ok hresolve
      simp only [hresolve, List.mem_filterMap] at ha
      obtain ⟨result, hmem, hb⟩ := ha
      obtain ⟨b, hb'⟩ := exists_ipAddress_of_checkResolved (hchecked result hmem)
      exact systemAddress_of_resolved hb' hb ▸ prohibited_of_checkResolved (hchecked result hmem) hb'

/-- A literal host that `ip_address` does not read, although the system reads it as a prohibited
address: a short, decimal or octal spelling of an IPv4 address, or an IPv6 address whose zone consists
of dots. -/
def Misread (isInterface : PyStr → Bool) (host : PyStr) : Prop :=
  isLiteral host = true ∧ ipAddress (normalHost host) = none ∧
    ∃ a, systemAddress isInterface host = some a ∧ a.prohibited = true

/-- For an accepted host, a literal leads to a prohibited address exactly when it is misread. -/
lemma hostAddresses_of_literal {isInterface : PyStr → Bool} {host : PyStr} (results : List PyStr)
    (hliteral : isLiteral host = true)
    (hlow : ∀ c ∈ (partition percent host).1, ¬ (65 ≤ c.val ∧ c.val ≤ 90))
    (haccepted : ∀ a, ipAddress (normalHost host) = some a → a.prohibited = false) :
    (∀ a ∈ hostAddresses isInterface results host, a.prohibited = false) ↔
      ¬ Misread isInterface host := by
  simp only [hostAddresses, hliteral, if_true, Option.mem_toList]
  constructor
  · rintro h ⟨-, -, a, ha, hprohibited⟩
    rw [h a ha] at hprohibited
    cases hprohibited
  · intro h b hb
    cases ha : ipAddress (normalHost host) with
    | none => exact Bool.eq_false_of_not_eq_true fun hprohibited => h ⟨hliteral, ha, b, hb, hprohibited⟩
    | some a =>
        have hab : a = b := literal_agrees hliteral hlow ha hb
        exact hab ▸ haccepted a ha

variable [Normalization]

/-- The addresses a probe of a URL may connect to. -/
def probeAddresses (isInterface : PyStr → Bool) (results : List PyStr) (url : PyStr) :
    List IpAddress :=
  match urlsplit url with
  | .ok parsed => hostAddresses isInterface results (parsed.hostname.getD [])
  | .error _ => []

/-- **Accepted targets lead to no prohibited address, whatever their names resolve to, exactly when none
of them spells one in a way that only the operating system understands.** -/
theorem probes_safe_iff {cwd : PyStr} {settings : Settings} (h : settings.validate cwd = .ok ())
    (isInterface : PyStr → Bool) :
    (∀ url ∈ settings.apiWatcher.targetUrls, ∀ results,
        ∀ a ∈ probeAddresses isInterface results url, a.prohibited = false) ↔
      ∀ url ∈ settings.apiWatcher.targetUrls, ∀ parsed host, urlsplit url = .ok parsed →
        parsed.hostname = some host → ¬ Misread isInterface host := by
  refine forall₂_congr fun url hurl => ?_
  obtain ⟨parsed, host, haccepted⟩ := Settings.targets_accepted h url hurl
  have hlow := SplitResult.not_upper_of_hostname haccepted.hostname
  have haddresses : ∀ results,
      probeAddresses isInterface results url = hostAddresses isInterface results host := by
    intro results
    simp only [probeAddresses, haccepted.split, haccepted.hostname, Option.getD_some]
  constructor
  · intro hsafe parsed' host' hsplit hname
    cases haccepted.split.symm.trans hsplit
    cases haccepted.hostname.symm.trans hname
    cases hliteral : isLiteral host with
    | false => exact fun hmisread => by simp [hmisread.1] at hliteral
    | true =>
        rw [← hostAddresses_of_literal [] hliteral hlow haccepted.not_prohibited,
          ← haddresses []]
        exact hsafe []
  · intro hread results
    rw [haddresses results]
    cases hliteral : isLiteral host with
    | false => exact hostAddresses_of_name hliteral
    | true =>
        refine (hostAddresses_of_literal results hliteral hlow haccepted.not_prohibited).mpr ?_
        exact hread parsed host haccepted.split haccepted.hostname

end Probe

/-! ## A short spelling -/

section Short

attribute [local instance] asciiData asciiNormalization

/-- Settings with one target, valid but for what the target may be. -/
def settingsFor (target : PyStr) : Settings where
  redis := { host := py "redis", password := some (py "correct-horse-battery-staple") }
  notifier :=
    { slackWebhookUrl := none, telegramBotToken := none, telegramChatId := none,
      genericWebhookUrl := none, minAlertSeverity := py "HIGH" }
  apiWatcher :=
    { targetUrls := [target], failureThreshold := 3,
      latencyWarnMs := defaultLatencyWarnMs }
  codeWatcher :=
    { watchPaths := [py "./src"], watchExtensions := [py ".py"], ignorePaths := [],
      secretPatternsEnabled := true }
  env := py "production"
  platform := py "multi-service-platform"

/-- The loopback address, spelled with two numbers. -/
def shortLoopback : PyStr := py "https://127.1/health"

theorem probes_safe_iff_shortLoopback :
    (settingsFor shortLoopback).validate (py "/app") = .ok () ∧
      ((∀ url ∈ (settingsFor shortLoopback).apiWatcher.targetUrls, ∀ results,
          ∀ a ∈ probeAddresses (fun _ => false) results url, a.prohibited = false) ↔
        ∀ url ∈ (settingsFor shortLoopback).apiWatcher.targetUrls, ∀ parsed host,
          urlsplit url = .ok parsed → parsed.hostname = some host →
            ¬ Misread (fun _ => false) host) :=
  have haccepted : (settingsFor shortLoopback).validate (py "/app") = .ok () := by decide +kernel
  ⟨haccepted, probes_safe_iff haccepted fun _ => false⟩

/-- The validator accepts the short spelling and the probe connects to 127.0.0.1. -/
theorem shortLoopback_reached :
    (settingsFor shortLoopback).validate (py "/app") = .ok () ∧
      probeAddresses (fun _ => false) [] shortLoopback = [.v4 (quad 127 0 0 1)] ∧
      (IpAddress.v4 (quad 127 0 0 1)).prohibited = true := by
  decide +kernel

end Short

end Watchtower
