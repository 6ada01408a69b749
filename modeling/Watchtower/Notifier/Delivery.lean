import Watchtower.Config.Settings
import Watchtower.Core.Traced
import Watchtower.Notifier.Payload
import Watchtower.Schema.Report

/-!
# Delivery

`send_alert` posts an alert to one configured channel after the other, unless its severity is below
the threshold.  An error of `requests` counts as a failed delivery; any other exception ends the call.

* `shouldNotify` — `_should_notify`.
* `post` — `_post`, on what the request meets.
* `sendAlert` — `send_alert`, with every request it makes and every response it closes.
* `sendVia_eq` — what becomes of one channel.
* **`sendAlert_exchanges`** — every configured channel is tried once, whatever the others met, up to
  an exception that is none of `requests`.
-/

namespace Watchtower

open Core Py

/-! ## The threshold -/

/-- What `send_alert` may raise: a threshold that is no severity, or an exception on the way. -/
inductive NotifierExc
  | keyError (key : PyStr)
  | raised (e : PyExc)

/-- `_SEV_ORDER.get`. -/
def severityOrder (severity : PyStr) : Option ℕ :=
  (Severity.members.find? fun s => s.value == severity).map Severity.numeric

@[simp] lemma severityOrder_value (s : Severity) : severityOrder s.value = some s.numeric := by
  cases s <;> decide

section Delivery

variable [UnicodeData]

/-- `_should_notify`. -/
def shouldNotify (settings : NotifierSettings) (alert : CorrelatedAlert) : Except NotifierExc Bool :=
  match severityOrder settings.minAlertSeverity with
  | none => .error (.keyError settings.minAlertSeverity)
  | some threshold => .ok (decide (threshold ≤ (severityOrder alert.severity.val).getD 0))

/-! ## Requests -/

inductive Channel
  | slack
  | telegram
  | webhook
  deriving DecidableEq

/-- The arguments of the `POST`; redirects are not followed. -/
structure PostRequest where
  url : PyStr
  json : PyVal
  timeoutSecs : ℚ
  headers : List (PyStr × PyStr)
  deriving DecidableEq

/-- What a `POST` meets: a response, and whether it is `ok`, or an exception. -/
inductive PostOutcome
  | response (ok : Bool)
  | timeout
  | requestException
  /-- An exception that is none of `requests`. -/
  | raised (e : PyExc)
  deriving DecidableEq

inductive NotifierCall
  | post (channel : Channel) (request : PostRequest)
  /-- `response.close()`. -/
  | close (channel : Channel)
  deriving DecidableEq

/-- The request `_post` makes. -/
def postRequest (timeoutSecs : ℚ) (url : PyStr) (payload : PyVal) (idempotencyKey : PyStr) :
    PostRequest where
  url := url
  json := payload
  timeoutSecs := timeoutSecs
  headers :=
    [(py "Content-Type", py "application/json"), (py "Idempotency-Key", idempotencyKey),
      (py "User-Agent", py "SecurityWatchtower/3.0.0")]

/-- `_post`. -/
def post (channel : Channel) (request : PostRequest) :
    PostOutcome → Traced NotifierCall NotifierExc Bool
  | .response ok => Traced.closing ⟨[.post channel request], .ok ok⟩ ⟨[.close channel], .ok ()⟩
  | .timeout => ⟨[.post channel request], .ok false⟩
  | .requestException => ⟨[.post channel request], .ok false⟩
  | .raised e => ⟨[.post channel request], .error (.raised e)⟩

/-! ## `send_alert` -/

/-- A setting that is neither missing nor empty. -/
def configuredText : Option PyStr → Option PyStr
  | some (c :: s) => some (c :: s)
  | _ => none

variable [WordData] (settings : NotifierSettings) (timeoutSecs : ℚ) (alert : CorrelatedAlert)

/-- The URL and the payload of a channel that is configured. -/
def target : Channel → Option (PyStr × PyVal)
  | .slack => (configuredText settings.slackWebhookUrl).map fun url => (url, buildSlackPayload alert)
  | .telegram =>
      match configuredText settings.telegramBotToken, configuredText settings.telegramChatId with
      | some token, some chatId =>
          some (py "https://api.telegram.org/bot" ++ token ++ py "/sendMessage",
            buildTelegramPayload alert chatId)
      | _, _ => none
  | .webhook =>
      (configuredText settings.genericWebhookUrl).map fun url => (url, buildWebhookPayload alert)

/-- The request a channel is sent. -/
def requestFor (channel : Channel) : Option PostRequest :=
  (target settings alert channel).map fun t =>
    postRequest timeoutSecs t.1 t.2 alert.fingerprint.val

/-- The numbers of attempted and of accepted deliveries. -/
structure Tally where
  attempted : ℕ
  delivered : ℕ
  deriving DecidableEq

variable (met : Channel → PostOutcome)

/-- The block of `send_alert` about one channel. -/
def sendVia (tally : Tally) (channel : Channel) : Traced NotifierCall NotifierExc Tally :=
  match requestFor settings timeoutSecs alert channel with
  | none => pure tally
  | some request => do
      let accepted ← post channel request (met channel)
      return { attempted := tally.attempted + 1, delivered := tally.delivered + accepted.toNat }

/-- `send_alert`. -/
def sendAlert : Traced NotifierCall NotifierExc Bool := do
  let notify ← ⟨[], shouldNotify settings alert⟩
  if notify then
    let tally ← sendVia settings timeoutSecs alert met ⟨0, 0⟩ .slack
    let tally ← sendVia settings timeoutSecs alert met tally .telegram
    let tally ← sendVia settings timeoutSecs alert met tally .webhook
    if tally.attempted = 0 then return false
    else if tally.delivered = 0 then return false
    else return true
  else return true

/-! ## What is posted -/

/-- The channels, in the order in which they are tried. -/
def allChannels : List Channel := [.slack, .telegram, .webhook]

/-- The channel has an address. -/
def isConfigured (settings : NotifierSettings) : Channel → Bool
  | .slack => (configuredText settings.slackWebhookUrl).isSome
  | .telegram =>
      (configuredText settings.telegramBotToken).isSome
        && (configuredText settings.telegramChatId).isSome
  | .webhook => (configuredText settings.genericWebhookUrl).isSome

lemma isSome_requestFor (channel : Channel) :
    (requestFor settings timeoutSecs alert channel).isSome = isConfigured settings channel := by
  cases channel with
  | telegram =>
      simp only [requestFor, target, isConfigured, Option.isSome_map]
      cases configuredText settings.telegramBotToken with
      | none => rfl
      | some token => cases configuredText settings.telegramChatId <;> rfl
  | _ => simp only [requestFor, target, isConfigured, Option.isSome_map]

/-- The calls about one channel: its request, and the end of its response if there is one. -/
def exchange (channel : Channel) : List NotifierCall :=
  (requestFor settings timeoutSecs alert channel).toList.map (NotifierCall.post channel) ++
    match met channel with
    | .response _ => [.close channel]
    | _ => []

/-- Nothing but an error of `requests` goes wrong with the channel. -/
def Quiet (met : Channel → PostOutcome) (channel : Channel) : Prop := ∀ e, met channel ≠ .raised e

variable {settings timeoutSecs alert met}

/-- A channel without an address is passed over. -/
lemma sendVia_of_not_configured {channel : Channel} (h : isConfigured settings channel = false)
    (tally : Tally) : sendVia settings timeoutSecs alert met tally channel = pure tally := by
  rw [← isSome_requestFor settings timeoutSecs alert, Option.isSome_eq_false_iff,
    Option.isNone_iff_eq_none] at h
  rw [sendVia, h]

/-- Another one is sent its request. -/
lemma sendVia_of_quiet {channel : Channel} (h : isConfigured settings channel = true)
    (hquiet : Quiet met channel) (tally : Tally) :
    sendVia settings timeoutSecs alert met tally channel
      = ⟨exchange settings timeoutSecs alert met channel,
          .ok ⟨tally.attempted + 1,
            tally.delivered + (decide (met channel = .response true)).toNat⟩⟩ := by
  rw [← isSome_requestFor settings timeoutSecs alert, Option.isSome_iff_exists] at h
  obtain ⟨request, hrequest⟩ := h
  simp only [sendVia, hrequest, exchange, Option.toList_some, List.map_cons, List.map_nil]
  cases hmet : met channel with
  | response ok => cases ok <;> rfl
  | timeout => rfl
  | requestException => rfl
  | raised e => exact absurd hmet (hquiet e)

/-- Or the call ends there. -/
lemma sendVia_of_raised {channel : Channel} {e : PyExc} (h : isConfigured settings channel = true)
    (hmet : met channel = .raised e) (tally : Tally) :
    sendVia settings timeoutSecs alert met tally channel
      = ⟨exchange settings timeoutSecs alert met channel, .error (.raised e)⟩ := by
  rw [← isSome_requestFor settings timeoutSecs alert, Option.isSome_iff_exists] at h
  obtain ⟨request, hrequest⟩ := h
  simp only [sendVia, hrequest, exchange, Option.toList_some, List.map_cons, List.map_nil, hmet]
  rfl

/-- Channels that are quiet are all tried, one after the other. -/
lemma foldlM_sendVia_of_quiet {channels : List Channel}
    (h : ∀ c ∈ channels.filter (isConfigured settings), Quiet met c) :
    ∀ tally, channels.foldlM (sendVia settings timeoutSecs alert met) tally
      = ⟨(channels.filter (isConfigured settings)).flatMap (exchange settings timeoutSecs alert met),
          .ok ⟨tally.attempted + (channels.filter (isConfigured settings)).length,
            tally.delivered + (channels.filter (isConfigured settings)).countP
              fun c => met c = .response true⟩⟩ := by
  induction channels with
  | nil => exact fun tally => rfl
  | cons c channels ih =>
      intro tally
      rw [List.foldlM_cons]
      cases hconfigured : isConfigured settings c with
      | false =>
          rw [List.filter_cons_of_neg (by simp [hconfigured])] at h ⊢
          rw [sendVia_of_not_configured hconfigured, Traced.pure_bind, ih h]
      | true =>
          rw [List.filter_cons_of_pos hconfigured] at h ⊢
          obtain ⟨hc, hrest⟩ := List.forall_mem_cons.mp h
          rw [sendVia_of_quiet hconfigured hc]
          simp only [bind, ih hrest, List.flatMap_cons, List.length_cons, List.countP_cons]
          by_cases haccepted : met c = .response true
          · simp [haccepted, Nat.add_assoc, Nat.add_comm 1]
          · simp [haccepted, Nat.add_assoc, Nat.add_comm 1]

/-- The first one that is not is the last one to be tried. -/
lemma foldlM_sendVia_of_raised {c : Channel} {after : List Channel} {e : PyExc}
    (hmet : met c = .raised e) {channels : List Channel} : ∀ {before : List Channel} (tally : Tally),
    channels.filter (isConfigured settings) = before ++ c :: after → (∀ d ∈ before, Quiet met d) →
    channels.foldlM (sendVia settings timeoutSecs alert met) tally
      = ⟨before.flatMap (exchange settings timeoutSecs alert met)
            ++ exchange settings timeoutSecs alert met c, .error (.raised e)⟩ := by
  induction channels with
  | nil =>
      intro before tally hsplit
      simp at hsplit
  | cons d channels ih =>
      intro before tally hsplit hquiet
      rw [List.foldlM_cons]
      cases hconfigured : isConfigured settings d with
      | false =>
          rw [List.filter_cons_of_neg (by simp [hconfigured])] at hsplit
          rw [sendVia_of_not_configured hconfigured, Traced.pure_bind, ih tally hsplit hquiet]
      | true =>
          rw [List.filter_cons_of_pos hconfigured] at hsplit
          cases before with
          | nil =>
              obtain ⟨rfl, -⟩ := List.cons.inj hsplit
              rw [sendVia_of_raised hconfigured hmet]
              rfl
          | cons b before =>
              obtain ⟨rfl, hrest⟩ := List.cons.inj hsplit
              obtain ⟨hb, hbefore⟩ := List.forall_mem_cons.mp hquiet
              rw [sendVia_of_quiet hconfigured hb]
              simp only [bind, ih _ hrest hbefore, List.flatMap_cons, List.append_assoc]

/-- `send_alert` on an alert that is not below the threshold. -/
lemma sendAlert_of_notify (h : shouldNotify settings alert = .ok true) :
    sendAlert settings timeoutSecs alert met
      = allChannels.foldlM (sendVia settings timeoutSecs alert met) ⟨0, 0⟩ >>= fun tally =>
          if tally.attempted = 0 then pure false
          else if tally.delivered = 0 then pure false else pure true := by
  simp only [allChannels, List.foldlM_cons, List.foldlM_nil, Traced.bind_bind, Traced.pure_bind]
  rw [sendAlert, h]
  rfl

/-- With quiet channels it comes to whether one of them accepts the alert. -/
lemma sendAlert_of_quiet (h : shouldNotify settings alert = .ok true)
    (hquiet : ∀ c ∈ allChannels.filter (isConfigured settings), Quiet met c) :
    sendAlert settings timeoutSecs alert met
      = ⟨(allChannels.filter (isConfigured settings)).flatMap
            (exchange settings timeoutSecs alert met),
          .ok (decide (∃ c ∈ allChannels.filter (isConfigured settings), met c = .response true))⟩ := by
  rw [sendAlert_of_notify h, foldlM_sendVia_of_quiet hquiet]
  by_cases haccepted : ∃ c ∈ allChannels.filter (isConfigured settings), met c = .response true
  · obtain ⟨c, hc, hmet⟩ := haccepted
    have hattempted : (allChannels.filter (isConfigured settings)).length ≠ 0 :=
      (List.length_pos_of_mem hc).ne'
    have hdelivered : (allChannels.filter (isConfigured settings)).countP
        (fun c => met c = .response true) ≠ 0 :=
      (List.countP_pos_iff.mpr ⟨c, hc, by simpa using hmet⟩).ne'
    simp only [bind, Nat.zero_add, if_neg hattempted, if_neg hdelivered, pure, List.append_nil,
      decide_eq_true (show ∃ c ∈ allChannels.filter (isConfigured settings), met c = .response true
        from ⟨c, hc, hmet⟩)]
  · have hdelivered : (allChannels.filter (isConfigured settings)).countP
        (fun c => met c = .response true) = 0 :=
      List.countP_eq_zero.mpr fun c hc => by
        simpa using fun hmet => haccepted ⟨c, hc, hmet⟩
    simp only [bind, Nat.zero_add, hdelivered, if_true, ite_self, pure, List.append_nil,
      decide_eq_false haccepted]

/-! ## Alerts of the correlator -/

variable [Sha256]

omit [WordData] in
/-- The severity of an alert is the higher one of its two findings. -/
lemma newCorrelatedAlert_severity {id : Uuid} {now : FiniteFloat} {api code : Finding}
    {confidence : FiniteFloat} {rootCause recommendedFix : PyStr}
    (h : newCorrelatedAlert id now api code confidence rootCause recommendedFix = .ok alert) :
    alert.severity.val = (maxSeverity api.severityNumeric code.severityNumeric).value := by
  simp only [newCorrelatedAlert, CorrelatedAlert.init, bind_eq_ok_iff, checkUuid_val,
    FindingType.ofVal_value, checkSeverity_value, checkRequired_val, checkLine_val,
    checkFingerprint_val, ok_bind] at h
  obtain ⟨fp, -, _, -, _, -, endpoint, -, file, -, _, -, _, -, _, -, _, -, hret⟩ := h
  cases hret
  rfl

omit [WordData] [Sha256] in
/-- A finding has one of the four severities. -/
lemma exists_severityNumeric (f : Finding) : ∃ s : Severity, f.severityNumeric = s.numeric := by
  obtain ⟨s, hs⟩ := f.severity.accepted
  exact ⟨s, by rw [Finding.severityNumeric, hs]⟩

omit [UnicodeData] [WordData] [Sha256] in
lemma numeric_maxSeverity (a c : Severity) :
    (maxSeverity a.numeric c.numeric).numeric = max a.numeric c.numeric := by
  cases a <;> cases c <;> decide

omit [WordData] [Sha256] in
/-- One of the two findings is at least as severe as the threshold. -/
def Reaches (threshold : Severity) (api code : Finding) : Prop :=
  threshold.numeric ≤ api.severityNumeric ∨ threshold.numeric ≤ code.severityNumeric

omit [WordData] [Sha256] in
instance (threshold : Severity) (api code : Finding) : Decidable (Reaches threshold api code) :=
  inferInstanceAs (Decidable (_ ∨ _))

omit [WordData] in
/-- An alert is passed on when one of its findings reaches the threshold. -/
lemma shouldNotify_of_newCorrelatedAlert {threshold : Severity}
    (hthreshold : settings.minAlertSeverity = threshold.value) {id : Uuid} {now : FiniteFloat}
    {api code : Finding} {confidence : FiniteFloat} {rootCause recommendedFix : PyStr}
    (h : newCorrelatedAlert id now api code confidence rootCause recommendedFix = .ok alert) :
    shouldNotify settings alert = .ok (decide (Reaches threshold api code)) := by
  obtain ⟨a, ha⟩ := exists_severityNumeric api
  obtain ⟨c, hc⟩ := exists_severityNumeric code
  simp only [shouldNotify, hthreshold, severityOrder_value, newCorrelatedAlert_severity h, ha, hc,
    Option.getD_some, numeric_maxSeverity, le_max_iff, Reaches]

/-- What `send_alert` does about an alert. -/
structure Exchanges (settings : NotifierSettings) (timeoutSecs : ℚ) (alert : CorrelatedAlert)
    (met : Channel → PostOutcome) (reaches : Prop) : Prop where
  /-- Below the threshold nothing is sent, and the alert counts as delivered. -/
  below : ¬ reaches → sendAlert settings timeoutSecs alert met = ⟨[], .ok true⟩
  /-- Otherwise every configured channel is tried once, whatever the others met. -/
  quiet : reaches → (∀ c ∈ allChannels.filter (isConfigured settings), Quiet met c) →
    sendAlert settings timeoutSecs alert met
      = ⟨(allChannels.filter (isConfigured settings)).flatMap
            (exchange settings timeoutSecs alert met),
          .ok (decide (∃ c ∈ allChannels.filter (isConfigured settings), met c = .response true))⟩
  /-- An exception that is none of `requests` is raised, and nothing is sent after it. -/
  raised : reaches → ∀ before c after e,
    allChannels.filter (isConfigured settings) = before ++ c :: after → (∀ d ∈ before, Quiet met d) →
    met c = .raised e →
    sendAlert settings timeoutSecs alert met
      = ⟨before.flatMap (exchange settings timeoutSecs alert met)
            ++ exchange settings timeoutSecs alert met c, .error (.raised e)⟩

/-- **Every configured channel is tried once**, in order and whatever the others met, when one of the
alert's findings reaches the threshold, and none otherwise. -/
theorem sendAlert_exchanges {threshold : Severity}
    (hthreshold : settings.minAlertSeverity = threshold.value) {id : Uuid} {now : FiniteFloat}
    {api code : Finding} {confidence : FiniteFloat} {rootCause recommendedFix : PyStr}
    (halert : newCorrelatedAlert id now api code confidence rootCause recommendedFix = .ok alert)
    (timeoutSecs : ℚ) (met : Channel → PostOutcome) :
    Exchanges settings timeoutSecs alert met (Reaches threshold api code) where
  below hbelow := by
    have hnotify := shouldNotify_of_newCorrelatedAlert hthreshold halert
    rw [decide_eq_false hbelow] at hnotify
    rw [sendAlert, hnotify]
    rfl
  quiet hreaches hquiet := by
    have hnotify := shouldNotify_of_newCorrelatedAlert hthreshold halert
    rw [decide_eq_true hreaches] at hnotify
    exact sendAlert_of_quiet hnotify hquiet
  raised hreaches before c after e hsplit hquiet hmet := by
    have hnotify := shouldNotify_of_newCorrelatedAlert hthreshold halert
    rw [decide_eq_true hreaches] at hnotify
    rw [sendAlert_of_notify hnotify, foldlM_sendVia_of_raised hmet _ hsplit hquiet]
    rfl

end Delivery

/-! ## A sample -/

section Sample

attribute [local instance] asciiData latinWords

/-- SHA-256 on the text that is hashed for the sample alert. -/
@[reducible] def alertDigest : Sha256 where
  hexdigest32 _ := py "090af5e64485c815b84ee54887876ca5"
  isFingerprint_hexdigest32 _ := by decide

attribute [local instance] alertDigest

def outage : Finding := sampleFinding sampleApiId .api .http5xx none none none true

def suspect : Finding :=
  sampleFinding sampleCodeId .code .nullDereference none (some loginFile) (some loginLine) true

lemma returns_sampleAlert :
    Returns (newCorrelatedAlert sampleApiId sampleClock outage suspect
      (unitDouble 0.9).val (py "Cause") (py "Fix")) :=
  (newCorrelatedAlert_returns_iff _ _ _ _ (unitDouble 0.9).property ⟨by decide, by decide⟩
    ⟨by decide, by decide⟩).mpr
    { endpoint := nofun
      file := by decide
      trace := nofun
      service_encodable := by decide
      endpoint_encodable := rfl
      file_encodable := by decide
      clock := sampleClock_pos }

/-- Slack answers with an error, and the webhook accepts the alert. -/
theorem sendAlert_exchanges_twoChannels :
    ∃ alert, newCorrelatedAlert sampleApiId sampleClock outage suspect
        (unitDouble 0.9).val (py "Cause") (py "Fix") = .ok alert ∧
      Exchanges
        { slackWebhookUrl := some (py "https://hooks.example.com/a"), telegramBotToken := none,
          telegramChatId := none, genericWebhookUrl := some (py "https://hooks.example.com/b"),
          minAlertSeverity := Severity.high.value }
        10 alert (fun c => .response (c == .webhook)) (Reaches .high outage suspect) := by
  obtain ⟨alert, halert⟩ := returns_sampleAlert
  exact ⟨alert, halert, sendAlert_exchanges rfl halert 10 _⟩

end Sample

end Watchtower
