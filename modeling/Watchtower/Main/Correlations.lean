import Watchtower.Correlator.Accounting
import Watchtower.Main.Pipeline

/-!
# From the queue to the alerts

The correlator reads the texts the queue delivers, pairs the findings it makes of them, and builds its
alerts of the pairs.

* `readText`, `accepted` — the two halves of what an iteration receives.
* `Fed` — the texts a run has read come from the queue.
* `Genuine` — a pair is about two findings the watchers have emitted.
* **`alerts_genuine`** — so is every pair an alert is built of; and while no lost command interferes, no
  finding of the watchers is in two pairs.
-/

namespace Watchtower

open Core Py

/-! ## What is received -/

section Received

variable [UnicodeData] [Sha256] {cfg : CorrelatorSettings} {loads : PyStr → Except PyExc PyVal}

/-- The text an iteration has read, if it has read one. -/
def readText (cfg : CorrelatorSettings) (i : Input cfg.alertCooldownSecs) : Option PyStr :=
  match popFinding cfg.pollTimeoutSecs i.pop with
  | .ok raw => raw
  | .error _ => none

/-- The finding the loop goes on with when it has read a text. -/
def accepted (loads : PyStr → Except PyExc PyVal) (raw : PyStr) : Option Finding :=
  match Finding.fromJson loads raw with
  | .error _ => none
  | .ok finding => if finding.source = .api ∨ finding.source = .code then some finding else none

omit [Sha256] in
lemma receive_eq (i : Input cfg.alertCooldownSecs) :
    receive cfg loads i = (readText cfg i).bind (accepted loads) := by
  unfold receive readText
  cases popFinding cfg.pollTimeoutSecs i.pop with
  | error e => rfl
  | ok raw =>
      cases raw with
      | none => rfl
      | some raw => rfl

omit [Sha256] in
/-- The ids a run receives are those of the texts it reads. -/
lemma flatMap_receivedIds (inputs : List (Input cfg.alertCooldownSecs)) :
    inputs.flatMap (receivedIds cfg loads) =
      (inputs.filterMap (readText cfg)).filterMap fun raw =>
        (accepted loads raw).map fun f => f.id.val := by
  rw [List.filterMap_filterMap, List.filterMap_eq_flatMap_toList]
  congr 1
  funext i
  rw [receivedIds, receive_eq, Option.map_bind]
  rfl

omit [Sha256] in
/-- The findings of a pair are among those held and the one received. -/
lemma holds_pair {P : Finding → Prop} {s : LoopState} {now : ℚ} {finding : Finding} {p : Held × Held}
    (hs : s.Orderly cfg) (hheld : s.Holds P) (hfinding : P finding)
    (hp : p ∈ (matchPass cfg s now finding).1) :
    P p.1.finding ∧ P p.2.finding ∧ inScope cfg.correlationWindowSecs p.1 p.2 = true := by
  obtain ⟨hapi, hcode, hscope⟩ := (hs.mem_pairs now finding).mem p hp
  have hmem : ∀ x ∈ (matchPass cfg s now finding).2.held, P x.finding := hheld.matchPass now hfinding
  exact ⟨hmem _ (List.mem_append_left _ hapi), hmem _ (List.mem_append_right _ hcode), hscope⟩

omit [Sha256] in
/-- Findings in scope are of the two sources. -/
lemma sources_of_scope {window : ℚ} {api code : Finding}
    (h : findingsShareScope window api code = true) : api.source = .api ∧ code.source = .code := by
  unfold findingsShareScope at h
  split_ifs at h with hother
  all_goals
    simp only [ne_eq, not_or, not_not] at hother
    exact ⟨hother.1, hother.2.1⟩

end Received

/-! ## What is paired -/

section Paired

variable [UnicodeData] [Sha256] {cfg : CorrelatorSettings}

omit [Sha256] in
/-- The texts a run has read are some of those the queue has delivered, in that order. -/
def Fed (cfg : CorrelatorSettings) (s : QueueState) (inputs : List (Input cfg.alertCooldownSecs)) :
    Prop :=
  (inputs.filterMap (readText cfg)).Sublist (s.delivered.map PushCall.payload)

/-- A pair is about an API finding and a code finding of the list, in scope with each other, and so is
every alert that is built of it. -/
def Genuine (cfg : CorrelatorSettings) (found : List Finding) (p : Held × Held) : Prop :=
  ∃ api ∈ found, ∃ code ∈ found, api.source = .api ∧ code.source = .code ∧
    findingsShareScope cfg.correlationWindowSecs api code = true ∧
    ∀ (env : AlertEnv cfg.alertCooldownSecs) (alert : CorrelatedAlert),
      buildAlert env p.1 p.2 = .ok alert →
        alert.apiFindingId = api.id ∧ alert.codeFindingId = code.id ∧ AlertOf api code alert

/-- An alert has the ids of its pair. -/
lemma newCorrelatedAlert_ids {id : Uuid} {now : FiniteFloat} {api code : Finding}
    {confidence : FiniteFloat} {rootCause recommendedFix : PyStr} {alert : CorrelatedAlert}
    (h : newCorrelatedAlert id now api code confidence rootCause recommendedFix = .ok alert) :
    alert.apiFindingId = api.id ∧ alert.codeFindingId = code.id := by
  simp only [newCorrelatedAlert, CorrelatedAlert.init, bind_eq_ok_iff, checkUuid_val,
    FindingType.ofVal_value, checkSeverity_value, checkRequired_val, checkLine_val,
    checkFingerprint_val, ok_bind] at h
  obtain ⟨_, -, _, -, _, -, _, -, _, -, _, -, _, -, _, -, _, -, hret⟩ := h
  cases hret
  exact ⟨rfl, rfl⟩

/-- A pair the correlator makes of two decoded findings is about the findings themselves. -/
lemma genuine_of_inOrder {found : List Finding} {p : Held × Held} {api code : Finding}
    (hapi : api ∈ found) (hcode : code ∈ found) (hp : p.1.finding = api.inOrder)
    (hp' : p.2.finding = code.inOrder) (hscope : inScope cfg.correlationWindowSecs p.1 p.2 = true) :
    Genuine cfg found p := by
  have hshare : findingsShareScope cfg.correlationWindowSecs api code = true := by
    rw [inScope, hp, hp'] at hscope
    exact hscope
  obtain ⟨hsource, hsource'⟩ := sources_of_scope hshare
  refine ⟨api, hapi, code, hcode, hsource, hsource', hshare, fun env alert halert => ?_⟩
  -- the contexts go into the alert's own and show nowhere else
  rw [buildAlert, hp, hp'] at halert
  have habout := newCorrelatedAlert_alertOf halert
  obtain ⟨hid, hid'⟩ := newCorrelatedAlert_ids halert
  exact ⟨hid, hid', { habout with }⟩

end Paired

/-! ## Along a run -/

section Alerts

variable [UnicodeData] [Normalization] [Sha256] [WordData] [ContentDigest] {settings : Settings}
  {parse : PyStr → Option (Ast .node)} {cfg : CorrelatorSettings}

/-- What an iteration receives is a finding that was pushed, with its context in order. -/
lemma pushed_of_receive {room : ℕ} {loads : PyStr → Except PyExc PyVal}
    {dumps : PyVal → Except PyExc PyStr}
    {found : List Finding} (hemitted : ∀ f ∈ found, Emitted settings parse f)
    (hinverts : ∀ f ∈ found, JsonValue (.dict f.toDict) → Inverts loads dumps (.dict f.toDict))
    {events : List QueueEvent}
    (hsent : List.Forall₂ (fun f payload => f.toJson room dumps = .ok payload) found (payloads events))
    {s : QueueState} (hrun : findingsQueue.run events = .ok s)
    {inputs : List (Input cfg.alertCooldownSecs)} (hfed : Fed cfg s inputs)
    {i : Input cfg.alertCooldownSecs} (hi : i ∈ inputs) {g : Finding}
    (h : receive cfg loads i = some g) : ∃ f ∈ found, g = f.inOrder := by
  rw [receive_eq, Option.bind_eq_some_iff] at h
  obtain ⟨raw, hread, haccepted⟩ := h
  have hmem : raw ∈ s.delivered.map PushCall.payload :=
    hfed.subset (List.mem_filterMap.mpr ⟨i, hi, hread⟩)
  obtain ⟨x, hx, rfl⟩ := List.mem_map.mp hmem
  obtain ⟨f, hf, hdecode, -⟩ :=
    decoded_of_sent hemitted hinverts hsent (sent_of_delivered hrun hx)
  refine ⟨f, List.mem_of_getElem? hf, ?_⟩
  simp only [accepted, hdecode] at haccepted
  split_ifs at haccepted
  cases haccepted
  rfl

/-- While no lost command interferes, no finding is received twice. -/
lemma nodup_receivedIds {room : ℕ} {loads : PyStr → Except PyExc PyVal}
    {dumps : PyVal → Except PyExc PyStr}
    {found : List Finding} (hemitted : ∀ f ∈ found, Emitted settings parse f)
    (hinverts : ∀ f ∈ found, JsonValue (.dict f.toDict) → Inverts loads dumps (.dict f.toDict))
    {events : List QueueEvent}
    (hsent : List.Forall₂ (fun f payload => f.toJson room dumps = .ok payload) found (payloads events))
    {s : QueueState} (hrun : findingsQueue.run events = .ok s)
    {inputs : List (Input cfg.alertCooldownSecs)} (hfed : Fed cfg s inputs)
    (hundisturbed : findingsQueue.Always events QueueState.Undisturbed)
    (hids : (found.map fun f => f.id.val).Nodup) :
    (inputs.flatMap (receivedIds cfg loads)).Nodup := by
  -- a text brings the id of the finding it was made of
  have hbrings : ∀ x ∈ s.delivered, ∀ id,
      ((accepted loads x.payload).map fun f => f.id.val) = some id →
        (found.map fun f => f.id.val)[x.id]? = some id := by
    intro x hx id hid
    obtain ⟨f, hf, hdecode, -⟩ :=
      decoded_of_sent hemitted hinverts hsent (sent_of_delivered hrun hx)
    rw [List.getElem?_map, hf]
    simp only [accepted, hdecode] at hid
    split_ifs at hid
    · exact hid
    · cases hid
  rw [flatMap_receivedIds]
  refine List.Nodup.sublist (hfed.filterMap _) ?_
  rw [List.filterMap_map, List.Nodup, List.pairwise_filterMap]
  have hdelivered := List.pairwise_map.mp (nodup_delivered hrun hundisturbed)
  refine hdelivered.imp_of_mem fun {x y} hx hy hne id hid id' hid' heq => ?_
  have hxid := hbrings x hx id hid
  have hyid := hbrings y hy id' hid'
  rw [← heq] at hyid
  obtain ⟨hlt, -⟩ := List.getElem?_eq_some_iff.mp hxid
  exact hne ((List.getElem?_inj hlt hids).mp (hxid.trans hyid.symm))

/-- **An alert is about findings of the watchers.**  In every run of the correlator that is fed by the
queue, whatever replies either of them has lost, each pair an alert is built of comes from an API
finding and a code finding that the watchers have pushed and that are in scope with each other, and
the alert names them and says what they say; and when no lost command interferes with the queue, no
finding of the watchers is in two pairs of the run. -/
theorem alerts_genuine {room : ℕ} {loads : PyStr → Except PyExc PyVal}
    {dumps : PyVal → Except PyExc PyStr}
    {found : List Finding} (hemitted : ∀ f ∈ found, Emitted settings parse f)
    (hinverts : ∀ f ∈ found, JsonValue (.dict f.toDict) → Inverts loads dumps (.dict f.toDict))
    {events : List QueueEvent}
    (hsent : List.Forall₂ (fun f payload => f.toJson room dumps = .ok payload) found (payloads events))
    {s : QueueState} (hrun : findingsQueue.run events = .ok s)
    {inputs : List (Input cfg.alertCooldownSecs)} (hfed : Fed cfg s inputs) :
    ((correlator cfg loads).Always inputs fun t i =>
        ∀ finding, receive cfg loads i = some finding →
          ∀ p ∈ (matchPass cfg t i.now finding).1, Genuine cfg found p) ∧
      (findingsQueue.Always events QueueState.Undisturbed →
        (found.map fun f => f.id.val).Nodup →
          ((correlator cfg loads).trace (pairedIds cfg loads) inputs).Nodup) := by
  refine ⟨?_, fun hundisturbed hids => nodup_pairedIds
    (nodup_receivedIds hemitted hinverts hsent hrun hfed hundisturbed hids)⟩
  intro before i after t hinputs ht finding hreceive p hp
  have hpushed : ∀ j ∈ inputs, ∀ g, receive cfg loads j = some g → ∃ f ∈ found, g = f.inOrder :=
    fun j hj g hg => pushed_of_receive hemitted hinverts hsent hrun hfed hj hg
  have hheld : t.Holds fun g => ∃ f ∈ found, g = f.inOrder :=
    holds_run (fun first j rest _ hfirst _ => hpushed j (by simp [hinputs, hfirst])) ht
  obtain ⟨⟨api, hapi, hp₁⟩, ⟨code, hcode, hp₂⟩, hscope⟩ :=
    holds_pair (correlator_orderly ht) hheld (hpushed i (by simp [hinputs]) finding hreceive) hp
  exact genuine_of_inOrder hapi hcode hp₁ hp₂ hscope

end Alerts

/-! ## Errors of a service, and a reason for them -/

section EvalUsage

attribute [local instance] asciiData asciiNormalization latinWords

/-- SHA-256 on the texts that are hashed for two findings and for their alert. -/
@[reducible] def evalUsageDigest : Sha256 where
  hexdigest32 text :=
    if text = py "api|/health|http_5xx||" then py "ab4bc115304fce18805682a6145e7bf2"
    else if text = py "api||eval_usage|/srv/api/a.py|1" then py "14bc88f336add437fc00ee74d7679f1d"
    else py "f57518c4595c9f834a72508944284c79"
  isFingerprint_hexdigest32 text := by
    split_ifs <;> exact isFingerprint_literal _ rfl

/-- The digest of the line with the call to `eval`. -/
@[reducible] def evalLineDigest : ContentDigest where
  hexdigest _ := py "43aec61ea49223f19b47822e8ea1f3ee301bc5c1568989bbbb8ad86635c9379f"

attribute [local instance] evalUsageDigest evalLineDigest

/-- An endpoint that has failed twice. -/
def twiceFailed : ProbeState :=
  (ProbeState.initial.recordFailure healthTarget).recordFailure healthTarget

/-- It answers with an error again. -/
def unavailableProbe : ProbeEvent :=
  sampleProbe healthTarget (.response ⟨503, by decide⟩ ⟨12.5, by decide +kernel⟩)

/-- The scan of a file of the same service. -/
def evalScan : ScanOutcome :=
  scanFile (settingsFor healthTarget) (fun _ => none) (fun _ => { sampleStamp with id := sampleCodeId })
    (py "/srv/api/a.py") (.undisturbed evalContent)

/-- What the two come to, as far as the correlator looks at it. -/
lemma exists_unavailable_eval :
    ∃ reported, (probeEndpoint (settingsFor healthTarget) twiceFailed unavailableProbe).2
        = .ok reported ∧
      ∃ f ∈ reported.toList, ∃ g ∈ evalScan.findings,
        findingsShareScope defaultSettings.correlationWindowSecs f g = true ∧
          f.timestamp.val.toFloat .double = sampleClock.val ∧
          g.timestamp.val.toFloat .double = sampleClock.val ∧
            Returns (buildAlert (promptEnv defaultSettings.alertCooldownSecs)
              { arrival := 0, finding := f } { arrival := 1, finding := g }) := by
  decide +kernel

/-- Their texts. -/
def unavailableText : PyStr :=
  py "\x7b\"confidence\":0.85,\"context\":\x7b\"endpoint_state\":\"DOWN\",\"failures\":3" ++
  py ",\"http_status\":503,\"latency_ms\":12.5,\"method\":\"GET\"\x7d" ++
  py ",\"description\":\"GET health probe returned HTTP 503; consecutive failures: 3\"" ++
  py ",\"endpoint\":\"/health\",\"file\":null" ++
  py ",\"fingerprint\":\"ab4bc115304fce18805682a6145e7bf2\",\"function\":null" ++
  py ",\"id\":\"0b0d6c9e-3f5a-4e57-9d3b-5a1c2f4e6b70\",\"line\":null" ++
  py ",\"schema_version\":\"2.0\",\"service\":\"api\",\"severity\":\"CRITICAL\"" ++
  py ",\"source\":\"api\",\"status\":\"OPEN\",\"system\":\"multi-service-platform\"" ++
  py ",\"timestamp\":1767225600.0,\"title\":\"Persistent HTTP 503 on api/health\"" ++
  py ",\"trace_id\":null,\"type\":\"http_5xx\"\x7d"

def evalText : PyStr :=
  py "\x7b\"confidence\":0.8,\"context\":\x7b\"evidence\":\"[REDACTED]\"" ++
  py ",\"file_path\":\"/srv/api/a.py\",\"line_sha256\":" ++
  py "\"43aec61ea49223f19b47822e8ea1f3ee301bc5c1568989bbbb8ad86635c9379f\"" ++
  py ",\"pattern_type\":\"eval_usage\"\x7d" ++
  py ",\"description\":\"Security pattern matched in /srv/api/a.py at line 1\"" ++
  py ",\"endpoint\":null,\"file\":\"/srv/api/a.py\"" ++
  py ",\"fingerprint\":\"14bc88f336add437fc00ee74d7679f1d\",\"function\":null" ++
  py ",\"id\":\"7c1f2a3d-8e4b-4c6d-a5f0-1b2c3d4e5f60\",\"line\":1" ++
  py ",\"schema_version\":\"2.0\",\"service\":\"api\",\"severity\":\"HIGH\"" ++
  py ",\"source\":\"code\",\"status\":\"OPEN\",\"system\":\"multi-service-platform\"" ++
  py ",\"timestamp\":1767225600.0,\"title\":\"eval()/exec() usage detected \\u2014 " ++
  py "potential code injection [a.py:1]\",\"trace_id\":null,\"type\":\"eval_usage\"\x7d"

/-- `json.dumps` and `json.loads` on the two. -/
def pairDumps (f g : Finding) (v : PyVal) : Except PyExc PyStr :=
  if v.sortKeys = PyTree.sortKeys (.dict f.toDict) then .ok unavailableText
  else if v.sortKeys = PyTree.sortKeys (.dict g.toDict) then .ok evalText
  else .error (.typeError "not in the sample")

def pairLoads (f g : Finding) (s : PyStr) : Except PyExc PyVal :=
  if s = unavailableText then .ok (PyTree.sortKeys (.dict f.toDict))
  else if s = evalText then .ok (PyTree.sortKeys (.dict g.toDict))
  else .error .jsonDecodeError

/-- Both findings are pushed and popped, one after the other. -/
def pairRun : List QueueEvent :=
  [.push 0 unavailableText, .pop, .pushAttempt 0 .answered, .popAttempt .answered,
    .push 1 evalText, .pop, .pushAttempt 1 .answered, .popAttempt .answered]

/-- An iteration that reads a text at once. -/
def textInput (raw : PyStr) : Input defaultSettings.alertCooldownSecs where
  pop := fun _ => .ok (some raw)
  now := sampleClock.val
  env := fun _ => promptEnv defaultSettings.alertCooldownSecs

lemma readText_textInput (raw : PyStr) : readText defaultSettings (textInput raw) = some raw := rfl

lemma evalText_ne_unavailableText : evalText ≠ unavailableText := by decide +kernel

/-- The first text makes the first finding again. -/
lemma fromJson_unavailableText {f g : Finding} (hkeys : f.context.val.stringKeyed = true) :
    Finding.fromJson (pairLoads f g) unavailableText = .ok f.inOrder := by
  have hloads : pairLoads f g unavailableText = .ok (PyTree.sortKeys (.dict f.toDict)) := if_pos rfl
  rw [Finding.fromJson, hloads]
  exact Finding.fromDict_sortKeys hkeys

/-- The second makes the second. -/
lemma fromJson_evalText {f g : Finding} (hkeys : g.context.val.stringKeyed = true) :
    Finding.fromJson (pairLoads f g) evalText = .ok g.inOrder := by
  have hloads : pairLoads f g evalText = .ok (PyTree.sortKeys (.dict g.toDict)) := by
    rw [pairLoads, if_neg evalText_ne_unavailableText, if_pos rfl]
  rw [Finding.fromJson, hloads]
  exact Finding.fromDict_sortKeys hkeys

/-- The texts tell findings of different sources apart. -/
lemma sortKeys_toDict_ne {f g : Finding} (hf : f.context.val.stringKeyed = true)
    (hg : g.context.val.stringKeyed = true) (hsource : f.source ≠ g.source) :
    PyTree.sortKeys (.dict g.toDict) ≠ PyTree.sortKeys (.dict f.toDict) := by
  intro heq
  have hsame : Finding.fromDict (PyTree.sortKeys (.dict g.toDict)) = .ok f.inOrder := by
    rw [heq]
    exact Finding.fromDict_sortKeys hf
  have hboth : f.inOrder = g.inOrder :=
    Except.ok.inj (hsame.symm.trans (Finding.fromDict_sortKeys hg))
  have hsources : f.inOrder.source = g.inOrder.source := by rw [hboth]
  exact hsource hsources

lemma pairDumps_eval {f g : Finding} (hf : f.context.val.stringKeyed = true)
    (hg : g.context.val.stringKeyed = true) (hsource : f.source ≠ g.source) {v : PyVal}
    (hv : v.sortKeys = PyTree.sortKeys (.dict g.toDict)) : pairDumps f g v = .ok evalText := by
  rw [pairDumps, hv, if_neg (sortKeys_toDict_ne hf hg hsource), if_pos rfl]

/-- What an iteration with a text receives. -/
lemma receive_textInput {loads : PyStr → Except PyExc PyVal} {raw : PyStr} {f : Finding}
    (hdecode : Finding.fromJson loads raw = .ok f) (hsource : f.source = .api ∨ f.source = .code) :
    receive defaultSettings loads (textInput raw) = some f := by
  rw [receive_eq, readText_textInput, Option.bind_some, accepted, hdecode]
  exact if_pos hsource

/-- The texts are what the two findings become and come from. -/
lemma inverts_pair {f g : Finding} (hf : f.context.val.stringKeyed = true)
    (hg : g.context.val.stringKeyed = true) (hsource : f.source ≠ g.source) :
    ∀ h ∈ [f, g], JsonValue (.dict h.toDict) →
      Inverts (pairLoads f g) (pairDumps f g) (.dict h.toDict) := by
  simp only [List.forall_mem_cons, List.not_mem_nil, false_imp_iff, implies_true, and_true]
  constructor
  · exact fun _ => ⟨unavailableText, fun w hw => if_pos hw, if_pos rfl⟩
  · exact fun _ => ⟨evalText, fun w hw => pairDumps_eval hf hg hsource hw,
      (if_neg evalText_ne_unavailableText).trans (if_pos rfl)⟩

lemma sent_pair {f g : Finding} (hf : f.context.val.stringKeyed = true)
    (hg : g.context.val.stringKeyed = true) (hsource : f.source ≠ g.source) :
    List.Forall₂ (fun h payload => Finding.toJson (max f.toDict.frames g.toDict.frames)
      (pairDumps f g) h = .ok payload) [f, g] (payloads pairRun) :=
  .cons ((Finding.toJson_of_le (le_max_left _ _)).trans (if_pos rfl))
    (.cons ((Finding.toJson_of_le (le_max_right _ _)).trans (pairDumps_eval hf hg hsource rfl)) .nil)

/-- The finding of the probe when it is held. -/
def heldFirst (f : Finding) : Held := { arrival := 0, finding := f.inOrder }

/-- The finding of the scan when it arrives. -/
def arrivesNext (g : Finding) : Held := { arrival := 1, finding := g.inOrder }

/-- The state when the second finding arrives. -/
def firstHeld (f : Finding) : LoopState where
  buffer := { api := [heldFirst f], code := [] }
  arrivals := 1

/-- The first finding is held. -/
lemma run_unavailableText {f g : Finding} (hkeys : f.context.val.stringKeyed = true)
    (hsource : f.source = .api) (htime : f.timestamp.val.toFloat .double = sampleClock.val) :
    (correlator defaultSettings (pairLoads f g)).run [textInput unavailableText]
      = .ok (firstHeld f) := by
  have hapi : (heldFirst f).finding.source = .api := hsource
  have hreceive : receive defaultSettings (pairLoads f g) (textInput unavailableText)
      = some f.inOrder :=
    receive_textInput (fromJson_unavailableText hkeys) (Or.inl hsource)
  have hadd : Buffer.empty.add defaultSettings (heldFirst f)
      = { api := [heldFirst f], code := [] } := by
    rw [Buffer.add, if_pos hapi, deque_eq_self (by simp [Buffer.empty, defaultSettings])]
    rfl
  rw [Machine.run_singleton]
  refine step_of_arrival inv_init hreceive (Buffer.firstPartner_empty _ _ _) hadd
    (by simp [defaultSettings]) (by simp) fun x hx => ?_
  rw [List.mem_singleton.mp hx]
  exact fresh_of_moment htime

/-- The second finding meets it. -/
lemma matchPass_eval {f g : Finding} (hinv : (firstHeld f).Inv defaultSettings)
    (hscope : findingsShareScope defaultSettings.correlationWindowSecs f g = true)
    (hftime : f.timestamp.val.toFloat .double = sampleClock.val)
    (hgtime : g.timestamp.val.toFloat .double = sampleClock.val) :
    (matchPass defaultSettings (firstHeld f) sampleClock.val g.inOrder).1
      = [(heldFirst f, arrivesNext g)] := by
  have hpartner : firstPartner defaultSettings.correlationWindowSecs sampleClock.val
      (firstHeld f).buffer (arrivesNext g) = some (heldFirst f, arrivesNext g) :=
    Buffer.firstPartner_code_head (sources_of_scope hscope).2 (fresh_of_moment hgtime)
      (fresh_of_moment hftime) hscope
  exact hinv.pairs_eq_singleton hpartner

/-- The two are correlated. -/
theorem alerts_genuine_evalUsage :
    ∃ f g s t finding p, Emitted (settingsFor healthTarget) (fun _ => none) f ∧
      Emitted (settingsFor healthTarget) (fun _ => none) g ∧ findingsQueue.run pairRun = .ok s ∧
      Fed defaultSettings s [textInput unavailableText, textInput evalText] ∧
      (correlator defaultSettings (pairLoads f g)).run [textInput unavailableText] = .ok t ∧
      receive defaultSettings (pairLoads f g) (textInput evalText) = some finding ∧
      (matchPass defaultSettings t (textInput evalText).now finding).1 = [p] ∧
      Returns (buildAlert (promptEnv defaultSettings.alertCooldownSecs) p.1 p.2) ∧
      Genuine defaultSettings [f, g] p := by
  obtain ⟨_, hreported, f, hf, g, hg, hscope, hftime, hgtime, hbuilt⟩ := exists_unavailable_eval
  rw [Option.mem_toList.mp hf] at hreported
  obtain ⟨hfsource, hgsource⟩ := sources_of_scope hscope
  have hemitted : ∀ h ∈ [f, g], Emitted (settingsFor healthTarget) (fun _ => none) h := by
    simp only [List.forall_mem_cons, List.not_mem_nil, false_imp_iff, implies_true, and_true]
    exact ⟨.probe (Prod.ext rfl hreported), .scan hg⟩
  have hfkeys := stringKeyed_of_emitted (hemitted f (by simp))
  have hgkeys := stringKeyed_of_emitted (hemitted g (by simp))
  have hsource : f.source ≠ g.source := by
    rw [hfsource, hgsource]
    decide
  obtain ⟨s, hrun, hdelivered⟩ : ∃ s, findingsQueue.run pairRun = .ok s ∧
      s.delivered.map PushCall.payload = [unavailableText, evalText] := ⟨_, rfl, rfl⟩
  have hfed : Fed defaultSettings s [textInput unavailableText, textInput evalText] := by
    rw [Fed, hdelivered]
    exact List.Sublist.refl _
  have hheld : (correlator defaultSettings (pairLoads f g)).run [textInput unavailableText]
      = .ok (firstHeld f) := run_unavailableText hfkeys hfsource hftime
  have hreceive : receive defaultSettings (pairLoads f g) (textInput evalText) = some g.inOrder :=
    receive_textInput (fromJson_evalText hgkeys) (Or.inr hgsource)
  have hinv : (firstHeld f).Inv defaultSettings :=
    ⟨correlator_orderly hheld, by simp [Buffer.Unmatched, firstHeld]⟩
  have hmatch := matchPass_eval hinv hscope hftime hgtime
  have hbuilt' : Returns (buildAlert (promptEnv defaultSettings.alertCooldownSecs) (heldFirst f)
      (arrivesNext g)) :=
    -- whether an alert can be built does not depend on the order within the contexts
    (returns_buildAlert_iff _ _ _).mpr { (returns_buildAlert_iff _ _ _).mp hbuilt with }
  have hgenuine := (alerts_genuine hemitted (inverts_pair hfkeys hgkeys hsource)
    (sent_pair hfkeys hgkeys hsource) hrun hfed).1 [textInput unavailableText]
    (textInput evalText) [] _ rfl hheld _ hreceive _ (hmatch ▸ List.mem_singleton_self _)
  exact ⟨f, g, s, _, _, _, hemitted f (by simp), hemitted g (by simp), hrun, hfed, hheld, hreceive,
    hmatch, hbuilt', hgenuine⟩

end EvalUsage

end Watchtower
