import Watchtower.ApiWatcher.History
import Watchtower.CodeWatcher.Handler
import Watchtower.CodeWatcher.Lines
import Watchtower.Redis.Queue
import Watchtower.Schema.RoundTrip

/-!
# From the watchers to the correlator

The watchers push the texts of their findings into the queue, and the correlator makes findings again
of the texts it pops.

* `Emitted` — the findings the watchers make; **`stringKeyed_of_emitted`** — their contexts are JSON.
* `payloads` — the texts of a run's calls of `push_finding`.
* `QueueState.Authentic` — everything in the queue comes from one of the calls.
* **`findings_delivered`** — the correlator reads findings the watchers have pushed, and while no lost
  command interferes, each of them once and in order.
-/

namespace Watchtower

open Core Py

/-! ## What the watchers emit -/

section Emitted

/-- Every report of a probe has a context of scalars, under keys that differ. -/
lemma stringKeyed_of_probe {settings : Settings} {target : TargetMetadata} {key : PyStr}
    {s t : ProbeState} {outcome : ProbeOutcome} {r : Report}
    (h : probe settings target key s outcome = (t, some r)) :
    r.context.stringKeyed = true := by
  cases outcome with
  | response status latencyMs =>
      simp only [probe] at h
      split_ifs at h
      all_goals cases h
      all_goals simp [slowReport, statusReport, apiReport, PyTree.entries, PyTree.stringKeyed,
        PyTree.lookup_entry_str, PyTree.lookup]
  | cancelled => cases h
  | _ =>
      simp only [probe] at h
      try split_ifs at h
      all_goals cases h
      all_goals simp [downReport, tlsReport, apiReport, PyTree.entries, PyTree.stringKeyed,
        PyTree.lookup_entry_str, PyTree.lookup]

variable [UnicodeData]

/-- What is sent is among what was found. -/
lemma mem_of_mem_emitAll {emit : Finding → Except PyExc Unit} {f : Finding} {found : List Finding}
    (h : f ∈ (emitAll emit found).1) : f ∈ found := by
  induction found with
  | nil => cases h
  | cons g found ih =>
      rw [emitAll] at h
      split at h
      · cases h
      · rcases List.mem_cons.mp h with rfl | h
        · exact List.mem_cons_self
        · exact List.mem_cons_of_mem _ (ih h)

variable [Sha256]

/-- A finding has the context of its report. -/
lemma newFinding_context {id : Uuid} {now : FiniteFloat} {r : Report} {f : Finding}
    (h : newFinding id now r.args = .ok f) : f.context.val = r.context := by
  simp only [newFinding, Report.args, Finding.init, bind_eq_ok_iff, checkUuid_val,
    FindingSource.ofVal_value, FindingType.ofVal_value, Severity.fromString_value,
    checkSeverity_value, checkFingerprint_val, ok_bind, checkConfidence_val] at h
  obtain ⟨_, -, _, -, _, -, _, -, _, -, _, -, _, -, _, -, _, -, _, -, _, -, _, -, _, -, _, -, _, -,
    context, hcontext, hret⟩ := h
  cases hret
  rw [checkContext] at hcontext
  split_ifs at hcontext
  cases hcontext
  rfl

variable [WordData] [ContentDigest] (settings : Settings) (parse : PyStr → Option (Ast .node))

/-- So has every finding of a scan. -/
lemma stringKeyed_of_scan {stamps : ℕ → Stamp} {path : PyStr} {calls : SnapshotCalls} {f : Finding}
    (h : f ∈ (scanFile settings parse stamps path calls).findings) :
    f.context.val.stringKeyed = true := by
  -- a finding of either scanner comes from a report
  have hregex : ∀ source, f ∈ (scanFileRegex settings stamps path source).1 →
      f.context.val.stringKeyed = true := by
    intro source hf
    obtain ⟨r, stamp, hr, hmade⟩ := exists_of_mem_makeFindings hf
    obtain ⟨hit, -, hreport⟩ := List.mem_map.mp hr
    split_ifs at hreport
    cases hreport
    rw [newFinding_context hmade]
    simp [regexReport, codeReport, PyTree.entries, PyTree.stringKeyed, PyTree.lookup_entry_str,
      PyTree.lookup]
  have hast : ∀ k source, f ∈ scanFileAst settings parse stamps k path source →
      f.context.val.stringKeyed = true := by
    intro k source hf
    rw [scanFileAst] at hf
    split at hf
    · next found hmade =>
        obtain ⟨r, stamp, hr, hr'⟩ := exists_of_mem_makeFindings (by rw [hmade]; exact hf)
        obtain ⟨hit, -, hreport⟩ := List.mem_map.mp hr
        cases hreport
        rw [newFinding_context hr']
        simp [astReport, codeReport, PyTree.entries, PyTree.stringKeyed, PyTree.lookup]
    · cases hf
  rw [scanFile] at h
  split at h
  · cases h
  · next content _ =>
      rw [scanContent] at h
      split at h
      · next found e hfound =>
          exact hregex _ (by rw [hfound]; exact (mem_of_mem_deduplicateFrom h).1)
      · next found hfound =>
          rcases List.mem_append.mp (mem_of_mem_deduplicateFrom h).1 with hf | hf
          · exact hregex _ (by rw [hfound]; exact hf)
          · exact hast _ _ hf

/-- What a handler has sent before its scan, and what the scan found. -/
lemma mem_scanAndEmit {path : PyStr} {calls : HandlerCalls} {hashes : FileHashes}
    {sent : List Finding} {f : Finding}
    (h : f ∈ (scanAndEmit settings parse path calls hashes sent).emitted) :
    f ∈ sent ∨ f ∈ (scanFile settings parse calls.stamps path calls.scanRead).findings :=
  (List.mem_append.mp h).imp id mem_of_mem_emitAll

/-- A handler for a file that was modified sends the report on that, and what a scan finds. -/
lemma mem_onModified {hashes : FileHashes} {event : FileEvent} {calls : HandlerCalls} {f : Finding}
    (h : f ∈ (onModified settings parse hashes event calls).emitted) :
    makeFinding calls.fileStamp (modifiedReport settings event.srcPath) = .ok f ∨
      f ∈ (scanFile settings parse calls.stamps event.srcPath calls.scanRead).findings := by
  rw [onModified] at h
  repeat' split at h
  all_goals try exact absurd h List.not_mem_nil
  next hmade _ _ =>
    refine (mem_scanAndEmit settings parse h).imp_left fun hf => ?_
    rw [List.mem_singleton.mp hf, hmade]

/-- A handler for a new file sends what a scan finds. -/
lemma mem_onCreated {hashes : FileHashes} {event : FileEvent} {calls : HandlerCalls} {f : Finding}
    (h : f ∈ (onCreated settings parse hashes event calls).emitted) :
    f ∈ (scanFile settings parse calls.stamps event.srcPath calls.scanRead).findings := by
  rw [onCreated] at h
  repeat' split at h
  all_goals try exact absurd h List.not_mem_nil
  exact (mem_scanAndEmit settings parse h).resolve_left List.not_mem_nil

variable [Normalization]

/-- A finding that a probe, a scan or a handler hands on. -/
inductive Emitted : Finding → Prop
  | probe {s t : ProbeState} {e : ProbeEvent} {f : Finding}
      (h : probeEndpoint settings s e = (t, .ok (some f))) : Emitted f
  | scan {stamps : ℕ → Stamp} {path : PyStr} {calls : SnapshotCalls} {f : Finding}
      (h : f ∈ (scanFile settings parse stamps path calls).findings) : Emitted f
  | modified {hashes : FileHashes} {event : FileEvent} {calls : HandlerCalls} {f : Finding}
      (h : f ∈ (onModified settings parse hashes event calls).emitted) : Emitted f
  | created {hashes : FileHashes} {event : FileEvent} {calls : HandlerCalls} {f : Finding}
      (h : f ∈ (onCreated settings parse hashes event calls).emitted) : Emitted f

variable {settings parse}

/-- **What a watcher emits has a context of scalars under different keys.** -/
theorem stringKeyed_of_emitted {f : Finding} (h : Emitted settings parse f) :
    f.context.val.stringKeyed = true := by
  cases h with
  | probe h =>
      simp only [probeEndpoint] at h
      split at h
      · cases h
      · next target _ =>
          obtain ⟨-, hcreated⟩ := Prod.mk.inj h
          unfold createFinding at hcreated
          split at hcreated
          · cases hcreated
          · next r hdue =>
              obtain ⟨g, hmade, hg⟩ := map_eq_ok hcreated
              cases hg
              rw [newFinding_context hmade]
              exact stringKeyed_of_probe (Prod.ext rfl hdue)
  | scan h => exact stringKeyed_of_scan settings parse h
  | modified h =>
      rcases mem_onModified settings parse h with hmade | hf
      · rw [newFinding_context hmade]
        simp [modifiedReport, codeReport, PyTree.entries, PyTree.stringKeyed, PyTree.lookup]
      · exact stringKeyed_of_scan settings parse hf
  | created h => exact stringKeyed_of_scan settings parse (mem_onCreated settings parse h)

end Emitted

/-! ## What was sent -/

/-- The payload, for the start of a call of `push_finding`. -/
def QueueEvent.payload : QueueEvent → Option PyStr
  | .push _ payload => some payload
  | _ => none

/-- The payloads of the calls so far, in the order of their numbers. -/
def payloads (events : List QueueEvent) : List PyStr := events.filterMap QueueEvent.payload

/-- The call with this number has this payload. -/
def Sent (events : List QueueEvent) (x : PushCall) : Prop := (payloads events)[x.id]? = some x.payload

lemma payloads_snoc (events : List QueueEvent) (e : QueueEvent) :
    payloads (events ++ [e]) = payloads events ++ e.payload.toList := by
  rw [payloads, List.filterMap_append]
  cases h : e.payload <;> simp [payloads, h]

lemma Sent.snoc {events : List QueueEvent} {x : PushCall} (h : Sent events x) (e : QueueEvent) :
    Sent (events ++ [e]) x := by
  have hlt : x.id < (payloads events).length := (List.getElem?_eq_some_iff.mp h).1
  rw [Sent, payloads_snoc, List.getElem?_append_left hlt]
  exact h

/-- Calls with the same number are the same. -/
lemma Sent.eq {events : List QueueEvent} {x y : PushCall} (hx : Sent events x) (hy : Sent events y)
    (hid : x.id = y.id) : x = y := by
  rw [Sent] at hx hy
  rw [hid, hy, Option.some.injEq] at hx
  cases x
  cases y
  simp_all

namespace QueueState

/-- Nothing is in the queue, on the way to it, or out of it that was not sent. -/
structure Authentic (events : List QueueEvent) (s : QueueState) : Prop where
  calls : s.calls = (payloads events).length
  producers : ∀ n x k, s.producers n = some (x, k) → Sent events x
  inFlight : ∀ x, .lpush x ∈ s.inFlight → Sent events x
  entered : ∀ x ∈ s.list.entered, Sent events x
  /-- Calls that have returned have entered in that order. -/
  pushed : s.pushed.Sublist s.list.entered
  delivered : s.delivered.Sublist s.list.removed

variable {events : List QueueEvent} {s t : QueueState}

lemma authentic_init : Authentic [] findingsQueue.init where
  calls := rfl
  producers _ _ _ h := by cases h
  inFlight _ h := by cases h
  entered _ h := by cases h
  pushed := List.Sublist.refl _
  delivered := List.Sublist.refl _

/-- What was sent stays so. -/
lemma Authentic.snoc (h : s.Authentic events) {e : QueueEvent} (hpayload : e.payload = none) :
    s.Authentic (events ++ [e]) where
  calls := by rw [h.calls, payloads_snoc, hpayload]; simp
  producers n x k hn := (h.producers n x k hn).snoc e
  inFlight x hx := (h.inFlight x hx).snoc e
  entered x hx := (h.entered x hx).snoc e
  pushed := h.pushed
  delivered := h.delivered

/-- A producer begins a call, goes on with it, or ends it. -/
lemma sent_update {producers : ℕ → Option (PushCall × ℕ)}
    (h : ∀ n x k, producers n = some (x, k) → Sent events x) {producer : ℕ}
    {next : Option (PushCall × ℕ)} (hnext : ∀ x k, next = some (x, k) → Sent events x) :
    ∀ n x k, Function.update producers producer next n = some (x, k) → Sent events x := by
  intro n x k hn
  by_cases hnp : n = producer
  · subst hnp
    rw [Function.update_self] at hn
    exact hnext x k hn
  · rw [Function.update_of_ne hnp] at hn
    exact h n x k hn

/-- A call's finding enters. -/
lemma Authentic.enter (h : s.Authentic events) {x : PushCall} (hx : Sent events x) :
    ∀ y ∈ (s.list.push x).entered, Sent events y := by
  intro y hy
  rw [Channel.push_entered, List.mem_append, List.mem_singleton] at hy
  rcases hy with hy | rfl
  · exact h.entered y hy
  · exact hx

/-- **Every event keeps the queue authentic.** -/
theorem authentic_step {e : QueueEvent} (h : s.Authentic events) (hstep : s.step e = .ok t) :
    t.Authentic (events ++ [e]) := by
  cases e with
  | push producer payload =>
      simp only [step] at hstep
      split_ifs at hstep
      cases hstep
      have hnew : Sent (events ++ [.push producer payload]) ⟨s.calls, payload⟩ := by
        rw [Sent, payloads_snoc, h.calls]
        simp [QueueEvent.payload]
      exact
        { calls := by rw [h.calls, payloads_snoc]; simp [QueueEvent.payload]
          producers := sent_update (fun n x k hn => (h.producers n x k hn).snoc _) fun x k hn => by
            cases hn
            exact hnew
          inFlight := fun x hx => (h.inFlight x hx).snoc _
          entered := fun x hx => (h.entered x hx).snoc _
          pushed := h.pushed
          delivered := h.delivered }
  | pushAttempt producer contact =>
      have h := h.snoc (e := .pushAttempt producer contact) rfl
      simp only [step] at hstep
      cases hproducer : s.producers producer with
      | none => simp [hproducer] at hstep
      | some p =>
          obtain ⟨x, k⟩ := p
          have hx := h.producers producer x k hproducer
          cases contact with
          | answered =>
              simp only [hproducer] at hstep
              cases hstep
              exact { h with
                producers := sent_update h.producers fun y j hy => by cases hy
                entered := h.enter hx
                pushed := h.pushed.append (List.Sublist.refl [x]) }
          | failed e =>
              simp only [hproducer] at hstep
              split_ifs at hstep
              cases hstep
              refine { h with producers := sent_update h.producers ?_, inFlight := fun y hy => ?_ }
              · intro y j hy
                obtain ⟨k', -, hk'⟩ := Option.map_eq_some_iff.mp hy
                cases hk'
                exact hx
              · rcases List.mem_cons.mp hy with hy | hy
                · cases hy
                  exact hx
                · exact h.inFlight y hy
  | pop =>
      have h := h.snoc (e := .pop) rfl
      simp only [step] at hstep
      split_ifs at hstep
      cases hstep
      exact { h with }
  | popAttempt contact =>
      have h := h.snoc (e := .popAttempt contact) rfl
      simp only [step] at hstep
      cases hconsumer : s.consumer with
      | none => simp [hconsumer] at hstep
      | some k =>
          cases contact with
          | answered =>
              simp only [hconsumer] at hstep
              cases hstep
              refine { h with entered := ?_, pushed := ?_, delivered := ?_ }
              · simpa only [Channel.pop_entered] using h.entered
              · simpa only [Channel.pop_entered] using h.pushed
              · simpa only [Channel.pop_removed] using h.delivered.append (List.Sublist.refl _)
          | failed e =>
              simp only [hconsumer] at hstep
              split_ifs at hstep
              cases hstep
              refine { h with inFlight := fun y hy => ?_ }
              rcases List.mem_cons.mp hy with hy | hy
              · cases hy
              · exact h.inFlight y hy
  | arrive index =>
      have h := h.snoc (e := .arrive index) rfl
      simp only [step] at hstep
      cases hc : s.inFlight[index]? with
      | none => simp [hc] at hstep
      | some c =>
          simp only [hc] at hstep
          cases hstep
          have hrest : ∀ y, .lpush y ∈ s.inFlight.eraseIdx index → Sent _ y :=
            fun y hy => h.inFlight y (List.mem_of_mem_eraseIdx hy)
          cases c with
          | lpush x =>
              exact { h with
                inFlight := hrest
                entered := h.enter (h.inFlight x (List.mem_of_getElem? hc))
                pushed := h.pushed.trans (List.sublist_append_left _ _) }
          | brpop =>
              refine { h with inFlight := hrest, entered := ?_, pushed := ?_, delivered := ?_ }
              · simpa only [QueueCommand.exec, Channel.pop_entered] using h.entered
              · simpa only [QueueCommand.exec, Channel.pop_entered] using h.pushed
              · rw [QueueCommand.exec, Channel.pop_removed]
                exact h.delivered.trans (List.sublist_append_left _ _)

/-- So it is after every run. -/
theorem authentic (hrun : findingsQueue.run events = .ok s) : s.Authentic events :=
  Machine.invariant_history authentic_init (fun _ _ _ _ h hstep => authentic_step h hstep) hrun

end QueueState

/-! ## What arrives -/

/-- Numbers tell the calls in a list of sent ones apart. -/
lemma nodup_ids {events : List QueueEvent} {calls : List PushCall} (hnodup : calls.Nodup)
    (hsent : ∀ x ∈ calls, Sent events x) : (calls.map PushCall.id).Nodup :=
  hnodup.map_on fun x hx y hy hid => (hsent x hx).eq (hsent y hy) hid

/-- What is delivered comes from a call. -/
lemma sent_of_delivered {events : List QueueEvent} {s : QueueState}
    (hrun : findingsQueue.run events = .ok s) {x : PushCall} (hx : x ∈ s.delivered) :
    Sent events x := by
  have hauthentic := QueueState.authentic hrun
  refine hauthentic.entered x ?_
  rw [s.list.entered_eq]
  exact List.mem_append_left _ (hauthentic.delivered.subset hx)

/-- Where no lost command interferes, the queue is exact. -/
lemma exact_of_undisturbed {events : List QueueEvent} {s : QueueState}
    (hrun : findingsQueue.run events = .ok s)
    (hundisturbed : findingsQueue.Always events QueueState.Undisturbed) : s.Exact := by
  have hthroughout : findingsQueue.Throughout events QueueState.Exact :=
    (Machine.throughout_iff QueueState.inv_init QueueState.inv_step QueueState.exact_init
      QueueState.exact_step_iff events).mpr hundisturbed
  exact hthroughout events [] s (by simp) hrun

/-- Then no call is delivered twice. -/
lemma nodup_delivered {events : List QueueEvent} {s : QueueState}
    (hrun : findingsQueue.run events = .ok s)
    (hundisturbed : findingsQueue.Always events QueueState.Undisturbed) :
    (s.delivered.map PushCall.id).Nodup := by
  have hexact := exact_of_undisturbed hrun hundisturbed
  refine nodup_ids (List.Nodup.sublist ?_ hexact.nodup) fun x hx => sent_of_delivered hrun hx
  rw [hexact.fifo]
  exact List.sublist_append_left _ _

section Findings

variable [UnicodeData] [Normalization] [Sha256] [WordData] [ContentDigest] {settings : Settings}
  {parse : PyStr → Option (Ast .node)}

/-- The text of a call makes the finding it is about again, with the keys of its context in order. -/
lemma decoded_of_sent {room : ℕ} {loads : PyStr → Except PyExc PyVal}
    {dumps : PyVal → Except PyExc PyStr}
    {found : List Finding} (hemitted : ∀ f ∈ found, Emitted settings parse f)
    (hinverts : ∀ f ∈ found, JsonValue (.dict f.toDict) → Inverts loads dumps (.dict f.toDict))
    {events : List QueueEvent}
    (hsent : List.Forall₂ (fun f payload => f.toJson room dumps = .ok payload) found (payloads events))
    {x : PushCall} (hx : Sent events x) :
    ∃ f, found[x.id]? = some f ∧ Finding.fromJson loads x.payload = .ok f.inOrder ∧
      f.eq f.inOrder = true := by
  obtain ⟨hlt, hpayload⟩ := List.getElem?_eq_some_iff.mp hx
  obtain ⟨hlength, hencoded⟩ := List.forall₂_iff_get.mp hsent
  have hlt' : x.id < found.length := hlength ▸ hlt
  have hmem : found.get ⟨x.id, hlt'⟩ ∈ found := List.get_mem found _
  have hkeys := stringKeyed_of_emitted (hemitted _ hmem)
  have hcall := hencoded x.id hlt' hlt
  obtain ⟨text, hdumps, -, hdecode⟩ := Finding.roundTrip_of_inverts hkeys
    (Finding.frames_le_of_toJson hcall) (hinverts _ hmem (Finding.jsonValue_toDict hkeys))
  have htext : text = x.payload := by
    rw [hdumps, Except.ok.injEq] at hcall
    exact hcall.trans hpayload
  exact ⟨_, List.getElem?_eq_getElem hlt', htext ▸ hdecode, Finding.eq_inOrder hkeys⟩

/-- **The findings of the watchers reach the correlator.**  In every run of the queue, whatever replies
are lost, each text the correlator is given makes a finding that is equal to the one of the call it
comes from; and when no lost command interferes, no call's finding is delivered twice, and what the
calls that have returned were about has been delivered or is still queued, in that order. -/
theorem findings_delivered {room : ℕ} {loads : PyStr → Except PyExc PyVal}
    {dumps : PyVal → Except PyExc PyStr}
    {found : List Finding} (hemitted : ∀ f ∈ found, Emitted settings parse f)
    (hinverts : ∀ f ∈ found, JsonValue (.dict f.toDict) → Inverts loads dumps (.dict f.toDict))
    {events : List QueueEvent}
    (hsent : List.Forall₂ (fun f payload => f.toJson room dumps = .ok payload) found (payloads events))
    {s : QueueState} (hrun : findingsQueue.run events = .ok s) :
    (∀ x ∈ s.delivered, ∃ f g, found[x.id]? = some f ∧
        Finding.fromJson loads x.payload = .ok g ∧ f.eq g = true) ∧
      (findingsQueue.Always events QueueState.Undisturbed →
        (s.delivered.map PushCall.id).Nodup ∧
          s.pushed.Sublist (s.delivered ++ s.list.items.reverse)) := by
  refine ⟨fun x hx => ?_, fun hundisturbed => ⟨nodup_delivered hrun hundisturbed, ?_⟩⟩
  · obtain ⟨f, hf, hdecode, heq⟩ :=
      decoded_of_sent hemitted hinverts hsent (sent_of_delivered hrun hx)
    exact ⟨f, f.inOrder, hf, hdecode, heq⟩
  · rw [← (exact_of_undisturbed hrun hundisturbed).fifo]
    exact (QueueState.authentic hrun).pushed

end Findings

/-! ## One finding -/

section HandshakeFinding

attribute [local instance] asciiData asciiNormalization probeDigest latinWords sampleContentDigest

/-- A failed handshake is reported at once. -/
lemma exists_handshakeFinding :
    ∃ t f, probeEndpoint (settingsFor healthTarget) .initial (sampleProbe healthTarget .tlsError)
      = (t, .ok (some f)) := by
  have hfits : FitsAt (settingsFor healthTarget) healthTarget .tlsError 1 :=
    healthTarget_fitsAt (by decide)
  have hemits := emits_iff_due (s := .initial) (e := sampleProbe healthTarget .tlsError) hfits
  obtain ⟨f, hf⟩ := hemits.2.mpr trivial
  exact ⟨_, f, Prod.ext rfl hf⟩

/-- Its text. -/
def handshakeText : PyStr :=
  py "\x7b\"confidence\":0.99,\"context\":\x7b\"error_kind\":\"tls_validation\"\x7d" ++
  py ",\"description\":\"The health probe could not validate the endpoint certificate\"" ++
  py ",\"endpoint\":\"/health\",\"file\":null" ++
  py ",\"fingerprint\":\"818d11caa723f73127b8d0082f0aca86\",\"function\":null" ++
  py ",\"id\":\"0b0d6c9e-3f5a-4e57-9d3b-5a1c2f4e6b70\",\"line\":null" ++
  py ",\"schema_version\":\"2.0\",\"service\":\"api\",\"severity\":\"HIGH\"" ++
  py ",\"source\":\"api\",\"status\":\"OPEN\",\"system\":\"multi-service-platform\"" ++
  py ",\"timestamp\":1767225600.0,\"title\":\"TLS validation failed: api/health\"" ++
  py ",\"trace_id\":null,\"type\":\"ssl_error\"\x7d"

/-- The finding is pushed and popped. -/
def handshakeRun : List QueueEvent :=
  [.push 0 handshakeText, .pop, .pushAttempt 0 .answered, .popAttempt .answered]

/-- The correlator has it. -/
theorem findings_delivered_handshake :
    ∃ s x f, findingsQueue.run handshakeRun = .ok s ∧ s.delivered = [x] ∧
      Emitted (settingsFor healthTarget) (fun _ => none) f ∧
      ∃ f' g, [f][x.id]? = some f' ∧
        Finding.fromJson (textLoads f handshakeText) x.payload = .ok g ∧ f'.eq g = true := by
  obtain ⟨t, f, hprobe⟩ := exists_handshakeFinding
  have hemitted : Emitted (settingsFor healthTarget) (fun _ => none) f := .probe hprobe
  have hinverts := inverts_text f handshakeText
  have hsent : List.Forall₂ (fun f' payload => Finding.toJson f.toDict.frames
      (textDumps f handshakeText) f' = .ok payload) [f] (payloads handshakeRun) :=
    .cons ((Finding.toJson_of_le le_rfl).trans (if_pos rfl)) .nil
  obtain ⟨s, x, hrun, hdelivered⟩ :
      ∃ s x, findingsQueue.run handshakeRun = .ok s ∧ s.delivered = [x] := ⟨_, _, rfl, rfl⟩
  have hall : ∀ f' ∈ [f], Emitted (settingsFor healthTarget) (fun _ => none) f' := by
    simpa using hemitted
  have hdecoded := (findings_delivered hall (by simpa using fun _ => hinverts) hsent hrun).1
  exact ⟨s, x, f, hrun, hdelivered, hemitted,
    hdecoded x (by rw [hdelivered]; exact List.mem_singleton_self x)⟩

end HandshakeFinding

end Watchtower
