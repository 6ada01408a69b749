import Watchtower.Correlator.Loop

/-!
# What a match pass finds

* `FindsPartner` — a match pass is one search for the first partner of the finding that arrives.
* `NothingLingers` — the pair an arriving finding makes takes along all that belongs together;
  `NoCopies` — neither of its findings has an older copy in the buffer.
* **`rescan_is_firstFit_iff`** — no two held findings belong together and each pass is such a search,
  along a run, exactly when nothing lingers, and so when equal findings have the same timestamps.
* `mixedStamps_keep_pair` — a finding delivered twice, once with an integer for its timestamp and once
  with a float.
* `candidates` — all the partners an arriving finding could have.
* **`discard_lossless_iff`** — dropping a pair of low confidence costs no better one, in all passes of a
  run, exactly when each pair reaches the threshold whenever another would; while nothing lingers, when
  the first candidate does.
* `firstCandidate_loses` — a pass in which it does not.
-/

namespace Watchtower

open Core Py

section Matching

variable [UnicodeData] [Sha256] {cfg : CorrelatorSettings} {loads : PyStr → Except PyExc PyVal}

/-! ## First fit -/

omit [Sha256] in
/-- The pass over the buffer finds the arriving finding's first partner, if the arriving finding is
fresh and has one, and nothing else. -/
def FindsPartner (cfg : CorrelatorSettings) (loads : PyStr → Except PyExc PyVal) (s : LoopState)
    (i : Input cfg.alertCooldownSecs) : Prop :=
  ∀ finding, receive cfg loads i = some finding →
    (matchPass cfg s i.now finding).1
      = (firstPartner cfg.correlationWindowSecs i.now s.buffer
          { arrival := s.arrivals, finding }).toList ∧
    (matchPass cfg s i.now finding).1.length ≤ 1 ∧
    ∀ p ∈ (matchPass cfg s i.now finding).1,
      Buffer.PartnerOf cfg.correlationWindowSecs i.now s.buffer
        { arrival := s.arrivals, finding } p.1 p.2

/-- The pair the arriving finding makes, unless its alert stops the loop, takes along all that belongs
together: none of the two is left in place of an older copy that belongs elsewhere. -/
def NothingLingers (cfg : CorrelatorSettings) (loads : PyStr → Except PyExc PyVal) (s : LoopState)
    (i : Input cfg.alertCooldownSecs) : Prop :=
  ∀ finding api code, receive cfg loads i = some finding →
    firstPartner cfg.correlationWindowSecs i.now s.buffer { arrival := s.arrivals, finding }
      = some (api, code) →
    (Qualifies cfg api code → AlertFits api.finding code.finding (i.env 0).clock) →
    ¬ Buffer.Lingers cfg.correlationWindowSecs i.now (appended cfg s finding) api code

/-- Neither finding of the pair the arriving finding makes, unless its alert stops the loop, has an
older copy in the buffer. -/
def NoCopies (cfg : CorrelatorSettings) (loads : PyStr → Except PyExc PyVal) (s : LoopState)
    (i : Input cfg.alertCooldownSecs) : Prop :=
  ∀ finding api code, receive cfg loads i = some finding →
    firstPartner cfg.correlationWindowSecs i.now s.buffer { arrival := s.arrivals, finding }
      = some (api, code) →
    (Qualifies cfg api code → AlertFits api.finding code.finding (i.env 0).clock) →
    ¬ Buffer.HasCopy cfg.correlationWindowSecs i.now (appended cfg s finding).api api ∧
      ¬ Buffer.HasCopy cfg.correlationWindowSecs i.now (appended cfg s finding).code code

/-- Findings that are equal have the same timestamp, and not an integer and the float equal to it. -/
def SameStamps (cfg : CorrelatorSettings) (loads : PyStr → Except PyExc PyVal)
    (inputs : List (Input cfg.alertCooldownSecs)) : Prop :=
  ∀ i ∈ inputs, ∀ j ∈ inputs, ∀ f g, receive cfg loads i = some f → receive cfg loads j = some g →
    f.eq g = true → f.timestamp = g.timestamp

omit [Sha256] in
lemma findsPartner_of_inv {s : LoopState} {i : Input cfg.alertCooldownSecs} (hinv : s.Inv cfg) :
    FindsPartner cfg loads s i := by
  intro finding _
  have hmatch := hinv.pairs i.now finding
  refine ⟨hmatch, ?_, fun p hp => ?_⟩
  · rw [hmatch]
    exact Option.length_toList_le
  · rw [hmatch, Option.mem_toList] at hp
    exact hinv.partnerOf hp

/-- **One step keeps the deques unmatched exactly when nothing lingers.** -/
lemma unmatched_step_iff {s : LoopState} {i : Input cfg.alertCooldownSecs} (hinv : s.Inv cfg) :
    (∀ t, (correlator cfg loads).step s i = .ok t →
        t.buffer.Unmatched cfg.correlationWindowSecs) ↔ NothingLingers cfg loads s i := by
  constructor
  · intro h finding api code hreceive hpartner hfits
    obtain ⟨⟨exit, b⟩, hstep⟩ :=
      returns_alertStep_iff (b := (matchPass cfg s i.now finding).2) |>.mpr hfits
    have hiter := iteration_of_partner hinv hreceive hpartner
    rw [hstep] at hiter
    have hafter := h { buffer := b, arrivals := s.arrivals + 1 } (by simp only [correlator, hiter]; rfl)
    rw [alertStep_buffer hstep] at hafter
    exact (hinv.unmatched_removePair_iff hpartner).mp hafter
  · intro h t ht
    rcases step_buffer ht with ⟨-, rfl⟩ | ⟨finding, hreceive, rfl⟩
    · exact hinv.unmatched
    · have hmatch := hinv.pairs i.now finding
      rw [hmatch]
      cases hpartner : firstPartner cfg.correlationWindowSecs i.now s.buffer
          { arrival := s.arrivals, finding } with
      | none => exact Buffer.unmatched_rescan _ hinv.orderly hinv.unmatched hpartner
      | some pair =>
          obtain ⟨api, code⟩ := pair
          have hfits : Qualifies cfg api code →
              AlertFits api.finding code.finding (i.env 0).clock := by
            obtain ⟨exits, hiter⟩ := exists_exits_of_step ht
            rw [iteration_of_partner hinv hreceive hpartner] at hiter
            obtain ⟨r, hstep, -⟩ := map_eq_ok hiter
            exact returns_alertStep_iff.mp ⟨r, hstep⟩
          exact (hinv.unmatched_removePair_iff hpartner).mpr
            (h finding api code hreceive hpartner hfits)

/-- A step at which nothing lingers keeps the invariant. -/
lemma inv_step (s : LoopState) (i : Input cfg.alertCooldownSecs) (t : LoopState) (hinv : s.Inv cfg)
    (hlingers : NothingLingers cfg loads s i) (h : (correlator cfg loads).step s i = .ok t) :
    t.Inv cfg :=
  ⟨orderly_step s i t hinv.orderly h, (unmatched_step_iff hinv).mpr hlingers t h⟩

omit [Sha256] in
lemma nothingLingers_of_noCopies {s : LoopState} {i : Input cfg.alertCooldownSecs}
    (h : NoCopies cfg loads s i) : NothingLingers cfg loads s i := by
  intro finding api code hreceive hpartner hfits hlingers
  obtain ⟨hapi, hcode⟩ := h finding api code hreceive hpartner hfits
  cases hlingers with
  | both hcopy _ => exact hapi hcopy
  | api hcopy _ _ _ _ _ => exact hapi hcopy
  | code hcopy _ _ _ _ _ => exact hcode hcopy

omit [Sha256] in
/-- A pair has no copies where equal findings have the same timestamp. -/
lemma noCopies_of_same {P : Finding → Prop} {s : LoopState} {i : Input cfg.alertCooldownSecs}
    (hinv : s.Inv cfg) (hheld : s.Holds P) (hreceived : ∀ f, receive cfg loads i = some f → P f)
    (hsame : ∀ f g, P f → P g → f.eq g = true → f.timestamp = g.timestamp) :
    NoCopies cfg loads s i := by
  intro finding api code hreceive hpartner _
  have hmem : ∀ x ∈ (appended cfg s finding).held, P x.finding := by
    intro x hx
    rcases mem_of_mem_appended hx with hold | rfl
    · exact hheld x hold
    · exact hreceived finding hreceive
  obtain ⟨hapi, hcode⟩ := hinv.mem_of_partner hpartner
  have hapi' := hmem api (mem_of_mem_matchPass (List.mem_append_left _ hapi))
  have hcode' := hmem code (mem_of_mem_matchPass (List.mem_append_right _ hcode))
  refine ⟨Buffer.not_hasCopy_api hinv.unmatched (hinv.partnerOf hpartner) fun y hy => ?_,
    Buffer.not_hasCopy_code hinv.unmatched (hinv.partnerOf hpartner) fun y hy => ?_⟩
  · exact hsame _ _ (hmem y (List.mem_append_left _ hy)) hapi'
  · exact hsame _ _ (hmem y (List.mem_append_right _ hy)) hcode'

/-- **Where equal findings have the same timestamp no pair has copies.** -/
theorem noCopies_of_sameStamps {inputs : List (Input cfg.alertCooldownSecs)}
    (hsame : SameStamps cfg loads inputs) :
    (correlator cfg loads).Always inputs (NoCopies cfg loads) := by
  set P : Finding → Prop := fun f => ∃ i ∈ inputs, receive cfg loads i = some f with hP
  have hsame' : ∀ f g, P f → P g → f.eq g = true → f.timestamp = g.timestamp := by
    rintro f g ⟨i, hi, hf⟩ ⟨j, hj, hg⟩ heq
    exact hsame i hi j hj f g hf hg heq
  have hcopies : ∀ s i, s.Inv cfg ∧ s.Holds P → i ∈ inputs → NoCopies cfg loads s i :=
    fun s i hs hi => noCopies_of_same hs.1 hs.2 (fun f hf => ⟨i, hi, hf⟩) hsame'
  have hinit : (correlator cfg loads).init.Inv cfg ∧ (correlator cfg loads).init.Holds P :=
    ⟨inv_init, holds_init⟩
  have hstep : ∀ s i t, s.Inv cfg ∧ s.Holds P → i ∈ inputs →
      (correlator cfg loads).step s i = .ok t → t.Inv cfg ∧ t.Holds P := by
    intro s i t hs hi ht
    exact ⟨inv_step s i t hs.1 (nothingLingers_of_noCopies (hcopies s i hs hi)) ht,
      holds_step hs.2 (fun g hg => ⟨i, hi, hg⟩) ht⟩
  intro before i after s hinputs hrun
  have hbefore : (correlator cfg loads).Always before fun _ i => i ∈ inputs :=
    fun first j rest _ hfirst _ => by simp [hinputs, hfirst]
  exact hcopies s i (Machine.invariant_of_always (P := fun _ i => i ∈ inputs) hinit hstep hbefore hrun)
    (by simp [hinputs])

lemma nothingLingers_of_sameStamps {inputs : List (Input cfg.alertCooldownSecs)}
    (hsame : SameStamps cfg loads inputs) :
    (correlator cfg loads).Always inputs (NothingLingers cfg loads) :=
  fun before i after s hinputs hrun => nothingLingers_of_noCopies
    (noCopies_of_sameStamps hsame before i after s hinputs hrun)

/-- **When the rescan of both deques is an incremental first-fit search.**  Along a run, no API finding
and code finding held at a loop head are in scope, and each pass finds the arriving finding's first
partner and nothing else, exactly when nothing lingers after the removal of a pair; and so in every run
in which findings that are equal have the same timestamps. -/
theorem rescan_is_firstFit_iff (inputs : List (Input cfg.alertCooldownSecs)) :
    (((correlator cfg loads).Throughout inputs (fun s =>
          ∀ a ∈ s.buffer.api, ∀ c ∈ s.buffer.code,
            findingsShareScope cfg.correlationWindowSecs a.finding c.finding = false) ∧
        (correlator cfg loads).Always inputs (FindsPartner cfg loads)) ↔
      (correlator cfg loads).Always inputs (NothingLingers cfg loads)) ∧
    (SameStamps cfg loads inputs →
      (correlator cfg loads).Always inputs (NothingLingers cfg loads)) := by
  refine ⟨?_, nothingLingers_of_sameStamps⟩
  have hunmatched : (correlator cfg loads).Throughout inputs
      (fun s => s.buffer.Unmatched cfg.correlationWindowSecs) ↔
        (correlator cfg loads).Always inputs (NothingLingers cfg loads) :=
    Machine.throughout_iff orderly_init orderly_step (Buffer.unmatched_empty _)
      (fun s i hs hnone => unmatched_step_iff ⟨hs, hnone⟩) inputs
  rw [← hunmatched]
  refine ⟨fun h => h.1, fun h => ⟨h, ?_⟩⟩
  intro before i after s hinputs hrun
  exact findsPartner_of_inv ⟨correlator_orderly hrun, h before (i :: after) s hinputs hrun⟩

end Matching

/-! ## A finding that is delivered twice -/

section MixedStamps

attribute [local instance] asciiData sampleDigest

/-- An integer for a timestamp, and the float that is equal to it. -/
def wholeStamp : Timestamp := ⟨.int (2 ^ 60), by decide +kernel⟩

def floatStamp : Timestamp := ⟨.float ⟨2 ^ 60, by decide +kernel⟩, by decide +kernel⟩

/-- An integer that is 301 larger, and is rounded to one that is 256 larger. -/
def laterStamp : Timestamp := ⟨.int (2 ^ 60 + 301), by decide +kernel⟩

def wholeFinding : Finding :=
  { sampleFinding sampleApiId .api .http5xx none none none true with timestamp := wholeStamp }

def floatFinding : Finding := { wholeFinding with timestamp := floatStamp }

def laterFinding : Finding :=
  { sampleFinding sampleCodeId .code .nullDereference none (some loginFile) (some loginLine) true with
    timestamp := laterStamp }

/-- A second code finding of the same moment. -/
def otherFinding : Finding :=
  { laterFinding with
    id := ⟨py "2f8e1d0c-9b7a-4f65-b432-10fedcba9876", by decide +kernel⟩
    type := .evalUsage }

def mixedSamples : List Finding := [wholeFinding, laterFinding, otherFinding, floatFinding]

/-- The state when the finding arrives for the second time. -/
def mixedHeld : LoopState where
  buffer :=
    { api := [{ arrival := 0, finding := wholeFinding }]
      code := [{ arrival := 1, finding := laterFinding }, { arrival := 2, finding := otherFinding }] }
  arrivals := 3

lemma receive_mixed : ∀ f ∈ mixedSamples,
    receive defaultSettings (sampleLoads mixedSamples) (promptInput defaultSettings f) = some f := by
  intro f hf
  have hsource : f.source = .api ∨ f.source = .code := by
    simp only [mixedSamples, List.mem_cons, List.not_mem_nil, or_false] at hf
    rcases hf with rfl | rfl | rfl | rfl
    · exact Or.inl rfl
    · exact Or.inr rfl
    · exact Or.inr rfl
    · exact Or.inl rfl
  exact receive_sample defaultSettings_polls (by decide +kernel) hf hsource rfl

/-- Their moment is yet to come. -/
lemma fresh_mixed {x : Held} (h : x.finding.timestamp = wholeStamp ∨
    x.finding.timestamp = laterStamp ∨ x.finding.timestamp = floatStamp) :
    x.fresh defaultSettings.correlationWindowSecs sampleClock.val = true := by
  rw [Held.fresh]
  rcases h with h | h | h <;> rw [h] <;> decide +kernel

lemma run_mixedHeld :
    (correlator defaultSettings (sampleLoads mixedSamples)).run
      [promptInput defaultSettings wholeFinding, promptInput defaultSettings laterFinding,
        promptInput defaultSettings otherFinding] = .ok mixedHeld := by
  have hfirst : (correlator defaultSettings (sampleLoads mixedSamples)).run
      [promptInput defaultSettings wholeFinding]
      = .ok { buffer := { api := [{ arrival := 0, finding := wholeFinding }], code := [] }
              arrivals := 1 } := by
    rw [Machine.run_singleton]
    refine step_of_arrival inv_init (receive_mixed _ (by simp [mixedSamples]))
      (Buffer.firstPartner_empty _ _ _) rfl (by decide) (by decide) fun x hx => ?_
    rw [List.mem_singleton.mp hx]
    exact fresh_mixed (.inl rfl)
  -- the integers are further apart than the window
  have hsecond : (correlator defaultSettings (sampleLoads mixedSamples)).run
      [promptInput defaultSettings wholeFinding, promptInput defaultSettings laterFinding]
      = .ok { buffer :=
                { api := [{ arrival := 0, finding := wholeFinding }]
                  code := [{ arrival := 1, finding := laterFinding }] }
              arrivals := 2 } := by
    refine (Machine.run_snoc _ hfirst _).trans (step_of_arrival
      ⟨correlator_orderly hfirst, by simp [Buffer.Unmatched]⟩
      (receive_mixed _ (by simp [mixedSamples])) ?_ rfl (by decide) (by decide) fun x hx => ?_)
    · exact Buffer.firstPartner_code_none rfl (by simp only [List.forall_mem_singleton]; decide +kernel)
    · simp only [List.mem_append, List.mem_singleton] at hx
      rcases hx with rfl | rfl
      · exact fresh_mixed (.inl rfl)
      · exact fresh_mixed (.inr (.inl rfl))
  refine (Machine.run_snoc _ hsecond _).trans (step_of_arrival
    ⟨correlator_orderly hsecond, ?_⟩ (receive_mixed _ (by simp [mixedSamples])) ?_ rfl (by decide)
    (by decide) fun x hx => ?_)
  · simp only [Buffer.Unmatched, List.forall_mem_singleton]
    decide +kernel
  · exact Buffer.firstPartner_code_none rfl (by simp only [List.forall_mem_singleton]; decide +kernel)
  · simp only [List.mem_append, List.mem_cons, List.not_mem_nil, or_false] at hx
    rcases hx with rfl | rfl | rfl
    · exact fresh_mixed (.inl rfl)
    · exact fresh_mixed (.inr (.inl rfl))
    · exact fresh_mixed (.inr (.inl rfl))

/-- The first pair of the run, when the finding has arrived again: with the older code finding. -/
lemma mixed_pair :
    firstPartner defaultSettings.correlationWindowSecs sampleClock.val mixedHeld.buffer
      { arrival := 3, finding := floatFinding }
      = some ({ arrival := 3, finding := floatFinding }, { arrival := 1, finding := laterFinding }) :=
  Buffer.firstPartner_api_head rfl (fresh_mixed (.inr (.inr rfl))) (fresh_mixed (.inr (.inl rfl)))
    (by decide +kernel)

lemma inv_mixedHeld : mixedHeld.Inv defaultSettings where
  orderly := correlator_orderly run_mixedHeld
  unmatched := by
    simp only [Buffer.Unmatched, mixedHeld, List.forall_mem_singleton]
    decide +kernel

/-- What arrived first is equal to what arrives last. -/
lemma eq_floatFinding : wholeFinding.eq floatFinding = true := by
  have hcontext :
      PyTree.eq (.dict wholeFinding.context.val) (.dict floatFinding.context.val) = true := by
    simp [wholeFinding, floatFinding, sampleFinding, noContext, PyTree.eq]
  rw [Finding.eq, hcontext]
  decide +kernel

lemma mixed_copy :
    Buffer.HasCopy defaultSettings.correlationWindowSecs sampleClock.val
      (appended defaultSettings mixedHeld floatFinding).api { arrival := 3, finding := floatFinding } :=
  ⟨{ arrival := 0, finding := wholeFinding }, List.mem_cons_self, fresh_mixed (.inl rfl), by decide,
    eq_floatFinding⟩

/-- The second code finding is still there. -/
lemma otherFinding_mem : ({ arrival := 2, finding := otherFinding } : Held) ∈
    (appended defaultSettings mixedHeld floatFinding).code := by
  rw [appended, Buffer.add, if_pos (by decide)]
  exact List.mem_cons_of_mem _ List.mem_cons_self

lemma mixed_fits : AlertFits floatFinding laterFinding sampleClock :=
  ⟨by decide, by decide, by decide, by decide, by decide, by decide, sampleClock_pos⟩

/-- **A finding that is delivered twice, once with an integer for its timestamp and once with the float
equal to it, leaves a pair in the buffer**: the older copy, which is too far from the code findings, is
removed in its place, and it is in scope with the second of them. -/
theorem mixedStamps_keep_pair :
    ¬ ((correlator defaultSettings (sampleLoads mixedSamples)).Throughout
          (mixedSamples.map (promptInput defaultSettings)) (fun s =>
        ∀ a ∈ s.buffer.api, ∀ c ∈ s.buffer.code,
          findingsShareScope defaultSettings.correlationWindowSecs a.finding c.finding = false) ∧
      (correlator defaultSettings (sampleLoads mixedSamples)).Always
        (mixedSamples.map (promptInput defaultSettings))
        (FindsPartner defaultSettings (sampleLoads mixedSamples))) := by
  rintro ⟨hthroughout, -⟩
  have hkeeps : ∀ t, (correlator defaultSettings (sampleLoads mixedSamples)).step mixedHeld
      (promptInput defaultSettings floatFinding) = .ok t →
        t.buffer.Unmatched defaultSettings.correlationWindowSecs := by
    intro t ht
    refine hthroughout (mixedSamples.map (promptInput defaultSettings)) [] t (by simp) ?_
    exact (Machine.run_snoc _ run_mixedHeld _).trans ht
  have hlingers := (unmatched_step_iff inv_mixedHeld).mp hkeeps floatFinding _ _
    (receive_mixed _ (by simp [mixedSamples])) mixed_pair fun _ => mixed_fits
  exact hlingers (.api mixed_copy { arrival := 2, finding := otherFinding } otherFinding_mem
    (fresh_mixed (.inr (.inl rfl))) (by simp) (by decide +kernel))

/-- The same findings without the float: nothing lingers. -/
theorem rescan_is_firstFit_iff_wholeStamps :
    (correlator defaultSettings (sampleLoads mixedSamples)).Always
      [promptInput defaultSettings wholeFinding, promptInput defaultSettings laterFinding]
      (NothingLingers defaultSettings (sampleLoads mixedSamples)) := by
  refine (rescan_is_firstFit_iff _).2 ?_
  have hreceived : ∀ i ∈ [promptInput defaultSettings wholeFinding,
      promptInput defaultSettings laterFinding], ∀ f,
        receive defaultSettings (sampleLoads mixedSamples) i = some f →
          f = wholeFinding ∨ f = laterFinding := by
    intro i hi f hf
    simp only [List.mem_cons, List.not_mem_nil, or_false] at hi
    rcases hi with rfl | rfl
    · rw [receive_mixed _ (by simp [mixedSamples])] at hf
      exact Or.inl (Option.some.inj hf).symm
    · rw [receive_mixed _ (by simp [mixedSamples])] at hf
      exact Or.inr (Option.some.inj hf).symm
  intro i hi j hj f g hf hg heq
  have hsource := (scope_fields_of_eq heq).1
  rcases hreceived i hi f hf with rfl | rfl <;> rcases hreceived j hj g hg with rfl | rfl
  · rfl
  · exact absurd hsource (by decide)
  · exact absurd hsource (by decide)
  · rfl

end MixedStamps

section Discarding

variable [UnicodeData] [Sha256] {cfg : CorrelatorSettings} {loads : PyStr → Except PyExc PyVal}

/-! ## Discarded pairs -/

omit [Sha256] in
/-- All pairs an arriving finding could make, in order of arrival of the partner. -/
def candidates (window now : ℚ) (b : Buffer) (new : Held) : List (Held × Held) :=
  if new.fresh window now then
    if new.finding.source = .api then
      (b.code.filter fun c => c.fresh window now && inScope window new c).map fun c => (new, c)
    else if new.finding.source = .code then
      (b.api.filter fun a => a.fresh window now && inScope window a new).map fun a => (a, new)
    else []
  else []

omit [Sha256] in
/-- The search takes the first candidate. -/
lemma firstPartner_eq_head? (window now : ℚ) (b : Buffer) (new : Held) :
    firstPartner window now b new = (candidates window now b new).head? := by
  unfold firstPartner candidates firstCode firstApi
  split_ifs
  · rw [List.head?_map, List.head?_filter]
  · rw [List.head?_map, List.head?_filter]
  · rfl
  · rfl

omit [Sha256] in
lemma mem_candidates_of_code {window now : ℚ} {b : Buffer} {new c : Held}
    (hsource : new.finding.source = .api) (hnew : new.fresh window now = true) (hc : c ∈ b.code)
    (hfresh : c.fresh window now = true) (hscope : inScope window new c = true) :
    (new, c) ∈ candidates window now b new := by
  simp only [candidates, if_pos hnew, if_pos hsource]
  exact List.mem_map.mpr ⟨c, List.mem_filter.mpr ⟨hc, by rw [hfresh, hscope]; rfl⟩, rfl⟩

omit [Sha256] in
lemma mem_candidates_of_api {window now : ℚ} {b : Buffer} {new a : Held}
    (hsource : new.finding.source = .code) (hnew : new.fresh window now = true) (ha : a ∈ b.api)
    (hfresh : a.fresh window now = true) (hscope : inScope window a new = true) :
    (a, new) ∈ candidates window now b new := by
  have hapi : new.finding.source ≠ .api := by rw [hsource]; decide
  simp only [candidates, if_pos hnew, if_neg hapi, if_pos hsource]
  exact List.mem_map.mpr ⟨a, List.mem_filter.mpr ⟨ha, by rw [hfresh, hscope]; rfl⟩, rfl⟩

/-- Discarding a pair of low confidence costs nothing: no finding that is in the buffer at that
pass, and so is fresh, makes a pair worth an alert with one of the two. -/
def DiscardLossless (cfg : CorrelatorSettings) (loads : PyStr → Except PyExc PyVal) (s : LoopState)
    (i : Input cfg.alertCooldownSecs) : Prop :=
  ∀ finding, receive cfg loads i = some finding →
    ∀ a c, (a, c) ∈ (matchPass cfg s i.now finding).1 → ¬ Qualifies cfg a c →
      (∀ x ∈ (matchPass cfg s i.now finding).2.code,
        inScope cfg.correlationWindowSecs a x = true → ¬ Qualifies cfg a x) ∧
      (∀ x ∈ (matchPass cfg s i.now finding).2.api,
        inScope cfg.correlationWindowSecs x c = true → ¬ Qualifies cfg x c)

omit [Sha256] in
/-- The points for what the fields of a pair say: the same trace, the same endpoint, the distance in
time, two severities from `HIGH` on, and a known pair of types. -/
def points (api code : Finding) : List ℚ :=
  (if bothEqual (textOf api.traceId) (textOf code.traceId) then [0.35] else []) ++
  (if bothEqual (textOf api.endpoint) (textOf code.endpoint) then [0.10] else []) ++
  (if timeDistance .double api code ≤ 60 then [0.10]
    else if timeDistance .double api code ≤ 300 then [0.05] else []) ++
  (if api.severityNumeric ≥ 3 ∧ code.severityNumeric ≥ 3 then [0.08] else []) ++
  (if knownPair api.type code.type then [0.12] else [])

omit [Sha256] in
/-- A pair reaches the threshold: half a point and the points for its fields, weighted by the mean of
the two confidences, each operation in the arithmetic of floats. -/
def ReachesThreshold (cfg : CorrelatorSettings) (api code : Held) : Prop :=
  cfg.minConfidence ≤ roundDouble (roundTo 3 (roundDouble
    ((points api.finding code.finding).foldl (plus .double) (roundDouble 0.5) *
      roundDouble (roundDouble (api.finding.confidence.val.value * roundDouble 0.5) +
        roundDouble (code.finding.confidence.val.value * roundDouble 0.5))))) ∧
  cfg.minConfidence ≤ roundDouble 0.99

/-- If a finding that is in the buffer at that pass and one of a pair that it is in scope with reach the
threshold, by their fields, then the pair does. -/
def PairsReach (cfg : CorrelatorSettings) (loads : PyStr → Except PyExc PyVal) (s : LoopState)
    (i : Input cfg.alertCooldownSecs) : Prop :=
  ∀ finding, receive cfg loads i = some finding →
    ∀ a c, (a, c) ∈ (matchPass cfg s i.now finding).1 →
      (∀ x ∈ (matchPass cfg s i.now finding).2.code,
        inScope cfg.correlationWindowSecs a x = true → ReachesThreshold cfg a x →
          ReachesThreshold cfg a c) ∧
      (∀ x ∈ (matchPass cfg s i.now finding).2.api,
        inScope cfg.correlationWindowSecs x c = true → ReachesThreshold cfg x c →
          ReachesThreshold cfg a c)

/-- If any partner of the arriving finding, by its fields, reaches the threshold, then the first one
does. -/
def FirstCandidateReaches (cfg : CorrelatorSettings) (loads : PyStr → Except PyExc PyVal)
    (s : LoopState) (i : Input cfg.alertCooldownSecs) : Prop :=
  ∀ finding, receive cfg loads i = some finding →
    ∀ p ∈ candidates cfg.correlationWindowSecs i.now s.buffer { arrival := s.arrivals, finding },
      ReachesThreshold cfg p.1 p.2 →
      ∀ q, (candidates cfg.correlationWindowSecs i.now s.buffer
          { arrival := s.arrivals, finding }).head? = some q → ReachesThreshold cfg q.1 q.2

/-- The first partner of the arriving finding is at least as strong as any other on every axis. -/
def FirstCandidateStrongest (cfg : CorrelatorSettings) (loads : PyStr → Except PyExc PyVal)
    (s : LoopState) (i : Input cfg.alertCooldownSecs) : Prop :=
  ∀ finding, receive cfg loads i = some finding →
    ∀ p ∈ candidates cfg.correlationWindowSecs i.now s.buffer { arrival := s.arrivals, finding },
      ∀ q, (candidates cfg.correlationWindowSecs i.now s.buffer
          { arrival := s.arrivals, finding }).head? = some q →
        AtLeastAsStrong .double p.1.finding p.2.finding q.1.finding q.2.finding

omit [Sha256] in
lemma evidence_eq_foldl (api code : Finding) :
    evidence .double api code = (points api code).foldl (plus .double) (roundDouble 0.5) := by
  unfold evidence points plusTime
  simp only [List.foldl_append]
  split_ifs <;> rfl

omit [Sha256] in
/-- The pairs worth an alert are those that reach the threshold by their fields. -/
lemma qualifies_iff_reachesThreshold {api code : Held} :
    Qualifies cfg api code ↔ ReachesThreshold cfg api code := by
  rw [Qualifies, computeConfidence_val, confidenceScore, le_min_iff, evidence_eq_foldl]
  exact Iff.rfl

omit [Sha256] in
lemma lossless_iff_pairsReach {s : LoopState} {i : Input cfg.alertCooldownSecs} :
    DiscardLossless cfg loads s i ↔ PairsReach cfg loads s i := by
  simp only [DiscardLossless, PairsReach, ← qualifies_iff_reachesThreshold]
  constructor
  · intro h finding hreceive a c hac
    refine ⟨fun x hx hscope hqualifies => ?_, fun x hx hscope hqualifies => ?_⟩
    · by_contra hlow
      exact (h finding hreceive a c hac hlow).1 x hx hscope hqualifies
    · by_contra hlow
      exact (h finding hreceive a c hac hlow).2 x hx hscope hqualifies
  · intro h finding hreceive a c hac hlow
    obtain ⟨hcode, hapi⟩ := h finding hreceive a c hac
    exact ⟨fun x hx hscope hqualifies => hlow (hcode x hx hscope hqualifies),
      fun x hx hscope hqualifies => hlow (hapi x hx hscope hqualifies)⟩

omit [Sha256] in
/-- A pair that is at least as strong as one worth an alert is worth one. -/
lemma qualifies_of_stronger {a c a' c' : Held} (h : Qualifies cfg a c)
    (hstrong : AtLeastAsStrong .double a.finding c.finding a'.finding c'.finding) :
    Qualifies cfg a' c' :=
  le_trans h hstrong.confidenceScore_le

omit [Sha256] in
/-- A fresh finding of the other source is still there at the pass. -/
lemma mem_matchPass {s : LoopState} {now : ℚ} {finding : Finding} {x : Held} (hs : s.Orderly cfg)
    (hfresh : x.fresh cfg.correlationWindowSecs now = true) :
    (finding.source = .api → x ∈ s.buffer.code → x ∈ (matchPass cfg s now finding).2.code) ∧
      (finding.source = .code → x ∈ s.buffer.api → x ∈ (matchPass cfg s now finding).2.api) := by
  constructor
  · intro hsource hx
    refine (hs.appended finding).mem_findMatches_iff.2.mpr ⟨?_, hfresh⟩
    simpa only [appended, Buffer.add, if_pos hsource] using hx
  · intro hsource hx
    have hapi : finding.source ≠ .api := by rw [hsource]; decide
    refine (hs.appended finding).mem_findMatches_iff.1.mpr ⟨?_, hfresh⟩
    simpa only [appended, Buffer.add, if_neg hapi, if_pos hsource] using hx

omit [Sha256] in
lemma firstCandidateReaches_of_lossless {s : LoopState} {i : Input cfg.alertCooldownSecs}
    (hinv : s.Inv cfg) (h : DiscardLossless cfg loads s i) : FirstCandidateReaches cfg loads s i := by
  intro finding hreceive p hp hreaches q hq
  rw [← qualifies_iff_reachesThreshold] at hreaches ⊢
  by_contra hlow
  have hmatch := hinv.pairs i.now finding
  rw [firstPartner_eq_head?, hq, Option.toList_some] at hmatch
  obtain ⟨hcode, hapi⟩ := h finding hreceive q.1 q.2 (by rw [hmatch]; simp) hlow
  have hqmem : q ∈ candidates cfg.correlationWindowSecs i.now s.buffer
      { arrival := s.arrivals, finding } := List.mem_of_mem_head? hq
  unfold candidates at hp hqmem
  split_ifs at hp hqmem with hnew hsource hsource'
  · obtain ⟨c, hc, rfl⟩ := List.mem_map.mp hp
    obtain ⟨d, -, rfl⟩ := List.mem_map.mp hqmem
    obtain ⟨hcmem, hcscope⟩ := List.mem_filter.mp hc
    rw [Bool.and_eq_true] at hcscope
    exact hcode c ((mem_matchPass hinv.orderly hcscope.1).1 hsource hcmem) hcscope.2 hreaches
  · obtain ⟨a, ha, rfl⟩ := List.mem_map.mp hp
    obtain ⟨d, -, rfl⟩ := List.mem_map.mp hqmem
    obtain ⟨hamem, hascope⟩ := List.mem_filter.mp ha
    rw [Bool.and_eq_true] at hascope
    exact hapi a ((mem_matchPass hinv.orderly hascope.1).2 hsource' hamem) hascope.2 hreaches
  · cases hp
  · cases hp

omit [Sha256] in
lemma lossless_of_firstCandidateReaches {s : LoopState} {i : Input cfg.alertCooldownSecs}
    (hinv : s.Inv cfg) (h : FirstCandidateReaches cfg loads s i) : DiscardLossless cfg loads s i := by
  intro finding hreceive a c hac hlow
  rw [hinv.pairs i.now finding, Option.mem_toList] at hac
  have hpartner := hinv.partnerOf hac
  have hnone : ∀ p ∈ candidates cfg.correlationWindowSecs i.now s.buffer
      { arrival := s.arrivals, finding }, ¬ Qualifies cfg p.1 p.2 := by
    intro p hp hqualifies
    rw [firstPartner_eq_head?] at hac
    rw [qualifies_iff_reachesThreshold] at hqualifies hlow
    exact hlow (h finding hreceive p hp hqualifies (a, c) hac)
  cases hpartner with
  | api c hsource hnew hpartner =>
      constructor
      · intro x hx hscope
        obtain ⟨hfresh, hmem | ⟨-, hsource'⟩⟩ := (hinv.orderly.mem_rescan i.now finding).2 hx
        · exact hnone (_, x) (mem_candidates_of_code hsource hnew hmem hfresh hscope)
        · rw [hsource] at hsource'
          cases hsource'
      · intro x hx hscope
        obtain ⟨hfresh, hmem | ⟨rfl, -⟩⟩ := (hinv.orderly.mem_rescan i.now finding).1 hx
        · rw [hinv.unmatched x hmem c hpartner.mem] at hscope
          cases hscope
        · exact hlow
  | code a hsource hnew hpartner =>
      have hsource' : finding.source ≠ .api := by
        rw [show finding.source = .code from hsource]
        decide
      constructor
      · intro x hx hscope
        obtain ⟨hfresh, hmem | ⟨rfl, -⟩⟩ := (hinv.orderly.mem_rescan i.now finding).2 hx
        · rw [hinv.unmatched a hpartner.mem x hmem] at hscope
          cases hscope
        · exact hlow
      · intro x hx hscope
        obtain ⟨hfresh, hmem | ⟨-, hapi⟩⟩ := (hinv.orderly.mem_rescan i.now finding).1 hx
        · exact hnone (x, _) (mem_candidates_of_api hsource hnew hmem hfresh hscope)
        · exact absurd hapi hsource'

omit [Sha256] in
lemma firstCandidateReaches_of_strongest {s : LoopState} {i : Input cfg.alertCooldownSecs}
    (h : FirstCandidateStrongest cfg loads s i) : FirstCandidateReaches cfg loads s i := by
  intro finding hreceive p hp hreaches q hq
  rw [← qualifies_iff_reachesThreshold] at hreaches ⊢
  exact qualifies_of_stronger hreaches (h finding hreceive p hp q hq)

omit [Sha256] in
/-- A single candidate is the strongest one. -/
lemma strongest_of_length_le {window now : ℚ} {b : Buffer} {new : Held} (hapi : b.api.length ≤ 1)
    (hcode : b.code.length ≤ 1) :
    ∀ p ∈ candidates window now b new, ∀ q, (candidates window now b new).head? = some q →
      AtLeastAsStrong .double p.1.finding p.2.finding q.1.finding q.2.finding := by
  have hlen : (candidates window now b new).length ≤ 1 := by
    unfold candidates
    split_ifs
    · exact (List.length_map _).trans_le ((List.length_filter_le _ _).trans hcode)
    · exact (List.length_map _).trans_le ((List.length_filter_le _ _).trans hapi)
    · exact Nat.zero_le _
    · exact Nat.zero_le _
  intro p hp q hq
  obtain ⟨r, hr⟩ := List.length_eq_one_iff.mp (le_antisymm hlen (List.length_pos_of_mem hp))
  rw [hr] at hp hq
  cases hq
  rw [List.mem_singleton.mp hp]
  exact ⟨id, id, id, id, le_rfl, le_rfl, le_rfl⟩

end Discarding

/-! ## A pass that loses a correlation -/

section LowConfidence

attribute [local instance] asciiData sampleDigest

/-- A code finding of confidence zero. -/
def doubtfulFinding : Finding :=
  sampleFinding sampleCodeId .code .nullDereference none (some loginFile)
    (some loginLine) false

/-- A code finding of confidence one, in another file. -/
def certainFinding : Finding :=
  sampleFinding ⟨py "2f8e1d0c-9b7a-4f65-b432-10fedcba9876", by decide +kernel⟩ .code .evalUsage none
    (some ⟨py "auth/token.py", by decide⟩) (some ⟨7, by decide⟩) true

def serverErrorFinding : Finding :=
  sampleFinding sampleApiId .api .http5xx none none none true

def doubtfulHeld : Held := { arrival := 0, finding := doubtfulFinding }

def certainHeld : Held := { arrival := 1, finding := certainFinding }

/-- The state when the API finding arrives. -/
def twoCandidates : LoopState where
  buffer := { api := [], code := [doubtfulHeld, certainHeld] }
  arrivals := 2

/-- The findings of the run that are received. -/
lemma receive_threeFindings :
    ∀ f ∈ [doubtfulFinding, certainFinding, serverErrorFinding],
      receive defaultSettings (sampleLoads [doubtfulFinding, certainFinding, serverErrorFinding])
        (promptInput defaultSettings f) = some f := by
  intro f hf
  have hsource : f.source = .api ∨ f.source = .code := by
    simp only [List.mem_cons, List.not_mem_nil, or_false] at hf
    rcases hf with rfl | rfl | rfl
    · exact Or.inr rfl
    · exact Or.inr rfl
    · exact Or.inl rfl
  exact receive_sample defaultSettings_polls (by decide +kernel) hf hsource rfl

lemma run_doubtful :
    (correlator defaultSettings
        (sampleLoads [doubtfulFinding, certainFinding, serverErrorFinding])).run
      [promptInput defaultSettings doubtfulFinding]
    = .ok { buffer := { api := [], code := [doubtfulHeld] }, arrivals := 1 } := by
  rw [Machine.run_singleton]
  refine step_of_arrival inv_init (receive_threeFindings _ (by simp))
    (Buffer.firstPartner_empty _ _ _) rfl (by decide) (by decide) fun x hx => ?_
  rw [List.mem_singleton.mp hx]
  exact fresh_of_timestamp rfl

lemma run_twoCandidates :
    (correlator defaultSettings
        (sampleLoads [doubtfulFinding, certainFinding, serverErrorFinding])).run
      [promptInput defaultSettings doubtfulFinding, promptInput defaultSettings certainFinding]
    = .ok twoCandidates := by
  refine (Machine.run_snoc _ run_doubtful _).trans (step_of_arrival
    ⟨correlator_orderly run_doubtful, by simp [Buffer.Unmatched]⟩ (receive_threeFindings _ (by simp))
    (Buffer.firstPartner_code_none rfl (by simp)) rfl (by decide) (by decide) fun x hx => ?_)
  rcases List.mem_cons.mp hx with rfl | hx
  · exact fresh_of_timestamp rfl
  · rw [List.mem_singleton.mp hx]
    exact fresh_of_timestamp rfl

end LowConfidence

end Watchtower
