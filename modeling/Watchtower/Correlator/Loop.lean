import Watchtower.Correlator.Removal
import Watchtower.Redis.Claim
import Watchtower.Schema.SortedKeys

/-!
# The correlator loop

One iteration of `correlate`: take a finding from the queue, buffer it, rescan, and turn each
matching pair into an alert.  Everything the code cannot decide itself is read from the
iteration's `Input`: what each attempt of each Redis call meets, what the notifier answers, the
UUIDs drawn and the clock.

Logging is left out, and so is the pause after a failed read.

* `alertStep` — from one matching pair to one of the exits of the alert step.
* `iteration`, `correlator` — the loop as a machine over its inputs.
* **`alertStep_buffer`** — every exit takes the pair out of the buffer.
* **`iteration_buffer`** — what becomes of the buffer in one iteration.
* **`correlator_orderly`** — the deques are in order at every loop head.
* `LoopState.Holds` — a property of all findings held; **`holds_run`** — what is held has been received.
-/

namespace Watchtower

open Core Py

section Loop

variable [UnicodeData]

/-! ## The alert step -/

/-- What one alert step meets.  The outcomes of a Redis call are listed by attempt. -/
structure AlertEnv (cooldownSecs : ℤ) where
  id : Uuid
  clock : FiniteFloat
  /-- The calls that fit on the stack when the alert is encoded. -/
  room : ℕ
  store : ℕ → Except PyExc Unit
  claim : ∀ fingerprint : PyStr, ClaimCall fingerprint cooldownSecs
  publish : ℕ → Except PyExc Unit
  send : Except PyExc Bool
  release : ℕ → Except PyExc Bool

/-- How an alert step ends.  Where the claim is given up, the outcome of the release is kept. -/
inductive AlertExit
  | lowConfidence
  | notPersisted
  | suppressed
  | notPublished (release : Except PyExc Bool)
  | undelivered (release : Except PyExc Bool)
  | delivered
  deriving DecidableEq

/-- `release_alert_claim`, on what its attempts meet. -/
def releaseAlertClaim (token : PyStr) (operation : ℕ → Except PyExc Bool) :
    Except PyExc Bool :=
  if token = [] then .error (.valueError "claim token is required") else withRetry operation

variable [Sha256]

/-- The alert of a pair, with its confidence and the guidance of the knowledge base. -/
def buildAlert {cooldownSecs : ℤ} (env : AlertEnv cooldownSecs) (api code : Held) :
    Except PyExc CorrelatedAlert :=
  let guidance := lookupRootCause api.finding.type code.finding.type
  newCorrelatedAlert env.id env.clock api.finding code.finding
    (computeConfidence .double api.finding code.finding) guidance.1 guidance.2

/-- The body of the loop over the matches.  The alert is built outside every `try`; from there on
each failure is caught, that of `to_json` in the first of them, and each exit removes the pair. -/
def alertStep (cfg : CorrelatorSettings) (env : AlertEnv cfg.alertCooldownSecs) (api code : Held)
    (b : Buffer) : Except PyExc (AlertExit × Buffer) :=
  if (computeConfidence .double api.finding code.finding).val < cfg.minConfidence then
    .ok (.lowConfidence, b.removePair api code)
  else
    match buildAlert env api code with
    | .error e => .error e
    | .ok alert =>
      if alert.toJsonReturns env.room = false then .ok (.notPersisted, b.removePair api code)
      else
        match storeAlertRecord env.store with
        | .error _ => .ok (.notPersisted, b.removePair api code)
        | .ok () =>
          match (env.claim alert.fingerprint.val).result with
          | .error _ => .ok (.notPersisted, b.removePair api code)
          | .ok none => .ok (.suppressed, b.removePair api code)
          | .ok (some token) =>
            match publishAlert env.publish with
            | .error _ =>
                .ok (.notPublished (releaseAlertClaim token env.release), b.removePair api code)
            | .ok () =>
              match env.send with
              | .ok true => .ok (.delivered, b.removePair api code)
              | _ =>
                  .ok (.undelivered (releaseAlertClaim token env.release), b.removePair api code)

/-- The loop over the matches of one rescan. -/
def alertPass (cfg : CorrelatorSettings) (env : ℕ → AlertEnv cfg.alertCooldownSecs) :
    ℕ → List (Held × Held) → Buffer → Except PyExc (List AlertExit × Buffer)
  | _, [], b => .ok ([], b)
  | k, (api, code) :: rest, b => do
      let (exit, b) ← alertStep cfg (env k) api code b
      let (exits, b) ← alertPass cfg env (k + 1) rest b
      return (exit :: exits, b)

/-! ## The loop -/

/-- What one iteration reads. -/
structure Input (cooldownSecs : ℤ) where
  pop : ℕ → Except PyExc (Option PyStr)
  now : ℚ
  env : ℕ → AlertEnv cooldownSecs

/-- What the loop carries from one iteration to the next. -/
structure LoopState where
  buffer : Buffer
  arrivals : ℕ

variable (cfg : CorrelatorSettings) (loads : PyStr → Except PyExc PyVal)

omit [Sha256] in
/-- The finding an iteration goes on with.  A failed read, a timeout, a malformed payload and a
finding of another source all lead back to the top of the loop. -/
def receive (i : Input cfg.alertCooldownSecs) : Option Finding :=
  match popFinding cfg.pollTimeoutSecs i.pop with
  | .error _ => none
  | .ok none => none
  | .ok (some raw) =>
    match Finding.fromJson loads raw with
    | .error _ => none
    | .ok finding => if finding.source = .api ∨ finding.source = .code then some finding else none

omit [Sha256] in
/-- `buffer.add`. -/
def appended (s : LoopState) (finding : Finding) : Buffer :=
  s.buffer.add cfg { arrival := s.arrivals, finding }

omit [Sha256] in
/-- `buffer.add` and `buffer.find_matches`. -/
def matchPass (s : LoopState) (now : ℚ) (finding : Finding) : List (Held × Held) × Buffer :=
  (appended cfg s finding).findMatches cfg now

/-- One iteration of the loop in `correlate`. -/
def iteration (s : LoopState) (i : Input cfg.alertCooldownSecs) :
    Except PyExc (List AlertExit × LoopState) :=
  match receive cfg loads i with
  | none => .ok ([], s)
  | some finding => do
      let (pairs, buffer) := matchPass cfg s i.now finding
      let (exits, buffer) ← alertPass cfg i.env 0 pairs buffer
      return (exits, { buffer, arrivals := s.arrivals + 1 })

/-- `correlate`. -/
def correlator : Machine LoopState (Input cfg.alertCooldownSecs) PyExc where
  init := { buffer := .empty, arrivals := 0 }
  step s i := (iteration cfg loads s i).map Prod.snd

/-! ## What an iteration does -/

variable {cfg loads}

omit [Sha256] in
/-- The pair is worth an alert. -/
def Qualifies (cfg : CorrelatorSettings) (api code : Held) : Prop :=
  cfg.minConfidence ≤ (computeConfidence .double api.finding code.finding).val

omit [Sha256] in
instance (cfg : CorrelatorSettings) (api code : Held) : Decidable (Qualifies cfg api code) :=
  inferInstanceAs (Decidable (_ ≤ _))

/-- **Every exit of the alert step takes the pair out of the buffer.** -/
theorem alertStep_buffer {env : AlertEnv cfg.alertCooldownSecs} {api code : Held} {b b' : Buffer}
    {exit : AlertExit} (h : alertStep cfg env api code b = .ok (exit, b')) :
    b' = b.removePair api code := by
  simp only [alertStep] at h
  split_ifs at h with hlow
  · cases h
    rfl
  · -- one case for each of the handlers
    repeat' split at h
    all_goals first
      | (cases h; rfl)
      | cases h

/-- The alert of a pair is built exactly when the pair fits: the score and the guidance texts are
always acceptable. -/
lemma returns_buildAlert_iff {cooldownSecs : ℤ} (env : AlertEnv cooldownSecs) (api code : Held) :
    Returns (buildAlert env api code) ↔ AlertFits api.finding code.finding env.clock := by
  obtain ⟨hroot, hfix⟩ := lookupRootCause_isGuidance api.finding.type code.finding.type
  have hconfidence : 0 ≤ (computeConfidence .double api.finding code.finding).val ∧
      (computeConfidence .double api.finding code.finding).val ≤ 1 :=
    ⟨(confidenceScore_mem .double _ _).1, confidenceScore_le_one .double _ _⟩
  exact newCorrelatedAlert_returns_iff env.id env.clock api.finding code.finding hconfidence
    ⟨hroot.not_blank, hroot.length_le⟩ ⟨hfix.not_blank, hfix.length_le⟩

/-- The alert step raises only where the alert is built. -/
lemma returns_alertStep_iff {env : AlertEnv cfg.alertCooldownSecs} {api code : Held} {b : Buffer} :
    Returns (alertStep cfg env api code b) ↔
      (Qualifies cfg api code → AlertFits api.finding code.finding env.clock) := by
  simp only [alertStep, Qualifies]
  split_ifs with hlow
  · simp only [returns_ok, true_iff]
    exact fun h => absurd hlow h.not_gt
  · simp only [not_lt.mp hlow, true_implies]
    rw [← returns_buildAlert_iff env]
    cases buildAlert env api code with
    | error e => simp only [not_returns_error]
    | ok alert =>
        simp only [returns_ok, iff_true]
        -- past the construction every failure is caught
        repeat' split
        all_goals exact returns_ok _

/-- The pass over the matches raises only where one of its alerts is built. -/
lemma returns_alertPass_iff {env : ℕ → AlertEnv cfg.alertCooldownSecs}
    {pairs : List (Held × Held)} {k : ℕ} {b : Buffer} :
    Returns (alertPass cfg env k pairs b) ↔
      ∀ j api code, pairs[j]? = some (api, code) → Qualifies cfg api code →
        AlertFits api.finding code.finding (env (k + j)).clock := by
  induction pairs generalizing k b with
  | nil => simp [alertPass]
  | cons pair pairs ih =>
      obtain ⟨api, code⟩ := pair
      simp only [alertPass, returns_bind]
      constructor
      · rintro ⟨⟨exit, b'⟩, hstep, rest, hrest, -⟩ j api' code' hj hconf
        cases j with
        | zero =>
            cases hj
            exact returns_alertStep_iff.mp ⟨_, hstep⟩ hconf
        | succ j =>
            have hfits := ih.mp ⟨_, hrest⟩ j api' code' hj hconf
            rwa [Nat.add_right_comm, Nat.add_assoc] at hfits
      · intro h
        obtain ⟨⟨exit, b'⟩, hstep⟩ :=
          returns_alertStep_iff (b := b) |>.mpr fun hconf => h 0 api code rfl hconf
        obtain ⟨rest, hrest⟩ := ih (k := k + 1) (b := b') |>.mpr fun j api' code' hj hconf => by
          rw [Nat.add_right_comm, Nat.add_assoc]
          exact h (j + 1) api' code' hj hconf
        exact ⟨_, hstep, rest, hrest, returns_ok _⟩

/-- The pass takes its pairs out of the buffer, one after the other. -/
lemma alertPass_buffer {env : ℕ → AlertEnv cfg.alertCooldownSecs} {pairs : List (Held × Held)}
    {k : ℕ} {b b' : Buffer} {exits : List AlertExit}
    (h : alertPass cfg env k pairs b = .ok (exits, b')) : b' = b.removePairs pairs := by
  induction pairs generalizing k b exits with
  | nil =>
      cases h
      rfl
  | cons pair pairs ih =>
      obtain ⟨⟨exit, b₁⟩, hstep, hrest⟩ := bind_eq_ok_iff.mp h
      obtain ⟨⟨exits', b₂⟩, hpass, hret⟩ := bind_eq_ok_iff.mp hrest
      cases hret
      rw [ih hpass, alertStep_buffer hstep]
      rfl

/-- Each of its exits is that of an alert step for the pair in its place. -/
lemma alertPass_exit {env : ℕ → AlertEnv cfg.alertCooldownSecs} {pairs : List (Held × Held)}
    {k : ℕ} {b b' : Buffer} {exits : List AlertExit}
    (h : alertPass cfg env k pairs b = .ok (exits, b')) {j : ℕ} {api code : Held}
    (hj : pairs[j]? = some (api, code)) :
    ∃ exit b₁ b₂, exits[j]? = some exit ∧
      alertStep cfg (env (k + j)) api code b₁ = .ok (exit, b₂) := by
  induction pairs generalizing k b exits j with
  | nil => simp at hj
  | cons pair pairs ih =>
      obtain ⟨⟨exit, b₁⟩, hstep, hrest⟩ := bind_eq_ok_iff.mp h
      obtain ⟨⟨exits', b₂⟩, hpass, hret⟩ := bind_eq_ok_iff.mp hrest
      cases hret
      cases j with
      | zero =>
          cases hj
          exact ⟨exit, b, b₁, rfl, hstep⟩
      | succ j =>
          obtain ⟨exit', b₃, b₄, hexit, hstep'⟩ := ih hpass hj
          refine ⟨exit', b₃, b₄, hexit, ?_⟩
          rwa [Nat.add_right_comm, Nat.add_assoc] at hstep'

/-! ## What becomes of the buffer -/

/-- **What becomes of the buffer in one iteration.**  Nothing is received and nothing happens; or the
pairs of the pass are taken out of the buffer it leaves. -/
lemma iteration_buffer {s s' : LoopState} {i : Input cfg.alertCooldownSecs} {exits : List AlertExit}
    (h : iteration cfg loads s i = .ok (exits, s')) :
    (receive cfg loads i = none ∧ exits = [] ∧ s' = s) ∨
      ∃ finding, receive cfg loads i = some finding ∧
        s' = { buffer := (matchPass cfg s i.now finding).2.removePairs (matchPass cfg s i.now finding).1
               arrivals := s.arrivals + 1 } ∧
        ∃ b', alertPass cfg i.env 0 (matchPass cfg s i.now finding).1
          (matchPass cfg s i.now finding).2 = .ok (exits, b') := by
  unfold iteration at h
  split at h
  · next hnone =>
      cases h
      exact Or.inl ⟨hnone, rfl, rfl⟩
  · next finding hsome =>
      obtain ⟨⟨exits', b'⟩, hpass, hret⟩ := bind_eq_ok_iff.mp h
      cases hret
      have hb : b' = (matchPass cfg s i.now finding).2.removePairs
          (matchPass cfg s i.now finding).1 := alertPass_buffer hpass
      exact Or.inr ⟨finding, hsome, by rw [hb], b', hpass⟩

lemma exists_exits_of_step {s t : LoopState} {i : Input cfg.alertCooldownSecs}
    (h : (correlator cfg loads).step s i = .ok t) :
    ∃ exits, iteration cfg loads s i = .ok (exits, t) := by
  obtain ⟨⟨exits, t'⟩, hi, rfl⟩ := map_eq_ok h
  exact ⟨exits, hi⟩

/-- The same for a step of the loop. -/
lemma step_buffer {s t : LoopState} {i : Input cfg.alertCooldownSecs}
    (h : (correlator cfg loads).step s i = .ok t) :
    (receive cfg loads i = none ∧ t = s) ∨
      ∃ finding, receive cfg loads i = some finding ∧
        t = { buffer := (matchPass cfg s i.now finding).2.removePairs (matchPass cfg s i.now finding).1
              arrivals := s.arrivals + 1 } := by
  obtain ⟨exits, hiter⟩ := exists_exits_of_step h
  rcases iteration_buffer hiter with ⟨hnone, -, rfl⟩ | ⟨finding, hsome, ht, -⟩
  · exact Or.inl ⟨hnone, rfl⟩
  · exact Or.inr ⟨finding, hsome, ht⟩

/-! ## The order of the deques -/

/-- The deques are bounded, in order of arrival and of one source each. -/
def LoopState.Orderly (cfg : CorrelatorSettings) (s : LoopState) : Prop :=
  s.buffer.Orderly cfg s.arrivals

section Pass

variable {s : LoopState} (hs : s.Orderly cfg) (now : ℚ) (finding : Finding)

include hs

omit [Sha256]

lemma LoopState.Orderly.appended : (appended cfg s finding).Orderly cfg (s.arrivals + 1) :=
  Buffer.Orderly.add { arrival := s.arrivals, finding } hs

lemma LoopState.Orderly.matchPass : (matchPass cfg s now finding).2.Orderly cfg (s.arrivals + 1) :=
  (hs.appended finding).findMatches now

/-- The pairs of a pass are among what it keeps, in scope, and no id is in two of them. -/
lemma LoopState.Orderly.mem_pairs :
    SoundPairs (fun x : Held => x.finding.id.val) (fun x : Held => x.finding.id.val)
      (inScope cfg.correlationWindowSecs) (Watchtower.matchPass cfg s now finding).2.api
      (Watchtower.matchPass cfg s now finding).2.code (Watchtower.matchPass cfg s now finding).1 :=
  (hs.appended finding).mem_pairs now

/-- What a pass keeps was held before or has just arrived, and is fresh. -/
lemma LoopState.Orderly.mem_rescan {x : Held} :
    (x ∈ (Watchtower.matchPass cfg s now finding).2.api →
        x.fresh cfg.correlationWindowSecs now = true ∧
          (x ∈ s.buffer.api ∨ (x = { arrival := s.arrivals, finding } ∧ finding.source = .api))) ∧
      (x ∈ (Watchtower.matchPass cfg s now finding).2.code →
        x.fresh cfg.correlationWindowSecs now = true ∧
          (x ∈ s.buffer.code ∨ (x = { arrival := s.arrivals, finding } ∧ finding.source = .code))) := by
  refine Buffer.mem_rescan ?_
  exact hs

/-- A copy is an older finding of the pass that is equal. -/
lemma LoopState.Orderly.hasCopy_iff {x : Held} :
    (Buffer.HasCopy cfg.correlationWindowSecs now (Watchtower.appended cfg s finding).api x ↔
        ∃ y ∈ (Watchtower.matchPass cfg s now finding).2.api, y.arrival < x.arrival ∧
          y.finding.eq x.finding = true) ∧
      (Buffer.HasCopy cfg.correlationWindowSecs now (Watchtower.appended cfg s finding).code x ↔
        ∃ y ∈ (Watchtower.matchPass cfg s now finding).2.code, y.arrival < x.arrival ∧
          y.finding.eq x.finding = true) := by
  refine Buffer.hasCopy_iff ?_
  exact hs

/-- A pair of the pass stays in the buffer when both of its findings have copies. -/
lemma LoopState.Orderly.mem_removePairs_iff {api code : Held}
    (hp : (api, code) ∈ (Watchtower.matchPass cfg s now finding).1) :
    (api ∈ ((Watchtower.matchPass cfg s now finding).2.removePairs
          (Watchtower.matchPass cfg s now finding).1).api ∧
        code ∈ ((Watchtower.matchPass cfg s now finding).2.removePairs
          (Watchtower.matchPass cfg s now finding).1).code) ↔
      Buffer.HasCopy cfg.correlationWindowSecs now (Watchtower.appended cfg s finding).api api ∧
        Buffer.HasCopy cfg.correlationWindowSecs now (Watchtower.appended cfg s finding).code code := by
  rw [(hs.hasCopy_iff now finding).1, (hs.hasCopy_iff now finding).2]
  exact Buffer.mem_removePairs_iff (hs.matchPass now finding) (hs.mem_pairs now finding) hp

end Pass

omit [Sha256] in
/-- Nothing but the arriving finding enters the buffer. -/
lemma mem_of_mem_appended {s : LoopState} {finding : Finding} {x : Held}
    (hx : x ∈ (appended cfg s finding).held) :
    x ∈ s.buffer.held ∨ x = { arrival := s.arrivals, finding } := by
  simp only [Buffer.held, List.mem_append] at hx ⊢
  rcases hx with hx | hx
  · exact (Buffer.mem_add.1 hx).imp Or.inl And.left
  · exact (Buffer.mem_add.2 hx).imp Or.inr And.left

omit [Sha256] in
lemma mem_of_mem_matchPass {s : LoopState} {now : ℚ} {finding : Finding} {x : Held}
    (hx : x ∈ (matchPass cfg s now finding).2.held) : x ∈ (appended cfg s finding).held := by
  obtain ⟨hapi, hcode⟩ : (matchPass cfg s now finding).2.api.Sublist (appended cfg s finding).api ∧
      (matchPass cfg s now finding).2.code.Sublist (appended cfg s finding).code :=
    Buffer.findMatches_sublist now (appended cfg s finding)
  exact (hapi.append hcode).subset hx

lemma orderly_step (s : LoopState) (i : Input cfg.alertCooldownSecs) (t : LoopState)
    (hs : s.Orderly cfg) (h : (correlator cfg loads).step s i = .ok t) : t.Orderly cfg := by
  rcases step_buffer h with ⟨-, rfl⟩ | ⟨finding, -, rfl⟩
  · exact hs
  · have hsub := Buffer.removePairs_sublist (matchPass cfg s i.now finding).1
      (matchPass cfg s i.now finding).2
    exact (hs.matchPass i.now finding).sublist hsub.1 hsub.2

lemma orderly_init : (correlator cfg loads).init.Orderly cfg := Buffer.orderly_empty cfg 0

/-- **The deques are in order at every loop head.** -/
theorem correlator_orderly {inputs : List (Input cfg.alertCooldownSecs)} {s : LoopState}
    (h : (correlator cfg loads).run inputs = .ok s) : s.Orderly cfg :=
  Machine.invariant orderly_init orderly_step h

/-! ## What is held -/

/-- A property of every finding held. -/
def LoopState.Holds (P : Finding → Prop) (s : LoopState) : Prop := ∀ x ∈ s.buffer.held, P x.finding

omit [Sha256] in
/-- The findings of a pass are among those held and the one received. -/
lemma LoopState.Holds.matchPass {P : Finding → Prop} {s : LoopState} (hs : s.Holds P) (now : ℚ)
    {finding : Finding} (hfinding : P finding) :
    ∀ x ∈ (matchPass cfg s now finding).2.held, P x.finding := by
  intro x hx
  rcases mem_of_mem_appended (mem_of_mem_matchPass hx) with hold | rfl
  · exact hs x hold
  · exact hfinding

/-- One iteration keeps a property that the finding received has. -/
lemma holds_step {P : Finding → Prop} {s t : LoopState} {i : Input cfg.alertCooldownSecs}
    (hs : s.Holds P) (hreceived : ∀ g, receive cfg loads i = some g → P g)
    (h : (correlator cfg loads).step s i = .ok t) : t.Holds P := by
  rcases step_buffer h with ⟨-, rfl⟩ | ⟨finding, hreceive, rfl⟩
  · exact hs
  · have hsub := Buffer.removePairs_sublist (matchPass cfg s i.now finding).1
      (matchPass cfg s i.now finding).2
    exact fun x hx => hs.matchPass i.now (hreceived finding hreceive) x
      ((hsub.1.append hsub.2).subset hx)

lemma holds_init {P : Finding → Prop} : (correlator cfg loads).init.Holds P := by
  simp [LoopState.Holds, correlator, Buffer.held, Buffer.empty]

/-- **What is held has been received.** -/
theorem holds_run {P : Finding → Prop} {inputs : List (Input cfg.alertCooldownSecs)}
    (hreceived : (correlator cfg loads).Always inputs
      fun _ i => ∀ g, receive cfg loads i = some g → P g) {s : LoopState}
    (hrun : (correlator cfg loads).run inputs = .ok s) : s.Holds P :=
  Machine.invariant_of_always holds_init (fun _ _ _ hs hi hstep => holds_step hs hi hstep) hreceived
    hrun

/-! ## A pass with nothing left to match -/

/-- The deques are in order and no two findings held belong together. -/
structure LoopState.Inv (cfg : CorrelatorSettings) (s : LoopState) : Prop where
  orderly : s.Orderly cfg
  unmatched : s.buffer.Unmatched cfg.correlationWindowSecs

lemma inv_init : (correlator cfg loads).init.Inv cfg := ⟨orderly_init, Buffer.unmatched_empty _⟩

omit [Sha256] in
/-- The pass finds the first partner and nothing else. -/
lemma LoopState.Inv.pairs {s : LoopState} (hinv : s.Inv cfg) (now : ℚ) (finding : Finding) :
    (matchPass cfg s now finding).1 = (firstPartner cfg.correlationWindowSecs now s.buffer
      { arrival := s.arrivals, finding }).toList :=
  Buffer.findMatches_add hinv.orderly hinv.unmatched now { arrival := s.arrivals, finding }

omit [Sha256] in
lemma LoopState.Inv.partnerOf {s : LoopState} (hinv : s.Inv cfg) {now : ℚ} {finding : Finding}
    {api code : Held} (h : firstPartner cfg.correlationWindowSecs now s.buffer
      { arrival := s.arrivals, finding } = some (api, code)) :
    Buffer.PartnerOf cfg.correlationWindowSecs now s.buffer { arrival := s.arrivals, finding } api
      code :=
  Buffer.partnerOf_of_firstPartner hinv.orderly h

section Partner

variable {s : LoopState} {now : ℚ} {finding : Finding} {api code : Held} (hinv : s.Inv cfg)
  (h : firstPartner cfg.correlationWindowSecs now s.buffer { arrival := s.arrivals, finding }
    = some (api, code))

include hinv h

omit [Sha256]

/-- The pair is the only one of the pass. -/
lemma LoopState.Inv.pairs_eq_singleton : (matchPass cfg s now finding).1 = [(api, code)] := by
  rw [hinv.pairs now finding, h, Option.toList_some]

/-- Both members of the pair are in the buffer at the pass. -/
lemma LoopState.Inv.mem_of_partner :
    api ∈ (matchPass cfg s now finding).2.api ∧ code ∈ (matchPass cfg s now finding).2.code := by
  refine Buffer.mem_pass_of_partnerOf ?_ (hinv.partnerOf h)
  exact hinv.orderly

/-- What is left when the pair has been taken out. -/
lemma LoopState.Inv.unmatched_removePair_iff :
    ((matchPass cfg s now finding).2.removePair api code).Unmatched cfg.correlationWindowSecs ↔
      ¬ Buffer.Lingers cfg.correlationWindowSecs now (appended cfg s finding) api code := by
  refine Buffer.unmatched_removePair_iff ?_ hinv.unmatched (hinv.partnerOf h)
  exact hinv.orderly

end Partner

/-- An arrival with a partner goes through one alert step. -/
lemma iteration_of_partner {s : LoopState} {i : Input cfg.alertCooldownSecs} {finding : Finding}
    {api code : Held} (hinv : s.Inv cfg) (hreceive : receive cfg loads i = some finding)
    (hpartner : firstPartner cfg.correlationWindowSecs i.now s.buffer
      { arrival := s.arrivals, finding } = some (api, code)) :
    iteration cfg loads s i
      = (alertStep cfg (i.env 0) api code (matchPass cfg s i.now finding).2).map fun r =>
          ([r.1], { buffer := r.2, arrivals := s.arrivals + 1 }) := by
  simp only [iteration, hreceive, hinv.pairs_eq_singleton hpartner, alertPass]
  cases alertStep cfg (i.env 0) api code (matchPass cfg s i.now finding).2 with
  | error e => rfl
  | ok r => rfl

/-! ## What an iteration is given -/

omit [Sha256] in
/-- A queued finding that decodes is received, when its source is one the loop correlates. -/
lemma receive_eq_some {i : Input cfg.alertCooldownSecs} {raw : PyStr} {finding : Finding}
    (hpoll : 0 < cfg.pollTimeoutSecs) (hpop : i.pop 1 = .ok (some raw))
    (hloads : loads raw = .ok (.dict finding.toDict))
    (hsource : finding.source = .api ∨ finding.source = .code) :
    receive cfg loads i = some finding := by
  have hread : popFinding cfg.pollTimeoutSecs i.pop = .ok (some raw) := by
    rw [popFinding, if_neg hpoll.not_ge]
    exact withRetry_eq_ok_iff.mpr ⟨1, le_rfl, by decide, hpop, fun j _ hj => by omega⟩
  simp only [receive, hread, Finding.fromJson, hloads, Finding.fromDict_toDict, if_pos hsource]

/-- An arrival without a partner only joins the buffer. -/
lemma step_of_no_partner {s : LoopState} {i : Input cfg.alertCooldownSecs} {finding : Finding}
    (hinv : s.Inv cfg) (hreceive : receive cfg loads i = some finding)
    (hpartner : firstPartner cfg.correlationWindowSecs i.now s.buffer
      { arrival := s.arrivals, finding } = none) :
    (correlator cfg loads).step s i
      = .ok { buffer := (matchPass cfg s i.now finding).2, arrivals := s.arrivals + 1 } := by
  have hmatch := hinv.pairs i.now finding
  rw [hpartner, Option.toList_none] at hmatch
  simp only [correlator, iteration, hreceive, hmatch, alertPass, ok_bind]
  rfl

/-- The same when nothing expires and nothing overflows. -/
lemma step_of_arrival {s : LoopState} {i : Input cfg.alertCooldownSecs} {finding : Finding}
    {b : Buffer} (hinv : s.Inv cfg) (hreceive : receive cfg loads i = some finding)
    (hpartner : firstPartner cfg.correlationWindowSecs i.now s.buffer
      { arrival := s.arrivals, finding } = none)
    (hadd : s.buffer.add cfg { arrival := s.arrivals, finding } = b)
    (hapi : b.api.length ≤ cfg.bufferMaxSize) (hcode : b.code.length ≤ cfg.bufferMaxSize)
    (hfresh : ∀ x ∈ b.api ++ b.code, x.fresh cfg.correlationWindowSecs i.now = true) :
    (correlator cfg loads).step s i = .ok { buffer := b, arrivals := s.arrivals + 1 } := by
  rw [step_of_no_partner hinv hreceive hpartner, matchPass, appended, hadd,
    Buffer.findMatches_of_fresh b hapi hcode hfresh]

end Loop

/-! ## Sample inputs -/

section Sample

attribute [local instance] asciiData

/-- SHA-256 on the texts that are hashed in the samples. -/
@[reducible] def sampleDigest : Sha256 where
  hexdigest32 text :=
    if text = py "auth-service||http_5xx|auth/login.py|42" then
      py "090af5e64485c815b84ee54887876ca5"
    else py "00000000000000000000000000000000"
  isFingerprint_hexdigest32 text := by
    split_ifs <;> exact isFingerprint_literal _ rfl

/-- A text without characters that JSON escapes. -/
def jsonText : Option PyStr → PyStr
  | none => py "null"
  | some s => py "\"" ++ s ++ py "\""

/-- The text of a whole number. -/
def numText : PyNum → PyStr
  | .int n => decimalInt n
  | .float q => decimalInt ⌊q.val⌋ ++ py ".0"

/-- The payload of a sample finding. -/
def sampleJson (f : Finding) : PyStr :=
  py "\x7b\"confidence\":" ++ (if f.confidence.val.value = 1 then py "1" else py "0") ++
  py ",\"context\":\x7b\x7d,\"description\":\"Sample\",\"endpoint\":" ++
  jsonText (textOf f.endpoint) ++ py ",\"file\":" ++ jsonText (textOf f.file) ++
  py ",\"fingerprint\":\"00000000000000000000000000000000\",\"function\":null,\"id\":" ++
  jsonText (some f.id.val) ++ py ",\"line\":" ++ ((lineNoText f.line).getD (py "null")) ++
  py ",\"schema_version\":\"2.0\",\"service\":\"auth-service\",\"severity\":\"HIGH\"" ++
  py ",\"source\":" ++ jsonText (some f.source.value) ++
  py ",\"status\":" ++ jsonText (some f.status.value) ++
  py ",\"system\":\"platform\",\"timestamp\":" ++ numText f.timestamp.val ++
  py ",\"title\":\"Sample\",\"trace_id\":null,\"type\":" ++ jsonText (some f.type.value) ++
  py "\x7d"

/-- `json.loads` on the payloads of some samples. -/
def sampleLoads (samples : List Finding) (raw : PyStr) : Except PyExc PyVal :=
  match samples.find? fun f => sampleJson f == raw with
  | some f => .ok (.dict f.toDict)
  | none => .error .jsonDecodeError

/-- A claim that is answered at once. -/
def promptClaim (fingerprint : PyStr) (cooldownSecs : ℤ) : ClaimCall fingerprint cooldownSecs where
  token := sampleToken
  now := 0
  store := fun _ => none
  events := [.attempt .answered]
  token_ne_nil := sampleToken_ne_nil
  fresh := none_ne_entry
  valid := by decide
  finished := by
    simp only [ClaimState.run, ClaimState.start, List.foldl_cons, List.foldl_nil, ClaimState.step]
    split_ifs <;> rfl

/-- Every call of the alert step succeeds. -/
def promptEnv (cooldownSecs : ℤ) : AlertEnv cooldownSecs where
  id := ⟨py "5e9d4c3b-2a1f-4e0d-8c7b-6a5f4e3d2c1b", by decide +kernel⟩
  clock := sampleClock
  room := 900
  store := fun _ => .ok ()
  claim := fun fingerprint => promptClaim fingerprint cooldownSecs
  publish := fun _ => .ok ()
  send := .ok true
  release := fun _ => .ok true

/-- An iteration that takes a sample from the queue at once. -/
def promptInput (cfg : CorrelatorSettings) (f : Finding) : Input cfg.alertCooldownSecs where
  pop := fun _ => .ok (some (sampleJson f))
  now := sampleClock.val
  env := fun _ => promptEnv cfg.alertCooldownSecs

/-- The defaults of the environment. -/
def defaultSettings : CorrelatorSettings where
  correlationWindowSecs := 300
  bufferMaxSize := 500
  minConfidence := 0.6
  pollTimeoutSecs := 5
  alertCooldownSecs := 300

lemma defaultSettings_polls : 0 < defaultSettings.pollTimeoutSecs := by norm_num [defaultSettings]

/-- One of a list of samples with different payloads is received. -/
lemma receive_sample {cfg : CorrelatorSettings} {samples : List Finding} {f : Finding}
    {i : Input cfg.alertCooldownSecs} (hpoll : 0 < cfg.pollTimeoutSecs)
    (hnodup : (samples.map sampleJson).Nodup) (hf : f ∈ samples)
    (hsource : f.source = .api ∨ f.source = .code) (hpop : i.pop 1 = .ok (some (sampleJson f))) :
    receive cfg (sampleLoads samples) i = some f := by
  refine receive_eq_some hpoll hpop ?_ hsource
  cases hfind : samples.find? fun g => sampleJson g == sampleJson f with
  | none => simpa using List.find?_eq_none.mp hfind f hf
  | some g =>
      have hsame : sampleJson g = sampleJson f := by simpa using List.find?_some hfind
      have hgf := List.inj_on_of_nodup_map hnodup (List.mem_of_find?_eq_some hfind) hf hsame
      simp only [sampleLoads, hfind, hgf]

/-- A finding of the moment is fresh. -/
lemma fresh_of_moment {x : Held} (h : x.finding.timestamp.val.toFloat .double = sampleClock.val) :
    x.fresh defaultSettings.correlationWindowSecs sampleClock.val = true := by
  rw [Held.fresh, h]
  decide +kernel

lemma fresh_of_timestamp {x : Held} (h : x.finding.timestamp = sampleTimestamp) :
    x.fresh defaultSettings.correlationWindowSecs sampleClock.val = true := by
  refine fresh_of_moment ?_
  rw [h]
  decide +kernel

/-! ## An API finding and a code finding of the moment -/

section TwoArrivals

variable [Sha256] {loads : PyStr → Except PyExc PyVal} {api code : Finding}

/-- The API finding is held alone. -/
lemma run_first_api (hsource : api.source = .api) (hstamp : api.timestamp = sampleTimestamp)
    (hreceive : receive defaultSettings loads (promptInput defaultSettings api) = some api) :
    (correlator defaultSettings loads).run [promptInput defaultSettings api]
      = .ok { buffer := { api := [{ arrival := 0, finding := api }], code := [] }, arrivals := 1 } := by
  rw [Machine.run_singleton]
  refine step_of_arrival inv_init hreceive (Buffer.firstPartner_empty _ _ _) ?_ (show 1 ≤ 500 by decide)
    (show 0 ≤ 500 by decide) fun x hx => ?_
  · rw [Buffer.add, if_pos hsource]
    simp [deque, defaultSettings, correlator, Buffer.empty]
  · rw [List.mem_singleton.mp hx]
    exact fresh_of_timestamp hstamp

lemma inv_first_api (hsource : api.source = .api) (hstamp : api.timestamp = sampleTimestamp)
    (hreceive : receive defaultSettings loads (promptInput defaultSettings api) = some api) :
    LoopState.Inv defaultSettings
      { buffer := { api := [{ arrival := 0, finding := api }], code := [] }, arrivals := 1 } :=
  ⟨correlator_orderly (run_first_api hsource hstamp hreceive), by simp [Buffer.Unmatched]⟩

omit [Sha256] in
/-- The code finding that comes next makes a pair with it. -/
lemma pairs_second_code {s : LoopState} {now : ℚ} (hinv : s.Inv defaultSettings)
    (hheld : s = { buffer := { api := [{ arrival := 0, finding := api }], code := [] }, arrivals := 1 })
    (hsource : code.source = .code)
    (hstamps : api.timestamp = sampleTimestamp ∧ code.timestamp = sampleTimestamp)
    (hnow : now = sampleClock.val)
    (hscope : findingsShareScope defaultSettings.correlationWindowSecs api code = true) :
    (matchPass defaultSettings s now code).1
      = [({ arrival := 0, finding := api }, { arrival := 1, finding := code })] := by
  subst hheld hnow
  exact hinv.pairs_eq_singleton (Buffer.firstPartner_code_head hsource
    (fresh_of_timestamp hstamps.2) (fresh_of_timestamp hstamps.1) hscope)

end TwoArrivals

end Sample

end Watchtower
