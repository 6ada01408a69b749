import Watchtower.Correlator.Matching

/-!
# Where a buffered finding goes

The deques overflow silently on an append and are rebuilt on every pass, and a pair is taken out of
them by value.

* `Departs` — the three reasons for which a finding may leave.
* `PassAccounts`, `StepAccounts` — what an iteration does with the findings up to the alert step, and
  in it.
* `pairedIds` — the ids of the findings that one iteration pairs.
* **`buffer_accounts`** — along every run the deques are orderly, no finding leaves for any other reason
  before the alert step, and, when no id is delivered twice, none is paired twice; and none leaves for
  another reason in the alert step exactly when no pair has copies.
* `mixedStamps_drop_copy` — a copy that leaves in place of a finding that has been paired.
-/

namespace Watchtower

open Core Py

section Accounting

variable [UnicodeData]

namespace Buffer

/-- The deque a finding of a source belongs in. -/
def queue (b : Buffer) (source : FindingSource) : List Held :=
  if source = .api then b.api else if source = .code then b.code else []

variable {new : Held}

/-! ## What an append drops -/

/-- An append drops at most the oldest, and only when the deque is full. -/
lemma Ordered.concat_drops {maxlen arrivals : ℕ} {q : List Held} (h : Ordered maxlen arrivals q)
    (new : Held) {x : Held} (hx : x ∈ q) :
    x ∈ deque maxlen (q ++ [new]) ∨ (q.length = maxlen ∧ ∀ y ∈ q, x.arrival ≤ y.arrival) := by
  have hlen := h.length_le
  rcases Nat.lt_or_ge q.length maxlen with hroom | hfull
  · left
    rw [deque_eq_self (by rw [List.length_append, List.length_singleton]; omega)]
    exact List.mem_append_left _ hx
  · cases q with
    | nil => cases hx
    | cons first rest =>
        have hdeque : deque maxlen (first :: rest ++ [new]) = rest ++ [new] := by
          have hone : (first :: rest ++ [new]).length - maxlen = 1 := by
            simp only [List.length_append, List.length_singleton]
            omega
          rw [deque, hone]
          rfl
        rcases List.mem_cons.mp hx with rfl | hx
        · refine Or.inr ⟨by omega, fun y hy => ?_⟩
          rcases List.mem_cons.mp hy with rfl | hy
          · exact le_rfl
          · exact ((List.pairwise_cons.mp h.sorted).1 y hy).le
        · left
          rw [hdeque]
          exact List.mem_append_left _ hx

/-- The oldest of a full deque is not there after an append. -/
lemma Ordered.not_mem_of_full {maxlen arrivals : ℕ} {q : List Held} (h : Ordered maxlen arrivals q)
    {x : Held} (hfull : q.length = maxlen) (holdest : ∀ y ∈ q, x.arrival ≤ y.arrival)
    (hnew : x ≠ new) : x ∉ deque maxlen (q ++ [new]) := by
  have hone : (q ++ [new]).length - maxlen = 1 := by
    rw [List.length_append, List.length_singleton]
    omega
  rw [deque, hone]
  cases q with
  | nil => simp
  | cons first rest =>
      intro hx
      simp only [List.cons_append, List.drop_succ_cons, List.drop_zero, List.mem_append,
        List.mem_singleton] at hx
      rcases hx with hx | hx
      · have hlt := (List.pairwise_cons.mp h.sorted).1 x hx
        exact absurd (holdest first List.mem_cons_self) hlt.not_ge
      · exact hnew hx

end Buffer

variable [Sha256] {cfg : CorrelatorSettings} {loads : PyStr → Except PyExc PyVal}

/-! ## Why a finding leaves -/

omit [Sha256] in
/-- The reasons for which a finding is not in the buffer any more after the arrival of `new`: it has
expired at the pass, it was the oldest of a full deque that took `new`, or it is in a pair. -/
inductive Departs (cfg : CorrelatorSettings) (s : LoopState) (now : ℚ) (new : Finding) (x : Held) :
    Prop
  | expired (h : cfg.correlationWindowSecs ≤
      Rounding.double.round (now - x.finding.timestamp.val.toFloat .double))
  | overflowed (source : new.source = x.finding.source) (newer : x.arrival < s.arrivals)
      (full : (s.buffer.queue x.finding.source).length = cfg.bufferMaxSize)
      (oldest : ∀ y ∈ s.buffer.queue x.finding.source, x.arrival ≤ y.arrival)
  | paired (p : Held × Held) (h : p ∈ (matchPass cfg s now new).1) (member : x = p.1 ∨ x = p.2)

omit [Sha256] in
/-- What is missing from the buffer after an append has been pushed out by it. -/
lemma departs_of_not_appended {s : LoopState} {now : ℚ} {finding : Finding} {x : Held}
    (hs : s.Orderly cfg) (hx : x ∈ s.buffer.held) (hnot : x ∉ (appended cfg s finding).held) :
    Departs cfg s now finding x := by
  have hcode_ne : ∀ {y : Held}, y ∈ s.buffer.code → y.finding.source ≠ .api :=
    fun hy => by rw [hs.code_source _ hy]; decide
  simp only [appended, Buffer.add, Buffer.held] at hnot hx
  rw [List.mem_append] at hx
  split_ifs at hnot with hapi hcode
  · rw [List.mem_append, not_or] at hnot
    rcases hx with hx | hx
    · rcases hs.api.concat_drops { arrival := s.arrivals, finding } hx with
        hkept | ⟨hfull, holdest⟩
      · exact absurd hkept hnot.1
      · have hsource := hs.api_source x hx
        exact .overflowed (by rw [hsource]; exact hapi) (hs.api.lt x hx)
          (by rw [Buffer.queue, if_pos hsource]; exact hfull)
          (by rw [Buffer.queue, if_pos hsource]; exact holdest)
    · exact absurd hx hnot.2
  · rw [List.mem_append, not_or] at hnot
    rcases hx with hx | hx
    · exact absurd hx hnot.1
    · rcases hs.code.concat_drops { arrival := s.arrivals, finding } hx with
        hkept | ⟨hfull, holdest⟩
      · exact absurd hkept hnot.2
      · have hsource := hs.code_source x hx
        exact .overflowed (by rw [hsource]; exact hcode) (hs.code.lt x hx)
          (by rw [Buffer.queue, if_neg (hcode_ne hx), if_pos hsource]; exact hfull)
          (by rw [Buffer.queue, if_neg (hcode_ne hx), if_pos hsource]; exact holdest)
  · exact absurd (List.mem_append.mpr hx) hnot

omit [Sha256] in
/-- What is missing after the pass has expired. -/
lemma departs_of_not_passed {s : LoopState} {now : ℚ} {finding : Finding} {x : Held}
    (hs : s.Orderly cfg) (hx : x ∈ (appended cfg s finding).held)
    (hnot : x ∉ (matchPass cfg s now finding).2.held) : Departs cfg s now finding x := by
  have horderly := hs.appended finding
  simp only [Buffer.held, List.mem_append, not_or] at hx hnot
  refine .expired ?_
  have hstale : ¬ x.fresh cfg.correlationWindowSecs now = true := by
    intro hfresh
    rcases hx with hx | hx
    · exact hnot.1 (horderly.mem_findMatches_iff.1.mpr ⟨hx, hfresh⟩)
    · exact hnot.2 (horderly.mem_findMatches_iff.2.mpr ⟨hx, hfresh⟩)
  simpa [Held.fresh] using hstale

omit [Sha256] in
/-- What the pass has kept has not expired and has not been pushed out: it can only be in a pair. -/
lemma paired_of_departs {s : LoopState} {now : ℚ} {finding : Finding} {x : Held}
    (hs : s.Orderly cfg) (hx : x ∈ (matchPass cfg s now finding).2.held)
    (h : Departs cfg s now finding x) :
    ∃ p ∈ (matchPass cfg s now finding).1, x = p.1 ∨ x = p.2 := by
  have horderly := hs.appended finding
  cases h with
  | paired p hp member => exact ⟨p, hp, member⟩
  | expired hstale =>
      have hfresh : x.fresh cfg.correlationWindowSecs now = true := by
        rcases List.mem_append.mp hx with hx | hx
        · exact (horderly.mem_findMatches_iff.1.mp hx).2
        · exact (horderly.mem_findMatches_iff.2.mp hx).2
      exact absurd (of_decide_eq_true hfresh) hstale.not_gt
  | overflowed hsource hnewer hfull holdest =>
      exfalso
      have hne : x ≠ { arrival := s.arrivals, finding } := by
        rintro rfl
        exact lt_irrefl _ hnewer
      rcases List.mem_append.mp (mem_of_mem_matchPass hx) with hx | hx
      · have hapi := horderly.api_source x hx
        rw [hapi] at hsource
        rw [hapi, Buffer.queue, if_pos rfl] at hfull holdest
        rw [Watchtower.appended, Buffer.add, if_pos hsource] at hx
        exact hs.api.not_mem_of_full hfull holdest hne hx
      · have hcode := horderly.code_source x hx
        have hapi : finding.source ≠ .api := by rw [hsource, hcode]; decide
        rw [hcode] at hsource
        rw [hcode, Buffer.queue, if_neg (by decide), if_pos rfl] at hfull holdest
        rw [Watchtower.appended, Buffer.add, if_neg hapi, if_pos hsource] at hx
        exact hs.code.not_mem_of_full hfull holdest hne hx

/-- The part of an iteration up to the alert step. -/
structure PassAccounts (cfg : CorrelatorSettings) (s : LoopState) (now : ℚ) (finding : Finding) :
    Prop where
  appended : (appended cfg s finding).Orderly cfg (s.arrivals + 1)
  passed : (matchPass cfg s now finding).2.Orderly cfg (s.arrivals + 1)
  /-- The arriving finding enters. -/
  enters : 0 < cfg.bufferMaxSize →
    { arrival := s.arrivals, finding } ∈ (Watchtower.appended cfg s finding).held
  /-- What was in the buffer is there after the pass, or has a reason to leave. -/
  leaves : ∀ x, x ∈ s.buffer.held ∨ x ∈ (Watchtower.appended cfg s finding).held →
    x ∈ (matchPass cfg s now finding).2.held ∨ Departs cfg s now finding x

/-- The alert step: what was in the buffer after the pass is there at the end of the iteration, or has a
reason to leave. -/
def StepAccounts (cfg : CorrelatorSettings) (loads : PyStr → Except PyExc PyVal) (s : LoopState)
    (i : Input cfg.alertCooldownSecs) : Prop :=
  ∀ finding exits after, receive cfg loads i = some finding →
    iteration cfg loads s i = .ok (exits, after) →
    ∀ x ∈ (matchPass cfg s i.now finding).2.held,
      x ∈ after.buffer.held ∨ Departs cfg s i.now finding x

omit [Sha256] in
lemma source_of_receive {i : Input cfg.alertCooldownSecs} {finding : Finding}
    (h : receive cfg loads i = some finding) : finding.source = .api ∨ finding.source = .code := by
  unfold receive at h
  split at h
  · cases h
  · cases h
  · split at h
    · cases h
    · split_ifs at h with hsource
      cases h
      exact hsource

omit [Sha256] in
lemma passAccounts {s : LoopState} {i : Input cfg.alertCooldownSecs} {finding : Finding}
    (hs : s.Orderly cfg) (hreceive : receive cfg loads i = some finding) :
    PassAccounts cfg s i.now finding where
  appended := hs.appended finding
  passed := hs.matchPass i.now finding
  enters := by
    intro hpos
    have hnew : ∀ q : List Held, ({ arrival := s.arrivals, finding } : Held) ∈
        deque cfg.bufferMaxSize (q ++ [{ arrival := s.arrivals, finding }]) :=
      Buffer.mem_deque_new hpos
    simp only [Watchtower.appended, Buffer.add, Buffer.held, List.mem_append]
    rcases source_of_receive hreceive with hsource | hsource
    · rw [if_pos hsource]
      exact Or.inl (hnew s.buffer.api)
    · have hapi : finding.source ≠ .api := by rw [hsource]; decide
      rw [if_neg hapi, if_pos hsource]
      exact Or.inr (hnew s.buffer.code)
  leaves := by
    intro x hx
    by_cases hpassed : x ∈ (matchPass cfg s i.now finding).2.held
    · exact Or.inl hpassed
    · right
      by_cases happended : x ∈ (Watchtower.appended cfg s finding).held
      · exact departs_of_not_passed hs happended hpassed
      · rcases hx with hx | hx
        · exact departs_of_not_appended hs hx happended
        · exact absurd hx happended

/-! ## The alert step -/

section Removed

variable {s : LoopState} {now : ℚ} {finding : Finding} {api code : Held}

omit [Sha256]

/-- **A pair takes out its own findings and no others exactly when neither has a copy.** -/
lemma removePair_accounts_iff (hinv : s.Inv cfg) (hpartner : firstPartner cfg.correlationWindowSecs now
      s.buffer { arrival := s.arrivals, finding } = some (api, code)) :
    (∀ x ∈ (matchPass cfg s now finding).2.held,
        x ∈ ((matchPass cfg s now finding).2.removePair api code).held ∨
          Departs cfg s now finding x) ↔
      ¬ Buffer.HasCopy cfg.correlationWindowSecs now (appended cfg s finding).api api ∧
        ¬ Buffer.HasCopy cfg.correlationWindowSecs now (appended cfg s finding).code code := by
  have horderly := hinv.orderly.matchPass now finding
  have hmatch := hinv.pairs_eq_singleton hpartner
  obtain ⟨hapi, hcode⟩ := hinv.mem_of_partner hpartner
  obtain ⟨e, he⟩ := horderly.api.exists_removed hapi
  obtain ⟨e', he'⟩ := horderly.code.exists_removed hcode
  have hsource : ∀ x ∈ (matchPass cfg s now finding).2.api,
      x ∉ (matchPass cfg s now finding).2.code := by
    intro x hx hx'
    have hboth := horderly.api_source x hx
    rw [horderly.code_source x hx'] at hboth
    cases hboth
  -- only a member of the pair has a reason to leave
  have hreason : ∀ x ∈ (matchPass cfg s now finding).2.held, Departs cfg s now finding x →
      x = api ∨ x = code := by
    intro x hx hdeparts
    obtain ⟨p, hp, hmember⟩ := paired_of_departs hinv.orderly hx hdeparts
    rw [hmatch, List.mem_singleton] at hp
    rwa [hp] at hmember
  have hmem : ∀ x, x ∈ ((matchPass cfg s now finding).2.removePair api code).held ↔
      (x ∈ (matchPass cfg s now finding).2.api ∧ x ≠ e) ∨
        (x ∈ (matchPass cfg s now finding).2.code ∧ x ≠ e') := by
    intro x
    rw [← he.mem_iff, ← he'.mem_iff]
    exact List.mem_append
  rw [(hinv.orderly.hasCopy_iff now finding).1, (hinv.orderly.hasCopy_iff now finding).2, ← he.eq_iff,
    ← he'.eq_iff]
  constructor
  · intro h
    constructor
    · rcases h e (List.mem_append_left _ he.mem) with hkept | hdeparts
      · rcases (hmem e).mp hkept with ⟨-, hne⟩ | ⟨hmem', -⟩
        · exact absurd rfl hne
        · exact absurd hmem' (hsource e he.mem)
      · refine (hreason e (List.mem_append_left _ he.mem) hdeparts).resolve_right ?_
        rintro rfl
        exact hsource _ he.mem hcode
    · rcases h e' (List.mem_append_right _ he'.mem) with hkept | hdeparts
      · rcases (hmem e').mp hkept with ⟨hmem', -⟩ | ⟨-, hne⟩
        · exact absurd he'.mem (hsource e' hmem')
        · exact absurd rfl hne
      · refine (hreason e' (List.mem_append_right _ he'.mem) hdeparts).resolve_left ?_
        rintro rfl
        exact hsource _ hapi he'.mem
  · rintro ⟨rfl, rfl⟩ x hx
    have hpair : (e, e') ∈ (matchPass cfg s now finding).1 := by simp [hmatch]
    rw [hmem]
    rcases List.mem_append.mp hx with hx | hx
    · by_cases hxe : x = e
      · exact Or.inr (.paired (e, e') hpair (Or.inl hxe))
      · exact Or.inl (Or.inl ⟨hx, hxe⟩)
    · by_cases hxe : x = e'
      · exact Or.inr (.paired (e, e') hpair (Or.inr hxe))
      · exact Or.inl (Or.inr ⟨hx, hxe⟩)

end Removed

lemma stepAccounts_iff {s : LoopState} {i : Input cfg.alertCooldownSecs} (hinv : s.Inv cfg) :
    StepAccounts cfg loads s i ↔ NoCopies cfg loads s i := by
  constructor
  · intro h finding api code hreceive hpartner hfits
    obtain ⟨⟨exit, b⟩, hstep⟩ :=
      returns_alertStep_iff (b := (matchPass cfg s i.now finding).2) |>.mpr hfits
    have hiter := iteration_of_partner hinv hreceive hpartner
    rw [hstep] at hiter
    have hleaves := h finding _ _ hreceive hiter
    rw [alertStep_buffer hstep] at hleaves
    exact (removePair_accounts_iff hinv hpartner).mp hleaves
  · intro h finding exits after hreceive hiter
    rcases iteration_buffer hiter with ⟨hnone, -, -⟩ | ⟨finding', hsome, rfl, -⟩
    · rw [hreceive] at hnone
      cases hnone
    · rw [hreceive] at hsome
      cases hsome
      cases hpartner : firstPartner cfg.correlationWindowSecs i.now s.buffer
          { arrival := s.arrivals, finding } with
      | none =>
          rw [hinv.pairs i.now finding, hpartner]
          exact fun x hx => Or.inl hx
      | some pair =>
          obtain ⟨api, code⟩ := pair
          rw [hinv.pairs_eq_singleton hpartner]
          have hfits : Qualifies cfg api code →
              AlertFits api.finding code.finding (i.env 0).clock := by
            rw [iteration_of_partner hinv hreceive hpartner] at hiter
            obtain ⟨r, hstep, -⟩ := map_eq_ok hiter
            exact returns_alertStep_iff.mp ⟨r, hstep⟩
          exact (removePair_accounts_iff hinv hpartner).mpr
            (h finding api code hreceive hpartner hfits)

/-! ## Ids -/

/-- The ids of the findings that are paired by an iteration, with repetition. -/
def pairedIds (cfg : CorrelatorSettings) (loads : PyStr → Except PyExc PyVal) (s : LoopState)
    (i : Input cfg.alertCooldownSecs) : List PyStr :=
  match receive cfg loads i with
  | none => []
  | some finding =>
      (matchPass cfg s i.now finding).1.flatMap fun p => [p.1.finding.id.val, p.2.finding.id.val]

/-- The ids of what a buffer holds. -/
def LoopState.heldIds (s : LoopState) : List PyStr := Buffer.ids s.buffer.held

/-- The id an iteration brings. -/
def receivedIds (cfg : CorrelatorSettings) (loads : PyStr → Except PyExc PyVal)
    (i : Input cfg.alertCooldownSecs) : List PyStr :=
  ((receive cfg loads i).map fun f => f.id.val).toList

omit [Sha256] in
lemma nodup_of_sorted {q : List Held} (h : q.Pairwise fun x y => x.arrival < y.arrival) :
    q.Nodup :=
  h.imp fun hlt heq => by rw [heq] at hlt; exact absurd hlt (lt_irrefl _)

omit [Sha256] in
/-- No finding is held twice. -/
lemma Buffer.Orderly.nodup {arrivals : ℕ} {b : Buffer} (h : b.Orderly cfg arrivals) :
    b.held.Nodup := by
  refine List.nodup_append.mpr ⟨nodup_of_sorted h.api.sorted, nodup_of_sorted h.code.sorted, ?_⟩
  rintro x hx y hy rfl
  have hsource := h.api_source x hx
  rw [h.code_source x hy] at hsource
  cases hsource

omit [UnicodeData] [Sha256] in
lemma subperm_map {α β : Type} (f : α → β) {xs ys : List α} (h : xs.Subperm ys) :
    (xs.map f).Subperm (ys.map f) := by
  obtain ⟨l, hperm, hsub⟩ := h
  exact ⟨l.map f, hperm.map f, hsub.map f⟩

section Ids

variable {s : LoopState} {i : Input cfg.alertCooldownSecs} {finding : Finding}
  (hs : s.Orderly cfg) (hreceive : receive cfg loads i = some finding)

include hs hreceive

omit [Sha256]

/-- What a pass keeps was held or has just arrived. -/
lemma ids_matchPass_subperm :
    (Buffer.ids (matchPass cfg s i.now finding).2.held).Subperm
      (s.heldIds ++ receivedIds cfg loads i) := by
  have hsubperm : (matchPass cfg s i.now finding).2.held.Subperm
      (s.buffer.held ++ [{ arrival := s.arrivals, finding }]) := by
    refine List.Nodup.subperm (hs.matchPass i.now finding).nodup fun x hx => ?_
    rw [List.mem_append, List.mem_singleton]
    exact mem_of_mem_appended (mem_of_mem_matchPass hx)
  have hids := subperm_map (fun x : Held => x.finding.id.val) hsubperm
  simpa [LoopState.heldIds, Buffer.ids, receivedIds, hreceive] using hids

/-- **The ids a pass keeps are those it pairs and those that are left.** -/
lemma ids_matchPass_perm :
    (Buffer.ids (matchPass cfg s i.now finding).2.held).Perm (pairedIds cfg loads s i ++
      Buffer.ids ((matchPass cfg s i.now finding).2.removePairs
        (matchPass cfg s i.now finding).1).held) := by
  simp only [pairedIds, hreceive]
  exact Buffer.ids_removePairs_perm (hs.matchPass i.now finding) (hs.mem_pairs i.now finding)

end Ids

omit [Sha256] in
/-- What an iteration pairs was held or has just arrived. -/
lemma pairedIds_subperm (s : LoopState) (i : Input cfg.alertCooldownSecs) (hs : s.Orderly cfg) :
    (pairedIds cfg loads s i).Subperm (s.heldIds ++ receivedIds cfg loads i) := by
  cases hreceive : receive cfg loads i with
  | none =>
      rw [pairedIds, hreceive]
      exact List.nil_subperm
  | some finding =>
      have hperm := ids_matchPass_perm hs hreceive
      exact ((List.sublist_append_left _ _).subperm.trans hperm.symm.subperm).trans
        (ids_matchPass_subperm hs hreceive)

/-- What an iteration pairs is not held after it. -/
lemma pairedIds_append_subperm (s : LoopState) (i : Input cfg.alertCooldownSecs) (t : LoopState)
    (hs : s.Orderly cfg) (h : (correlator cfg loads).step s i = .ok t) :
    (pairedIds cfg loads s i ++ t.heldIds).Subperm (s.heldIds ++ receivedIds cfg loads i) := by
  rcases step_buffer h with ⟨hnone, rfl⟩ | ⟨finding, hreceive, rfl⟩
  · simp only [pairedIds, receivedIds, hnone, Option.map_none, Option.toList_none, List.nil_append,
      List.append_nil]
    exact List.Subperm.refl _
  · exact (ids_matchPass_perm hs hreceive).symm.subperm.trans (ids_matchPass_subperm hs hreceive)

/-- If no id is received twice, none is paired twice. -/
lemma nodup_pairedIds {inputs : List (Input cfg.alertCooldownSecs)}
    (hnodup : (inputs.flatMap (receivedIds cfg loads)).Nodup) :
    ((correlator cfg loads).trace (pairedIds cfg loads) inputs).Nodup := by
  have hpaired : ∀ s (i : Input cfg.alertCooldownSecs), s.Orderly cfg →
      (pairedIds cfg loads s i).Subperm (s.heldIds ++ receivedIds cfg loads i) := pairedIds_subperm
  obtain ⟨l, hperm, hsub⟩ := Machine.trace_subperm orderly_init orderly_step hpaired
    pairedIds_append_subperm inputs
  exact hperm.nodup_iff.mp (hnodup.sublist hsub)

/-! ## Along a run -/

/-- **The buffer accounts for every accepted finding.**  Along every run: the deques are bounded, in
order of arrival and of one source each, at every stage of every iteration; up to the alert step a
finding leaves only by expiry or by overflow as the oldest, and if no id is received twice, none is
paired twice.  In the alert step only the findings of a pair leave exactly when, at each pass, neither
of them has an older copy; and so in every run in which findings that are equal have the same
timestamps. -/
theorem buffer_accounts (inputs : List (Input cfg.alertCooldownSecs)) :
    (correlator cfg loads).Throughout inputs (fun s => s.buffer.Orderly cfg s.arrivals) ∧
      (correlator cfg loads).Always inputs (fun s i =>
        (∀ finding, receive cfg loads i = some finding → PassAccounts cfg s i.now finding) ∧
        (receive cfg loads i = none →
          ∀ exits after, iteration cfg loads s i = .ok (exits, after) → after.buffer = s.buffer)) ∧
      ((correlator cfg loads).Always inputs (StepAccounts cfg loads) ↔
        (correlator cfg loads).Always inputs (NoCopies cfg loads)) ∧
      (SameStamps cfg loads inputs → (correlator cfg loads).Always inputs (NoCopies cfg loads)) ∧
      ((inputs.flatMap (receivedIds cfg loads)).Nodup →
        ((correlator cfg loads).trace (pairedIds cfg loads) inputs).Nodup) := by
  refine ⟨fun _ _ _ _ hrun => correlator_orderly hrun, ?_, ?_, noCopies_of_sameStamps,
    nodup_pairedIds⟩
  · refine Machine.always_of_invariant orderly_init orderly_step ?_ inputs
    intro s i hs
    refine ⟨fun finding hreceive => passAccounts hs hreceive, fun hnone exits after hiter => ?_⟩
    rcases iteration_buffer hiter with ⟨-, -, rfl⟩ | ⟨finding, hsome, -⟩
    · rfl
    · rw [hnone] at hsome
      cases hsome
  · exact Machine.always_iff_of_kept inv_init
      (fun s i t hinv hcopies => inv_step s i t hinv (nothingLingers_of_noCopies hcopies))
      (fun _ _ hinv => stepAccounts_iff hinv) inputs

end Accounting

/-! ## A copy that is removed -/

section DroppedCopy

attribute [local instance] asciiData sampleDigest

/-- **A copy with another timestamp leaves in place of the finding that has been paired.** -/
theorem mixedStamps_drop_copy :
    ¬ (correlator defaultSettings (sampleLoads mixedSamples)).Always
      (mixedSamples.map (promptInput defaultSettings))
      (StepAccounts defaultSettings (sampleLoads mixedSamples)) := by
  intro halways
  have hlast := halways
    [promptInput defaultSettings wholeFinding, promptInput defaultSettings laterFinding,
      promptInput defaultSettings otherFinding] (promptInput defaultSettings floatFinding) [] mixedHeld
    rfl run_mixedHeld
  have hcopies := (stepAccounts_iff inv_mixedHeld).mp hlast floatFinding _ _
    (receive_mixed _ (by simp [mixedSamples])) mixed_pair fun _ => mixed_fits
  exact hcopies.1 mixed_copy

end DroppedCopy

/-! ## Three findings -/

section ThreeFindings

attribute [local instance] asciiData sampleDigest

/-- The findings of the low-confidence run, one after the other: their ids differ, so none of them
is paired twice. -/
theorem buffer_accounts_threeFindings :
    ((correlator defaultSettings
        (sampleLoads [doubtfulFinding, certainFinding, serverErrorFinding])).trace
      (pairedIds defaultSettings
        (sampleLoads [doubtfulFinding, certainFinding, serverErrorFinding]))
      [promptInput defaultSettings doubtfulFinding, promptInput defaultSettings certainFinding,
        promptInput defaultSettings serverErrorFinding]).Nodup := by
  refine (buffer_accounts _).2.2.2.2 ?_
  have hreceived : ∀ f ∈ [doubtfulFinding, certainFinding, serverErrorFinding],
      receivedIds defaultSettings
        (sampleLoads [doubtfulFinding, certainFinding, serverErrorFinding])
        (promptInput defaultSettings f) = [f.id.val] := by
    intro f hf
    rw [receivedIds, receive_threeFindings f hf]
    rfl
  rw [List.flatMap_cons, List.flatMap_cons, List.flatMap_cons, List.flatMap_nil,
    hreceived _ (by simp), hreceived _ (by simp), hreceived _ (by simp)]
  decide +kernel

end ThreeFindings

end Watchtower
