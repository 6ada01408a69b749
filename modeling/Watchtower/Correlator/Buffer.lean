import Watchtower.Core.FirstFit
import Watchtower.Correlator.Scoring

/-!
# The correlation buffer

Two bounded deques, one per source, and a full rescan of both for every finding that arrives.

* `Held` — a buffered finding together with its arrival number, which stands for the identity of
  the Python object: `deque.remove` takes the first element that is the same object or equal.
* `Buffer.add`, `Buffer.findMatches`, `Buffer.removePair` — the operations.
* `firstPartner` — what the rescan is for: the first finding of the other source, in order of
  arrival, that is fresh and in scope with the new one.
* `Buffer.Orderly` — the deques are bounded, in order of arrival, and each holds its own source.
* **`Buffer.Orderly.mem_findMatches_iff`**, **`Buffer.Orderly.mem_pairs`** — what a rescan keeps, and
  what it pairs.
* `Buffer.Unmatched` — no two held findings are in scope with each other.
* **`findMatches_add`** — with nothing held that matches, the rescan is that search.
-/

namespace Watchtower

open Core Py

/-- The settings the correlator reads. -/
structure CorrelatorSettings where
  correlationWindowSecs : ℚ
  bufferMaxSize : ℕ
  minConfidence : ℚ
  pollTimeoutSecs : ℚ
  alertCooldownSecs : ℤ

/-! ## Deques -/

section Deque

variable {α : Type}

/-- `deque(items, maxlen)`: the last `maxlen` items. -/
def deque (maxlen : ℕ) (items : List α) : List α := items.drop (items.length - maxlen)

lemma deque_eq_self {maxlen : ℕ} {items : List α} (h : items.length ≤ maxlen) :
    deque maxlen items = items := by
  rw [deque, Nat.sub_eq_zero_of_le h, List.drop_zero]

lemma length_deque_le (maxlen : ℕ) (items : List α) : (deque maxlen items).length ≤ maxlen := by
  rw [deque, List.length_drop]
  omega

/-- A bounded append drops from the front. -/
lemma deque_concat {maxlen : ℕ} (hpos : 0 < maxlen) (items : List α) (x : α) :
    ∃ kept, deque maxlen (items ++ [x]) = kept ++ [x] ∧ kept.Sublist items := by
  refine ⟨items.drop (items.length + 1 - maxlen), ?_, List.drop_sublist _ _⟩
  rw [deque, List.length_append, List.length_singleton, List.drop_append_of_le_length (by omega)]

end Deque

variable [UnicodeData]

/-- A finding in the buffer. -/
structure Held where
  arrival : ℕ
  finding : Finding

namespace Held

/-- The comparison of `deque.remove`. -/
def same (x y : Held) : Bool := decide (x.arrival = y.arrival) || x.finding.eq y.finding

/-- `now - f.timestamp < window`. -/
def fresh (window now : ℚ) (x : Held) : Bool :=
  decide (Rounding.double.round (now - x.finding.timestamp.val.toFloat .double) < window)

end Held

/-- An API finding and a code finding of the buffer that belong together. -/
def inScope (window : ℚ) (api code : Held) : Bool :=
  findingsShareScope window api.finding code.finding

/-- Findings that are equal have the same id. -/
lemma id_of_eq {f g : Finding} (h : f.eq g = true) : f.id = g.id := by
  simp only [Finding.eq, Bool.and_eq_true, beq_iff_eq] at h
  obtain ⟨⟨⟨⟨⟨⟨⟨⟨⟨⟨⟨⟨⟨⟨⟨⟨⟨hid, -⟩, -⟩, -⟩, -⟩, -⟩, -⟩, -⟩, -⟩, -⟩, -⟩, -⟩, -⟩, -⟩, -⟩, -⟩, -⟩, -⟩ := h
  exact hid

/-- The fields of a finding that its scope depends on.  The timestamp is not among them: an integer
and the float that is equal to it differ in what is subtracted from them. -/
lemma scope_fields_of_eq {f g : Finding} (h : f.eq g = true) :
    f.source = g.source ∧ f.type = g.type ∧ f.service = g.service ∧ f.endpoint = g.endpoint := by
  simp only [Finding.eq, Bool.and_eq_true, beq_iff_eq] at h
  obtain ⟨⟨⟨⟨⟨⟨⟨⟨⟨⟨⟨⟨⟨⟨⟨⟨⟨-, hsource⟩, htype⟩, -⟩, hservice⟩, -⟩, hendpoint⟩, -⟩, -⟩, -⟩, -⟩, -⟩, -⟩,
    -⟩, -⟩, -⟩, -⟩, -⟩ := h
  exact ⟨hsource, htype, hservice, hendpoint⟩

lemma findingsShareScope_congr_left {window : ℚ} {f g : Finding} (h : f.eq g = true)
    (htime : f.timestamp = g.timestamp) (code : Finding) :
    findingsShareScope window f code = findingsShareScope window g code := by
  obtain ⟨hsource, htype, hservice, hendpoint⟩ := scope_fields_of_eq h
  simp only [findingsShareScope, timeDistance, hsource, htype, hservice, hendpoint, htime]
  congr

lemma findingsShareScope_congr_right {window : ℚ} {f g : Finding} (h : f.eq g = true)
    (htime : f.timestamp = g.timestamp) (api : Finding) :
    findingsShareScope window api f = findingsShareScope window api g := by
  obtain ⟨hsource, htype, hservice, hendpoint⟩ := scope_fields_of_eq h
  simp only [findingsShareScope, timeDistance, hsource, htype, hservice, hendpoint, htime]
  congr

/-! ## The buffer -/

/-- `_CorrelationBuffer`: the two deques. -/
structure Buffer where
  api : List Held
  code : List Held

namespace Buffer

variable (cfg : CorrelatorSettings)

def empty : Buffer := { api := [], code := [] }

/-- `add`. -/
def add (b : Buffer) (x : Held) : Buffer :=
  if x.finding.source = .api then { b with api := deque cfg.bufferMaxSize (b.api ++ [x]) }
  else if x.finding.source = .code then { b with code := deque cfg.bufferMaxSize (b.code ++ [x]) }
  else b

/-- `find_matches`: the pairs, and the buffer without what has expired. -/
def findMatches (now : ℚ) (b : Buffer) : List (Held × Held) × Buffer :=
  let freshApi := b.api.filter (Held.fresh cfg.correlationWindowSecs now)
  let freshCode := b.code.filter (Held.fresh cfg.correlationWindowSecs now)
  (firstFit (fun x => x.finding.id.val) (fun x => x.finding.id.val)
      (inScope cfg.correlationWindowSecs) freshApi freshCode,
    { api := deque cfg.bufferMaxSize freshApi, code := deque cfg.bufferMaxSize freshCode })

/-- `remove_pair`. -/
def removePair (b : Buffer) (api code : Held) : Buffer :=
  { api := b.api.eraseP fun x => x.same api, code := b.code.eraseP fun x => x.same code }

end Buffer

/-! ## What the rescan is for -/

/-- The first fresh code finding in scope with an API finding. -/
def firstCode (window now : ℚ) (codes : List Held) (api : Held) : Option Held :=
  codes.find? fun c => c.fresh window now && inScope window api c

/-- The first fresh API finding in scope with a code finding. -/
def firstApi (window now : ℚ) (apis : List Held) (code : Held) : Option Held :=
  apis.find? fun a => a.fresh window now && inScope window a code

/-- The incremental search: the new finding, if it is fresh itself, with its first partner among
the findings held so far. -/
def firstPartner (window now : ℚ) (b : Buffer) (new : Held) : Option (Held × Held) :=
  if new.fresh window now then
    if new.finding.source = .api then (firstCode window now b.code new).map fun c => (new, c)
    else if new.finding.source = .code then (firstApi window now b.api new).map fun a => (a, new)
    else none
  else none

namespace Buffer

/-- A deque within its bound and in order of arrival, before the next arrival number. -/
structure Ordered (maxlen arrivals : ℕ) (q : List Held) : Prop where
  length_le : q.length ≤ maxlen
  sorted : q.Pairwise fun x y => x.arrival < y.arrival
  lt : ∀ x ∈ q, x.arrival < arrivals

/-- A code finding takes the oldest API finding when that one will do. -/
lemma firstPartner_code_head {window now : ℚ} {a new : Held} {apis codes : List Held}
    (hsource : new.finding.source = .code) (hnew : new.fresh window now = true)
    (ha : a.fresh window now = true) (hscope : inScope window a new = true) :
    firstPartner window now { api := a :: apis, code := codes } new = some (a, new) := by
  have hapi : new.finding.source ≠ .api := by rw [hsource]; decide
  rw [firstPartner, if_pos hnew, if_neg hapi, if_pos hsource, firstApi,
    List.find?_cons_of_pos (by rw [ha, hscope]; rfl)]
  rfl

/-- An API finding takes the oldest code finding when that one will do. -/
lemma firstPartner_api_head {window now : ℚ} {c new : Held} {apis codes : List Held}
    (hsource : new.finding.source = .api) (hnew : new.fresh window now = true)
    (hc : c.fresh window now = true) (hscope : inScope window new c = true) :
    firstPartner window now { api := apis, code := c :: codes } new = some (new, c) := by
  rw [firstPartner, if_pos hnew, if_pos hsource, firstCode,
    List.find?_cons_of_pos (by rw [hc, hscope]; rfl)]
  rfl

/-- A code finding has no partner when it is in scope with no API finding. -/
lemma firstPartner_code_none {window now : ℚ} {b : Buffer} {new : Held}
    (hsource : new.finding.source = .code) (h : ∀ a ∈ b.api, inScope window a new = false) :
    firstPartner window now b new = none := by
  have hnone : firstApi window now b.api new = none := by
    rw [firstApi, List.find?_eq_none]
    exact fun a ha => by simp [h a ha]
  simp [firstPartner, hsource, hnone]

lemma firstPartner_empty (window now : ℚ) (new : Held) :
    firstPartner window now empty new = none := by
  simp [firstPartner, firstCode, firstApi, empty]

lemma Ordered.sublist {maxlen arrivals : ℕ} {p q : List Held} (h : Ordered maxlen arrivals q)
    (hsub : p.Sublist q) : Ordered maxlen arrivals p where
  length_le := hsub.length_le.trans h.length_le
  sorted := h.sorted.sublist hsub
  lt := fun x hx => h.lt x (hsub.subset hx)

lemma Ordered.mono {maxlen arrivals : ℕ} {q : List Held} (h : Ordered maxlen arrivals q) :
    Ordered maxlen (arrivals + 1) q where
  length_le := h.length_le
  sorted := h.sorted
  lt := fun x hx => (h.lt x hx).trans (Nat.lt_succ_self _)

/-- An append with the next arrival number. -/
lemma Ordered.concat {maxlen : ℕ} {q : List Held} {x : Held} (h : Ordered maxlen x.arrival q) :
    Ordered maxlen (x.arrival + 1) (deque maxlen (q ++ [x])) where
  length_le := length_deque_le _ _
  sorted := by
    refine List.Pairwise.sublist (List.drop_sublist _ _) (List.pairwise_append.mpr ⟨h.sorted, ?_, ?_⟩)
    · exact List.pairwise_singleton _ _
    · intro y hy z hz
      rw [List.mem_singleton.mp hz]
      exact h.lt y hy
  lt := by
    intro y hy
    rcases List.mem_append.mp ((List.drop_sublist _ _).subset hy) with hy | hy
    · exact (h.lt y hy).trans (Nat.lt_succ_self _)
    · rw [List.mem_singleton.mp hy]
      exact Nat.lt_succ_self _

/-! ## Order -/

/-- Each deque is within its bound, in order of arrival and of one source. -/
structure Orderly (cfg : CorrelatorSettings) (arrivals : ℕ) (b : Buffer) : Prop where
  api : Ordered cfg.bufferMaxSize arrivals b.api
  code : Ordered cfg.bufferMaxSize arrivals b.code
  api_source : ∀ x ∈ b.api, x.finding.source = .api
  code_source : ∀ x ∈ b.code, x.finding.source = .code

/-- Everything a buffer holds. -/
def held (b : Buffer) : List Held := b.api ++ b.code

variable {cfg : CorrelatorSettings} {b : Buffer} {new : Held}

lemma orderly_empty (cfg : CorrelatorSettings) (arrivals : ℕ) : Orderly cfg arrivals empty where
  api := ⟨Nat.zero_le _, List.Pairwise.nil, by simp [empty]⟩
  code := ⟨Nat.zero_le _, List.Pairwise.nil, by simp [empty]⟩
  api_source := by simp [empty]
  code_source := by simp [empty]

/-- A part of an orderly buffer is orderly. -/
lemma Orderly.sublist {arrivals : ℕ} {b' : Buffer} (h : Orderly cfg arrivals b)
    (hapi : b'.api.Sublist b.api) (hcode : b'.code.Sublist b.code) : Orderly cfg arrivals b' where
  api := h.api.sublist hapi
  code := h.code.sublist hcode
  api_source := fun x hx => h.api_source x (hapi.subset hx)
  code_source := fun x hx => h.code_source x (hcode.subset hx)

lemma mem_deque_concat {maxlen : ℕ} {q : List Held} {x : Held}
    (hx : x ∈ deque maxlen (q ++ [new])) : x ∈ q ∨ x = new := by
  simpa using (List.drop_sublist _ _).subset hx

lemma mem_deque_new {maxlen : ℕ} (hpos : 0 < maxlen) (q : List Held) :
    new ∈ deque maxlen (q ++ [new]) := by
  obtain ⟨kept, hkept, -⟩ := deque_concat hpos q new
  rw [hkept]
  exact List.mem_append_right _ (List.mem_singleton_self _)

lemma Orderly.add (new : Held) (h : Orderly cfg new.arrival b) :
    Orderly cfg (new.arrival + 1) (b.add cfg new) := by
  unfold Buffer.add
  split_ifs with hapi hcode
  · refine ⟨h.api.concat, h.code.mono, fun x hx => ?_, h.code_source⟩
    rcases mem_deque_concat hx with hx | rfl
    · exact h.api_source x hx
    · exact hapi
  · refine ⟨h.api.mono, h.code.concat, h.api_source, fun x hx => ?_⟩
    rcases mem_deque_concat hx with hx | rfl
    · exact h.code_source x hx
    · exact hcode
  · exact ⟨h.api.mono, h.code.mono, h.api_source, h.code_source⟩

/-- What an arrival appends to was there before. -/
lemma mem_add {x : Held} :
    (x ∈ (b.add cfg new).api → x ∈ b.api ∨ (x = new ∧ new.finding.source = .api)) ∧
      (x ∈ (b.add cfg new).code → x ∈ b.code ∨ (x = new ∧ new.finding.source = .code)) := by
  unfold add
  split_ifs with hapi hcode
  · exact ⟨fun hx => (mem_deque_concat hx).imp_right fun h => ⟨h, hapi⟩, Or.inl⟩
  · exact ⟨Or.inl, fun hx => (mem_deque_concat hx).imp_right fun h => ⟨h, hcode⟩⟩
  · exact ⟨Or.inl, Or.inl⟩

lemma findMatches_sublist (now : ℚ) (b : Buffer) :
    (b.findMatches cfg now).2.api.Sublist b.api ∧ (b.findMatches cfg now).2.code.Sublist b.code :=
  ⟨(List.drop_sublist _ _).trans List.filter_sublist,
    (List.drop_sublist _ _).trans List.filter_sublist⟩

lemma Orderly.findMatches {arrivals : ℕ} (h : Orderly cfg arrivals b) (now : ℚ) :
    Orderly cfg arrivals (b.findMatches cfg now).2 :=
  h.sublist (findMatches_sublist now b).1 (findMatches_sublist now b).2

/-- A rescan of deques within their bound keeps what is fresh. -/
lemma Orderly.findMatches_eq {arrivals : ℕ} (h : Orderly cfg arrivals b) (now : ℚ) :
    (b.findMatches cfg now).2
      = { api := b.api.filter (Held.fresh cfg.correlationWindowSecs now)
          code := b.code.filter (Held.fresh cfg.correlationWindowSecs now) } := by
  have hlen : ∀ {q : List Held}, Ordered cfg.bufferMaxSize arrivals q →
      (q.filter (Held.fresh cfg.correlationWindowSecs now)).length ≤ cfg.bufferMaxSize :=
    fun hq => (List.length_filter_le _ _).trans hq.length_le
  simp only [Buffer.findMatches, deque_eq_self (hlen h.api), deque_eq_self (hlen h.code)]

/-- **A rescan drops what has expired and nothing else.** -/
lemma Orderly.mem_findMatches_iff {arrivals : ℕ} (h : Orderly cfg arrivals b) {now : ℚ} {x : Held} :
    (x ∈ (b.findMatches cfg now).2.api ↔
        x ∈ b.api ∧ x.fresh cfg.correlationWindowSecs now = true) ∧
      (x ∈ (b.findMatches cfg now).2.code ↔
        x ∈ b.code ∧ x.fresh cfg.correlationWindowSecs now = true) := by
  rw [h.findMatches_eq]
  exact ⟨List.mem_filter, List.mem_filter⟩

/-- **What a rescan pairs** is in the deques after it, fresh and in scope; no id is in two pairs. -/
lemma Orderly.mem_pairs {arrivals : ℕ} (h : Orderly cfg arrivals b) (now : ℚ) :
    SoundPairs (fun x : Held => x.finding.id.val) (fun x : Held => x.finding.id.val)
      (inScope cfg.correlationWindowSecs) (b.findMatches cfg now).2.api
      (b.findMatches cfg now).2.code (b.findMatches cfg now).1 := by
  rw [h.findMatches_eq]
  exact sound_firstFit _ _

/-- A rescan at which nothing has expired leaves the deques as they are. -/
lemma findMatches_of_fresh {now : ℚ} (b : Buffer) (hapi : b.api.length ≤ cfg.bufferMaxSize)
    (hcode : b.code.length ≤ cfg.bufferMaxSize)
    (hfresh : ∀ x ∈ b.api ++ b.code, x.fresh cfg.correlationWindowSecs now = true) :
    (b.findMatches cfg now).2 = b := by
  have hkeep : ∀ q : List Held, (∀ x ∈ q, x ∈ b.api ++ b.code) → q.length ≤ cfg.bufferMaxSize →
      deque cfg.bufferMaxSize (q.filter (Held.fresh cfg.correlationWindowSecs now)) = q := by
    intro q hq hlen
    rw [List.filter_eq_self.mpr fun x hx => hfresh x (hq x hx)]
    exact deque_eq_self hlen
  simp only [Buffer.findMatches]
  rw [hkeep b.api (fun x hx => List.mem_append_left _ hx) hapi,
    hkeep b.code (fun x hx => List.mem_append_right _ hx) hcode]

/-! ## The rescan is the search -/

/-- No two held findings belong together. -/
def Unmatched (window : ℚ) (b : Buffer) : Prop :=
  ∀ a ∈ b.api, ∀ c ∈ b.code, inScope window a c = false

lemma unmatched_empty (window : ℚ) : empty.Unmatched window := by simp [Unmatched, empty]

lemma unmatched_filter (p q : Held → Bool) {as cs : List Held} {window : ℚ}
    (h : ∀ a ∈ as, ∀ c ∈ cs, inScope window a c = false) :
    ∀ a ∈ as.filter p, ∀ c ∈ cs.filter q, inScope window a c = false :=
  fun a ha c hc => h a (List.mem_of_mem_filter ha) c (List.mem_of_mem_filter hc)

/-- What the rescan sees of the deque the new finding was added to: some older findings, and the
new one last if it is fresh. -/
lemma filter_deque_concat {maxlen : ℕ} (hpos : 0 < maxlen) (p : Held → Bool) (q : List Held)
    (x : Held) : ∃ kept : List Held, kept.Sublist q ∧
      (deque maxlen (q ++ [x])).filter p = kept.filter p ++ if p x then [x] else [] := by
  obtain ⟨kept, hkept, hsub⟩ := deque_concat hpos q x
  refine ⟨kept, hsub, ?_⟩
  rw [hkept, List.filter_append, List.filter_singleton]
  cases p x <;> rfl

/-- **The rescan of both deques is one search** through the deque of the other source, when no two
findings held before belong together. -/
theorem findMatches_add {arrivals : ℕ} (h : Orderly cfg arrivals b)
    (hunmatched : b.Unmatched cfg.correlationWindowSecs) (now : ℚ) (new : Held) :
    ((b.add cfg new).findMatches cfg now).1
      = (firstPartner cfg.correlationWindowSecs now b new).toList := by
  have hnone : ∀ as cs : List Held, as.Sublist b.api → cs.Sublist b.code →
      ∀ a ∈ as.filter (Held.fresh cfg.correlationWindowSecs now),
        ∀ c ∈ cs.filter (Held.fresh cfg.correlationWindowSecs now),
          inScope cfg.correlationWindowSecs a c = false :=
    fun as cs has hcs => unmatched_filter _ _ fun a ha c hc =>
      hunmatched a (has.subset ha) c (hcs.subset hc)
  rcases Nat.eq_zero_or_pos cfg.bufferMaxSize with hzero | hpos
  · -- a buffer of size zero holds nothing, the new finding included
    have hapi : b.api = [] := List.length_eq_zero_iff.mp (by have := h.api.length_le; omega)
    have hcode : b.code = [] := List.length_eq_zero_iff.mp (by have := h.code.length_le; omega)
    simp only [Buffer.findMatches, Buffer.add, firstPartner, firstCode, firstApi, hapi, hcode, hzero]
    split_ifs <;> simp [deque, firstFit_nil, hapi, hcode]
  · by_cases hsource : new.finding.source = .api
    · obtain ⟨kept, hkept, hfilter⟩ := filter_deque_concat hpos
        (Held.fresh cfg.correlationWindowSecs now) b.api new
      simp only [Buffer.findMatches, Buffer.add, if_pos hsource, firstPartner, firstCode, hfilter]
      by_cases hfresh : new.fresh cfg.correlationWindowSecs now = true
      · simp only [if_pos hfresh]
        rw [firstFit_concat_left (hnone kept b.code hkept (List.Sublist.refl _)), List.find?_filter]
        simp only [Bool.decide_and, Bool.decide_eq_true]
      · simp only [if_neg hfresh, List.append_nil]
        exact firstFit_nil (hnone kept b.code hkept (List.Sublist.refl _))
    · by_cases hsource' : new.finding.source = .code
      · obtain ⟨kept, hkept, hfilter⟩ := filter_deque_concat hpos
          (Held.fresh cfg.correlationWindowSecs now) b.code new
        simp only [Buffer.findMatches, Buffer.add, if_neg hsource, if_pos hsource', firstPartner,
          firstApi, hfilter]
        by_cases hfresh : new.fresh cfg.correlationWindowSecs now = true
        · simp only [if_pos hfresh]
          rw [firstFit_concat_right (hnone b.api kept (List.Sublist.refl _) hkept),
            List.find?_filter]
          simp only [Bool.decide_and, Bool.decide_eq_true]
        · simp only [if_neg hfresh, List.append_nil]
          exact firstFit_nil (hnone b.api kept (List.Sublist.refl _) hkept)
      · -- findings of other sources are not buffered
        simp only [Buffer.findMatches, Buffer.add, firstPartner, if_neg hsource, if_neg hsource',
          ite_self]
        exact firstFit_nil (hnone b.api b.code (List.Sublist.refl _) (List.Sublist.refl _))

/-! ## The partner -/

/-- `x` arrived first among the held findings that are fresh and in scope. -/
structure EarliestFresh (window now : ℚ) (held : List Held) (scope : Held → Bool) (x : Held) :
    Prop where
  mem : x ∈ held
  fresh : x.fresh window now = true
  inScope : scope x = true
  earliest : ∀ y ∈ held, y.fresh window now = true → scope y = true → x.arrival ≤ y.arrival

/-- A search through a deque in order of arrival finds the earliest. -/
lemma Ordered.find_earliest {maxlen arrivals : ℕ} {q : List Held} {window now : ℚ}
    {scope : Held → Bool} {x : Held} (h : Ordered maxlen arrivals q)
    (hfind : q.find? (fun y => y.fresh window now && scope y) = some x) :
    EarliestFresh window now q scope x := by
  obtain ⟨hx, before, after, rfl, hbefore⟩ := List.find?_eq_some_iff_append.mp hfind
  rw [Bool.and_eq_true] at hx
  refine ⟨by simp, hx.1, hx.2, ?_⟩
  intro y hy hfresh hscope
  rcases List.mem_append.mp hy with hy | hy
  · have hskip := hbefore y hy
    rw [hfresh, hscope] at hskip
    cases hskip
  · rcases List.mem_cons.mp hy with rfl | hy
    · exact le_rfl
    · have hsorted := (List.pairwise_append.mp h.sorted).2.1
      exact ((List.pairwise_cons.mp hsorted).1 y hy).le

/-- A pair of the rescan: the new finding, and its earliest partner on the other side. -/
inductive PartnerOf (window now : ℚ) (b : Buffer) (new : Held) : Held → Held → Prop
  | api (c : Held) (source : new.finding.source = .api) (fresh : new.fresh window now = true)
      (partner : EarliestFresh window now b.code (inScope window new) c) :
      PartnerOf window now b new new c
  | code (a : Held) (source : new.finding.source = .code) (fresh : new.fresh window now = true)
      (partner : EarliestFresh window now b.api (fun a => inScope window a new) a) :
      PartnerOf window now b new a new

lemma PartnerOf.inScope {window now : ℚ} {a c : Held} (h : PartnerOf window now b new a c) :
    Watchtower.inScope window a c = true := by
  cases h with
  | api c source fresh partner => exact partner.inScope
  | code a source fresh partner => exact partner.inScope

lemma partnerOf_of_firstPartner {arrivals : ℕ} {now : ℚ} {p : Held × Held}
    (horderly : Orderly cfg arrivals b)
    (h : firstPartner cfg.correlationWindowSecs now b new = some p) :
    PartnerOf cfg.correlationWindowSecs now b new p.1 p.2 := by
  unfold firstPartner at h
  split_ifs at h with hfresh hsource hsource'
  · obtain ⟨c, hc, rfl⟩ := Option.map_eq_some_iff.mp h
    exact .api c hsource hfresh (horderly.code.find_earliest hc)
  · obtain ⟨a, ha, rfl⟩ := Option.map_eq_some_iff.mp h
    exact .code a hsource' hfresh (horderly.api.find_earliest ha)

/-- A new finding without a partner is in scope with no fresh finding of the other source. -/
lemma unmatched_of_firstPartner_none {now : ℚ}
    (h : firstPartner cfg.correlationWindowSecs now b new = none)
    (hfresh : new.fresh cfg.correlationWindowSecs now = true) :
    (new.finding.source = .api → ∀ c ∈ b.code, c.fresh cfg.correlationWindowSecs now = true →
        inScope cfg.correlationWindowSecs new c = false) ∧
      (new.finding.source = .code → ∀ a ∈ b.api, a.fresh cfg.correlationWindowSecs now = true →
        inScope cfg.correlationWindowSecs a new = false) := by
  unfold firstPartner at h
  rw [if_pos hfresh] at h
  constructor
  · intro hsource c hc hcfresh
    rw [if_pos hsource, Option.map_eq_none_iff, firstCode, List.find?_eq_none] at h
    simpa [hcfresh] using h c hc
  · intro hsource a ha hafresh
    have hapi : new.finding.source ≠ .api := by rw [hsource]; decide
    rw [if_neg hapi, if_pos hsource, Option.map_eq_none_iff, firstApi, List.find?_eq_none] at h
    simpa [hafresh] using h a ha

/-- What the deques hold after the rescan: older findings, and the new one if it was added; fresh
ones only. -/
lemma mem_rescan {now : ℚ} {x : Held} (h : Orderly cfg new.arrival b) :
    (x ∈ ((b.add cfg new).findMatches cfg now).2.api →
        x.fresh cfg.correlationWindowSecs now = true ∧
          (x ∈ b.api ∨ (x = new ∧ new.finding.source = .api))) ∧
      (x ∈ ((b.add cfg new).findMatches cfg now).2.code →
        x.fresh cfg.correlationWindowSecs now = true ∧
          (x ∈ b.code ∨ (x = new ∧ new.finding.source = .code))) := by
  rw [(h.add new).mem_findMatches_iff.1, (h.add new).mem_findMatches_iff.2]
  exact ⟨fun hx => ⟨hx.2, mem_add.1 hx.1⟩, fun hx => ⟨hx.2, mem_add.2 hx.1⟩⟩

/-- Both members of a pair are in the buffer at the pass. -/
lemma mem_pass_of_partnerOf {now : ℚ} {a c : Held} (h : Orderly cfg new.arrival b)
    (hpartner : PartnerOf cfg.correlationWindowSecs now b new a c) :
    a ∈ ((b.add cfg new).findMatches cfg now).2.api ∧
      c ∈ ((b.add cfg new).findMatches cfg now).2.code := by
  have hpos : ∀ {q : List Held} {y : Held}, Ordered cfg.bufferMaxSize new.arrival q → y ∈ q →
      0 < cfg.bufferMaxSize :=
    fun hq hy => (List.length_pos_of_mem hy).trans_le hq.length_le
  rw [(h.add new).mem_findMatches_iff.1, (h.add new).mem_findMatches_iff.2]
  cases hpartner with
  | api c hsource hfresh hpartner =>
      refine ⟨⟨?_, hfresh⟩, ?_, hpartner.fresh⟩
      · simp only [Buffer.add, if_pos hsource]
        exact mem_deque_new (hpos h.code hpartner.mem) b.api
      · simpa only [Buffer.add, if_pos hsource] using hpartner.mem
  | code a hsource hfresh hpartner =>
      have hapi : new.finding.source ≠ .api := by rw [hsource]; decide
      refine ⟨⟨?_, hpartner.fresh⟩, ?_, hfresh⟩
      · simpa only [Buffer.add, if_neg hapi, if_pos hsource] using hpartner.mem
      · simp only [Buffer.add, if_neg hapi, if_pos hsource]
        exact mem_deque_new (hpos h.api hpartner.mem) b.code

/-- **What belongs together after an arrival involves the arrival.** -/
lemma involves_new {now : ℚ} {x y : Held} (h : Orderly cfg new.arrival b)
    (hunmatched : b.Unmatched cfg.correlationWindowSecs)
    (hx : x ∈ ((b.add cfg new).findMatches cfg now).2.api)
    (hy : y ∈ ((b.add cfg new).findMatches cfg now).2.code)
    (hscope : inScope cfg.correlationWindowSecs x y = true) : x = new ∨ y = new := by
  rcases ((mem_rescan h).1 hx).2 with hold | ⟨rfl, -⟩
  · rcases ((mem_rescan h).2 hy).2 with hold' | ⟨rfl, -⟩
    · rw [hunmatched x hold y hold'] at hscope
      cases hscope
    · exact Or.inr rfl
  · exact Or.inl rfl

/-- **A rescan without a match leaves nothing that matches.** -/
theorem unmatched_rescan {now : ℚ} (new : Held) (h : Orderly cfg new.arrival b)
    (hunmatched : b.Unmatched cfg.correlationWindowSecs)
    (hnone : firstPartner cfg.correlationWindowSecs now b new = none) :
    ((b.add cfg new).findMatches cfg now).2.Unmatched cfg.correlationWindowSecs := by
  intro a ha c hc
  by_contra hscope
  rw [Bool.not_eq_false] at hscope
  obtain ⟨hafresh, hamem⟩ := (mem_rescan h).1 ha
  obtain ⟨hcfresh, hcmem⟩ := (mem_rescan h).2 hc
  rcases hamem with hamem | ⟨rfl, hasource⟩
  · rcases hcmem with hcmem | ⟨rfl, hcsource⟩
    · rw [hunmatched a hamem c hcmem] at hscope
      cases hscope
    · rw [(unmatched_of_firstPartner_none hnone hcfresh).2 hcsource a hamem hafresh] at hscope
      cases hscope
  · rcases hcmem with hcmem | ⟨rfl, hcsource⟩
    · rw [(unmatched_of_firstPartner_none hnone hafresh).1 hasource c hcmem hcfresh] at hscope
      cases hscope
    · rw [hasource] at hcsource
      cases hcsource

end Buffer

end Watchtower
