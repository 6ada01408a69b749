import Watchtower.ApiWatcher.Rounds

/-!
# What the API watcher emits

As long as the texts of the findings fit the schema and no probe is cancelled, no probe gives the
watcher a reason to stop: all it does is to persist one finding after another.

* `Slot` — a probe of a run, with the number of failures its target has seen before it.
* `MadeAt` — the finding that is due in a slot.
* **`watch_emits_due`** — a run persists exactly the findings that are due, in the order of the rounds
  and, within each, of the targets.
-/

namespace Watchtower

open Core Py

instance (settings : Settings) (failures : ℕ) (o : ProbeOutcome) : Decidable (Due settings failures o) :=
  match o with
  | .response _ _ => inferInstanceAs (Decidable (ite _ _ _))
  | .timeout => inferInstanceAs (Decidable (_ ≤ _))
  | .tlsError => inferInstanceAs (Decidable True)
  | .clientError _ => inferInstanceAs (Decidable (_ ≤ _))
  | .cancelled => inferInstanceAs (Decidable False)

section Emission

variable [UnicodeData] {settings : Settings} (room : ℕ)
  (dumps : PyVal → Except PyExc PyStr)

/-! ## Sequences of emissions -/

lemma emitResults_append (xs ys : List (Attempt × ProbeResult)) :
    emitResults room dumps (xs ++ ys)
      = emitResults room dumps xs >>= fun _ => emitResults room dumps ys := by
  induction xs with
  | nil => rfl
  | cons x xs ih =>
      obtain ⟨a, result⟩ := x
      simp only [List.cons_append, emitResults, ih, Traced.bind_bind]

/-- A probe without a finding calls for nothing. -/
lemma emitResults_none (a : Attempt) (rest : List (Attempt × ProbeResult)) :
    emitResults room dumps ((a, .returned none) :: rest) = emitResults room dumps rest := rfl

/-! ## Slots -/

/-- A probe of a run, and what its target has been through before. -/
structure Slot where
  url : PyStr
  failures : ℕ
  attempt : Attempt

namespace Slot

def event (slot : Slot) : ProbeEvent := slot.attempt.event slot.url

/-- A report is due. -/
def isDue (settings : Settings) (slot : Slot) : Bool :=
  decide (Due settings slot.failures slot.attempt.outcome)

/-- The probe's texts fit the schema if it has to report, and it runs to its end. -/
structure Sound [Normalization] (settings : Settings) (slot : Slot) : Prop where
  fits : FitsAt settings slot.url slot.attempt.outcome (slot.failures + 1)
  not_cancelled : slot.attempt.outcome ≠ .cancelled

/-- What `_probe_endpoint` comes to. -/
def result [Normalization] [Sha256] (settings : Settings) (slot : Slot) : Attempt × ProbeResult :=
  (slot.attempt, expectedResult settings slot.event slot.failures)

/-- The finding, as the result of the probe. -/
def found (slot : Slot) (f : Finding) : Attempt × ProbeResult := (slot.attempt, .returned (some f))

end Slot

/-- The probes of a round, in the order of the targets. -/
def roundSlots (past : List (Round settings)) (r : Round settings) : List Slot :=
  (List.finRange _).map fun i =>
    { url := urlAt settings i, failures := failuresSince (historyOf past i), attempt := r.attempts i }

/-- The probes of a run. -/
def runSlots : List (Round settings) → List (Round settings) → List Slot
  | _, [] => []
  | past, r :: rest => roundSlots past r ++ runSlots (past ++ [r]) rest

variable [Normalization] [Sha256]

/-- The finding that is due in a slot. -/
def MadeAt (settings : Settings) (slot : Slot) (f : Finding) : Prop :=
  ∃ target r, targetMetadata slot.url = .ok target ∧
    dueReport settings target slot.failures slot.attempt.outcome = some r ∧
    newFinding slot.attempt.id slot.attempt.now.val r.args = .ok f

lemma historyRound_eq (past : List (Round settings)) (r : Round settings) :
    historyRound past r = (roundSlots past r).map (Slot.result settings) := by
  rw [historyRound, roundSlots, List.map_map]
  rfl

lemma historyRounds_eq (rounds : List (Round settings)) : ∀ past : List (Round settings),
    historyRounds room dumps past rounds
      = emitResults room dumps ((runSlots past rounds).map (Slot.result settings)) := by
  induction rounds with
  | nil => exact fun past => rfl
  | cons r rest ih =>
      intro past
      simp only [historyRounds, runSlots, List.map_append, emitResults_append, historyRound_eq, ih]

/-! ## Sound slots -/

/-- What a sound probe comes to: its finding where one is due, and nothing elsewhere. -/
lemma result_of_sound {slot : Slot} (h : slot.Sound settings) :
    (slot.isDue settings = false ∧ slot.result settings = (slot.attempt, .returned none)) ∨
      (slot.isDue settings = true ∧
        ∃ f, MadeAt settings slot f ∧ slot.result settings = slot.found f) := by
  obtain ⟨⟨hplatform, target, htarget, hfits⟩, hcancelled⟩ := h
  have hevent : targetMetadata slot.event.url = .ok target := htarget
  have hreport := probe_report hplatform target slot.url
    { failureCounts := fun _ => slot.failures, endpointStates := fun _ => .up } slot.attempt.outcome
  simp only [probe_snd] at hreport
  rcases hreport with ⟨hdue, hnone⟩ | ⟨hdue, r, hr, hrfits⟩
  · refine Or.inl ⟨decide_eq_false hdue, ?_⟩
    have hout : dueReport settings target slot.failures slot.event.outcome = none := hnone
    have hlive : slot.event.outcome ≠ .cancelled := hcancelled
    simp only [Slot.result, expectedResult, hevent, hout, createFinding, if_neg hlive]
  · refine Or.inr ⟨decide_eq_true hdue, ?_⟩
    obtain ⟨f, hf⟩ := (newFinding_returns_iff slot.attempt.id slot.attempt.now.val r).mpr
      ⟨hrfits.mpr hfits, slot.attempt.now.property⟩
    have hout : dueReport settings target slot.failures slot.event.outcome = some r := hr
    have hlive : slot.event.outcome ≠ .cancelled := hcancelled
    have hmade : newFinding slot.event.id slot.event.now.val r.args = .ok f := hf
    refine ⟨f, ⟨target, r, htarget, hr, hf⟩, ?_⟩
    simp only [Slot.result, Slot.found, expectedResult, hevent, hout, createFinding, hmade,
      Except.map, if_neg hlive]

/-- Sound probes are followed by nothing but the emission of what is due. -/
lemma emitResults_of_sound {slots : List Slot} (h : ∀ slot ∈ slots, slot.Sound settings) :
    ∃ found : List (Slot × Finding), found.map Prod.fst = slots.filter (Slot.isDue settings) ∧
      (∀ p ∈ found, MadeAt settings p.1 p.2) ∧
      emitResults room dumps (slots.map (Slot.result settings))
        = emitResults room dumps (found.map fun p => p.1.found p.2) := by
  induction slots with
  | nil => exact ⟨[], rfl, by simp, rfl⟩
  | cons slot slots ih =>
      obtain ⟨found, hslots, hmade, hemit⟩ := ih fun slot' h' => h slot' (List.mem_cons_of_mem _ h')
      rcases result_of_sound (h slot List.mem_cons_self) with ⟨hdue, hresult⟩ | ⟨hdue, f, hf, hresult⟩
      · refine ⟨found, ?_, hmade, ?_⟩
        · rw [List.filter_cons_of_neg (by simp [hdue]), hslots]
        · rw [List.map_cons, hresult, emitResults_none, hemit]
      · refine ⟨(slot, f) :: found, ?_, ?_, ?_⟩
        · rw [List.filter_cons_of_pos hdue, List.map_cons, hslots]
        · exact List.forall_mem_cons.mpr ⟨hf, hmade⟩
        · simp only [List.map_cons, hresult, Slot.found, emitResults, hemit]

/-- **A run persists exactly the findings that are due**, in the order of the rounds and the targets,
when its probes are sound: it is left early only by an exception on the way of a finding to Redis. -/
theorem watch_emits_due (hnodup : settings.apiWatcher.targetUrls.Nodup)
    {rounds : List (Round settings)} (h : ∀ slot ∈ runSlots [] rounds, slot.Sound settings) :
    ∃ found : List (Slot × Finding),
      found.map Prod.fst = (runSlots [] rounds).filter (Slot.isDue settings) ∧
      (∀ p ∈ found, MadeAt settings p.1 p.2) ∧
      watch room dumps rounds = emitResults room dumps (found.map fun p => p.1.found p.2) := by
  have hwatch : watch room dumps rounds
      = emitResults room dumps ((runSlots [] rounds).map (Slot.result settings)) :=
    (watchRounds_eq_historyRounds room dumps hnodup rounds fun _ _ => rfl).trans
      (historyRounds_eq room dumps rounds [])
  rw [hwatch]
  exact emitResults_of_sound room dumps h

end Emission

/-! ## A run of one target -/

section Sample

attribute [local instance] asciiData asciiNormalization probeDigest

/-- A round of the one target. -/
def healthRound (outcome : ProbeOutcome) : Round (settingsFor healthTarget) where
  attempts _ :=
    { outcome := outcome, id := sampleApiId, now := ⟨sampleClock, sampleClock_pos⟩,
      push := fun _ => .ok (), store := fun _ => .ok () }
  order := List.finRange _
  complete := .refl _

/-- Three timeouts, the last of which is reported. -/
def threeTimeouts : List (Round (settingsFor healthTarget)) :=
  [healthRound .timeout, healthRound .timeout, healthRound .timeout]

theorem watch_emits_due_threeTimeouts :
    ∃ found : List (Slot × Finding),
      found.map Prod.fst = (runSlots [] threeTimeouts).filter (Slot.isDue (settingsFor healthTarget)) ∧
      (∀ p ∈ found, MadeAt (settingsFor healthTarget) p.1 p.2) ∧
      watch 900 (fun _ => .ok (py "\x7b\x7d")) threeTimeouts
        = emitResults 900 (fun _ => .ok (py "\x7b\x7d")) (found.map fun p => p.1.found p.2) :=
  have hsingle : List.finRange (settingsFor healthTarget).apiWatcher.targetUrls.length
      = [⟨0, Nat.one_pos⟩] := rfl
  have hsound : ∀ slot ∈ runSlots [] threeTimeouts, slot.Sound (settingsFor healthTarget) := by
    simp only [threeTimeouts, runSlots, roundSlots, hsingle, List.map_cons, List.map_nil,
      List.append_nil, List.cons_append, List.nil_append, List.forall_mem_cons, List.not_mem_nil,
      false_implies, implies_true, and_true]
    refine ⟨⟨healthTarget_fitsAt (by decide), by decide⟩, ⟨healthTarget_fitsAt (by decide), by decide⟩,
      ⟨healthTarget_fitsAt (by decide), by decide⟩⟩
  watch_emits_due _ _ (by decide) hsound

end Sample

end Watchtower
