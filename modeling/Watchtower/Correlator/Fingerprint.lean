import Watchtower.Core.Joined
import Watchtower.Correlator.Loop
import Watchtower.Schema.Report

/-!
# What a fingerprint tells apart

The fingerprint of an alert is the key of its cooldown claim, of its evidence record and of its
idempotency header.  It is a digest of five fields joined by bars: the type of the code finding is
not one of them, and the service, the endpoint and the file may contain bars of their own.

* `SameIssue` — two alerts are about the same thing, up to letter case.
* `Suppresses` — a live claim for one alert turns a claim for another away.
* **`fingerprint_sound_iff`** — which pairs of findings give alerts whose fingerprints, and whose
  claims, tell them apart.
* `sameLine_same_fingerprint` — two findings of different types on one line of a file.
* **`findingFingerprint_sound_iff`** — the same for the fingerprints of two findings.
* `shiftedBar_same_fingerprint` — a bar that belongs to the service or to the endpoint.
-/

namespace Watchtower

open Core Py

section Fingerprint

variable [UnicodeData]

/-! ## The five parts -/

/-- What is joined: the parts as texts, lower-cased. -/
def loweredParts (api code : Finding) : List PyStr :=
  (alertParts api code).map fun p => lower (p.getD [])

/-- How many bars each part holds. -/
def barCounts (api code : Finding) : List ℕ :=
  (alertParts api code).map fun p => (p.getD []).count bar

lemma barCounts_eq (api code : Finding) :
    barCounts api code = (loweredParts api code).map (List.count bar) := by
  have hbar : Separator bar := by decide
  simp only [barCounts, loweredParts, List.map_map]
  refine List.map_congr_left fun p _ => ?_
  exact (count_lower hbar _).symm

/-- Two pairs have the same text to hash exactly when their parts have the same pieces. -/
lemma fingerprintText_eq_iff (api code api' code' : Finding) :
    fingerprintText (alertParts api code) = fingerprintText (alertParts api' code') ↔
      pieces bar (loweredParts api code) = pieces bar (loweredParts api' code') :=
  intercalate_eq_iff bar (by simp [alertParts]) (by simp [alertParts])

lemma lower_value_injective : Function.Injective fun t : FindingType => lower t.value := by
  have hlower : ∀ t : FindingType, lower t.value = t.value := by
    intro t
    have hascii : t.value.all isAscii = true := by cases t <;> rfl
    rw [lower_of_ascii (List.all_eq_true.mp hascii)]
    cases t <;> rfl
  intro s t h
  have hvalue : s.value = t.value := by simpa only [hlower] using h
  have hmember := FindingType.ofVal_value s
  rw [hvalue, FindingType.ofVal_value t] at hmember
  exact (Except.ok.inj hmember).symm

lemma lower_lineNoText_injective :
    Function.Injective fun l : Option LineNo => lower ((lineNoText l).getD []) := by
  intro l m h
  cases l with
  | none =>
      cases m with
      | none => rfl
      | some m => exact absurd (lower_decimal m.val ▸ h.symm) (decimal_ne_nil m.val)
  | some l =>
      cases m with
      | none => exact absurd (lower_decimal l.val ▸ h) (decimal_ne_nil l.val)
      | some m =>
          have hdecimal : decimal l.val = decimal m.val := by
            simpa only [lineNoText, Option.getD_some, lower_decimal] using h
          rw [Subtype.ext (decimal_injective hdecimal)]

/-! ## Issues -/

/-- Two texts agree up to letter case, where an absent text counts as empty. -/
def SameText (x y : Option PyStr) : Prop := lower (x.getD []) = lower (y.getD [])

/-- Two alerts are about the same issue. -/
structure SameIssue (x y : CorrelatedAlert) : Prop where
  service : SameText (some x.service.val) (some y.service.val)
  endpoint : SameText (x.endpoint.map NonemptyText.val) (y.endpoint.map NonemptyText.val)
  apiError : x.apiError = y.apiError
  codeIssue : x.codeIssue = y.codeIssue
  file : SameText (x.file.map NonemptyText.val) (y.file.map NonemptyText.val)
  line : x.line = y.line

variable [Sha256]

/-- The issue is determined by the lowered parts and the type of the code finding. -/
lemma sameIssue_iff {api code api' code' : Finding} {x y : CorrelatedAlert}
    (hx : AlertOf api code x) (hy : AlertOf api' code' y) :
    SameIssue x y ↔ loweredParts api code = loweredParts api' code' ∧ code.type = code'.type := by
  simp only [loweredParts, alertParts, List.map_cons, List.map_nil, List.cons.injEq, and_true,
    Option.getD_some]
  constructor
  · intro h
    have hservice := h.service
    have hendpoint := h.endpoint
    have hfile := h.file
    rw [hx.service, hy.service] at hservice
    rw [hx.endpoint, hy.endpoint] at hendpoint
    rw [hx.file, hy.file] at hfile
    have htype : api.type = api'.type := hx.apiError ▸ hy.apiError ▸ h.apiError
    have hline : code.line = code'.line := hx.line ▸ hy.line ▸ h.line
    exact ⟨⟨hservice, hendpoint, by rw [htype], hfile, by rw [hline]⟩,
      hx.codeIssue ▸ hy.codeIssue ▸ h.codeIssue⟩
  · rintro ⟨⟨hservice, hendpoint, htype, hfile, hline⟩, hissue⟩
    exact
      { service := by rw [hx.service, hy.service]; exact hservice
        endpoint := by rw [hx.endpoint, hy.endpoint]; exact hendpoint
        apiError := by rw [hx.apiError, hy.apiError]; exact lower_value_injective htype
        codeIssue := by rw [hx.codeIssue, hy.codeIssue]; exact hissue
        file := by rw [hx.file, hy.file]; exact hfile
        line := by rw [hx.line, hy.line]; exact lower_lineNoText_injective hline }

/-! ## Claims -/

/-- With nothing but a live claim for `x` in the store, a claim for `y` that is answered at once
returns `None`. -/
def Suppresses (x y : CorrelatedAlert) : Prop :=
  ∃ (cooldownSecs : ℤ) (call : ClaimCall y.fingerprint.val cooldownSecs) (claim : Lease PyStr ℚ),
    call.store = Function.update (fun _ => none) (cooldownKey x.fingerprint.val) (some claim) ∧
    call.events = [.attempt .answered] ∧ call.result = .ok none

omit [Sha256] in
/-- A claim stands in the way of the alerts with its fingerprint, and of no others. -/
lemma suppresses_iff (x y : CorrelatedAlert) : Suppresses x y ↔ x.fingerprint = y.fingerprint := by
  constructor
  · rintro ⟨cooldownSecs, call, claim, hstore, hevents, hresult⟩
    obtain ⟨before, hanswered⟩ := call.exists_answered_of_result hresult
    have hnil : before = [] := by
      obtain ⟨after, k, hsplit, -⟩ := hanswered
      rw [hevents] at hsplit
      rcases List.singleton_eq_append_iff.mp hsplit with ⟨h, -⟩ | ⟨-, h⟩
      · exact h
      · cases h
    subst hnil
    have hholder : call.holder [] ≠ none := by
      intro h
      rw [call.result_of_answered hanswered, if_pos h] at hresult
      cases hresult
    -- the key that was found taken is the one the claim is stored under
    by_contra hne
    refine hholder ?_
    have hkey : cooldownKey y.fingerprint.val ≠ cooldownKey x.fingerprint.val := by
      intro h
      exact hne (Fingerprint.ext (cooldownKey_injective h).symm)
    show call.store.live call.now (cooldownKey y.fingerprint.val) = none
    simp only [Store.live, hstore, Function.update_of_ne hkey]
  · intro h
    have hkey : cooldownKey x.fingerprint.val = cooldownKey y.fingerprint.val := by rw [h]
    have hlive : Store.live
        (Function.update (fun _ => none) (cooldownKey x.fingerprint.val)
          (some ⟨py "claimed", (1 : ℚ)⟩)) 0 (cooldownKey y.fingerprint.val)
        = some (py "claimed") := by
      refine Store.live_of_lease (e := 1) ?_ (by norm_num)
      rw [hkey, Function.update_self]
    refine ⟨300,
      { token := py "token"
        now := 0
        store := Function.update (fun _ => none) (cooldownKey x.fingerprint.val)
          (some ⟨py "claimed", 1⟩)
        events := [.attempt .answered]
        token_ne_nil := by decide
        fresh := ?_
        valid := by decide
        finished := ?_ }, ⟨py "claimed", 1⟩, rfl, rfl, ?_⟩
    · intro e
      rw [hkey, Function.update_self]
      simp
    · simp only [ClaimState.run, ClaimState.start, List.foldl_cons, List.foldl_nil,
        ClaimState.step, setNx, Command.exec_setNxEx_held _ _ hlive, retryTurn]
      rfl
    · rw [ClaimCall.result_of_answered _
        (show ClaimCall.AnsweredAfter _ [] from ⟨[], 1, rfl, rfl⟩), if_neg]
      simp only [ClaimCall.holder, ClaimCall.after, ClaimState.run, List.foldl_nil,
        ClaimCall.start, ClaimState.start, hlive]
      simp

/-! ## When the fingerprint is sound -/

/-- The code findings are of one type, and each part holds as many bars as its counterpart. -/
structure Aligned (api code api' code' : Finding) : Prop where
  codeIssue : code.type = code'.type
  bars : barCounts api code = barCounts api' code'

/-- **Which pairs a fingerprint tells apart.**  Unless the digests collide, equal fingerprints mean
the same issue, and a claim suppresses the same issue only, exactly when the two pairs either differ
in the pieces of their parts or are aligned. -/
theorem fingerprint_sound_iff {id id' : Uuid} {now now' : FiniteFloat}
    {api code api' code' : Finding} {confidence confidence' : FiniteFloat}
    {rootCause recommendedFix rootCause' recommendedFix' : PyStr} {x y : CorrelatedAlert}
    (hx : newCorrelatedAlert id now api code confidence rootCause recommendedFix = .ok x)
    (hy : newCorrelatedAlert id' now' api' code' confidence' rootCause' recommendedFix' = .ok y)
    (hcollision : Sha256.hexdigest32 (fingerprintText (alertParts api code))
        = Sha256.hexdigest32 (fingerprintText (alertParts api' code')) →
      fingerprintText (alertParts api code) = fingerprintText (alertParts api' code')) :
    ((x.fingerprint = y.fingerprint → SameIssue x y) ∧ (Suppresses x y → SameIssue x y)) ↔
      (pieces bar (loweredParts api code) = pieces bar (loweredParts api' code') →
        Aligned api code api' code') := by
  have hxof := newCorrelatedAlert_alertOf hx
  have hyof := newCorrelatedAlert_alertOf hy
  have hfingerprint : x.fingerprint = y.fingerprint ↔
      pieces bar (loweredParts api code) = pieces bar (loweredParts api' code') := by
    rw [← fingerprintText_eq_iff, Fingerprint.ext_iff, hxof.fingerprint, hyof.fingerprint]
    exact ⟨hcollision, congrArg _⟩
  rw [suppresses_iff, and_self, hfingerprint, sameIssue_iff hxof hyof]
  refine imp_congr_right fun hpieces => ⟨?_, ?_⟩
  · rintro ⟨hparts, hissue⟩
    exact ⟨hissue, by rw [barCounts_eq, barCounts_eq, hparts]⟩
  · rintro ⟨hissue, hbars⟩
    rw [barCounts_eq, barCounts_eq] at hbars
    exact ⟨eq_of_pieces_eq bar hbars hpieces, hissue⟩

/-! ## Findings -/

/-- The parts of a finding's fingerprint. -/
def findingParts (f : Finding) : List (Option PyStr) := alertParts f f

/-- Two findings are about the same place, up to letter case. -/
structure SamePlace (f g : Finding) : Prop where
  service : SameText (some f.service.val) (some g.service.val)
  endpoint : SameText (textOf f.endpoint) (textOf g.endpoint)
  type : f.type = g.type
  file : SameText (textOf f.file) (textOf g.file)
  line : f.line = g.line

omit [Sha256] in
/-- The place is determined by the lowered parts. -/
lemma samePlace_iff {f g : Finding} : SamePlace f g ↔ loweredParts f f = loweredParts g g := by
  simp only [loweredParts, alertParts, List.map_cons, List.map_nil, List.cons.injEq, and_true,
    Option.getD_some]
  constructor
  · intro h
    exact ⟨h.service, h.endpoint, by rw [h.type], h.file, by rw [h.line]⟩
  · rintro ⟨hservice, hendpoint, htype, hfile, hline⟩
    exact
      { service := hservice
        endpoint := hendpoint
        type := lower_value_injective htype
        file := hfile
        line := lower_lineNoText_injective hline }

omit [UnicodeData] [Sha256] in
/-- A line is written the same in the arguments and in the finding. -/
lemma lineText_of_checkLine {o : Option ℤ} {line : Option LineNo}
    (h : checkLine ((o.map PyTree.int).getD .none) = .ok line) : lineText o = lineNoText line := by
  have hval := val_of_checkLine h
  subst hval
  cases line with
  | none => rfl
  | some n =>
      have hne : ((n.val : ℕ) : ℤ) ≠ 0 := by exact_mod_cast (Nat.pos_iff_ne_zero.mp n.property)
      rw [Option.map_some, lineText, if_neg hne, lineNoText, decimalInt,
        if_pos (Int.natCast_nonneg n.val)]
      rfl

/-- **What `new_finding` hashes.** -/
theorem newFinding_fingerprint {id : Uuid} {now : FiniteFloat} {a : NewFindingArgs} {f : Finding}
    (h : newFinding id now a = .ok f) :
    f.fingerprint.val = Sha256.hexdigest32 (fingerprintText (findingParts f)) := by
  simp only [newFinding, Finding.init, bind_eq_ok_iff, checkUuid_val, FindingSource.ofVal_value,
    FindingType.ofVal_value, FindingStatus.ofVal_value, checkSeverity_value, checkFingerprint_val,
    ok_bind, checkConfidence_val] at h
  obtain ⟨_, -, type, -, _, -, _, -, _, -, fp, hfp, _, -, service, hservice, _, -, _, -, _, -, endpoint,
    hendpoint, file, hfile, _, -, _, -, line, hline, _, -, _, -, hret⟩ := h
  cases hret
  have hparts : [some a.service, a.endpoint, some type.value, a.file, lineText a.line]
      = [some service.val, textOf endpoint, some type.value, textOf file, lineNoText line] := by
    rw [val_of_checkRequired hservice, textOf_of_checkOptional hendpoint,
      textOf_of_checkOptional hfile, lineText_of_checkLine hline]
  rw [hparts, computeFingerprint] at hfp
  split_ifs at hfp
  cases hfp
  rfl

/-- **Which findings a fingerprint tells apart.**  Unless the digests collide, equal fingerprints
mean the same place exactly when the parts differ in their pieces or hold equally many bars each. -/
theorem findingFingerprint_sound_iff {id id' : Uuid} {now now' : FiniteFloat}
    {a a' : NewFindingArgs} {f g : Finding} (hf : newFinding id now a = .ok f)
    (hg : newFinding id' now' a' = .ok g)
    (hcollision : Sha256.hexdigest32 (fingerprintText (findingParts f))
        = Sha256.hexdigest32 (fingerprintText (findingParts g)) →
      fingerprintText (findingParts f) = fingerprintText (findingParts g)) :
    (f.fingerprint = g.fingerprint → SamePlace f g) ↔
      (pieces bar (loweredParts f f) = pieces bar (loweredParts g g) →
        barCounts f f = barCounts g g) := by
  have hfingerprint : f.fingerprint = g.fingerprint ↔
      pieces bar (loweredParts f f) = pieces bar (loweredParts g g) := by
    rw [← fingerprintText_eq_iff, Fingerprint.ext_iff, newFinding_fingerprint hf,
      newFinding_fingerprint hg]
    exact ⟨hcollision, congrArg _⟩
  rw [hfingerprint, samePlace_iff, barCounts_eq, barCounts_eq]
  refine imp_congr_right fun hpieces => ⟨fun hparts => by rw [hparts], fun hbars => ?_⟩
  exact eq_of_pieces_eq bar hbars hpieces

end Fingerprint

/-! ## Two findings on one line -/

section SameLine

attribute [local instance] asciiData sampleDigest

def serverError : Held where
  arrival := 0
  finding := sampleFinding sampleApiId .api .http5xx none none none true

/-- What a scan reports about line 42 of one file. -/
def lineIssue (issue : FindingType) : Held where
  arrival := 1
  finding := sampleFinding sampleCodeId .code issue none (some loginFile)
    (some loginLine) true

/-- The alert of the server error and an issue on the line. -/
def lineAlert (issue : FindingType) : Except PyExc CorrelatedAlert :=
  buildAlert (promptEnv 300) serverError (lineIssue issue)

lemma exists_lineAlert (issue : FindingType) : ∃ x, lineAlert issue = .ok x := by
  refine (returns_buildAlert_iff (promptEnv 300) serverError (lineIssue issue)).mpr ?_
  exact
    { endpoint := by simp [serverError, sampleFinding, textOf]
      file := by
        show some (py "auth/login.py") ≠ some []
        decide
      trace := by simp [serverError, lineIssue, sampleFinding, textOf, orText]
      service_encodable := by decide
      endpoint_encodable := by decide
      file_encodable := by
        show encodable (py "auth/login.py") = true
        decide
      clock := by decide +kernel }

/-- The text that is hashed does not depend on the type of the code finding. -/
lemma lineIssue_text (issue issue' : FindingType) :
    fingerprintText (alertParts serverError.finding (lineIssue issue).finding)
      = fingerprintText (alertParts serverError.finding (lineIssue issue').finding) := rfl

/-- The condition on two of these alerts. -/
theorem fingerprint_sound_iff_lineAlert :
    ∃ x y, lineAlert .nullDereference = .ok x ∧ lineAlert .evalUsage = .ok y ∧
      (((x.fingerprint = y.fingerprint → SameIssue x y) ∧ (Suppresses x y → SameIssue x y)) ↔
        (pieces bar (loweredParts serverError.finding (lineIssue .nullDereference).finding)
            = pieces bar (loweredParts serverError.finding (lineIssue .evalUsage).finding) →
          Aligned serverError.finding (lineIssue .nullDereference).finding
            serverError.finding (lineIssue .evalUsage).finding)) := by
  obtain ⟨x, hx⟩ := exists_lineAlert .nullDereference
  obtain ⟨y, hy⟩ := exists_lineAlert .evalUsage
  exact ⟨x, y, hx, hy,
    fingerprint_sound_iff hx hy fun _ => lineIssue_text .nullDereference .evalUsage⟩

/-- **Two known issues on one line of a file share a fingerprint**: both are in scope with the
server error, the texts to hash are the same, and a claim for the one suppresses the other. -/
theorem sameLine_same_fingerprint :
    findingsShareScope 300 serverError.finding (lineIssue .nullDereference).finding = true ∧
      findingsShareScope 300 serverError.finding (lineIssue .evalUsage).finding = true ∧
      fingerprintText (alertParts serverError.finding (lineIssue .nullDereference).finding)
        = fingerprintText (alertParts serverError.finding (lineIssue .evalUsage).finding) ∧
      ∃ x y, lineAlert .nullDereference = .ok x ∧ lineAlert .evalUsage = .ok y ∧
        ¬ (x.fingerprint = y.fingerprint → SameIssue x y) ∧
        ¬ (Suppresses x y → SameIssue x y) := by
  obtain ⟨x, hx⟩ := exists_lineAlert .nullDereference
  obtain ⟨y, hy⟩ := exists_lineAlert .evalUsage
  have hxof := newCorrelatedAlert_alertOf hx
  have hyof := newCorrelatedAlert_alertOf hy
  have hdifferent : ¬ SameIssue x y := by
    intro h
    have hissue := hxof.codeIssue ▸ hyof.codeIssue ▸ h.codeIssue
    cases hissue
  have hfingerprint : x.fingerprint = y.fingerprint := by
    rw [Fingerprint.ext_iff, hxof.fingerprint, hyof.fingerprint]
    exact congrArg _ (lineIssue_text .nullDereference .evalUsage)
  refine ⟨by decide +kernel, by decide +kernel, lineIssue_text _ _, x, y, hx, hy, ?_, ?_⟩
  · exact fun h => hdifferent (h hfingerprint)
  · exact fun h => hdifferent (h ((suppresses_iff x y).mpr hfingerprint))

end SameLine

/-! ## A bar in a service -/

section ShiftedBar

attribute [local instance] asciiData sampleDigest

/-- A report on a service and an endpoint. -/
def placedReport (service : PyStr) (endpoint : Option PyStr) : Report where
  source := .api
  type := .http5xx
  severity := .high
  service := service
  system := py "platform"
  title := py "Sample"
  description := py "Sample"
  endpoint := endpoint
  confidence := unitDouble 1
  context := .empty

/-- The finding made of it. -/
def placedFinding (service : PyStr) (endpoint : Option PyStr) : Except PyExc Finding :=
  newFinding sampleApiId sampleClock (placedReport service endpoint).args

/-- The parts of its fingerprint. -/
lemma findingParts_placedFinding {service : PyStr} {endpoint : Option PyStr} {f : Finding}
    (h : placedFinding service endpoint = .ok f) :
    findingParts f = [some service, endpoint, some (py "http_5xx"), none, none] := by
  have hof := newFinding_reportOf h
  have hline : f.line = none := Option.map_eq_none_iff.mp hof.line
  rw [findingParts, alertParts, hof.service, hof.endpoint, hof.type, hof.file, hline]
  rfl

/-- A service with a bar, and an endpoint with one. -/
lemma shiftedBar_text {f g : Finding} (hf : placedFinding (py "auth|api") none = .ok f)
    (hg : placedFinding (py "auth") (some (py "api|")) = .ok g) :
    fingerprintText (findingParts f) = fingerprintText (findingParts g) := by
  rw [findingParts_placedFinding hf, findingParts_placedFinding hg]
  decide +kernel

/-- The factory accepts both. -/
lemma exists_shiftedBar :
    (∃ f, placedFinding (py "auth|api") none = .ok f) ∧
      ∃ g, placedFinding (py "auth") (some (py "api|")) = .ok g := by
  show Returns (placedFinding (py "auth|api") none) ∧
    Returns (placedFinding (py "auth") (some (py "api|")))
  decide +kernel

/-- The condition on two such findings. -/
theorem findingFingerprint_sound_iff_shiftedBar :
    ∃ f g, placedFinding (py "auth|api") none = .ok f ∧
      placedFinding (py "auth") (some (py "api|")) = .ok g ∧
      ((f.fingerprint = g.fingerprint → SamePlace f g) ↔
        (pieces bar (loweredParts f f) = pieces bar (loweredParts g g) →
          barCounts f f = barCounts g g)) := by
  obtain ⟨⟨f, hf⟩, g, hg⟩ := exists_shiftedBar
  exact ⟨f, g, hf, hg, findingFingerprint_sound_iff hf hg fun _ => shiftedBar_text hf hg⟩

/-- **Two services share a fingerprint**: the bar is part of the service in one finding and of the
endpoint in the other. -/
theorem shiftedBar_same_fingerprint :
    ∃ f g, placedFinding (py "auth|api") none = .ok f ∧
      placedFinding (py "auth") (some (py "api|")) = .ok g ∧
      fingerprintText (findingParts f) = fingerprintText (findingParts g) ∧
      ¬ (f.fingerprint = g.fingerprint → SamePlace f g) := by
  obtain ⟨⟨f, hf⟩, g, hg⟩ := exists_shiftedBar
  have htext := shiftedBar_text hf hg
  refine ⟨f, g, hf, hg, htext, fun hsound => ?_⟩
  have hfingerprint : f.fingerprint = g.fingerprint := by
    rw [Fingerprint.ext_iff, newFinding_fingerprint hf, newFinding_fingerprint hg, htext]
  have hservice := (hsound hfingerprint).service
  rw [(newFinding_reportOf hf).service, (newFinding_reportOf hg).service, SameText] at hservice
  exact absurd hservice (by decide +kernel)

end ShiftedBar

end Watchtower
