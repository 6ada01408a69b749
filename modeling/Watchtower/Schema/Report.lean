import Watchtower.Schema.Alert

/-!
# Reports

The watchers call `new_finding` with members of the enumerations and a fixed confidence; what may
still go wrong is in the texts they put together.  A `Report` is such a call.

* `Report.args` — the call's arguments.
* `Report.Fits` — the texts are within the limits of the schema and have an encoding.
* **`newFinding_returns_iff`** — the factory accepts a report exactly when it fits.
* **`newFinding_reportOf`** — what the finding takes over from the report.
-/

namespace Watchtower

open Core Py

/-- A finding about to be created. -/
structure Report where
  source : FindingSource
  type : FindingType
  severity : Severity
  service : PyStr
  system : PyStr
  title : PyStr
  description : PyStr
  endpoint : Option PyStr := none
  file : Option PyStr := none
  line : Option ℤ := none
  confidence : { q : FiniteFloat // 0 ≤ q.val ∧ q.val ≤ 1 }
  context : PyEntries

namespace Report

/-- The arguments of the call. -/
def args (r : Report) : NewFindingArgs where
  source := r.source.value
  type := r.type.value
  severity := r.severity.value
  service := r.service
  system := r.system
  title := r.title
  description := r.description
  endpoint := r.endpoint
  file := r.file
  line := r.line
  confidence := .float (.finite r.confidence.val)
  context := r.context

/-- A text with something other than white space, of at most `maximum` characters. -/
def IsRequired (maximum : ℕ) (s : PyStr) : Prop := strip s ≠ [] ∧ s.length ≤ maximum

/-- What the schema asks of a report. -/
structure Fits (r : Report) : Prop where
  service : IsRequired 200 r.service
  system : IsRequired 200 r.system
  title : IsRequired 500 r.title
  description : IsRequired 4000 r.description
  endpoint : ∀ s, r.endpoint = some s → s.length ≤ 2048
  file : ∀ s, r.file = some s → s.length ≤ 4096
  line : ∀ n, r.line = some n → 1 ≤ n
  service_encodable : encodable r.service = true
  endpoint_encodable : encodable (r.endpoint.getD []) = true
  file_encodable : encodable (r.file.getD []) = true
  context : r.context.serializable = true

end Report

lemma returns_checkLine_iff {o : Option ℤ} :
    Returns (checkLine ((o.map PyTree.int).getD .none)) ↔ ∀ n, o = some n → 1 ≤ n := by
  cases o with
  | none => simp [checkLine]
  | some n =>
      by_cases h : 1 ≤ n
      · simp [checkLine, h]
      · simp [checkLine, h]

lemma encodable_lineText (o : Option ℤ) : encodable ((lineText o).getD []) = true := by
  cases o with
  | none => rfl
  | some n =>
      simp only [lineText]
      split_ifs
      · rfl
      · simp only [Option.getD_some, decimalInt]
        split_ifs
        · exact encodable_decimal _
        · rw [encodable_append, encodable_decimal]
          decide

lemma val_of_checkRequired {name : String} {maximum : ℕ} {s : PyStr} {t : RequiredText maximum}
    (h : checkRequired name maximum (.str s) = .ok t) : t.val = s := by
  simp only [checkRequired] at h
  split_ifs at h
  cases h
  rfl

lemma textOf_of_checkOptional {name : String} {maximum : ℕ} {o : Option PyStr}
    {t : Option (BoundedText maximum)} (h : checkOptional name maximum (optVal o) = .ok t) :
    textOf t = o := by
  cases o with
  | none =>
      cases h
      rfl
  | some s =>
      simp only [optVal, checkOptional] at h
      split_ifs at h
      cases h
      rfl

lemma val_of_checkLine {o : Option ℤ} {t : Option LineNo}
    (h : checkLine ((o.map PyTree.int).getD .none) = .ok t) :
    t.map (fun n => (n.val : ℤ)) = o := by
  cases o with
  | none =>
      cases h
      rfl
  | some n =>
      simp only [Option.map_some, Option.getD_some, checkLine] at h
      split_ifs at h with hpos
      cases h
      rw [Option.map_some, Option.some.injEq]
      exact Int.toNat_of_nonneg (by omega)

variable [UnicodeData]

/-- The type and the line never stand in the way of the encoding. -/
lemma encodable_reportParts (r : Report) :
    encodable (fingerprintText [some r.service, r.endpoint, some r.type.value, r.file,
        lineText r.line]) = true ↔
      encodable r.service = true ∧ encodable (r.endpoint.getD []) = true ∧
        encodable (r.file.getD []) = true := by
  have hlast : encodable (joinChar bar [lower ((lineText r.line).getD [])]) = true := by
    simpa [joinChar, encodable_lower] using encodable_lineText r.line
  simp only [fingerprintText, List.map_cons, List.map_nil, encodable_joinChar_cons,
    Option.getD_some, encodable_lower, FindingType.encodable_value, hlast, Bool.and_eq_true,
    true_and, and_true]

variable [Sha256]

/-- **When the factory accepts a report.**  The clock has to be past the epoch besides. -/
theorem newFinding_returns_iff (id : Uuid) (now : FiniteFloat) (r : Report) :
    Returns (newFinding id now r.args) ↔ r.Fits ∧ 0 < now.val := by
  obtain ⟨conf, hconf⟩ := returns_checkConfidence_iff.mpr r.confidence.property
  have hstatus : FindingStatus.ofVal (.str FindingStatus.open.value) = .ok .open :=
    FindingStatus.ofVal_value .open
  simp only [newFinding, Report.args, Finding.init, returns_bind, checkUuid_val,
    FindingSource.ofVal_value, FindingType.ofVal_value, Severity.fromString_value, hstatus,
    checkSeverity_value, checkFingerprint_val, ok_bind, hconf, checkConfidence_val]
  constructor
  · rintro ⟨fp, hfp, _, -, service, hservice, system, hsystem, title, htitle, description,
      hdescription, endpoint, hendpoint, file, hfile, _, -, _, -, line, hline, time, htime, context,
      hcontext, -⟩
    obtain ⟨hs, he, hf⟩ := (encodable_reportParts r).mp (returns_computeFingerprint_iff.mp ⟨fp, hfp⟩)
    exact
      ⟨{ service := (returns_checkRequired_iff _).mp ⟨service, hservice⟩
         system := (returns_checkRequired_iff _).mp ⟨system, hsystem⟩
         title := (returns_checkRequired_iff _).mp ⟨title, htitle⟩
         description := (returns_checkRequired_iff _).mp ⟨description, hdescription⟩
         endpoint := (returns_checkOptional_iff _).mp ⟨endpoint, hendpoint⟩
         file := (returns_checkOptional_iff _).mp ⟨file, hfile⟩
         line := returns_checkLine_iff.mp ⟨line, hline⟩
         service_encodable := hs
         endpoint_encodable := he
         file_encodable := hf
         context := returns_checkContext_iff.mp ⟨context, hcontext⟩ },
        returns_checkTimestamp_iff.mp ⟨time, htime⟩⟩
  · rintro ⟨h, hnow⟩
    obtain ⟨fp, hfp⟩ := returns_computeFingerprint_iff.mpr
      ((encodable_reportParts r).mpr ⟨h.service_encodable, h.endpoint_encodable, h.file_encodable⟩)
    obtain ⟨service, hservice⟩ := (returns_checkRequired_iff "service").mpr h.service
    obtain ⟨system, hsystem⟩ := (returns_checkRequired_iff "system").mpr h.system
    obtain ⟨title, htitle⟩ := (returns_checkRequired_iff "title").mpr h.title
    obtain ⟨description, hdescription⟩ :=
      (returns_checkRequired_iff "description").mpr h.description
    obtain ⟨endpoint, hendpoint⟩ := (returns_checkOptional_iff "endpoint").mpr h.endpoint
    obtain ⟨file, hfile⟩ := (returns_checkOptional_iff "file").mpr h.file
    obtain ⟨line, hline⟩ := returns_checkLine_iff.mpr h.line
    obtain ⟨time, htime⟩ := returns_checkTimestamp_iff.mpr hnow
    obtain ⟨context, hcontext⟩ := returns_checkContext_iff.mpr h.context
    exact ⟨fp, hfp, (), rfl, service, hservice, system, hsystem, title, htitle, description,
      hdescription, endpoint, hendpoint, file, hfile, none, rfl, none, rfl, line, hline, time, htime,
      context, hcontext, returns_ok _⟩

/-- What a finding takes over from the report it was created from. -/
structure ReportOf (r : Report) (f : Finding) : Prop where
  source : f.source = r.source
  type : f.type = r.type
  service : f.service.val = r.service
  endpoint : textOf f.endpoint = r.endpoint
  file : textOf f.file = r.file
  line : f.line.map (fun n => (n.val : ℤ)) = r.line

/-- **A finding says what was reported.** -/
theorem newFinding_reportOf {id : Uuid} {now : FiniteFloat} {r : Report} {f : Finding}
    (h : newFinding id now r.args = .ok f) : ReportOf r f := by
  simp only [newFinding, Report.args, Finding.init, bind_eq_ok_iff, checkUuid_val,
    FindingSource.ofVal_value, FindingType.ofVal_value, Severity.fromString_value,
    checkSeverity_value, checkFingerprint_val, ok_bind, checkConfidence_val] at h
  obtain ⟨_, -, _, -, _, -, _, -, _, -, service, hservice, _, -, _, -, _, -, endpoint, hendpoint, file,
    hfile, _, -, _, -, line, hline, _, -, _, -, hret⟩ := h
  cases hret
  exact
    { source := rfl
      type := rfl
      service := val_of_checkRequired hservice
      endpoint := textOf_of_checkOptional hendpoint
      file := textOf_of_checkOptional hfile
      line := val_of_checkLine hline }

end Watchtower
