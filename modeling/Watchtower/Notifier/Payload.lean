import Watchtower.Notifier.Sanitize
import Watchtower.Schema.Alert

/-!
# Notification payloads

What is posted to the three channels, and how long its texts are.

* `slackHeader`, `slackFields`, `slackSection`, `slackContext` — the texts of
  `_build_slack_payload`; `buildSlackPayload` puts them together.
* `buildTelegramPayload`, `buildWebhookPayload` — the other two.
* **`texts_bounded_iff`** — `_sanitize` keeps to its bound exactly when it cuts nothing off.  The
  texts of a notification keep to those of the providers, but for the Slack header, which does
  exactly when nothing of it is cut off.
* `cutHeader_too_long` — otherwise it is one character too long.
-/

namespace Watchtower

open Core Py

/-! ## What is shown -/

/-- `_SEV_EMOJI`. -/
def Severity.emoji : Severity → PyStr
  | .critical => py "🔴"
  | .high => py "🟠"
  | .medium => py "🟡"
  | .low => py "🟢"

/-- `_SEV_COLOR_HEX`. -/
def Severity.colorHex : Severity → PyStr
  | .critical => py "#FF1744"
  | .high => py "#FF6D00"
  | .medium => py "#FFAB00"
  | .low => py "#00E676"

/-- `table.get(severity, default)`, for a table whose keys are the values of the severities. -/
def bySeverity (table : Severity → PyStr) (default severity : PyStr) : PyStr :=
  match Severity.members.find? fun s => s.value == severity with
  | some s => table s
  | none => default

/-- `confidence * 100`, a float product unless the confidence is an integer. -/
def percentage (confidence : Confidence) : ℚ :=
  match confidence.val with
  | .int n => n * 100
  | .float q => roundDouble (q.val * 100)

lemma percentage_bounds (confidence : Confidence) :
    0 ≤ percentage confidence ∧ percentage confidence ≤ 100 := by
  obtain ⟨x, hlow, hhigh⟩ := confidence
  cases x with
  | int n =>
      rw [PyNum.value_int] at hlow hhigh
      exact ⟨mul_nonneg hlow (by norm_num), by simp only [percentage]; linarith⟩
  | float q =>
      rw [PyNum.value_float] at hlow hhigh
      have hnonneg : 0 ≤ q.val * 100 := by linarith
      exact ⟨roundDouble_nonneg hnonneg, roundDouble_le_hundred hnonneg (by linarith)⟩

lemma abs_percentage_le (confidence : Confidence) : |percentage confidence| ≤ maxFloat := by
  obtain ⟨hlow, hhigh⟩ := percentage_bounds confidence
  have hmax : 100 ≤ maxFloat := by decide +kernel
  rw [abs_of_nonneg hlow]
  exact hhigh.trans (by exact_mod_cast hmax)

/-- `f"{confidence * 100:.0f}%"`. -/
def confidenceText (confidence : Confidence) : PyStr :=
  fixed0 (.finite ⟨percentage confidence, abs_percentage_le confidence⟩) ++ py "%"

/-- An optional text as an argument of `_sanitize`. -/
def SanitizeArg.ofText {maximum : ℕ} : Option (NonemptyText maximum) → SanitizeArg
  | .none => .none
  | some s => .text s.val

/-- A line number as an argument of `_sanitize`. -/
def SanitizeArg.ofLine : Option LineNo → SanitizeArg
  | .none => .none
  | some n => .object (decimal n.val)

/-- A list of values. -/
def listVal : List PyVal → PyTree .items
  | [] => .nil
  | v :: vs => .cons v (listVal vs)

/-- `_plain`. -/
def plain (text : PyStr) : PyVal :=
  .dict (PyTree.entries [(py "type", .str (py "plain_text")), (py "text", .str text)])

section Payloads

variable [UnicodeData] [WordData]

/-! ## Slack -/

/-- The text of the header, as it is handed to `_sanitize`. -/
def slackTitle (alert : CorrelatedAlert) : PyStr :=
  bySeverity Severity.emoji (py "⚪") alert.severity.val ++ py " Security alert: "
    ++ alert.severity.val ++ py " — " ++ alert.service.val

def slackHeader (alert : CorrelatedAlert) : PyStr := sanitize (.text (slackTitle alert)) 150

/-- The labels of the fields and their values. -/
def slackFieldValues (alert : CorrelatedAlert) : List (PyStr × SanitizeArg) :=
  [(py "System", .text alert.system.val),
    (py "Service", .text alert.service.val),
    (py "Endpoint", .ofText alert.endpoint),
    (py "Confidence", .text (confidenceText alert.confidence)),
    (py "API error", .text alert.apiError.value),
    (py "Code issue", .text alert.codeIssue.value),
    (py "File", .ofText alert.file),
    (py "Line", .ofLine alert.line)]

def slackFields (alert : CorrelatedAlert) : List PyStr :=
  (slackFieldValues alert).map fun field => field.1 ++ py ": " ++ sanitize field.2 250

def slackSection (alert : CorrelatedAlert) : PyStr :=
  py "Root cause: " ++ sanitize (.text alert.rootCause.val) 1000 ++ py "\n"
    ++ py "Recommended fix: " ++ sanitize (.text alert.recommendedFix.val) 1000

def slackContext (alert : CorrelatedAlert) : PyStr :=
  py "Alert " ++ sanitize (.text (alert.id.val.take 8)) 16
    ++ py " | Fingerprint " ++ sanitize (.text (alert.fingerprint.val.take 12)) 16
    ++ py " | Trace " ++ sanitize (.ofText alert.traceId) 128

/-- `_build_slack_payload`. -/
def buildSlackPayload (alert : CorrelatedAlert) : PyVal :=
  let blocks := listVal
    [.dict (PyTree.entries
      [(py "type", .str (py "header")), (py "text", plain (slackHeader alert))]),
    .dict (PyTree.entries
      [(py "type", .str (py "section")),
        (py "fields", .list (listVal ((slackFields alert).map plain)))]),
    .dict (PyTree.entries
      [(py "type", .str (py "section")), (py "text", plain (slackSection alert))]),
    .dict (PyTree.entries
      [(py "type", .str (py "context")),
        (py "elements", .list (listVal [plain (slackContext alert)]))])]
  let attachment := PyTree.entries
    [(py "color", .str (bySeverity Severity.colorHex (py "#888888") alert.severity.val)),
      (py "blocks", .list blocks)]
  .dict (PyTree.entries [(py "attachments", .list (listVal [.dict attachment]))])

/-! ## Telegram -/

/-- The lines of the text, with the default bound of `_sanitize` where none is given. -/
def telegramLines (alert : CorrelatedAlert) : List PyStr :=
  [sanitize (.text (bySeverity Severity.emoji (py "⚪") alert.severity.val
      ++ py " SECURITY ALERT — " ++ alert.severity.val)) 100,
    [],
    py "Service: " ++ sanitize (.text alert.service.val) 300,
    py "System: " ++ sanitize (.text alert.system.val) 300,
    py "Endpoint: " ++ sanitize (.ofText alert.endpoint) 300,
    py "Confidence: " ++ confidenceText alert.confidence,
    py "API error: " ++ sanitize (.text alert.apiError.value) 300,
    py "Code issue: " ++ sanitize (.text alert.codeIssue.value) 300,
    py "File: " ++ sanitize (.ofText alert.file) 300 ++ py ":" ++ sanitize (.ofLine alert.line) 20,
    [],
    py "Root cause: " ++ sanitize (.text alert.rootCause.val) 500,
    py "Fix: " ++ sanitize (.text alert.recommendedFix.val) 500,
    py "ID: " ++ sanitize (.text (alert.id.val.take 8)) 16]

def telegramText (alert : CorrelatedAlert) : PyStr :=
  (py "\n").intercalate (telegramLines alert)

/-- `_build_telegram_payload`. -/
def buildTelegramPayload (alert : CorrelatedAlert) (chatId : PyStr) : PyVal :=
  .dict (PyTree.entries [(py "chat_id", .str chatId), (py "text", .str (telegramText alert))])

/-! ## Webhook -/

/-- `_sanitize(text, max_len) if text is not None else None`. -/
def sanitizeOptional {maximum : ℕ} (text : Option (NonemptyText maximum)) (maxLen : ℕ) : PyVal :=
  optVal (text.map fun s => sanitize (.text s.val) maxLen)

/-- `_build_webhook_payload`. -/
def buildWebhookPayload (alert : CorrelatedAlert) : PyVal :=
  .dict (PyTree.entries
    [(py "alert_id", .str alert.id.val),
      (py "fingerprint", .str alert.fingerprint.val),
      (py "severity", .str alert.severity.val),
      (py "confidence", numVal alert.confidence.val),
      (py "service", .str (sanitize (.text alert.service.val) 200)),
      (py "system", .str (sanitize (.text alert.system.val) 200)),
      (py "endpoint", sanitizeOptional alert.endpoint 2048),
      (py "api_error", .str alert.apiError.value),
      (py "code_issue", .str alert.codeIssue.value),
      (py "file", sanitizeOptional alert.file 4096),
      (py "line", lineVal alert.line),
      (py "root_cause", .str (sanitize (.text alert.rootCause.val) 4000)),
      (py "recommended_fix", .str (sanitize (.text alert.recommendedFix.val) 4000)),
      (py "trace_id", sanitizeOptional alert.traceId 256),
      (py "timestamp", numVal alert.timestamp.val),
      (py "source", .str (py "security-watchtower-v3.0.0"))])

/-! ## Lengths -/

omit [UnicodeData] in
/-- `_sanitize` has no need to cut: there is no text and the placeholder fits, or what is left of
the text fits. -/
def Uncut (value : SanitizeArg) (maxLen : ℕ) : Prop :=
  match value with
  | .none => (py "N/A").length ≤ maxLen
  | .text [] => (py "N/A").length ≤ maxLen
  | .text s => (normalize s).length ≤ maxLen
  | .object s => (normalize s).length ≤ maxLen

omit [UnicodeData] [WordData] in
/-- The ellipsis comes on top of the bound. -/
lemma length_cut (maxLen : ℕ) (text : PyStr) :
    (cut maxLen text).length = if maxLen < text.length then maxLen + 1 else text.length := by
  have hellipsis : (py "…").length = 1 := by decide
  unfold cut
  split_ifs with h
  · rw [List.length_append, List.length_take, hellipsis]
    omega
  · rw [List.append_nil, List.length_take]
    omega

omit [UnicodeData] [WordData] in
lemma length_cut_le_iff (maxLen : ℕ) (text : PyStr) :
    (cut maxLen text).length ≤ maxLen ↔ text.length ≤ maxLen := by
  rw [length_cut]
  split_ifs with h <;> omega

omit [UnicodeData] in
lemma length_sanitize_le_iff (value : SanitizeArg) (maxLen : ℕ) :
    (sanitize value maxLen).length ≤ maxLen ↔ Uncut value maxLen := by
  match value with
  | .none => rfl
  | .text [] => rfl
  | .text (c :: s) => exact length_cut_le_iff maxLen (normalize (c :: s))
  | .object s => exact length_cut_le_iff maxLen (normalize s)

omit [UnicodeData] in
/-- Whatever is cut off, the bound is exceeded by no more than the ellipsis. -/
lemma length_sanitize_le (value : SanitizeArg) {maxLen : ℕ} (h : 3 ≤ maxLen) :
    (sanitize value maxLen).length ≤ maxLen + 1 := by
  have hcut : ∀ text, (cut maxLen text).length ≤ maxLen + 1 := by
    intro text
    rw [length_cut]
    split_ifs <;> omega
  have hplaceholder : (py "N/A").length ≤ maxLen + 1 := by
    have hlen : (py "N/A").length = 3 := by decide
    omega
  match value with
  | .none => exact hplaceholder
  | .text [] => exact hplaceholder
  | .text (c :: s) => exact hcut _
  | .object s => exact hcut _

omit [UnicodeData] [WordData] in
lemma length_confidenceText_le (confidence : Confidence) :
    (confidenceText confidence).length ≤ maxFloatDigits + 2 := by
  have hpercent : (py "%").length = 1 := by decide
  have hnumber :=
    length_fixed0_le (.finite ⟨percentage confidence, abs_percentage_le confidence⟩)
  rw [confidenceText, List.length_append, hpercent]
  omega

lemma length_slackField_le (alert : CorrelatedAlert) {text : PyStr}
    (h : text ∈ slackFields alert) : text.length ≤ 2000 := by
  have hlabels : ∀ label ∈ [py "System", py "Service", py "Endpoint", py "Confidence",
      py "API error", py "Code issue", py "File", py "Line"], label.length ≤ 10 := by decide
  obtain ⟨field, hfield, rfl⟩ := List.mem_map.mp h
  have hlabel : field.1.length ≤ 10 := hlabels field.1 (List.mem_map_of_mem (f := Prod.fst) hfield)
  have hvalue := length_sanitize_le field.2 (show 3 ≤ 250 by omega)
  have hcolon : (py ": ").length = 2 := by decide
  rw [List.length_append, List.length_append, hcolon]
  omega

lemma length_slackSection_le (alert : CorrelatedAlert) : (slackSection alert).length ≤ 3000 := by
  have hroot := length_sanitize_le (.text alert.rootCause.val) (show 3 ≤ 1000 by omega)
  have hfix := length_sanitize_le (.text alert.recommendedFix.val) (show 3 ≤ 1000 by omega)
  have hlabels : (py "Root cause: ").length + (py "\n").length + (py "Recommended fix: ").length
      = 30 := by decide
  simp only [slackSection, List.length_append]
  omega

omit [UnicodeData] in
/-- A label in front of a sanitized value. -/
lemma length_labelled_le {label : PyStr} (value : SanitizeArg) {maxLen bound : ℕ}
    (h : 3 ≤ maxLen) (hbound : label.length + maxLen + 1 ≤ bound) :
    (label ++ sanitize value maxLen).length ≤ bound := by
  have hvalue := length_sanitize_le value h
  rw [List.length_append]
  omega

omit [UnicodeData] [WordData] in
/-- The length of joined lines, with one character between two of them. -/
lemma length_joinLines_le {lines : List PyStr} {bounds : List ℕ}
    (h : List.Forall₂ (fun line bound => line.length ≤ bound) lines bounds) :
    ((py "\n").intercalate lines).length ≤ (bounds.map fun bound => bound + 1).sum := by
  have hnewline : (py "\n").length = 1 := by decide
  induction h with
  | nil => exact Nat.le_refl 0
  | @cons line bound lines bounds hline hlines ih =>
      rw [List.map_cons, List.sum_cons]
      cases lines with
      | nil =>
          rw [List.intercalate_singleton]
          omega
      | cons next lines =>
          rw [List.intercalate_cons_cons, List.length_append, List.length_append, hnewline]
          omega

lemma length_telegramText_le (alert : CorrelatedAlert) : (telegramText alert).length ≤ 4096 := by
  have hconfidence : (py "Confidence: " ++ confidenceText alert.confidence).length ≤ 323 := by
    have hlabel : (py "Confidence: ").length = 12 := by decide
    have hdigits : maxFloatDigits = 309 := rfl
    have hnumber := length_confidenceText_le alert.confidence
    rw [List.length_append]
    omega
  have hfile : (py "File: " ++ sanitize (.ofText alert.file) 300 ++ py ":"
      ++ sanitize (.ofLine alert.line) 20).length ≤ 329 := by
    have hprefix : (py "File: " ++ sanitize (.ofText alert.file) 300 ++ py ":").length ≤ 308 := by
      have hcolon : (py ":").length = 1 := by decide
      have hname : (py "File: " ++ sanitize (.ofText alert.file) 300).length ≤ 307 :=
        length_labelled_le _ (by decide) (by decide)
      rw [List.length_append]
      omega
    exact length_labelled_le _ (by decide) (by omega)
  have hlines : List.Forall₂ (fun line bound => line.length ≤ bound) (telegramLines alert)
      [101, 0, 310, 309, 311, 323, 312, 313, 329, 0, 513, 506, 21] :=
    .cons (length_sanitize_le _ (by decide)) <|
    .cons (Nat.le_refl 0) <|
    .cons (length_labelled_le _ (by decide) (by decide)) <|
    .cons (length_labelled_le _ (by decide) (by decide)) <|
    .cons (length_labelled_le _ (by decide) (by decide)) <|
    .cons hconfidence <|
    .cons (length_labelled_le _ (by decide) (by decide)) <|
    .cons (length_labelled_le _ (by decide) (by decide)) <|
    .cons hfile <|
    .cons (Nat.le_refl 0) <|
    .cons (length_labelled_le _ (by decide) (by decide)) <|
    .cons (length_labelled_le _ (by decide) (by decide)) <|
    .cons (length_labelled_le _ (by decide) (by decide)) .nil
  exact (length_joinLines_le hlines).trans (by decide)

/-! ## The bounds -/

/-- **When the bounds are kept.**  `_sanitize` keeps to its bound exactly when it has no need to
cut, and so does the header.  The other texts have room for an ellipsis too many. -/
theorem texts_bounded_iff :
    (∀ value maxLen, (sanitize value maxLen).length ≤ maxLen ↔ Uncut value maxLen) ∧
      ∀ alert : CorrelatedAlert,
        ((slackHeader alert).length ≤ 150 ↔ Uncut (.text (slackTitle alert)) 150) ∧
          (∀ text ∈ slackFields alert, text.length ≤ 2000) ∧
          (slackSection alert).length ≤ 3000 ∧ (telegramText alert).length ≤ 4096 := by
  refine ⟨length_sanitize_le_iff, fun alert => ⟨length_sanitize_le_iff _ _, ?_, ?_, ?_⟩⟩
  · exact fun text htext => length_slackField_le alert htext
  · exact length_slackSection_le alert
  · exact length_telegramText_le alert

end Payloads

/-! ## A header that is cut -/

section Sample

attribute [local instance] asciiData latinWords

/-- An alert about a service with a long name. -/
def longNameAlert : CorrelatedAlert where
  id := ⟨py "5d2c7f10-6a3b-4c8e-9f01-23456789abcd", by decide +kernel⟩
  service := ⟨py "billing gateway for recurring payments of business customers in the northern "
    ++ py "region, second instance behind the regional proxy", by decide +kernel, by decide +kernel⟩
  system := ⟨py "payments", by decide +kernel, by decide⟩
  endpoint := none
  apiFindingId := ⟨py "6e3d8021-7b4c-4d9f-8a12-3456789abcde", by decide +kernel⟩
  codeFindingId := ⟨py "7f4e9132-8c5d-4ea0-9b23-456789abcdef", by decide +kernel⟩
  apiError := .http5xx
  codeIssue := .nullDereference
  file := none
  line := none
  severity := ⟨Severity.critical.value, .critical, Severity.fromString_value .critical⟩
  confidence := fullConfidence
  rootCause := ⟨py "A null dereference", by decide +kernel, by decide⟩
  recommendedFix := ⟨py "Check the pointer", by decide +kernel, by decide⟩
  timestamp := sampleTimestamp
  fingerprint := ⟨py "0123456789abcdef0123456789abcdef", by decide +kernel⟩
  traceId := none
  context := noContext

/-- Text of four characters becomes one of four where three are allowed, and a long name makes a
header that is one character too long. -/
theorem cutHeader_too_long :
    (sanitize (.text (py "abcd")) 3 = py "abc…" ∧
        ¬ ∀ value maxLen, 3 ≤ maxLen → (sanitize value maxLen).length ≤ maxLen) ∧
      (slackHeader longNameAlert).length = 151 := by
  have hcut : sanitize (.text (py "abcd")) 3 = py "abc…" := by decide +kernel
  have hlen : (py "abc…").length = 4 := by decide
  refine ⟨⟨hcut, fun h => ?_⟩, by decide +kernel⟩
  have hle := h (.text (py "abcd")) 3 le_rfl
  rw [hcut, hlen] at hle
  omega

end Sample

end Watchtower
