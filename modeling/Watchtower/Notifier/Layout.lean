import Watchtower.Notifier.Clean
import Watchtower.Notifier.Payload
import Watchtower.Python.IpAddress

/-!
# The lines of a notification

The Telegram text and the section of the Slack message are lines joined by line breaks, with values
from outside in them.  `_sanitize` lets no line break through, so a value stays in its line.

* `newline_not_mem_sanitize` — sanitized text is one line.
* `SameTelegram` — two alerts are shown alike.
* **`notification_lines`** — the texts are cut back into exactly the lines they were made of, and the
  Telegram text tells everything that was put into it.
-/

namespace Watchtower

open Core Py

def newline : PyChar := 10

section Layout

variable [UnicodeData] [WordData]

/-! ## One line -/

omit [UnicodeData] [WordData] in
lemma mem_cut {maxLen : ℕ} {text : PyStr} {c : PyChar} (h : c ∈ cut maxLen text) :
    c ∈ text ∨ c ∈ py "…" := by
  rw [cut, List.mem_append] at h
  refine h.imp List.mem_of_mem_take fun hc => ?_
  split_ifs at hc with hlong
  · exact hc
  · cases hc

omit [UnicodeData] in
/-- Sanitized text is made of the placeholder, the ellipsis, and what normalization leaves. -/
lemma mem_sanitize {value : SanitizeArg} {maxLen : ℕ} {c : PyChar} (h : c ∈ sanitize value maxLen) :
    c ∈ py "N/A" ∨ c ∈ py "…" ∨
      ∃ s, (value = .text s ∨ value = .object s) ∧ c ∈ normalize s := by
  match value with
  | .none => exact Or.inl h
  | .text [] => exact Or.inl h
  | .text (d :: s) => exact Or.inr ((mem_cut h).symm.imp_right fun hc => ⟨_, Or.inl rfl, hc⟩)
  | .object s => exact Or.inr ((mem_cut h).symm.imp_right fun hc => ⟨_, Or.inr rfl, hc⟩)

omit [UnicodeData] in
/-- **Sanitized text is one line.** -/
lemma newline_not_mem_sanitize (value : SanitizeArg) (maxLen : ℕ) :
    newline ∉ sanitize value maxLen := by
  intro h
  rcases mem_sanitize h with h | h | ⟨s, -, h⟩
  · exact absurd h (by decide)
  · exact absurd h (by decide)
  · rcases (tidy_foldSpace _).mem h with h | h
    · exact absurd h (by decide)
    · exact absurd h (by decide)

omit [UnicodeData] [WordData] in
lemma newline_not_mem_decimal (n : ℕ) : newline ∉ decimal n :=
  fun h => absurd (isDigit_of_mem_decimal h) (by decide)

omit [UnicodeData] [WordData] in
lemma newline_not_mem_confidenceText (confidence : Confidence) :
    newline ∉ confidenceText confidence := by
  have hpercent : newline ∉ py "%" := by decide
  have hminus : newline ∉ py "-" := by decide
  simp only [confidenceText, fixed0]
  split_ifs <;> simp [hpercent, hminus, newline_not_mem_decimal]

/-! ## Telegram -/

/-- What the lines of the Telegram text show of two alerts is the same. -/
structure SameTelegram (a b : CorrelatedAlert) : Prop where
  headline : (telegramLines a).head? = (telegramLines b).head?
  service : sanitize (.text a.service.val) 300 = sanitize (.text b.service.val) 300
  system : sanitize (.text a.system.val) 300 = sanitize (.text b.system.val) 300
  endpoint : sanitize (.ofText a.endpoint) 300 = sanitize (.ofText b.endpoint) 300
  confidence : confidenceText a.confidence = confidenceText b.confidence
  apiError : sanitize (.text a.apiError.value) 300 = sanitize (.text b.apiError.value) 300
  codeIssue : sanitize (.text a.codeIssue.value) 300 = sanitize (.text b.codeIssue.value) 300
  file : sanitize (.ofText a.file) 300 = sanitize (.ofText b.file) 300
  line : sanitize (.ofLine a.line) 20 = sanitize (.ofLine b.line) 20
  rootCause : sanitize (.text a.rootCause.val) 500 = sanitize (.text b.rootCause.val) 500
  fix : sanitize (.text a.recommendedFix.val) 500 = sanitize (.text b.recommendedFix.val) 500
  id : sanitize (.text (a.id.val.take 8)) 16 = sanitize (.text (b.id.val.take 8)) 16

omit [UnicodeData] in
/-- A label and a value make one line. -/
lemma newline_not_mem_labelled {label : PyStr} (h : newline ∉ label) (value : SanitizeArg)
    (maxLen : ℕ) : newline ∉ label ++ sanitize value maxLen := by
  rw [List.mem_append, not_or]
  exact ⟨h, newline_not_mem_sanitize value maxLen⟩

lemma newline_not_mem_telegramLines (alert : CorrelatedAlert) :
    ∀ line ∈ telegramLines alert, newline ∉ line := by
  have hfile : newline ∉ py "File: " ++ sanitize (.ofText alert.file) 300 ++ py ":" := by
    rw [List.mem_append, not_or]
    exact ⟨newline_not_mem_labelled (by decide) _ _, by decide⟩
  have hconfidence : newline ∉ py "Confidence: " ++ confidenceText alert.confidence := by
    rw [List.mem_append, not_or]
    exact ⟨by decide, newline_not_mem_confidenceText _⟩
  simp only [telegramLines, List.forall_mem_cons, List.not_mem_nil, false_implies, implies_true,
    not_false_eq_true, true_and, and_true]
  exact ⟨newline_not_mem_sanitize _ _, newline_not_mem_labelled (by decide) _ _,
    newline_not_mem_labelled (by decide) _ _, newline_not_mem_labelled (by decide) _ _, hconfidence,
    newline_not_mem_labelled (by decide) _ _, newline_not_mem_labelled (by decide) _ _,
    newline_not_mem_labelled hfile _ _, newline_not_mem_labelled (by decide) _ _,
    newline_not_mem_labelled (by decide) _ _, newline_not_mem_labelled (by decide) _ _⟩

/-- The Telegram text is cut back into its lines. -/
lemma splitOn_telegramText (alert : CorrelatedAlert) :
    (telegramText alert).splitOn newline = telegramLines alert :=
  List.splitOn_intercalate newline (newline_not_mem_telegramLines alert) (by simp [telegramLines])

omit [UnicodeData] in
/-- A line number has no colon in it. -/
lemma colon_not_mem_line (line : Option LineNo) (maxLen : ℕ) :
    colon ∉ sanitize (.ofLine line) maxLen := by
  intro h
  rcases mem_sanitize h with h | h | ⟨s, hs, h⟩
  · exact absurd h (by decide)
  · exact absurd h (by decide)
  · cases line with
    | none => simp [SanitizeArg.ofLine] at hs
    | some n =>
        have hs' : s = decimal n.val := by simpa [SanitizeArg.ofLine, eq_comm] using hs
        subst hs'
        rcases mem_foldSpace h with h | h
        · exact absurd h (by decide)
        · rcases mem_redact h with h | h
          · exact absurd h (by decide)
          · exact absurd (isDigit_of_mem_decimal (List.mem_of_mem_filter h)) (by decide)

omit [UnicodeData] [WordData] in
/-- The last occurrence of a separator cuts a text in one way only. -/
lemma append_cons_inj {c : PyChar} {x x' y y' : PyStr} (h : x ++ c :: y = x' ++ c :: y')
    (hy : c ∉ y) (hy' : c ∉ y') : x = x' ∧ y = y' := by
  rcases List.append_eq_append_iff.mp h with ⟨l, rfl, hl⟩ | ⟨l, rfl, hl⟩
  · cases l with
    | nil => simpa using hl
    | cons d l =>
        obtain ⟨rfl, rfl⟩ := List.cons.inj hl
        exact absurd (List.mem_append_right l List.mem_cons_self) hy
  · cases l with
    | nil => simpa [eq_comm] using hl
    | cons d l =>
        obtain ⟨rfl, rfl⟩ := List.cons.inj hl
        exact absurd (List.mem_append_right l List.mem_cons_self) hy'

/-- Equal lines show equal values. -/
lemma sameTelegram_of_lines {a b : CorrelatedAlert} (h : telegramLines a = telegramLines b) :
    SameTelegram a b := by
  have hhead := congrArg List.head? h
  simp only [telegramLines, List.cons.injEq, List.append_cancel_left_eq, true_and, and_true] at h
  obtain ⟨-, hservice, hsystem, hendpoint, hconfidence, hapi, hcode, hfile, hroot, hfix, hid⟩ := h
  have hsep : py ":" = [colon] := rfl
  simp only [List.append_assoc, List.append_cancel_left_eq, hsep, List.singleton_append] at hfile
  obtain ⟨hfile, hline⟩ := append_cons_inj hfile (colon_not_mem_line _ _) (colon_not_mem_line _ _)
  exact
    { headline := hhead, service := hservice, system := hsystem, endpoint := hendpoint,
      confidence := hconfidence, apiError := hapi, codeIssue := hcode, file := hfile, line := hline,
      rootCause := hroot, fix := hfix, id := hid }

lemma telegramLines_of_same {a b : CorrelatedAlert} (h : SameTelegram a b) :
    telegramLines a = telegramLines b := by
  have hhead := h.headline
  simp only [telegramLines, List.head?_cons, Option.some.injEq] at hhead ⊢
  rw [hhead, h.service, h.system, h.endpoint, h.confidence, h.apiError, h.codeIssue, h.file, h.line,
    h.rootCause, h.fix, h.id]

/-! ## Slack -/

lemma newline_not_mem_slackContext (alert : CorrelatedAlert) : newline ∉ slackContext alert := by
  have happend : ∀ {before label : PyStr}, newline ∉ before → newline ∉ label →
      newline ∉ before ++ label := fun hbefore hlabel hmem =>
    (List.mem_append.mp hmem).elim hbefore hlabel
  exact newline_not_mem_labelled (happend (newline_not_mem_labelled (happend
    (newline_not_mem_labelled (by decide) _ _) (by decide)) _ _) (by decide)) _ _

/-! ## The layout -/

/-- **Values stay in their lines.**  The Telegram text and the section of the Slack message are cut
back into the lines they were made of, the other texts of the Slack message are single lines, and two
alerts have the same Telegram text exactly when it shows the same of both. -/
theorem notification_lines :
    (∀ alert : CorrelatedAlert,
      (telegramText alert).splitOn newline = telegramLines alert ∧
      (slackSection alert).splitOn newline
        = [py "Root cause: " ++ sanitize (.text alert.rootCause.val) 1000,
            py "Recommended fix: " ++ sanitize (.text alert.recommendedFix.val) 1000] ∧
      ∀ text ∈ slackHeader alert :: slackContext alert :: slackFields alert, newline ∉ text) ∧
      ∀ a b : CorrelatedAlert, telegramText a = telegramText b ↔ SameTelegram a b := by
  refine ⟨fun alert => ⟨splitOn_telegramText alert, ?_, ?_⟩, fun a b => ⟨fun h => ?_, fun h => ?_⟩⟩
  · have hsection : slackSection alert = (py "\n").intercalate
        [py "Root cause: " ++ sanitize (.text alert.rootCause.val) 1000,
          py "Recommended fix: " ++ sanitize (.text alert.recommendedFix.val) 1000] := by
      simp [slackSection]
    rw [hsection]
    refine List.splitOn_intercalate newline ?_ (by simp)
    simp only [List.forall_mem_cons, List.not_mem_nil, false_implies, implies_true, and_true]
    exact ⟨newline_not_mem_labelled (by decide) _ _, newline_not_mem_labelled (by decide) _ _⟩
  · simp only [List.forall_mem_cons]
    refine ⟨newline_not_mem_sanitize _ _, newline_not_mem_slackContext alert, fun text htext => ?_⟩
    obtain ⟨field, hfield, rfl⟩ := List.mem_map.mp htext
    have hlabels : ∀ label ∈ [py "System", py "Service", py "Endpoint", py "Confidence",
        py "API error", py "Code issue", py "File", py "Line"], newline ∉ label := by decide
    refine newline_not_mem_labelled ?_ _ _
    rw [List.mem_append, not_or]
    exact ⟨hlabels field.1 (List.mem_map_of_mem (f := Prod.fst) hfield), by decide⟩
  · exact sameTelegram_of_lines (by rw [← splitOn_telegramText a, h, splitOn_telegramText b])
  · rw [telegramText, telegramLines_of_same h, telegramText]

end Layout

end Watchtower
