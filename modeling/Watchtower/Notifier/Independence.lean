import Watchtower.Notifier.Authorization
import Watchtower.Notifier.Tidy

/-!
# Notifications and credentials

Whether the notifications about two alerts that differ in the token of an `Authorization` header are
the same.

* `FreeText`, `CorrelatedAlert.put` — the free texts of an alert.
* `Header.Independent` — the notifications do not depend on the token.
* **`independent_iff_read`** — they do not when the header is read; when it is not they do, unless
  the token may be behind the cut, or runs on into the text behind it.
* `basicToken_shown` — a header for `Basic`.
-/

namespace Watchtower

open Core Core.Regex Py

/-! ## Free texts -/

/-- The fields of an alert that hold free text. -/
inductive FreeText
  | rootCause
  | recommendedFix
  | endpoint
  | file
  | traceId

/-- How long the text may be, which is also how much of it the webhook is given. -/
def FreeText.maximum : FreeText → ℕ
  | rootCause => 4000
  | recommendedFix => 4000
  | endpoint => 2048
  | file => 4096
  | traceId => 256

/-- A text that is not blank is not empty. -/
def RequiredText.nonempty {maximum : ℕ} (text : RequiredText maximum) : NonemptyText maximum :=
  ⟨text.val, fun hnil => text.not_blank (by rw [hnil]; rfl), text.length_le⟩

section Notifications

variable [UnicodeData] [WordData]

omit [WordData] in
/-- The alert with another text in the field. -/
def CorrelatedAlert.put (alert : CorrelatedAlert) :
    (field : FreeText) → RequiredText field.maximum → CorrelatedAlert
  | .rootCause, text => { alert with rootCause := text }
  | .recommendedFix, text => { alert with recommendedFix := text }
  | .endpoint, text => { alert with endpoint := some (@RequiredText.nonempty 2048 text) }
  | .file, text => { alert with file := some (@RequiredText.nonempty 4096 text) }
  | .traceId, text => { alert with traceId := some (@RequiredText.nonempty 256 text) }

/-- Nothing that is posted tells the two alerts apart. -/
structure SameNotifications (a b : CorrelatedAlert) : Prop where
  slack : buildSlackPayload a = buildSlackPayload b
  telegram : ∀ chatId, buildTelegramPayload a chatId = buildTelegramPayload b chatId
  webhook : buildWebhookPayload a = buildWebhookPayload b

/-- What is posted depends on a free text through `_sanitize`. -/
lemma sameNotifications_of_sanitize (alert : CorrelatedAlert) {field : FreeText}
    {s s' : RequiredText field.maximum}
    (h : ∀ n, sanitize (.text s.val) n = sanitize (.text s'.val) n) :
    SameNotifications (alert.put field s) (alert.put field s') := by
  cases field with
  | rootCause =>
      refine ⟨?_, fun chatId => ?_, ?_⟩
      · simp only [buildSlackPayload, slackHeader, slackTitle, slackFields, slackFieldValues,
          slackSection, slackContext, CorrelatedAlert.put, h]
      · simp only [buildTelegramPayload, telegramText, telegramLines, CorrelatedAlert.put, h]
      · simp only [buildWebhookPayload, CorrelatedAlert.put, h]
  | recommendedFix =>
      refine ⟨?_, fun chatId => ?_, ?_⟩
      · simp only [buildSlackPayload, slackHeader, slackTitle, slackFields, slackFieldValues,
          slackSection, slackContext, CorrelatedAlert.put, h]
      · simp only [buildTelegramPayload, telegramText, telegramLines, CorrelatedAlert.put, h]
      · simp only [buildWebhookPayload, CorrelatedAlert.put, h]
  | endpoint =>
      refine ⟨?_, fun chatId => ?_, ?_⟩
      · simp only [buildSlackPayload, slackHeader, slackTitle, slackFields, slackFieldValues,
          slackSection, slackContext, CorrelatedAlert.put, SanitizeArg.ofText,
          RequiredText.nonempty, List.map_cons, List.map_nil, h]
      · simp only [buildTelegramPayload, telegramText, telegramLines, CorrelatedAlert.put,
          SanitizeArg.ofText, RequiredText.nonempty, h]
      · simp only [buildWebhookPayload, sanitizeOptional, CorrelatedAlert.put,
          RequiredText.nonempty, Option.map_some, h]
  | file =>
      refine ⟨?_, fun chatId => ?_, ?_⟩
      · simp only [buildSlackPayload, slackHeader, slackTitle, slackFields, slackFieldValues,
          slackSection, slackContext, CorrelatedAlert.put, SanitizeArg.ofText,
          RequiredText.nonempty, List.map_cons, List.map_nil, h]
      · simp only [buildTelegramPayload, telegramText, telegramLines, CorrelatedAlert.put,
          SanitizeArg.ofText, RequiredText.nonempty, h]
      · simp only [buildWebhookPayload, sanitizeOptional, CorrelatedAlert.put,
          RequiredText.nonempty, Option.map_some, h]
  | traceId =>
      refine ⟨?_, fun chatId => ?_, ?_⟩
      · simp only [buildSlackPayload, slackHeader, slackTitle, slackFields, slackFieldValues,
          slackSection, slackContext, CorrelatedAlert.put, SanitizeArg.ofText,
          RequiredText.nonempty, h]
      · simp only [buildTelegramPayload, telegramText, telegramLines, CorrelatedAlert.put]
      · simp only [buildWebhookPayload, sanitizeOptional, CorrelatedAlert.put,
          RequiredText.nonempty, Option.map_some, h]

/-- The webhook is given all that the bound of the field leaves of the text. -/
lemma sanitize_eq_of_webhook {alert : CorrelatedAlert} {field : FreeText}
    {s s' : RequiredText field.maximum}
    (h : buildWebhookPayload (alert.put field s) = buildWebhookPayload (alert.put field s')) :
    sanitize (.text s.val) field.maximum = sanitize (.text s'.val) field.maximum := by
  cases field with
  | rootCause =>
      simpa [buildWebhookPayload, CorrelatedAlert.put, PyTree.entries, FreeText.maximum]
        using h
  | recommendedFix =>
      simpa [buildWebhookPayload, CorrelatedAlert.put, PyTree.entries, FreeText.maximum]
        using h
  | endpoint =>
      simpa [buildWebhookPayload, CorrelatedAlert.put, PyTree.entries, sanitizeOptional,
        RequiredText.nonempty, optVal, FreeText.maximum] using h
  | file =>
      simpa [buildWebhookPayload, CorrelatedAlert.put, PyTree.entries, sanitizeOptional,
        RequiredText.nonempty, optVal, FreeText.maximum] using h
  | traceId =>
      simpa [buildWebhookPayload, CorrelatedAlert.put, PyTree.entries, sanitizeOptional,
        RequiredText.nonempty, optVal, FreeText.maximum] using h

/-! ## Independence -/

omit [UnicodeData] [WordData] in
lemma Header.not_blank (h : Header) (token : Token) : strip (h.text token) ≠ [] := by
  refine strip_ne_nil_iff.mpr ⟨ofChar 'A', ?_, by decide⟩
  exact List.mem_append_right _ (List.mem_append_left _ (List.mem_append_left _ List.mem_cons_self))

omit [WordData] in
/-- The alert with the header and a token in the field. -/
def Header.alert (h : Header) (alert : CorrelatedAlert) (field : FreeText) (token : Token)
    (fits : (h.text token).length ≤ field.maximum) : CorrelatedAlert :=
  alert.put field ⟨h.text token, h.not_blank token, fits⟩

/-- The notifications do not depend on the token. -/
def Header.Independent (h : Header) (alert : CorrelatedAlert) (field : FreeText) : Prop :=
  ∀ (t t' : Token) (fits : (h.text t).length ≤ field.maximum)
    (fits' : (h.text t').length ≤ field.maximum),
    SameNotifications (h.alert alert field t fits) (h.alert alert field t' fits')

omit [UnicodeData] [WordData] in
/-- There is room for a token, at a place where the webhook shows it whatever is redacted before it,
and what follows it stands apart from it. -/
structure Header.Shown (h : Header) (field : FreeText) : Prop where
  apart : ∀ b ∈ (visible h.back).head?, isSpace b = true
  early : 5 * (visible h.front ++ headerOf h.scheme).length < 4 * field.maximum
  room : (h.front ++ headerOf h.scheme).length + 1 + h.back.length ≤ field.maximum

omit [UnicodeData] in
lemma sanitize_text {s : PyStr} (hs : s ≠ []) (n : ℕ) :
    sanitize (.text s) n = cut n (normalize s) := by
  cases s with
  | nil => exact absurd rfl hs
  | cons c s => rfl

omit [UnicodeData] in
lemma Header.sanitize_text (h : Header) (token : Token) (n : ℕ) :
    sanitize (.text (h.text token)) n = cut n (normalize (h.text token)) := by
  refine Watchtower.sanitize_text ?_ n
  intro hnil
  exact h.not_blank token (by rw [hnil]; rfl)

omit [UnicodeData] in
/-- Nothing is left of the token of a header that is read. -/
lemma Header.Read.normalize_eq {h : Header} (hread : h.Read) (t t' : Token) :
    normalize (h.text t) = normalize (h.text t') := by
  have hrest : ∀ s, normalize s = foldSpace ([bearerPattern, privateKeyPattern, tokenPattern,
      longPattern].foldl (fun text pattern => pattern.sub redacted text)
        (credentialPattern.sub redacted (visible s))) := fun _ => rfl
  rw [hrest, hrest, hread.sub_eq t t']

omit [UnicodeData] [WordData] in
/-- The cut leaves what is before it in its place. -/
lemma getElem?_cut {l m : PyStr} {c : PyChar} {n : ℕ} (h : l.length < n) :
    (cut n (l ++ c :: m))[l.length]? = some c := by
  rw [cut, List.getElem?_append_left (by simp; omega), List.getElem?_take_of_lt h,
    List.getElem?_append_right (Nat.le_refl _), Nat.sub_self, List.getElem?_cons_zero]

/-- **Notifications and credentials.**  They do not depend on the token of a header that is read.
When it is shown, they depend on it otherwise. -/
theorem independent_iff_read (h : Header) (alert : CorrelatedAlert) (field : FreeText) :
    (h.Read → h.Independent alert field) ∧
      (h.Shown field → (h.Independent alert field ↔ h.Read)) := by
  have hindependent : h.Read → h.Independent alert field := by
    intro hread t t' fits fits'
    refine sameNotifications_of_sanitize alert fun n => ?_
    rw [h.sanitize_text, h.sanitize_text, hread.normalize_eq t t']
  refine ⟨hindependent, fun hshown => ⟨fun hsame => ?_, hindependent⟩⟩
  by_contra hread
  obtain ⟨y, z, hlen, hredact⟩ := redact_mark hread hshown.apart
  obtain ⟨l, m, hle, -, hfold⟩ := exists_foldSpace y z
  have hearly := hshown.early
  have hplace : l.length < field.maximum := by omega
  have hfits : ∀ c (hc : IsMark c), (h.text (markToken c hc)).length ≤ field.maximum := by
    intro c hc
    have hroom := hshown.room
    simp only [Header.text, markToken, List.length_append, List.length_singleton] at hroom ⊢
    omega
  have hvisible : ∀ c (hc : IsMark c),
      (sanitize (.text (h.text (markToken c hc))) field.maximum)[l.length]? = some c := by
    intro c hc
    have hspace : isSpace c = false := by rcases hc with rfl | rfl <;> decide
    have hnormal : normalize (h.text (markToken c hc)) = l ++ c :: m := by
      rw [← hfold c hspace, ← hredact c hc]
      rfl
    rw [h.sanitize_text, hnormal, getElem?_cut hplace]
  have hsanitize := sanitize_eq_of_webhook (hsame (markToken (ofChar '~') (.inl rfl))
    (markToken (ofChar '.') (.inr rfl)) (hfits _ _) (hfits _ _)).webhook
  have hmarks := hvisible (ofChar '~') (.inl rfl)
  rw [hsanitize, hvisible (ofChar '.') (.inr rfl)] at hmarks
  revert hmarks
  decide

end Notifications

/-! ## Two schemes -/

section Sample

attribute [local instance] asciiData latinWords

/-- A header with little around it. -/
def sampleHeader (scheme : PyStr) (hne : scheme ≠ [])
    (hscheme : ∀ c ∈ scheme, isSchemeChar c = true) : Header where
  front := py "sent "
  scheme := scheme
  back := py " twice"
  front_ends c hc := by
    have hlast : (py "sent ").getLast? = some (ofChar ' ') := by decide
    rw [hlast] at hc
    obtain rfl := Option.some.inj hc
    decide
  scheme_ne_nil := hne
  scheme_chars := hscheme
  back_begins c hc := by
    obtain rfl := Option.some.inj hc
    decide

lemma schemeChars_of_all {scheme : PyStr} (h : scheme.all isSchemeChar = true) :
    ∀ c ∈ scheme, isSchemeChar c = true := List.all_eq_true.mp h

def bearerHeader : Header :=
  sampleHeader (py "Bearer") (by decide) (schemeChars_of_all (by decide))

def basicHeader : Header :=
  sampleHeader (py "Basic") (by decide) (schemeChars_of_all (by decide))

/-- The pattern reads the header with `Bearer`, and not the one with `Basic`. -/
theorem independent_iff_read_schemes :
    bearerHeader.Independent longNameAlert .rootCause ∧
      ¬ basicHeader.Independent longNameAlert .rootCause := by
  have hread : bearerHeader.Read := by
    refine ⟨by decide, by decide, some (ofChar ' '), py "sent ", ?_⟩
    exact .keep (by decide +kernel) (.keep (by decide +kernel) (.keep (by decide +kernel)
      (.keep (by decide +kernel) (.keep (by decide +kernel) (.done _)))))
  have hshown : basicHeader.Shown .rootCause := by
    refine ⟨fun c hc => ?_, by decide, by decide⟩
    obtain rfl := Option.some.inj hc
    decide
  refine ⟨(independent_iff_read bearerHeader longNameAlert .rootCause).1 hread, fun h => ?_⟩
  have hbearer :=
    (((independent_iff_read basicHeader longNameAlert .rootCause).2 hshown).mp h).bearer
  revert hbearer
  decide

/-- Two credentials for `Basic`. -/
def firstToken : Token := ⟨py "dXNlcjpwYXNz", by decide, List.all_eq_true.mp (by decide)⟩

def secondToken : Token := ⟨py "YWxpY2U6cHc=", by decide, List.all_eq_true.mp (by decide)⟩

/-- The credentials for `Basic` are shown: only the name of the scheme is redacted. -/
theorem basicToken_shown :
    sanitize (.text (basicHeader.text firstToken)) 4000
        = py "sent [REDACTED] dXNlcjpwYXNz twice" ∧
      ¬ ∀ (h : Header) (alert : CorrelatedAlert) (field : FreeText), h.Independent alert field := by
  have hfirst : sanitize (.text (basicHeader.text firstToken)) 4000
      = py "sent [REDACTED] dXNlcjpwYXNz twice" := by decide +kernel
  have hsecond : sanitize (.text (basicHeader.text secondToken)) 4000
      = py "sent [REDACTED] YWxpY2U6cHc= twice" := by decide +kernel
  refine ⟨hfirst, fun h => ?_⟩
  have hsame : sanitize (.text (basicHeader.text firstToken)) 4000
      = sanitize (.text (basicHeader.text secondToken)) 4000 :=
    sanitize_eq_of_webhook (h basicHeader longNameAlert .rootCause firstToken secondToken
      (by decide) (by decide)).webhook
  rw [hfirst, hsecond] at hsame
  revert hsame
  decide

end Sample

end Watchtower
