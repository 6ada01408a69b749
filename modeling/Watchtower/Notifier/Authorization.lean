import Watchtower.Notifier.Credential
import Watchtower.Notifier.Payload

/-!
# `Authorization` headers in notifications

Whether a notification depends on the token of an `Authorization` header in one of the free texts of
the alert.

* `Header`, `Token` — a header with its surroundings, and what is behind its scheme.
* `Header.Read` — the scheme is `Bearer` and the pattern for credentials reads the header.
* **`Header.Read.sub_eq`** — then that pattern leaves nothing of the token.
* **`redact_mark`** — otherwise a token that stands apart from what follows is left, whatever it is.
-/

namespace Watchtower

open Core Core.Regex Py

/-! ## Headers and tokens -/

/-- A token68, the credentials of the authentication schemes. -/
structure Token where
  val : PyStr
  ne_nil : val ≠ []
  chars : ∀ c ∈ val, isBearerChar c = true

/-- A header with a scheme, and the text around it. -/
structure Header where
  front : PyStr
  scheme : PyStr
  back : PyStr
  front_ends : ∀ c ∈ front.getLast?, isSpace c = true
  scheme_ne_nil : scheme ≠ []
  scheme_chars : ∀ c ∈ scheme, isSchemeChar c = true
  back_begins : ∀ c ∈ back.head?, isSpace c = true

/-- The text with a token in its place. -/
def Header.text (h : Header) (token : Token) : PyStr :=
  h.front ++ (headerOf h.scheme ++ (token.val ++ h.back))

/-- The text without its control characters. -/
def visible (s : PyStr) : PyStr := s.filter fun c => !isControl c

/-- Neither letters and digits nor visible signs are control characters. -/
lemma isControl_of_sign {signs : PyStr} (hsigns : signs.all (fun d => !isControl d) = true)
    {c : PyChar} (h : (isAsciiAlnum c || among signs c) = true) : isControl c = false := by
  rw [Bool.or_eq_true] at h
  rcases h with h | h
  · simp only [isAsciiAlnum, decide_eq_true_eq] at h
    simp only [isControl, decide_eq_false_iff_not]
    omega
  · simpa using List.all_eq_true.mp hsigns c (List.contains_iff_mem.mp h)

lemma visible_eq_self {s : PyStr} (h : ∀ c ∈ s, isControl c = false) : visible s = s := by
  rw [visible, List.filter_eq_self]
  intro c hc
  rw [h c hc]
  rfl

lemma visible_text (h : Header) (token : Token) :
    visible (h.text token)
      = visible h.front ++ (headerOf h.scheme ++ (token.val ++ visible h.back)) := by
  have hscheme : visible h.scheme = h.scheme :=
    visible_eq_self fun c hc => isControl_of_sign (by decide) (h.scheme_chars c hc)
  have htoken : visible token.val = token.val :=
    visible_eq_self fun c hc => isControl_of_sign (by decide) (token.chars c hc)
  have hheader : visible (headerOf h.scheme) = headerOf h.scheme := by
    have hname : visible headerName = headerName := by decide
    have hcolon : isControl (ofChar ':') = false := by decide
    have hspace : isControl (ofChar ' ') = false := by decide
    unfold visible at hname hscheme ⊢
    rw [headerOf, List.filter_append, hname]
    simp [hcolon, hspace, hscheme]
  unfold visible at hheader htoken ⊢
  rw [Header.text, List.filter_append, List.filter_append, List.filter_append, hheader, htoken]

section Read

variable [WordData]

/-- The pattern for credentials reads the header: behind `Bearer` it takes the token as well, a word
begins with the header, and no match that begins before runs into it. -/
structure Header.Read (h : Header) : Prop where
  bearer : h.scheme.map foldCase = py "bearer"
  edge : isWordAt (after none (visible h.front)) = false
  reached : ∃ p y, Reaches credentialPattern redacted (py "Authorization: ") none
    (visible h.front) p y

/-! ## A header that is read -/

lemma first_litCaseless {s m rest : PyStr} (h : m.map foldCase = s) {prev : Option PyChar} :
    first (litCaseless s) prev (m ++ rest) = some (after prev m, rest) := by
  induction m generalizing s prev with
  | nil =>
      obtain rfl : [] = s := h
      rfl
  | cons c m ih =>
      obtain ⟨d, s, rfl⟩ : ∃ d l, s = d :: l := ⟨_, _, h.symm⟩
      obtain ⟨hd, hs⟩ := List.cons_eq_cons.mp h
      exact first_seq (first_set (beq_iff_eq.mpr hd)) (ih hs)

/-- The match at the header takes the scheme, the token and whatever of a value follows. -/
lemma first_header {scheme value rest : PyStr} (hbearer : scheme.map foldCase = py "bearer")
    (hscheme : ∀ c ∈ scheme, isSchemeChar c = true) (hvalue : value ≠ [])
    (hchars : ∀ c ∈ value, isValueChar c = true) (hrest : ∀ c ∈ rest.head?, isValueChar c = false)
    {p : Option PyChar} (hp : isWordAt p = false) :
    ∃ q, first credentialPattern p (headerOf scheme ++ (value ++ rest)) = some (q, rest) := by
  obtain ⟨d, scheme, rfl⟩ : ∃ d l, scheme = d :: l := by
    refine List.exists_cons_of_ne_nil ?_
    rintro rfl
    cases hbearer
  obtain ⟨b, value, rfl⟩ := List.exists_cons_of_ne_nil hvalue
  have hd : isSpace d = false := isSpace_of_isSchemeChar (hscheme d List.mem_cons_self)
  have hb : isSpace b = false := by
    have hchar := hchars b List.mem_cons_self
    rw [isValueChar, Bool.not_eq_true', Bool.or_eq_false_iff] at hchar
    exact hchar.1
  have hhead : ∀ text, first credentialHead p (headerName ++ ofChar ':' :: ofChar ' ' :: d :: text)
      = some (some (ofChar ' '), d :: text) := by
    intro text
    have hname : first credentialName p (headerName ++ ofChar ':' :: ofChar ' ' :: d :: text)
        = some (some (ofChar 'n'), ofChar ':' :: ofChar ' ' :: d :: text) :=
      first_alt (first_litCaseless (by decide))
    have hfront : ∀ q, first (.rep isSpace 0) q (ofChar ':' :: ofChar ' ' :: d :: text)
        = some (q, ofChar ':' :: ofChar ' ' :: d :: text) := fun q =>
      first_rep (u := []) (by simp) (by simp; decide) (Nat.zero_le _)
    have hback : ∀ q, first (.rep isSpace 0) q (ofChar ' ' :: d :: text)
        = some (some (ofChar ' '), d :: text) := fun q =>
      first_rep (u := [ofChar ' ']) (by simp; decide) (by simpa using hd) (Nat.zero_le _)
    refine first_seq (first_edge ?_) (first_seq hname (first_seq (first_edge ?_)
      (first_seq (hfront _) (first_seq (first_set (by decide)) (first_seq (hback _) rfl)))))
    · show (isWordAt p != WordChars.isWord (ofChar 'A')) = true
      rw [hp, isWord_ascii (by decide)]
      decide
    · show (WordChars.isWord (ofChar 'n') != WordChars.isWord (ofChar ':')) = true
      rw [isWord_ascii (by decide), isWord_ascii (by decide)]
      decide
  have hword : ∀ q text, first bearerWord q (d :: scheme ++ ofChar ' ' :: b :: text)
      = some (some (ofChar ' '), b :: text) := fun q text =>
    first_seq (first_litCaseless hbearer)
      (first_rep (u := [ofChar ' ']) (by simp; decide) (by simpa using hb) (Nat.le_refl 1))
  have htoken : ∀ q, first (.rep isValueChar 1) q (b :: value ++ rest)
      = some (after q (b :: value), rest) := fun q =>
    first_rep hchars hrest (by simp)
  have htext : headerOf (d :: scheme) ++ (b :: value ++ rest)
      = headerName ++ ofChar ':' :: ofChar ' ' :: d :: (scheme ++ ofChar ' ' :: b ::
        (value ++ rest)) := by
    simp [headerOf]
  rw [htext]
  exact ⟨_, first_seq (hhead _) (first_seq (first_alt (hword _ _)) (htoken _))⟩

omit [WordData] in
lemma exists_span (p : PyChar → Bool) (s : PyStr) : ∃ u v, s = u ++ v ∧
    (∀ c ∈ u, p c = true) ∧ ∀ c ∈ v.head?, p c = false := by
  induction s with
  | nil => exact ⟨[], [], rfl, by simp, by simp⟩
  | cons c s ih =>
      cases hc : p c with
      | false => exact ⟨[], c :: s, rfl, by simp, by simpa using hc⟩
      | true =>
          obtain ⟨u, v, rfl, hu, hv⟩ := ih
          exact ⟨c :: u, v, rfl, List.forall_mem_cons.mpr ⟨hc, hu⟩, hv⟩

omit [WordData] in
/-- The header as the scan of what is before it sees it. -/
lemma headerOf_append (scheme text : PyStr) : headerOf scheme ++ text
    = headerName ++ [ofChar ':'] ++ ofChar ' ' :: (scheme ++ ofChar ' ' :: text) := by
  simp [headerOf]

/-- **Behind a header that is read no token is left.** -/
theorem Header.Read.sub_eq {h : Header} (hread : h.Read) (t t' : Token) :
    credentialPattern.sub redacted (visible (h.text t))
      = credentialPattern.sub redacted (visible (h.text t')) := by
  have hplain := secretShape_credential.plain
  have hne := secretShape_credential.nonEmpty
  obtain ⟨p, y, hreach⟩ := hread.reached
  obtain ⟨value, rest, hback, hvalue, hrest⟩ := exists_span isValueChar (visible h.back)
  have hbegins : ∀ c ∈ rest.head?, credentialPattern.begins c = false := by
    intro c hc
    by_contra hnot
    have hchar := isValueChar_of_isBearerChar
      (secretShape_credential.begins (Bool.not_eq_false _ ▸ hnot))
    rw [hrest c hc] at hchar
    cases hchar
  have hresult : ∀ token : Token, credentialPattern.sub redacted (visible (h.text token))
      = y ++ (redacted ++ credentialPattern.sub redacted rest) := by
    intro token
    rw [visible_text, hback, ← List.append_assoc token.val]
    have hp : isWordAt p = false := by
      rw [hreach.before hplain]
      exact hread.edge
    have htoken : ∀ c ∈ token.val ++ value, isValueChar c = true := List.forall_mem_append.mpr
      ⟨fun c hc => isValueChar_of_token (token.chars c hc), hvalue⟩
    obtain ⟨q, hfirst⟩ := first_header hread.bearer h.scheme_chars (by simp [token.ne_nil]) htoken
      hrest hp
    have harrives : Reaches credentialPattern redacted
        (headerOf h.scheme ++ (token.val ++ value ++ rest)) none (visible h.front) p y := by
      have hstart : Reaches credentialPattern redacted
          (headerName ++ [ofChar ':'] ++ [ofChar ' ']) none (visible h.front) p y := hreach
      rw [headerOf_append]
      refine hstart.transfer hplain ?_ fun prev v m rest' hv heq hm => ?_
      · rfl
      · exact length_le_of_header hv heq hm
    have htail : Subst credentialPattern redacted q rest (credentialPattern.sub redacted rest) :=
      (subst_sub hplain hne rest).of_not_begins hplain hne hbegins
    exact (subst_sub hplain hne _).unique (harrives.subst (.cut_of_first hplain hne hfirst htail))
  rw [hresult t, hresult t']

/-! ## A token that is left -/

omit [WordData] in
/-- The characters that make up the tokens of the argument: no pattern begins with them, and they
are no word characters. -/
def IsMark (c : PyChar) : Prop := c = ofChar '~' ∨ c = ofChar '.'

omit [WordData] in
lemma begins_mark {q : Regex PyChar} (hq : q ∈ secretPatterns) {c : PyChar} (hc : IsMark c) :
    q.begins c = false := by
  have hall : ∀ q ∈ secretPatterns,
      q.begins (ofChar '~') = false ∧ q.begins (ofChar '.') = false := by
    simp only [secretPatterns, List.forall_mem_cons]
    decide
  rcases hc with rfl | rfl
  · exact (hall q hq).1
  · exact (hall q hq).2

lemma isWord_mark {c : PyChar} (hc : IsMark c) : WordChars.isWord c = false := by
  rcases hc with rfl | rfl
  · rw [isWord_ascii (by decide)]
    decide
  · rw [isWord_ascii (by decide)]
    decide

/-- The text ends with a character that is no part of a token. -/
def Apart (o : Option PyChar) : Prop := ∀ d ∈ o, caseless isBearerChar d = false

/-- **What stands apart stays.**  When the scan arrives before the mark, it is kept, and whichever
mark it is makes no difference to the rest. -/
lemma sub_mark {q : Regex PyChar} (hmem : q ∈ secretPatterns) {u back : PyStr}
    (hback : ∀ b ∈ back.head?, isSpace b = true)
    (hreach : ∀ c, IsMark c → ∃ p y, Reaches q redacted (c :: back) none u p y) :
    ∃ p y z, Reaches q redacted (ofChar '~' :: back) none u p y ∧
      (∀ b ∈ z.head?, isSpace b = true) ∧
      ∀ c, IsMark c → q.sub redacted (u ++ c :: back) = y ++ c :: z := by
  have hq := secretShape q hmem
  have hbegins : ∀ b ∈ back.head?, q.begins b = false := by
    intro b hb
    by_contra hnot
    have hspace := hback b hb
    rw [isSpace_of_isBearerChar (hq.begins (Bool.not_eq_false _ ▸ hnot))] at hspace
    cases hspace
  have hrest : Subst q redacted none back (q.sub redacted back) :=
    subst_sub hq.plain hq.nonEmpty back
  obtain ⟨p, y, hy⟩ := hreach (ofChar '~') (.inl rfl)
  refine ⟨p, y, q.sub redacted back, hy, ?_, fun c hc => ?_⟩
  · rw [hrest.head_of_not_begins hq.plain hq.nonEmpty hbegins]
    exact hback
  · obtain ⟨p', y', hy'⟩ := hreach c hc
    have hsame : isWordAt (ofChar '~' :: back).head? = isWordAt (c :: back).head? := by
      show WordChars.isWord (ofChar '~') = WordChars.isWord c
      rw [isWord_mark (.inl rfl), isWord_mark hc]
    obtain ⟨rfl, rfl⟩ := hy.unique hq.plain hsame hy'
    have hkept : first q p (c :: back) = none := by
      refine (first_eq_none_iff hq.plain).mpr fun hstarts => ?_
      have hnot := begins_mark hmem hc
      rw [hstarts.begins hq.nonEmpty] at hnot
      cases hnot
    refine (subst_sub hq.plain hq.nonEmpty _).unique (hy'.subst (.keep hkept ?_))
    exact hrest.of_not_begins hq.plain hq.nonEmpty hbegins

omit [WordData] in
/-- A part of a text that is longer than what is before a character holds it. -/
lemma exists_beyond {v back m rest : PyStr} {c : PyChar} (h : v ++ c :: back = m ++ rest)
    (hlt : rest.length < (c :: back).length) : ∃ m', m = v ++ c :: m' ∧ back = m' ++ rest := by
  rcases List.append_eq_append_iff.mp h with ⟨w, rfl, hw⟩ | ⟨w, -, hw⟩
  · cases w with
    | nil =>
        rw [hw] at hlt
        exact absurd hlt (Nat.lt_irrefl _)
    | cons d w =>
        obtain ⟨rfl, hrest⟩ := List.cons_eq_cons.mp hw
        exact ⟨w, rfl, hrest⟩
  · rw [hw, List.length_append] at hlt
    omega

/-- A bearer token is longer than a mark that stands apart. -/
lemma not_matches_bearer {o next : Option PyChar} {u v m back : PyStr} {c : PyChar} (hc : IsMark c)
    (hu : Apart (after none (u ++ v))) (hback : ∀ b ∈ (m ++ back).head?, isSpace b = true) :
    ¬ Matches bearerPattern o (v ++ c :: m) next := by
  rintro ⟨m₁, m₂, hm, ⟨rfl, -⟩, word, m₃, rfl, hword, token, m₄, rfl, htoken, hnil⟩
  obtain rfl : m₄ = [] := hnil
  rw [List.nil_append, List.append_nil] at hm
  have hmark : c ∉ word := hword.not_mem (by rcases hc with rfl | rfl <;> decide)
  obtain ⟨k, rfl, rfl⟩ := exists_append_of_not_mem hm hmark
  rcases List.eq_nil_or_concat k with rfl | ⟨k, e, rfl⟩
  · cases m with
    | nil => exact absurd htoken.1 (by simp)
    | cons b m =>
        have hspace : isSpace b = true := hback b rfl
        rw [isSpace_of_isBearerChar (htoken.2 b (by simp))] at hspace
        cases hspace
  · have hlast : after none (u ++ (word ++ k.concat e)) = some e := by
      rw [List.concat_eq_append, after_append, after_append, after_append]
      rfl
    have hnot := hu e hlast
    rw [htoken.2 e (by simp)] at hnot
    cases hnot

/-- No later pattern reads a mark that stands apart. -/
lemma reaches_of_apart {q : Regex PyChar}
    (hq : q ∈ [bearerPattern, privateKeyPattern, tokenPattern, longPattern]) {u back : PyStr}
    (hu : Apart (after none u)) (hback : ∀ b ∈ back.head?, isSpace b = true) {c : PyChar}
    (hc : IsMark c) : ∃ p y, Reaches q redacted (c :: back) none u p y := by
  have hshape := secretShape q (List.mem_cons_of_mem _ hq)
  rcases reaches_or_crosses hshape.plain hshape.nonEmpty (c :: back) u none with
    hreach | ⟨u₁, v, p, y, e, rfl, -, -, hfirst, hlt⟩
  · exact hreach
  exfalso
  obtain ⟨m, hm, -, hmatch⟩ := matches_of_first hshape.plain hfirst
  obtain ⟨m', rfl, rfl⟩ := exists_beyond hm hlt
  simp only [List.mem_cons, List.not_mem_nil, or_false] at hq
  rcases hq with rfl | rfl | rfl | rfl
  · exact not_matches_bearer hc hu hback hmatch
  · refine hmatch.not_mem ?_ (List.mem_append_right v List.mem_cons_self)
    rcases hc with rfl | rfl <;> decide
  · refine hmatch.not_mem ?_ (List.mem_append_right v List.mem_cons_self)
    rcases hc with rfl | rfl <;> decide
  · refine hmatch.not_mem ?_ (List.mem_append_right v List.mem_cons_self)
    rcases hc with rfl | rfl <;> decide

/-- The text before the mark and the one behind it, after the later patterns. -/
lemma foldl_mark (ps : List (Regex PyChar))
    (hps : ∀ q ∈ ps, q ∈ [bearerPattern, privateKeyPattern, tokenPattern, longPattern]) :
    ∀ {u back : PyStr}, Apart (after none u) → (∀ b ∈ back.head?, isSpace b = true) →
      ∃ y z, y.length ≤ u.length ∧ ∀ c, IsMark c →
        ps.foldl (fun text pattern => pattern.sub redacted text) (u ++ c :: back)
          = y ++ c :: z := by
  induction ps with
  | nil => exact fun {u back} _ _ => ⟨u, back, Nat.le_refl _, fun _ _ => rfl⟩
  | cons q ps ih =>
      intro u back hu hback
      have hq := hps q List.mem_cons_self
      have hmem : q ∈ secretPatterns := List.mem_cons_of_mem _ hq
      have hplain := (secretShape q hmem).plain
      obtain ⟨p, y, z, hreach, hz, hsub⟩ := sub_mark hmem hback fun c hc =>
        reaches_of_apart hq hu hback hc
      have hlen : y.length ≤ u.length := by
        have hbound : ∀ q ∈ [bearerPattern, privateKeyPattern, tokenPattern, longPattern],
            1 * redacted.length ≤ 1 * q.minLength := by
          simp only [List.forall_mem_cons]
          decide
        have hle := hreach.length_le hplain (Nat.le_refl 1) (hbound q hq)
        omega
      have hy : Apart (after none y) := by
        refine hreach.last (hreach.before hplain ▸ hu) fun o d hd => ?_
        obtain rfl := Option.some.inj hd
        decide
      obtain ⟨y', z', hle, hfold⟩ := ih (fun x hx => hps x (List.mem_cons_of_mem q hx)) hy hz
      refine ⟨y', z', hle.trans hlen, fun c hc => ?_⟩
      rw [List.foldl_cons, hsub c hc, hfold c hc]

/-- The pattern for credentials reads a mark behind the scheme only together with the header. -/
lemma reaches_of_not_read {h : Header} (hread : ¬ h.Read) {c : PyChar} (hc : IsMark c)
    (back : PyStr) : ∃ p y, Reaches credentialPattern redacted (c :: back) none
      (visible h.front ++ headerOf h.scheme) p y := by
  have hplain := secretShape_credential.plain
  rcases reaches_or_crosses hplain secretShape_credential.nonEmpty (c :: back)
    (visible h.front ++ headerOf h.scheme) none with
    hreach | ⟨u, v, p, y, e, hu, hv, hreach, hfirst, hlt⟩
  · exact hreach
  refine absurd ?_ hread
  obtain ⟨m, hm, -, hmatch⟩ := matches_of_first hplain hfirst
  obtain ⟨m, rfl, -⟩ := exists_beyond hm hlt
  obtain ⟨rfl, rfl, hbearer⟩ :=
    eq_header_of_covers h.scheme_ne_nil h.scheme_chars hc hv hu hmatch
  refine ⟨hbearer, ?_, p, y, ?_⟩
  · have hedge : (isWordAt p != WordChars.isWord (ofChar 'A')) = true := isEdge_credential hmatch
    have hword : WordChars.isWord (ofChar 'A') = true := by
      rw [isWord_ascii (by decide)]
      decide
    rw [← hreach.before hplain]
    simpa [hword] using hedge
  · rw [headerOf_append] at hreach
    have hstart : Reaches credentialPattern redacted
        (headerName ++ [ofChar ':'] ++ [ofChar ' ']) none (visible h.front) p y := by
      refine hreach.transfer hplain ?_ fun prev v m rest hv heq hm => ?_
      · rfl
      · exact length_le_of_header hv heq hm
    exact hstart

/-- A text that is one mark. -/
def markToken (c : PyChar) (hc : IsMark c) : Token where
  val := [c]
  ne_nil := List.cons_ne_nil c []
  chars := by rcases hc with rfl | rfl <;> simp <;> decide

/-- **Behind a header that is not read a token is left.** -/
lemma redact_mark {h : Header} (hread : ¬ h.Read)
    (hback : ∀ b ∈ (visible h.back).head?, isSpace b = true) :
    ∃ y z, 4 * y.length ≤ 5 * (visible h.front ++ headerOf h.scheme).length ∧
      ∀ c (hc : IsMark c), redact (visible (h.text (markToken c hc))) = y ++ c :: z := by
  have hplain := secretShape_credential.plain
  obtain ⟨p, y, z, hreach, hz, hsub⟩ := sub_mark (q := credentialPattern) (by simp [secretPatterns])
    hback fun c hc => reaches_of_not_read hread hc _
  have hlen := hreach.length_le hplain (k := 4) (l := 5) (by omega) (by decide)
  have hy : Apart (after none y) := by
    refine hreach.last (hreach.before hplain ▸ fun d hd => ?_) fun o d hd => ?_
    · have hspace : after none (visible h.front ++ headerOf h.scheme) = some (ofChar ' ') := by
        simp [headerOf]
      obtain rfl := Option.some.inj (hspace.symm.trans hd)
      decide
    · obtain rfl := Option.some.inj hd
      decide
  obtain ⟨y', z', hle, hfold⟩ := foldl_mark
    [bearerPattern, privateKeyPattern, tokenPattern, longPattern] (fun _ hq => hq) hy hz
  refine ⟨y', z', by omega, fun c hc => ?_⟩
  have htext : visible (h.text (markToken c hc))
      = visible h.front ++ headerOf h.scheme ++ c :: visible h.back := by
    rw [visible_text, List.append_assoc]
    rfl
  rw [htext, ← hfold c hc, ← hsub c hc]
  rfl

end Read

end Watchtower
