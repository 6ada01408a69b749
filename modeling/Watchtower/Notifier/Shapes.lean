import Watchtower.Core.Shape
import Watchtower.Notifier.Sanitize

/-!
# The patterns as shapes

What the five patterns have in common, as far as it decides what one substitution leaves to the
others.

* `SecretShape` — how a match begins, what surrounds it, and that the inserted text is no part of
  one.
* **`secretShape`** — every one of `_SECRET_PATTERNS` is of this shape.
-/

namespace Watchtower

open Core Core.Regex Py

/-! ## Characters -/

section Characters

/-- What `re.IGNORECASE` identifies with an ASCII letter or digit is no white space. -/
lemma isSpace_foldCase {c : PyChar} (h : isSpace c = true) : foldCase c = c := by
  simp only [isSpace, decide_eq_true_eq] at h
  unfold foldCase
  split_ifs with hupper hkelvin hlong hdot
  · omega
  · omega
  · omega
  · omega
  · rfl

lemma isSpace_of_isBearerChar {c : PyChar} (h : caseless isBearerChar c = true) :
    isSpace c = false := by
  by_contra hspace
  rw [Bool.not_eq_false] at hspace
  rw [caseless, isSpace_foldCase hspace] at h
  simp only [isSpace, decide_eq_true_eq] at hspace
  simp only [isBearerChar, isAsciiAlnum, among, Bool.or_eq_true, decide_eq_true_eq,
    List.contains_iff_mem] at h
  rcases h with h | h
  · omega
  · have hsigns : (py "._~+/=-").all (fun d => decide (33 ≤ d.val ∧ d.val < 127)) = true := by
      decide
    have hval := of_decide_eq_true (List.all_eq_true.mp hsigns c h)
    omega

/-- A character of a token can be part of a value. -/
lemma isValueChar_of_isBearerChar {c : PyChar} (h : caseless isBearerChar c = true) :
    isValueChar c = true := by
  rw [isValueChar, isSpace_of_isBearerChar h, Bool.false_or]
  have hseparators : (py ",;").all (fun d => !caseless isBearerChar d) = true := by decide
  rw [Bool.not_eq_true', among, ← Bool.not_eq_true, List.contains_iff_mem]
  intro hmem
  have hnot := List.all_eq_true.mp hseparators c hmem
  rw [h] at hnot
  cases hnot

lemma isAsciiAlnum_foldCase {c : PyChar} (h : isAsciiAlnum c = true) :
    isAsciiAlnum (foldCase c) = true := by
  simp only [isAsciiAlnum, decide_eq_true_eq] at h
  unfold foldCase
  split_ifs with hupper hkelvin hlong hdot
  · simp only [isAsciiAlnum, decide_eq_true_eq]
    omega
  · omega
  · omega
  · omega
  · simpa only [isAsciiAlnum, decide_eq_true_eq] using h

/-- A character of a long run can be part of a token. -/
lemma isBearerChar_of_isLongChar {c : PyChar} (h : isLongChar c = true) :
    caseless isBearerChar c = true := by
  rw [isLongChar, Bool.or_eq_true] at h
  rcases h with h | h
  · rw [caseless, isBearerChar, isAsciiAlnum_foldCase h, Bool.true_or]
  · have hsigns : (py "+/=_-").all (caseless isBearerChar) = true := by decide
    exact List.all_eq_true.mp hsigns c (List.contains_iff_mem.mp h)

/-- So can a character of a token in whatever case. -/
lemma isValueChar_of_token {c : PyChar} (h : isBearerChar c = true) : isValueChar c = true := by
  refine isValueChar_of_isBearerChar ?_
  rw [isBearerChar, Bool.or_eq_true] at h
  rcases h with h | h
  · rw [caseless, isBearerChar, isAsciiAlnum_foldCase h, Bool.true_or]
  · have hsigns : (py "._~+/=-").all (caseless isBearerChar) = true := by decide
    exact List.all_eq_true.mp hsigns c (List.contains_iff_mem.mp h)

variable [WordData]

lemma isWord_space {c : PyChar} (h : isSpace c = true) : WordChars.isWord c = false := by
  show isWordChar c = false
  rw [isWordChar, WordData.isAlnum_space c h, Bool.false_or, beq_eq_false_iff_ne]
  rintro rfl
  revert h
  decide

/-- The word characters of ASCII. -/
lemma isWord_ascii {c : PyChar} (h : c.val < 128) :
    WordChars.isWord c = (isAsciiAlnum c || c == ofChar '_') := by
  show isWordChar c = _
  rw [isWordChar, WordData.isAlnum_ascii c h, isAsciiAlnum]

/-- What cannot be part of a value is no word character. -/
lemma isWord_of_not_isValueChar {c : PyChar} (h : isValueChar c = false) :
    WordChars.isWord c = false := by
  rw [isValueChar, Bool.not_eq_false', Bool.or_eq_true] at h
  rcases h with h | h
  · exact isWord_space h
  · have hseparators : (py ",;").all
        (fun d => decide (d.val < 128 ∧ (isAsciiAlnum d || d == ofChar '_') = false)) = true := by
      decide
    obtain ⟨hascii, hword⟩ := of_decide_eq_true
      (List.all_eq_true.mp hseparators c (List.contains_iff_mem.mp h))
    rw [isWord_ascii hascii, hword]

lemma isWord_hyphen : WordChars.isWord (ofChar '-') = false := by
  rw [isWord_ascii (by decide)]
  decide

lemma isWord_ellipsis : WordChars.isWord (ofChar '…') = false := by
  show isWordChar (ofChar '…') = false
  rw [isWordChar, WordData.isAlnum_ellipsis]
  decide

end Characters

/-! ## Shapes -/

section Shapes

variable [WordData]

/-- A pattern whose substitution is no occasion for another match. -/
structure SecretShape (q : Regex PyChar) : Prop where
  plain : q.plain = true
  nonEmpty : q.NonEmpty
  begins : ∀ {c}, q.begins c = true → caseless isBearerChar c = true
  /-- After a word character a match has an edge. -/
  front : ∀ prev m next, Matches q prev m next → isWordAt prev = true →
    isEdge prev m.head? = true
  /-- Before a word character that can begin a match, so has the match that is taken. -/
  behind : ∀ prev s e, first q prev s = some e → ∀ c, e.2.head? = some c →
    WordChars.isWord c = true → isEdge e.1 (some c) = true ∨ caseless isBearerChar c = false
  /-- No match begins within the inserted text. -/
  inserted : ∀ prev b c s, redacted = b ++ c :: s → ∀ z,
    ¬ Starts q (after prev b) (c :: s ++ z)
  /-- A match into the inserted text was one before, with whatever that has replaced. -/
  survives : ∀ {prev next next' : Option PyChar} {k m : PyStr} {c : PyChar},
    ofChar '[' ∉ k → Matches q prev (k ++ ofChar '[' :: m) next → isValueChar c = true →
    Matches q prev (k ++ [c]) next'

omit [WordData] in
/-- What holds no closing bracket and begins within the inserted text is a part of it. -/
lemma prefix_redacted {b s h t z : PyStr} {c : PyChar} (hrepl : redacted = b ++ c :: s)
    (hm : c :: s ++ z = h ++ t) (hbracket : ofChar ']' ∉ h) :
    (∀ d ∈ h, d ∈ redacted) ∧ h.length < 10 := by
  have hclose : ofChar ']' ∈ c :: s := by
    have hlast : redacted.getLast? = some (ofChar ']') := by decide
    rw [hrepl, List.getLast?_append_of_ne_nil _ (List.cons_ne_nil c s)] at hlast
    exact List.mem_of_getLast? hlast
  rcases List.append_eq_append_iff.mp hm with ⟨w, rfl, -⟩ | ⟨w, hw, -⟩
  · exact absurd (List.mem_append_left w hclose) hbracket
  · have hwne : w ≠ [] := by
      rintro rfl
      rw [List.append_nil] at hw
      exact hbracket (hw ▸ hclose)
    have hlen : redacted.length = 10 := by decide
    have hpos := List.length_pos_iff.mpr hwne
    rw [hw] at hrepl
    rw [hrepl, List.length_append, List.length_append] at hlen
    refine ⟨fun d hd => ?_, by omega⟩
    rw [hrepl]
    exact List.mem_append_right b (List.mem_append_left w hd)

/-- A match that holds no closing bracket and is as long as the inserted text begins outside. -/
lemma not_starts_redacted {q : Regex PyChar} (hbracket : q.chars (ofChar ']') = false)
    (hlen : 10 ≤ q.minLength) (prev : Option PyChar) (b : PyStr) (c : PyChar) (s : PyStr)
    (hrepl : redacted = b ++ c :: s) (z : PyStr) : ¬ Starts q (after prev b) (c :: s ++ z) := by
  rintro ⟨m, rest, hm, hmatch⟩
  have hshort := (prefix_redacted hrepl hm (hmatch.not_mem hbracket)).2
  have hlong := hmatch.minLength_le
  omega

/-- A match that holds no opening bracket does not reach into the inserted text. -/
lemma survives_of_chars {q : Regex PyChar} (hbracket : q.chars (ofChar '[') = false)
    {prev next : Option PyChar} {k m : PyStr}
    (h : Matches q prev (k ++ ofChar '[' :: m) next) : False :=
  h.not_mem hbracket (List.mem_append_right k List.mem_cons_self)

omit [WordData] in
lemma isBearerChar_of_caseless {d c : PyChar} (hd : isBearerChar d = true)
    (h : caseless (fun x => x == d) c = true) : caseless isBearerChar c = true := by
  rw [caseless, beq_iff_eq] at h
  rw [caseless, h, hd]

/-- What begins with an edge. -/
lemma isEdge_front {r : Regex PyChar} (hr : 0 < r.minLength) {prev next : Option PyChar}
    {m : PyStr} (h : Matches (.seq .edge r) prev m next) : isEdge prev m.head? = true := by
  obtain ⟨m₁, m₂, rfl, ⟨rfl, hedge⟩, hm₂⟩ := h
  obtain ⟨c, m₂, rfl⟩ := List.exists_cons_of_ne_nil (nonEmpty_of_minLength hr _ _ _ hm₂)
  exact hedge

/-- What ends with an edge. -/
lemma isEdge_behind {r : Regex PyChar}
    (hr : (Regex.seq .edge (.seq r (.seq .edge .eps))).plain = true)
    {prev : Option PyChar} {t : PyStr} {e : Option PyChar × PyStr}
    (h : first (.seq .edge (.seq r (.seq .edge .eps))) prev t = some e) :
    isEdge e.1 e.2.head? = true := by
  obtain ⟨m, -, hafter, hm⟩ := matches_of_first hr h
  obtain ⟨m₁, m₂, rfl, ⟨rfl, -⟩, m₃, m₄, rfl, hm₃, m₅, m₆, rfl, ⟨rfl, hedge⟩, hm₆⟩ := hm
  obtain rfl : m₆ = [] := hm₆
  simpa [hafter] using hedge

omit [WordData] in
/-- A text in two parts, the first of which does not hold the character. -/
lemma exists_append_of_not_mem {o : PyChar} {k m head value : PyStr}
    (h : k ++ o :: m = head ++ value) (ho : o ∉ head) :
    ∃ k', k = head ++ k' ∧ value = k' ++ o :: m := by
  rcases List.append_eq_append_iff.mp h with ⟨w, rfl, hw⟩ | ⟨w, rfl, hw⟩
  · cases w with
    | nil => exact ⟨[], by simp, hw.symm⟩
    | cons d w =>
        obtain ⟨rfl, -⟩ := List.cons_eq_cons.mp hw
        exact absurd (by simp) ho
  · exact ⟨w, rfl, hw⟩

/-- There is a separator in the head of a credential. -/
lemma exists_separator {prev next : Option PyChar} {m : PyStr}
    (h : Matches credentialHead prev m next) : ∃ c ∈ m, among (py ":=") c = true := by
  obtain ⟨m₁, m₂, rfl, -, m₃, m₄, rfl, -, m₅, m₆, rfl, -, m₇, m₈, rfl, -, m₉, t, rfl, ⟨c, rfl, hc⟩,
    -⟩ := h
  exact ⟨c, by simp, hc⟩

omit [WordData] in
lemma begins_credentialName {c : PyChar} (h : credentialName.begins c = true) :
    caseless isBearerChar c = true := by
  simp only [credentialName, Regex.oneOf, Regex.concat, compound, litCaseless, py,
    Regex.begins] at h
  simp [Regex.begins, Regex.nullable, Regex.concat] at h
  rcases h with h | h | h
  · exact isBearerChar_of_caseless (by decide) h
  · exact isBearerChar_of_caseless (by decide) h
  · exact isBearerChar_of_caseless (by decide) h

lemma isEdge_credential {prev next : Option PyChar} {m : PyStr}
    (h : Matches credentialPattern prev m next) : isEdge prev m.head? = true := by
  obtain ⟨head, value, rfl, hhead, -⟩ := h
  obtain ⟨c, head, rfl⟩ := List.exists_cons_of_ne_nil
    (nonEmpty_of_minLength (by decide) _ _ _ hhead)
  rw [credentialHead, Regex.concat] at hhead
  have hedge := isEdge_front (by decide) hhead
  exact hedge

lemma secretShape_credential : SecretShape credentialPattern where
  plain := by decide
  nonEmpty := nonEmpty_of_minLength (by decide)
  begins {c} h := by
    have hname : credentialPattern.begins c
        = (false || (true && (credentialName.begins c || false)) || false) := rfl
    rw [hname] at h
    exact begins_credentialName (by simpa using h)
  front prev m next h _ := isEdge_credential h
  behind prev s e h c hc hword := by
    have hvalue := ((greedy_rep isValueChar 1).seq (.opt bearerWord)).seq credentialHead
      prev s e h c hc
    rw [isWord_of_not_isValueChar hvalue] at hword
    cases hword
  inserted prev b c s hrepl z := by
    rintro ⟨m, rest, hm, head, value, rfl, hhead, -⟩
    rw [List.append_assoc] at hm
    obtain ⟨d, hd, hseparator⟩ := exists_separator hhead
    have hin := (prefix_redacted hrepl hm (hhead.not_mem (by decide))).1 d hd
    have hnone : redacted.all (fun d => !among (py ":=") d) = true := by decide
    have hnot := List.all_eq_true.mp hnone d hin
    rw [hseparator] at hnot
    cases hnot
  survives {prev next next' k m c} hk h hc := by
    obtain ⟨head, value, hm, hhead, hvalue⟩ := h
    obtain ⟨k, rfl, rfl⟩ := exists_append_of_not_mem hm (hhead.not_mem (by decide))
    obtain ⟨word, token, hm', hword, htoken⟩ := hvalue
    have hbracket : ofChar '[' ∉ word := hword.not_mem (by decide)
    obtain ⟨k, rfl, rfl⟩ := exists_append_of_not_mem hm' hbracket
    refine ⟨head, word ++ k ++ [c], by simp only [List.append_assoc], ?_, word, k ++ [c],
      by rw [List.append_assoc], ?_, ?_⟩
    · exact hhead.of_not_ahead (by decide)
    · exact hword.of_not_ahead (by decide)
    · refine ⟨by simp, fun d hd => ?_⟩
      rcases List.mem_append.mp hd with hd | hd
      · exact htoken.2 d (List.mem_append_left _ hd)
      · rwa [List.mem_singleton.mp hd]

lemma secretShape_bearer : SecretShape bearerPattern where
  plain := by decide
  nonEmpty := nonEmpty_of_minLength (by decide)
  begins {c} h := by
    have hword : bearerPattern.begins c = (false || (true && (bearerWord.begins c || false))) := rfl
    simp only [hword, bearerWord, litCaseless, py] at h
    simp [Regex.begins, Regex.nullable, Regex.concat] at h
    exact isBearerChar_of_caseless (by decide) h
  front prev m next h _ := by
    rw [bearerPattern, Regex.concat] at h
    exact isEdge_front (by decide) h
  behind prev s e h c hc _ := by
    have htoken := ((greedy_rep (caseless isBearerChar) 12).seq_eps.seq bearerWord).seq .edge
    exact .inr (htoken prev s e h c hc)
  inserted := not_starts_redacted (by decide) (by decide)
  survives _ h _ := (survives_of_chars (by decide) h).elim

lemma secretShape_privateKey : SecretShape privateKeyPattern where
  plain := by decide
  nonEmpty := nonEmpty_of_minLength (by decide)
  begins {c} h := by
    simp only [privateKeyPattern, lit, py] at h
    simp [Regex.begins, Regex.nullable, Regex.concat] at h
    rw [h]
    decide
  front prev m next h hprev := by
    obtain ⟨m₁, m₂, rfl, hm₁, -⟩ := h
    rw [matches_lit_iff.mp hm₁]
    show (isWordAt prev != WordChars.isWord (ofChar '-')) = true
    rw [hprev, isWord_hyphen]
    rfl
  behind prev s e h c _ hword := by
    obtain ⟨m, -, hafter, m₁, m₂, rfl, -, m₃, m₄, rfl, -, m₅, m₆, rfl, hm₅, hm₆⟩ :=
      matches_of_first (by decide) h
    obtain rfl : m₆ = [] := hm₆
    have hlast : e.1 = some (ofChar '-') := by
      rw [hafter, matches_lit_iff.mp hm₅, List.append_nil, after_append, after_append]
      rfl
    left
    show (isWordAt e.1 != WordChars.isWord c) = true
    rw [hlast, hword]
    show (WordChars.isWord (ofChar '-') != true) = true
    rw [isWord_hyphen]
    rfl
  inserted := not_starts_redacted (by decide) (by decide)
  survives _ h _ := (survives_of_chars (by decide) h).elim

lemma secretShape_token : SecretShape tokenPattern where
  plain := by decide
  nonEmpty := nonEmpty_of_minLength (by decide)
  begins {c} h := by
    simp only [tokenPattern, lit, py] at h
    simp [Regex.begins, Regex.nullable, Regex.concat] at h
    rcases h with rfl | rfl
    · decide
    · decide
  front prev m next h _ := by
    rw [tokenPattern, Regex.concat] at h
    exact isEdge_front (by decide) h
  behind prev s e h c hc hword := by
    have hedge := isEdge_behind (by decide) h
    rw [hc] at hedge
    exact .inl hedge
  inserted := not_starts_redacted (by decide) (by decide)
  survives _ h _ := (survives_of_chars (by decide) h).elim

lemma secretShape_long : SecretShape longPattern where
  plain := by decide
  nonEmpty := nonEmpty_of_minLength (by decide)
  begins {c} h := by
    simp [longPattern, Regex.begins, Regex.nullable, Regex.concat] at h
    exact isBearerChar_of_isLongChar h
  front prev m next h _ := by
    rw [longPattern, Regex.concat] at h
    exact isEdge_front (by decide) h
  behind prev s e h c hc hword := by
    have hedge := isEdge_behind (by decide) h
    rw [hc] at hedge
    exact .inl hedge
  inserted := not_starts_redacted (by decide) (by decide)
  survives _ h _ := (survives_of_chars (by decide) h).elim

/-- **Every pattern is of this shape.** -/
theorem secretShape : ∀ q ∈ secretPatterns, SecretShape q := by
  simp only [secretPatterns, List.forall_mem_cons]
  exact ⟨secretShape_credential, secretShape_bearer, secretShape_privateKey, secretShape_token,
    secretShape_long, by simp⟩

end Shapes

end Watchtower
