import Watchtower.Notifier.Shapes
import Watchtower.Notifier.Tidy

/-!
# Clean texts

What the substitutions of `_sanitize` and the folding leave behind.

* **`redact_not_occurs`** — after the five substitutions none of the patterns occurs.
* **`normalize_not_occurs`** — after the folding none does but the header of a private key.
* `isControl_normalize`, `normalize_ne_nil_iff`, `normalize_of_clean` — the text before the cut.
-/

namespace Watchtower

open Core Core.Regex Py

section Clean

variable [WordData]

/-! ## Redaction -/

lemma isWordAt_ascii {c : PyChar} (hascii : c.val < 128)
    (h : (isAsciiAlnum c || c == ofChar '_') = false) : isWordAt (some c) = false := by
  show WordChars.isWord c = false
  rw [isWord_ascii hascii, h]

/-- **A substitution brings about no match of a pattern.** -/
theorem SecretShape.carry {p q : Regex PyChar} (hp : SecretShape p) (hq : SecretShape q)
    {prev prev' : Option PyChar} {x y : PyStr} (h : Subst p redacted prev x y)
    (hcompat : Compat q prev prev' x) (hstarts : Starts q prev' y) : Starts q prev x := by
  have hredacted : redacted = ofChar '[' :: py "REDACTED]" := by decide
  obtain ⟨m, a, rfl, hm⟩ := hstarts
  by_cases hbracket : ofChar '[' ∈ m
  · -- the match reaches into an insertion, or up to a bracket of the text
    obtain ⟨k, m, rfl, hk⟩ := List.eq_append_cons_of_mem hbracket
    rw [List.append_assoc] at h
    obtain ⟨a', rfl, hhead⟩ := h.kept hredacted hk
    have hvalue : ∃ c t, a' = c :: t ∧ isValueChar c = true := by
      rcases hhead with hsame | ⟨-, hfirst⟩
      · obtain ⟨t, ht⟩ := List.head?_eq_some_iff.mp hsame
        exact ⟨_, t, ht, by decide⟩
      · obtain ⟨e, he⟩ := Option.isSome_iff_exists.mp hfirst
        obtain ⟨w, rfl, -, hw⟩ := matches_of_first hp.plain he
        obtain ⟨c, w, rfl⟩ := List.exists_cons_of_ne_nil (hp.nonEmpty _ _ _ hw)
        exact ⟨c, w ++ e.2, rfl, isValueChar_of_isBearerChar (hp.begins hw.begins)⟩
    obtain ⟨c, t, rfl, hc⟩ := hvalue
    have hbefore : Matches q prev' (k ++ [c]) t.head? := hq.survives hk hm hc
    have htext : k ++ c :: t = k ++ [c] ++ t := by rw [List.append_assoc, List.singleton_append]
    obtain ⟨d, l, hl⟩ := List.exists_cons_of_ne_nil (List.concat_ne_nil c k)
    refine ⟨k ++ [c], t, htext, hbefore.mono ?_ ?_⟩
    · intro hedge
      rw [hl] at hedge ⊢
      rcases hcompat d (by rw [htext, hl]; rfl) hedge with hkept | hnever
      · exact hkept
      · refine absurd ⟨k ++ [c], t, ?_, hbefore⟩ (hnever prev' (l ++ t))
        rw [hl, List.cons_append]
    · rw [after_append, after_append]
      exact id
  · exact h.starts hredacted (isWordAt_ascii (by decide) (by decide)) hp.plain hp.nonEmpty
      hp.front hcompat (hq.nonEmpty _ _ _ hm) hbracket hm

/-- What does not occur, or is replaced, does not occur after the substitution. -/
lemma SecretShape.not_occurs_sub {p q : Regex PyChar} (hp : SecretShape p) (hq : SecretShape q)
    {s : PyStr} (h : q = p ∨ ¬ Occurs q none s) : ¬ Occurs q none (p.sub redacted s) := by
  refine Subst.not_occurs hp.plain hq.nonEmpty (fun hsub => hp.carry hq hsub) hq.inserted ?_
    (subst_sub hp.plain hp.nonEmpty s) ?_ none (Compat.refl none s)
  · intro prev s e hfirst prev' c hc hedge
    have hword : WordChars.isWord c = true := by
      have hlast : after prev' redacted = some (ofChar ']') := rfl
      have hclosing : isWordAt (some (ofChar ']')) = false := isWordAt_ascii (by decide) (by decide)
      rw [isEdge, hlast, hclosing] at hedge
      simpa [isWordAt] using hedge
    refine (hp.behind prev s e hfirst c hc hword).imp id fun hnot before rest hstarts => ?_
    rw [hq.begins (hstarts.begins hq.nonEmpty)] at hnot
    cases hnot
  · intro b c t hs hnone hstarts
    rcases h with rfl | habsent
    · exact (first_eq_none_iff hq.plain).mp hnone hstarts
    · exact habsent ⟨b, c :: t, hs, hstarts⟩

/-- **No pattern occurs in redacted text.** -/
theorem redact_not_occurs {q : Regex PyChar} (hq : q ∈ secretPatterns) (s : PyStr) :
    ¬ Occurs q none (redact s) := by
  have hloop : ∀ (ps : List (Regex PyChar)) (s : PyStr), (∀ p ∈ ps, SecretShape p) →
      q ∈ ps ∨ ¬ Occurs q none s →
      ¬ Occurs q none (ps.foldl (fun text pattern => pattern.sub redacted text) s) := by
    intro ps
    induction ps with
    | nil => exact fun s _ h => h.resolve_left (List.not_mem_nil)
    | cons p ps ih =>
        intro s hps h
        refine ih (p.sub redacted s) (fun x hx => hps x (List.mem_cons_of_mem p hx)) ?_
        have hp := hps p List.mem_cons_self
        rcases h with hmem | habsent
        · rcases List.mem_cons.mp hmem with rfl | hmem
          · exact .inr (hp.not_occurs_sub hp (.inl rfl))
          · exact .inl hmem
        · exact .inr (hp.not_occurs_sub (secretShape q hq) (.inr habsent))
  exact hloop secretPatterns s secretShape (.inl hq)

/-! ## White space -/

omit [WordData] in
lemma blankFree_litCaseless {s : PyStr} (h : s.all (fun d => !isSpace d) = true) :
    (litCaseless s).BlankFree isSpace := by
  induction s with
  | nil => trivial
  | cons d s ih =>
      rw [List.all_cons, Bool.and_eq_true, Bool.not_eq_true'] at h
      refine ⟨fun c hc => ?_, ih h.2⟩
      rw [caseless, isSpace_foldCase hc, beq_eq_false_iff_ne]
      rintro rfl
      rw [hc] at h
      cases h.1

omit [WordData] in
lemma blankFree_lit {s : PyStr} (h : s.all (fun d => !isSpace d) = true) :
    (lit s).BlankFree isSpace := by
  induction s with
  | nil => trivial
  | cons d s ih =>
      rw [List.all_cons, Bool.and_eq_true, Bool.not_eq_true'] at h
      refine ⟨fun c hc => ?_, ih h.2⟩
      rw [beq_eq_false_iff_ne]
      rintro rfl
      rw [hc] at h
      cases h.1

omit [WordData] in
/-- White space is not among other characters. -/
lemma not_among_of_isSpace {s : PyStr} (h : s.all (fun d => !isSpace d) = true) {c : PyChar}
    (hc : isSpace c = true) : among s c = false := by
  rw [among, ← Bool.not_eq_true, List.contains_iff_mem]
  intro hmem
  have hnot := List.all_eq_true.mp h c hmem
  rw [hc] at hnot
  cases hnot

omit [WordData] in
lemma not_bearer_of_isSpace {c : PyChar} (hc : isSpace c = true) :
    caseless isBearerChar c = false := by
  by_contra h
  rw [isSpace_of_isBearerChar (by simpa using h)] at hc
  cases hc

omit [WordData] in
lemma not_alnum_of_isSpace {c : PyChar} (hc : isSpace c = true) : isAsciiAlnum c = false := by
  simp only [isSpace, decide_eq_true_eq] at hc
  simp only [isAsciiAlnum, decide_eq_false_iff_not]
  omega

omit [WordData] in
lemma blankFree_compound {first second : String}
    (h₁ : (py first).all (fun d => !isSpace d) = true)
    (h₂ : (py second).all (fun d => !isSpace d) = true) :
    (compound first second).BlankFree isSpace :=
  ⟨blankFree_litCaseless h₁, ⟨fun _ hc => not_among_of_isSpace (by decide) hc, trivial⟩,
    blankFree_litCaseless h₂, trivial⟩

omit [WordData] in
lemma blankFree_bearerWord : bearerWord.BlankFree isSpace :=
  ⟨blankFree_litCaseless (by decide), .inl fun _ hc => hc⟩

omit [WordData] in
lemma blankFree_credentialName : credentialName.BlankFree isSpace :=
  ⟨blankFree_litCaseless (by decide), blankFree_compound (by decide) (by decide),
    blankFree_compound (by decide) (by decide), blankFree_compound (by decide) (by decide),
    blankFree_litCaseless (by decide), blankFree_litCaseless (by decide),
    blankFree_litCaseless (by decide)⟩

omit [WordData] in
/-- All patterns but the header of a private key read white space by the run. -/
lemma blankFree {q : Regex PyChar} (hq : q ∈ secretPatterns) (hne : q ≠ privateKeyPattern) :
    q.BlankFree isSpace := by
  simp only [secretPatterns, List.mem_cons, List.not_mem_nil, or_false] at hq
  rcases hq with rfl | rfl | rfl | rfl | rfl
  · exact ⟨⟨trivial, blankFree_credentialName, trivial, .inl fun _ hc => hc,
      fun _ hc => not_among_of_isSpace (by decide) hc, .inl fun _ hc => hc, trivial⟩,
      ⟨blankFree_bearerWord, trivial⟩, .inr fun c hc => by simp [isValueChar, hc]⟩
  · exact ⟨trivial, blankFree_bearerWord, .inr fun _ hc => not_bearer_of_isSpace hc, trivial⟩
  · exact absurd rfl hne
  · refine ⟨trivial, ⟨⟨blankFree_lit (by decide), fun c hc => not_among_of_isSpace (by decide) hc,
      blankFree_lit (by decide), .inr fun c hc => not_alnum_of_isSpace hc, trivial⟩,
      blankFree_lit (by decide), .inr fun c hc => ?_, trivial⟩, trivial, trivial⟩
    rw [isKeyChar, not_alnum_of_isSpace hc, not_among_of_isSpace (by decide) hc]
    rfl
  · refine ⟨trivial, .inr fun c hc => ?_, trivial, trivial⟩
    rw [isLongChar, not_alnum_of_isSpace hc, not_among_of_isSpace (by decide) hc]
    rfl

/-- **Folding brings back no pattern but the header of a private key.** -/
theorem normalize_not_occurs {q : Regex PyChar} (hq : q ∈ secretPatterns)
    (hne : q ≠ privateKeyPattern) (s : PyStr) : ¬ Occurs q none (normalize s) := by
  intro h
  obtain ⟨lead, body, trail, hs, hbody, hlead, htrail⟩ :=
    exists_expands (redact (s.filter fun c => !isControl c))
  have hbefore := h.of_expands (fun c hc => isWord_space hc) (blankFree hq hne) hbody hlead htrail
  rw [← hs] at hbefore
  exact redact_not_occurs hq _ hbefore

/-! ## The text before the cut -/

/-- Redaction writes the mark and what was there. -/
lemma mem_redact {s : PyStr} {c : PyChar} (hc : c ∈ redact s) : c ∈ redacted ∨ c ∈ s := by
  have hloop : ∀ (ps : List (Regex PyChar)) (t : PyStr), (∀ p ∈ ps, SecretShape p) →
      c ∈ ps.foldl (fun text pattern => pattern.sub redacted text) t → c ∈ redacted ∨ c ∈ t := by
    intro ps
    induction ps with
    | nil => exact fun t _ h => .inr h
    | cons p ps ih =>
        intro t hps h
        have hp := hps p List.mem_cons_self
        rcases ih (p.sub redacted t) (fun x hx => hps x (List.mem_cons_of_mem p hx)) h with h | h
        · exact .inl h
        · exact (subst_sub hp.plain hp.nonEmpty t).mem hp.plain h
  exact hloop secretPatterns s secretShape hc

/-- No control character comes back. -/
lemma isControl_normalize {s : PyStr} {c : PyChar} (hc : c ∈ normalize s) :
    isControl c = false := by
  rcases mem_foldSpace hc with rfl | h
  · decide
  · rcases mem_redact h with h | h
    · have hvisible : redacted.all (fun d => !isControl d) = true := by decide
      simpa using List.all_eq_true.mp hvisible c h
    · simpa using List.of_mem_filter h

/-- Redaction leaves white space alone, and makes none. -/
lemma redact_blank_iff {s : PyStr} :
    (∀ c ∈ redact s, isSpace c = true) ↔ ∀ c ∈ s, isSpace c = true := by
  have hloop : ∀ (ps : List (Regex PyChar)) (t : PyStr), (∀ p ∈ ps, SecretShape p) →
      ((∀ c ∈ ps.foldl (fun text pattern => pattern.sub redacted text) t, isSpace c = true) ↔
        ∀ c ∈ t, isSpace c = true) := by
    intro ps
    induction ps with
    | nil => exact fun t _ => Iff.rfl
    | cons p ps ih =>
        intro t hps
        have hp := hps p List.mem_cons_self
        rw [List.foldl_cons, ih _ (fun x hx => hps x (List.mem_cons_of_mem p hx))]
        constructor
        · intro h
          exact (subst_sub hp.plain hp.nonEmpty t).forall_of_forall
            ⟨ofChar '[', by decide, by decide⟩ h
        · intro h
          rw [sub_of_not_occurs hp.plain hp.nonEmpty]
          · exact h
          · rintro ⟨b, rest, rfl, hstarts⟩
            cases rest with
            | nil =>
                obtain ⟨m, rest, hm, hmatch⟩ := hstarts
                exact hp.nonEmpty _ _ _ hmatch (List.append_eq_nil_iff.mp hm.symm).1
            | cons c rest =>
                have hspace := h c (List.mem_append_right b List.mem_cons_self)
                rw [isSpace_of_isBearerChar (hp.begins (hstarts.begins hp.nonEmpty))] at hspace
                cases hspace
  exact hloop secretPatterns s secretShape

lemma normalize_ne_nil_iff {s : PyStr} :
    normalize s ≠ [] ↔ ∃ c ∈ s, isControl c = false ∧ isSpace c = false := by
  rw [normalize, Ne, foldSpace_eq_nil, redact_blank_iff]
  simp

/-- Text in which nothing is found is not changed. -/
lemma normalize_of_clean {s : PyStr} (hcontrol : ∀ c ∈ s, isControl c = false)
    (hclean : ∀ q ∈ secretPatterns, ¬ Occurs q none s) (htidy : Tidy s) : normalize s = s := by
  have hloop : ∀ ps : List (Regex PyChar), (∀ p ∈ ps, p ∈ secretPatterns) →
      ps.foldl (fun text pattern => pattern.sub redacted text) s = s := by
    intro ps
    induction ps with
    | nil => exact fun _ => rfl
    | cons p ps ih =>
        intro hps
        have hmem := hps p List.mem_cons_self
        have hp := secretShape p hmem
        rw [List.foldl_cons, sub_of_not_occurs hp.plain hp.nonEmpty (hclean p hmem)]
        exact ih fun x hx => hps x (List.mem_cons_of_mem p hx)
  have hkept : s.filter (fun c => !isControl c) = s := by
    rw [List.filter_eq_self]
    intro c hc
    rw [hcontrol c hc]
    rfl
  rw [normalize, hkept, redact, hloop secretPatterns (fun p hp => hp), htidy.foldSpace_eq]

end Clean

end Watchtower
