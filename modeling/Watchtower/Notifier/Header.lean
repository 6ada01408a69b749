import Watchtower.Notifier.Clean

/-!
# Headers of private keys

The pattern for the header of a private key asks for blanks.  `_sanitize` tries it before it folds
white space, so a header with a tab or a line break in it is only made by the folding.

* `SpacedHeader`, `HeaderWithin` — such a header, and one that the cut does not reach.
* **`occurs_take_foldSpace_iff`** — where the folding leaves the header of a private key.
-/

namespace Watchtower

open Core Core.Regex Py

section Header

variable [WordData]

/-- The header of a private key, with any run of white space for a blank. -/
def SpacedHeader (m : PyStr) : Prop :=
  ∃ gap between gap',
    m = py "-----BEGIN" ++ (gap ++ (between ++ (py "PRIVATE" ++ (gap' ++ py "KEY-----")))) ∧
      (gap ≠ [] ∧ ∀ c ∈ gap, isSpace c = true) ∧
      (∀ c ∈ between, (isHeaderChar c || isSpace c) = true) ∧
      gap' ≠ [] ∧ ∀ c ∈ gap', isSpace c = true

omit [WordData] in
lemma isSpace_of_all {w : PyStr} (h : w.all (fun c => !isSpace c) = true) :
    ∀ c ∈ w, isSpace c = false := by
  simpa using h

lemma matches_privateKey_iff {m : PyStr} {prev next : Option PyChar} :
    Matches privateKeyPattern prev m next ↔
      ∃ between, m = py "-----BEGIN" ++ ofChar ' ' :: (between ++
          (py "PRIVATE" ++ ofChar ' ' :: py "KEY-----")) ∧
        ∀ c ∈ between, isHeaderChar c = true := by
  have h₁ : py "-----BEGIN " = py "-----BEGIN" ++ [ofChar ' '] := by decide
  have h₂ : py "PRIVATE KEY-----" = py "PRIVATE" ++ ofChar ' ' :: py "KEY-----" := by decide
  constructor
  · rintro ⟨m₁, m₂, rfl, hm₁, m₃, m₄, rfl, ⟨-, hbetween⟩, m₅, m₆, rfl, hm₅, hnil⟩
    obtain rfl : m₆ = [] := hnil
    refine ⟨m₃, ?_, hbetween⟩
    rw [matches_lit_iff.mp hm₁, matches_lit_iff.mp hm₅, h₁, h₂]
    simp
  · rintro ⟨between, rfl, hbetween⟩
    refine ⟨py "-----BEGIN ", between ++ py "PRIVATE KEY-----", by rw [h₁, h₂]; simp,
      matches_lit_iff.mpr rfl, between, py "PRIVATE KEY-----", rfl, ⟨Nat.zero_le _, hbetween⟩,
      py "PRIVATE KEY-----", [], by simp, matches_lit_iff.mpr rfl, rfl⟩

omit [WordData] in
/-- White space in place of the blanks of a header. -/
lemma SpacedHeader.of_expands {between m : PyStr}
    (hbetween : ∀ c ∈ between, isHeaderChar c = true)
    (h : Expands isSpace (py "-----BEGIN" ++ ofChar ' ' :: (between ++
      (py "PRIVATE" ++ ofChar ' ' :: py "KEY-----"))) m) : SpacedHeader m := by
  have hrun : ∀ {s t : PyStr}, Expands isSpace (ofChar ' ' :: s) t → ∃ run t', t = run ++ t' ∧
      (run ≠ [] ∧ ∀ c ∈ run, isSpace c = true) ∧ Expands isSpace s t' := by
    intro s t h
    cases h with
    | keep hblank _ => exact absurd hblank (by decide)
    | run _ hne hrun rest => exact ⟨_, _, rfl, ⟨hne, hrun⟩, rest⟩
  obtain ⟨t₁, t₂, rfl, h₁, h₂⟩ := h.exists_append
  obtain ⟨gap, t₃, rfl, hgap, h₃⟩ := hrun h₂
  obtain ⟨t₄, t₅, rfl, h₄, h₅⟩ := h₃.exists_append
  obtain ⟨t₆, t₇, rfl, h₆, h₇⟩ := h₅.exists_append
  obtain ⟨gap', t₈, rfl, hgap', h₈⟩ := hrun h₇
  rw [h₁.eq_of_word (isSpace_of_all (by decide)), h₆.eq_of_word (isSpace_of_all (by decide)),
    h₈.eq_of_word (isSpace_of_all (by decide))]
  refine ⟨gap, t₄, gap', rfl, hgap, h₄.forall_mem (.inl fun c hc => ?_) fun c hc => ?_, hgap'⟩
  · rw [hc, Bool.or_true]
  · rw [hbetween c hc, Bool.true_or]

omit [WordData] in
/-- Folded, it is a header. -/
lemma SpacedHeader.exists_folded {s m : PyStr} (hm : SpacedHeader m) (hs : Tidy s)
    (h : Expands isSpace s m) :
    ∃ between, s = py "-----BEGIN" ++ ofChar ' ' :: (between ++
        (py "PRIVATE" ++ ofChar ' ' :: py "KEY-----")) ∧
      ∀ c ∈ between, isHeaderChar c = true := by
  obtain ⟨gap, between, gap', rfl, ⟨hne, hgap⟩, hbetween, hne', hgap'⟩ := hm
  obtain ⟨s₁, rfl, h₁⟩ := h.exists_word (isSpace_of_all (by decide))
  have hP : py "PRIVATE" = ofChar 'P' :: py "RIVATE" := by decide
  have hK : py "KEY-----" = ofChar 'K' :: py "EY-----" := by decide
  rw [← List.append_assoc gap, hP, List.cons_append] at h₁
  obtain ⟨s₂, s₃, rfl, h₂, h₃⟩ := h₁.exists_keep (by decide)
  obtain ⟨s₄, rfl, h₄⟩ := h₃.exists_word (isSpace_of_all (by decide))
  rw [hK] at h₄
  obtain ⟨s₅, s₆, rfl, h₅, h₆⟩ := h₄.exists_keep (by decide)
  obtain ⟨s₇, rfl, h₇⟩ := h₆.exists_word (w := py "EY-----") (t := []) (isSpace_of_all (by decide))
  obtain rfl := h₇.eq_nil
  -- white space is folded to blanks, the header's own to one of them
  have hone : ∀ c ∈ s₂ ++ s₅, isSpace c = true → c = ofChar ' ' := by
    intro c hc hspace
    refine (hs.mem (c := c) ?_).resolve_left (by rw [hspace]; decide)
    rcases List.mem_append.mp hc with hc | hc <;> simp [hc]
  have hblank : ∀ c ∈ s₅, c = ofChar ' ' := by
    intro c hc
    refine hone c (List.mem_append_right _ hc) ?_
    by_contra hword
    exact hword (hgap' c (h₅.mem hc (by simpa using hword)))
  obtain rfl : s₅ = [ofChar ' '] := by
    cases s₅ with
    | nil =>
        cases h₅
        exact absurd rfl hne'
    | cons c s₅ =>
        cases s₅ with
        | nil => rw [hblank c List.mem_cons_self]
        | cons d s₅ =>
            have hd := hs.not_double (u := py "-----BEGIN" ++ (s₂ ++ ofChar 'P' :: py "RIVATE"))
              (v := s₅ ++ ofChar 'K' :: (py "EY-----" ++ [])) (c := c) (d := d) (by simp)
              (by rw [hblank c List.mem_cons_self]; decide)
            rw [hblank d (by simp)] at hd
            exact absurd hd (by decide)
  obtain ⟨g, gap, rfl⟩ := List.exists_cons_of_ne_nil hne
  have hg : isSpace g = true := hgap g List.mem_cons_self
  obtain ⟨s₂, rfl⟩ : ∃ rest, s₂ = ofChar ' ' :: rest := by
    cases s₂ with
    | nil => cases h₂
    | cons c s₂ =>
        have hc : isSpace c = true := h₂.blank_head hg
        exact ⟨s₂, by rw [hone c (by simp) hc]⟩
  refine ⟨s₂, by rw [hP, hK]; simp, fun c hc => ?_⟩
  cases hspace : isSpace c with
  | true =>
      rw [hone c (by simp [hc]) hspace]
      decide
  | false =>
      rcases List.mem_append.mp (h₂.mem (List.mem_cons_of_mem _ hc) hspace) with hmem | hmem
      · rw [hgap c hmem] at hspace
        cases hspace
      · simpa [hspace] using hbetween c hmem

omit [WordData] in
lemma SpacedHeader.exists_ends {m : PyStr} (hm : SpacedHeader m) :
    ∃ m', m = ofChar '-' :: (m' ++ [ofChar '-']) := by
  obtain ⟨gap, between, gap', rfl, -⟩ := hm
  refine ⟨py "----BEGIN" ++ (gap ++ (between ++ (py "PRIVATE" ++ (gap' ++ py "KEY----")))), ?_⟩
  have hfirst : py "-----BEGIN" = ofChar '-' :: py "----BEGIN" := by decide
  have hlast : py "KEY-----" = py "KEY----" ++ [ofChar '-'] := by decide
  rw [hfirst, hlast]
  simp

/-- A header whose end is among the first characters of the folded text. -/
def HeaderWithin (maxLen : ℕ) (text : PyStr) : Prop :=
  ∃ before header rest, text = before ++ (header ++ rest) ∧ SpacedHeader header ∧
    (foldSpace (before ++ header)).length ≤ maxLen

/-- **Where folding brings about the header of a private key.** -/
lemma occurs_take_foldSpace_iff {maxLen : ℕ} {text : PyStr} :
    Occurs privateKeyPattern none ((foldSpace text).take maxLen) ↔ HeaderWithin maxLen text := by
  obtain ⟨lead, body, trail, hs, hbody, hlead, htrail⟩ := exists_expands text
  have htidy := tidy_foldSpace text
  have hhyphen : isSpace (ofChar '-') = false := by decide
  constructor
  · rintro ⟨b, _, hb, m, rest, rfl, hm⟩
    obtain ⟨between, hheader, hbetween⟩ := matches_privateKey_iff.mp hm
    have hfold : foldSpace text = b ++ (m ++ (rest ++ (foldSpace text).drop maxLen)) := by
      conv_lhs => rw [← List.take_append_drop maxLen (foldSpace text), hb]
      simp only [List.append_assoc]
    have hlen : (b ++ m).length ≤ maxLen := by
      have htake := congrArg List.length hb
      rw [List.length_take] at htake
      simp only [List.length_append] at htake ⊢
      omega
    rw [hfold] at hbody htidy
    obtain ⟨b', t, rfl, hb', ht⟩ := hbody.exists_append
    obtain ⟨m', r, rfl, hm', -⟩ := ht.exists_append
    have hspaced := SpacedHeader.of_expands hbetween (hheader ▸ hm')
    refine ⟨lead ++ b', m', r ++ trail, by rw [hs]; simp only [List.append_assoc], hspaced, ?_⟩
    obtain ⟨m₀, rfl⟩ : ∃ m₀, m = m₀ ++ [ofChar '-'] := by
      have hlast : py "KEY-----" = py "KEY----" ++ [ofChar '-'] := by decide
      refine ⟨py "-----BEGIN" ++ ofChar ' ' :: (between ++ (py "PRIVATE" ++
        ofChar ' ' :: py "KEY----")), ?_⟩
      rw [hheader, hlast]
      simp
    have hkept : Tidy (b ++ (m₀ ++ [ofChar '-'])) := by
      rw [← List.append_assoc b, ← List.append_assoc b, List.append_assoc _ [_]] at htidy
      rw [← List.append_assoc]
      exact htidy.of_append hhyphen
    rw [List.append_assoc, foldSpace_blank_append hlead, hkept.foldSpace_of_expands (hb'.append hm')]
    exact hlen
  · rintro ⟨before, header, rest, htext, hheader, hlen⟩
    obtain ⟨m, rfl⟩ := hheader.exists_ends
    rw [hs] at htext
    -- the header begins behind the white space at the front, and ends before that at the end
    obtain ⟨b', rfl, htext₁⟩ := exists_of_lead hlead hhyphen htext
    obtain ⟨r, rfl, htext₂⟩ := exists_of_trail htrail hhyphen htext₁
    have htext₃ : r ++ trail = m ++ ofChar '-' :: rest := by simpa using htext₂.symm
    obtain ⟨r, rfl, rfl⟩ := exists_of_trail htrail hhyphen htext₃
    obtain ⟨s₁, s₂, hfold, h₁, h₂⟩ := hbody.exists_keep hhyphen
    obtain ⟨s₂, s₃, rfl, h₂, h₃⟩ := h₂.exists_keep hhyphen
    have hword : Expands isSpace [ofChar '-'] [ofChar '-'] := .keep hhyphen .nil
    have hheader' : Expands isSpace (ofChar '-' :: (s₂ ++ [ofChar '-']))
        (ofChar '-' :: (m ++ [ofChar '-'])) := .keep hhyphen (h₂.append hword)
    have hbefore : Tidy (s₁ ++ ofChar '-' :: (s₂ ++ [ofChar '-'])) := by
      rw [hfold, ← List.cons_append, ← List.append_assoc] at htidy
      simpa using htidy.of_append hhyphen
    have hlen' : (s₁ ++ ofChar '-' :: (s₂ ++ [ofChar '-'])).length ≤ maxLen := by
      rwa [List.append_assoc, foldSpace_blank_append hlead,
        hbefore.foldSpace_of_expands (h₁.append hheader')] at hlen
    obtain ⟨between, hfolded, hbetween⟩ := hheader.exists_folded (hbefore.suffix hhyphen) hheader'
    have hsplit : foldSpace text = s₁ ++ ofChar '-' :: (s₂ ++ [ofChar '-']) ++ s₃ := by
      rw [hfold]
      simp
    rw [hsplit, List.take_append, List.take_of_length_le hlen', List.append_assoc]
    exact ⟨s₁, _, rfl, _, _, rfl, matches_privateKey_iff.mpr ⟨between, hfolded, hbetween⟩⟩

end Header

end Watchtower
