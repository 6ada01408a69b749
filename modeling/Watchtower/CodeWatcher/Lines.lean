import Watchtower.CodeWatcher.Fitting

/-!
# Lines

`_scan_file_regex` numbers the lines of `str.splitlines`, the walk over the syntax tree has those
of Python's parser.  They are not the same: the parser breaks lines at line feeds and carriage
returns only.  `scan_file` compares them when it drops repeated findings.

The patterns are tried on one line at a time, so one that is written for several lines never
matches.

* `breaksBefore` — the line breaks that are complete before a position.
* **`breaksBefore_splitLines`** — those of `str.splitlines` number its lines.
* `parserLine` — the line of a position for the parser.
* **`lines_agree_iff`** — the two numbers agree, and a call that both scanners report appears
  once, exactly when nothing but line feeds and carriage returns breaks a line before it.
* `formFeed_reported_twice` — a form feed before a call of `eval`.
* **`missingAuth_never_reported`** — no line shows a route without its decorator.
-/

namespace Watchtower

open Core Py

/-! ## Line breaks -/

/-- The line breaks that are complete before a position.  A carriage return and the line feed after
it are one break, complete behind the line feed. -/
def breaksBefore (isBreak : PyChar → Bool) : PyStr → ℕ → ℕ
  | _, 0 => 0
  | [], _ + 1 => 0
  | c :: s, p + 1 =>
      (if isBreak c && !(c == 13 && s.head? == some 10) then 1 else 0) + breaksBefore isBreak s p

lemma breaksBefore_cons (isBreak : PyChar → Bool) {c : PyChar} {s : PyStr}
    (h : ∀ t, c = 13 → s = 10 :: t → False) (p : ℕ) :
    breaksBefore isBreak (c :: s) (p + 1)
      = (if isBreak c then 1 else 0) + breaksBefore isBreak s p := by
  have hpair : (c == 13 && s.head? == some 10) = false := by
    rw [Bool.and_eq_false_iff, or_iff_not_imp_left]
    intro hc
    have hcr : c = 13 := by simpa using hc
    cases s with
    | nil => rfl
    | cons d t =>
        have hd : d ≠ 10 := by
          rintro rfl
          exact h t hcr rfl
        simpa using hd
  simp only [breaksBefore, hpair, Bool.not_false, Bool.and_true]

/-- **The line breaks of `str.splitlines` number its lines.** -/
theorem breaksBefore_splitLines (s : PyStr) : ∀ {earlier later : List PyStr} {line : PyStr} {j : ℕ},
    splitLines s = earlier ++ line :: later → j < line.length →
    breaksBefore isLineBreak s (earlier.flatten.length + j) = earlier.length := by
  induction s using splitLines.induct with
  | case1 =>
      intro earlier later line j h
      simp [splitLines] at h
  | case2 s ih =>
      intro earlier later line j h hj
      rw [splitLines] at h
      cases earlier with
      | nil =>
          obtain ⟨rfl, -⟩ := List.cons_eq_cons.mp h
          -- not even between its two characters is the break complete
          have hj' : j = 0 ∨ j = 1 := by
            simp only [List.length_cons, List.length_nil] at hj
            omega
          rcases hj' with rfl | rfl
          · rfl
          · simp [breaksBefore]
      | cons first earlier =>
          obtain ⟨rfl, hrest⟩ := List.cons_eq_cons.mp h
          have hlater := ih hrest hj
          have hpos : ([13, 10] :: earlier).flatten.length + j
              = earlier.flatten.length + j + 1 + 1 := by
            simp only [List.flatten_cons, List.length_append, List.length_cons, List.length_nil]
            omega
          have hbreak : isLineBreak 10 = true := by decide
          rw [hpos, breaksBefore, breaksBefore_cons _ (by intro t h10; cases h10), hlater]
          simp [hbreak, Nat.add_comm]
  | case3 c s hcr hbreak ih =>
      intro earlier later line j h hj
      rw [splitLines, if_pos hbreak] at h
      · cases earlier with
        | nil =>
            obtain ⟨rfl, -⟩ := List.cons_eq_cons.mp h
            obtain rfl : j = 0 := by simpa using hj
            rfl
        | cons first earlier =>
            obtain ⟨rfl, hrest⟩ := List.cons_eq_cons.mp h
            have hlater := ih hrest hj
            have hpos : ([c] :: earlier).flatten.length + j = earlier.flatten.length + j + 1 := by
              simp only [List.flatten_cons, List.length_append, List.length_cons, List.length_nil]
              omega
            rw [hpos, breaksBefore_cons _ hcr, if_pos hbreak, hlater, List.length_cons, Nat.add_comm]
      · exact hcr
  | case4 c s hcr hbreak hlines ih =>
      intro earlier later line j h hj
      rw [splitLines, if_neg hbreak, hlines] at h
      · cases earlier with
        | nil =>
            obtain ⟨rfl, -⟩ := List.cons_eq_cons.mp h
            obtain rfl : j = 0 := by simpa using hj
            rfl
        | cons first earlier => simp at h
      · exact hcr
  | case5 c s hcr hbreak first lines hlines ih =>
      intro earlier later line j h hj
      rw [splitLines, if_neg hbreak, hlines] at h
      · cases earlier with
        | nil =>
            obtain ⟨rfl, hrest⟩ := List.cons_eq_cons.mp h
            cases j with
            | zero => rfl
            | succ j =>
                have hfirst := @ih [] lines first j hlines (Nat.lt_of_succ_lt_succ hj)
                simp only [List.flatten_nil, List.length_nil, Nat.zero_add] at hfirst ⊢
                rw [breaksBefore_cons _ hcr, if_neg hbreak, hfirst]
        | cons cfirst earlier =>
            obtain ⟨rfl, hrest⟩ := List.cons_eq_cons.mp h
            have hsplit : splitLines s = (first :: earlier) ++ line :: later := by
              rw [hlines, hrest]
              rfl
            have hlater := ih hsplit hj
            have hpos : ((c :: first) :: earlier).flatten.length + j
                = (first :: earlier).flatten.length + j + 1 := by
              simp only [List.flatten_cons, List.length_append, List.length_cons]
              omega
            rw [hpos, breaksBefore_cons _ hcr, if_neg hbreak, hlater, Nat.zero_add]
            rfl
      · exact hcr

/-! ## The parser's lines -/

/-- The characters at which Python's parser ends a line. -/
def isNewline (c : PyChar) : Bool := c == 10 || c == 13

/-- The line of a position for Python's parser. -/
def parserLine (source : PyStr) (p : ℕ) : ℕ := breaksBefore isNewline source p + 1

/-- Nothing breaks a line before the position but line feeds and carriage returns. -/
def PlainBefore (source : PyStr) (p : ℕ) : Prop :=
  ∀ c ∈ source.take p, isLineBreak c = true → isNewline c = true

lemma isLineBreak_of_isNewline {c : PyChar} (h : isNewline c = true) : isLineBreak c = true := by
  simp only [isNewline, Bool.or_eq_true, beq_iff_eq] at h
  rcases h with rfl | rfl <;> decide

lemma plainBefore_cons {c : PyChar} {s : PyStr} {p : ℕ} :
    PlainBefore (c :: s) (p + 1) ↔
      (isLineBreak c = true → isNewline c = true) ∧ PlainBefore s p := by
  simp only [PlainBefore, List.take_succ_cons, List.mem_cons, forall_eq_or_imp]

/-- The two counts differ by the other line breaks. -/
lemma breaksBefore_eq_iff (s : PyStr) : ∀ p,
    breaksBefore isNewline s p ≤ breaksBefore isLineBreak s p ∧
      (breaksBefore isLineBreak s p = breaksBefore isNewline s p ↔ PlainBefore s p) := by
  induction s with
  | nil =>
      intro p
      cases p <;> simp [breaksBefore, PlainBefore]
  | cons c s ih =>
      intro p
      cases p with
      | zero => simp [breaksBefore, PlainBefore]
      | succ p =>
          obtain ⟨hle, hiff⟩ := ih p
          rw [plainBefore_cons]
          by_cases hnewline : isNewline c = true
          · -- both break the line here
            simp only [breaksBefore, hnewline, isLineBreak_of_isNewline hnewline, Bool.true_and,
              imp_self, true_and, Nat.add_left_cancel_iff, Nat.add_le_add_iff_left]
            exact ⟨hle, hiff⟩
          · have hcr : ∀ t, c = 13 → s = 10 :: t → False := by
              rintro t rfl -
              exact hnewline (by decide)
            rw [breaksBefore_cons _ hcr, breaksBefore_cons _ hcr, if_neg hnewline]
            by_cases hbreak : isLineBreak c = true
            · rw [if_pos hbreak]
              refine ⟨by omega, ⟨fun h => by omega, fun h => absurd (h.1 hbreak) hnewline⟩⟩
            · rw [if_neg hbreak, ← hiff]
              exact ⟨by omega, ⟨fun h => ⟨fun hb => absurd hb hbreak, by omega⟩, fun h => by omega⟩⟩

/-! ## The lines of the hits -/

/-- The position lies on the line of a hit. -/
def RegexHit.Covers (source : PyStr) (hit : RegexHit) (p : ℕ) : Prop :=
  ∃ earlier later j, splitLines source = earlier ++ hit.text :: later ∧
    hit.line.val = earlier.length + 1 ∧ j < hit.text.length ∧ p = earlier.flatten.length + j

/-- **The number of a hit's line is the parser's** for every position on it before which nothing
else breaks a line. -/
lemma RegexHit.line_eq_parserLine_iff {source : PyStr} {hit : RegexHit} {p : ℕ}
    (h : hit.Covers source p) : hit.line.val = parserLine source p ↔ PlainBefore source p := by
  obtain ⟨earlier, later, j, hsplit, hline, hj, rfl⟩ := h
  rw [hline, parserLine, Nat.add_right_cancel_iff, ← breaksBefore_splitLines source hsplit hj]
  exact (breaksBefore_eq_iff source _).2

/-! ## Repeated findings -/

section Reports

variable [UnicodeData]

lemma mem_of_mem_deduplicateFrom {f : Finding} {found : List Finding} : ∀ {seen},
    f ∈ deduplicateFrom seen found → f ∈ found ∧ (f.type, f.line) ∉ seen := by
  induction found with
  | nil =>
      intro seen h
      cases h
  | cons g found ih =>
      intro seen h
      rw [deduplicateFrom] at h
      split_ifs at h with hg
      · exact ⟨List.mem_cons_of_mem _ (ih h).1, (ih h).2⟩
      · rcases List.mem_cons.mp h with rfl | h
        · exact ⟨List.mem_cons_self, hg⟩
        · obtain ⟨hmem, hseen⟩ := ih h
          exact ⟨List.mem_cons_of_mem _ hmem, fun hf => hseen (List.mem_cons_of_mem _ hf)⟩

/-- Every type and line that was found is kept once. -/
lemma exists_deduplicateFrom {f : Finding} {found : List Finding} : ∀ {seen},
    f ∈ found → (f.type, f.line) ∉ seen →
      ∃ g ∈ deduplicateFrom seen found, g.type = f.type ∧ g.line = f.line := by
  induction found with
  | nil =>
      intro seen h
      cases h
  | cons g found ih =>
      intro seen h hseen
      rw [deduplicateFrom]
      by_cases hsame : (g.type, g.line) = (f.type, f.line)
      · rw [Prod.mk.injEq] at hsame
        rw [if_neg (by rw [hsame.1, hsame.2]; exact hseen)]
        exact ⟨g, List.mem_cons_self, hsame⟩
      · have hmem : f ∈ found := by
          rcases List.mem_cons.mp h with rfl | h
          · exact absurd rfl hsame
          · exact h
        split_ifs with hg
        · exact ih hmem hseen
        · have hseen' : (f.type, f.line) ∉ (g.type, g.line) :: seen := by
            rw [List.mem_cons, not_or]
            exact ⟨Ne.symm hsame, hseen⟩
          obtain ⟨x, hx, hkey⟩ := ih hmem hseen'
          exact ⟨x, List.mem_cons_of_mem _ hx, hkey⟩

/-- No two of those that are kept have the same type and line. -/
lemma pairwise_deduplicateFrom (found : List Finding) : ∀ seen,
    (deduplicateFrom seen found).Pairwise fun f g => (f.type, f.line) ≠ (g.type, g.line) := by
  induction found with
  | nil => exact fun _ => List.Pairwise.nil
  | cons f found ih =>
      intro seen
      rw [deduplicateFrom]
      split_ifs with hf
      · exact ih seen
      · refine List.pairwise_cons.mpr ⟨fun g hg hkey => ?_, ih _⟩
        exact (mem_of_mem_deduplicateFrom hg).2 (hkey ▸ List.mem_cons_self)

/-- The findings that report a call under one of two lines. -/
def callFindings (line line' : Option LineNo) (findings : List Finding) : List Finding :=
  findings.filter fun f => f.type == .evalUsage && (f.line == line || f.line == line')

/-- Of two findings about a call one is kept exactly when they are about one line. -/
lemma length_callFindings_eq_one_iff {found : List Finding} {f g : Finding} (hf : f ∈ found)
    (hg : g ∈ found) (hft : f.type = .evalUsage) (hgt : g.type = .evalUsage) :
    (callFindings f.line g.line (deduplicateFrom [] found)).length = 1 ↔ f.line = g.line := by
  have hmem : ∀ h, h ∈ callFindings f.line g.line (deduplicateFrom [] found) ↔
      h ∈ deduplicateFrom [] found ∧ h.type = .evalUsage ∧
        (h.line = f.line ∨ h.line = g.line) := by
    intro h
    simp [callFindings]
  obtain ⟨f', hf', hft', hfl'⟩ := exists_deduplicateFrom hf (List.not_mem_nil (a := _))
  obtain ⟨g', hg', hgt', hgl'⟩ := exists_deduplicateFrom hg (List.not_mem_nil (a := _))
  have hkept := (hmem f').mpr ⟨hf', hft'.trans hft, Or.inl hfl'⟩
  have hkept' := (hmem g').mpr ⟨hg', hgt'.trans hgt, Or.inr hgl'⟩
  constructor
  · intro hone
    obtain ⟨x, hx⟩ := List.length_eq_one_iff.mp hone
    rw [hx, List.mem_singleton] at hkept hkept'
    rw [← hfl', ← hgl', hkept, hkept']
  · intro hsame
    -- all that are kept have one key, and no two have the same
    have hpairwise := (pairwise_deduplicateFrom found []).sublist
      (List.filter_sublist (p := fun h => h.type == .evalUsage &&
        (h.line == f.line || h.line == g.line)))
    change (callFindings f.line g.line (deduplicateFrom [] found)).Pairwise _ at hpairwise
    have hkey : ∀ h ∈ callFindings f.line g.line (deduplicateFrom [] found),
        (h.type, h.line) = (FindingType.evalUsage, f.line) := by
      intro h hh
      obtain ⟨-, ht, hl⟩ := (hmem h).mp hh
      rw [← hsame, or_self] at hl
      rw [ht, hl]
    revert hkept hpairwise hkey
    cases callFindings f.line g.line (deduplicateFrom [] found) with
    | nil =>
        intro hkept
        cases hkept
    | cons x xs =>
        intro _ hpairwise hkey
        cases xs with
        | nil => rfl
        | cons y ys =>
            have hne := (List.pairwise_cons.mp hpairwise).1 y List.mem_cons_self
            exact absurd ((hkey x (by simp)).trans (hkey y (by simp)).symm) hne

end Reports

section Calls

variable [UnicodeData] [Sha256] [WordData] [ContentDigest] (settings : Settings)
  (parse : PyStr → Option (Ast .node)) (stamps : ℕ → Stamp) (path : PyStr) (content : Bytes)

/-- `_scan_file_regex` reports a call of `eval` or `exec` on the line of a position. -/
def RegexReports (p : ℕ) (f : Finding) : Prop :=
  f ∈ (scanFileRegex settings stamps path (decode content)).1 ∧ f.type = .evalUsage ∧
    ∃ hit ∈ regexHits settings (decode content), hit.Covers (decode content) p ∧
      f.line = some hit.line

/-- `_scan_file_ast` reports such a call, under the line the parser gives to the position. -/
def AstReports (p : ℕ) (g : Finding) : Prop :=
  (scanFileRegex settings stamps path (decode content)).2 = none ∧
    g ∈ scanFileAst settings parse stamps
      (scanFileRegex settings stamps path (decode content)).1.length path (decode content) ∧
    g.type = .evalUsage ∧ ∃ n : LineNo, n.val = parserLine (decode content) p ∧ g.line = some n

variable {settings parse stamps path content}

/-- Both findings are among those that `scan_file` goes through. -/
lemma findings_of_reports {p : ℕ} {f g : Finding}
    (hf : RegexReports settings stamps path content p f)
    (hg : AstReports settings parse stamps path content p g) :
    ∃ found, f ∈ found ∧ g ∈ found ∧
      (scanContent settings parse stamps path content).findings = deduplicateFrom [] found := by
  obtain ⟨hmem, -⟩ := hf
  obtain ⟨hnone, hmem', -⟩ := hg
  cases hscan : scanFileRegex settings stamps path (decode content) with
  | mk found caught =>
      rw [hscan] at hmem hmem' hnone
      obtain rfl : caught = none := hnone
      refine ⟨_, List.mem_append_left _ hmem, List.mem_append_right _ hmem', ?_⟩
      simp only [scanContent, hscan]

end Calls

/-- **When the two scanners agree on a line.**  The number `_scan_file_regex` gives to a position is
the parser's, and a call that both scanners report there is reported once, exactly when nothing but
line feeds and carriage returns breaks a line before it. -/
theorem lines_agree_iff [UnicodeData] [Sha256] [WordData] [ContentDigest] (settings : Settings)
    (parse : PyStr → Option (Ast .node)) (stamps : ℕ → Stamp) (path : PyStr) :
    (∀ source, ∀ hit ∈ regexHits settings source, ∀ p, hit.Covers source p →
        (hit.line.val = parserLine source p ↔ PlainBefore source p)) ∧
      ∀ content p f g, RegexReports settings stamps path content p f →
        AstReports settings parse stamps path content p g →
          ((callFindings f.line g.line
              (scanContent settings parse stamps path content).findings).length = 1 ↔
            PlainBefore (decode content) p) := by
  refine ⟨fun source hit _ p hcovers => hit.line_eq_parserLine_iff hcovers, ?_⟩
  intro content p f g hf hg
  obtain ⟨found, hmem, hmem', hfindings⟩ := findings_of_reports hf hg
  obtain ⟨-, hft, hit, -, hcovers, hfl⟩ := hf
  obtain ⟨-, -, hgt, n, hn, hgl⟩ := hg
  rw [hfindings, length_callFindings_eq_one_iff hmem hmem' hft hgt, hfl, hgl, Option.some.injEq,
    Subtype.ext_iff, hn]
  exact hit.line_eq_parserLine_iff hcovers

/-! ## A form feed -/

section Sample

attribute [local instance] asciiData latinWords pathDigest sampleContentDigest

/-- A call of `eval` after a form feed. -/
def formFeedContent : Bytes := encode (py "x = 1\n\x0cy = eval(z)\n")

/-- What `ast.parse` makes of it: the call is on the second line. -/
def formFeedTree : Ast .node :=
  .other (.cons (.other (.cons (.name (py "x")) (.cons (.constant false) .nil)))
    (.cons (.other (.cons (.name (py "y")) (.cons
      (.call ⟨2, by decide⟩ (.name (py "eval")) (.cons (.name (py "z")) .nil) .noKeyword) .nil)))
      .nil))

/-- What the two scanners find, and report. -/
lemma formFeed_scan :
    ((regexHits codeSettings (decode formFeedContent)).map (fun hit => hit.line.val) = [3] ∧
      parserLine (decode formFeedContent) 11 = 2 ∧
      ((scanContent codeSettings (fun _ => some formFeedTree) (fun _ => sampleStamp)
          (py "/srv/auth/a.py") formFeedContent).findings.map fun f =>
            (f.type, f.line.map Subtype.val)) = [(.evalUsage, some 3), (.evalUsage, some 2)]) ∧
    splitLines (decode formFeedContent)
      = [py "x = 1\n", py "\x0c"] ++ py "y = eval(z)\n" :: [] ∧
    (∃ hit ∈ regexHits codeSettings (decode formFeedContent),
      hit.text = py "y = eval(z)\n" ∧ hit.line.val = 3 ∧
        ∃ f ∈ (scanFileRegex codeSettings (fun _ => sampleStamp) (py "/srv/auth/a.py")
          (decode formFeedContent)).1, f.type = .evalUsage ∧ f.line = some hit.line) ∧
    (scanFileRegex codeSettings (fun _ => sampleStamp) (py "/srv/auth/a.py")
      (decode formFeedContent)).2 = none ∧
    ∃ g ∈ scanFileAst codeSettings (fun _ => some formFeedTree) (fun _ => sampleStamp)
      (scanFileRegex codeSettings (fun _ => sampleStamp) (py "/srv/auth/a.py")
        (decode formFeedContent)).1.length (py "/srv/auth/a.py") (decode formFeedContent),
      g.type = .evalUsage ∧ g.line = some ⟨2, by decide⟩ := by
  decide +kernel

/-- The scanner of lines puts the call on the third line, and it is reported twice. -/
theorem formFeed_reported_twice :
    (regexHits codeSettings (decode formFeedContent)).map (fun hit => hit.line.val) = [3] ∧
      parserLine (decode formFeedContent) 11 = 2 ∧
      ((scanContent codeSettings (fun _ => some formFeedTree) (fun _ => sampleStamp)
          (py "/srv/auth/a.py") formFeedContent).findings.map fun f =>
            (f.type, f.line.map Subtype.val)) = [(.evalUsage, some 3), (.evalUsage, some 2)] :=
  formFeed_scan.1

/-- The hit covers the call. -/
lemma exists_formFeed_hit : ∃ hit ∈ regexHits codeSettings (decode formFeedContent),
    hit.Covers (decode formFeedContent) 11 ∧ ∃ f,
      RegexReports codeSettings (fun _ => sampleStamp) (py "/srv/auth/a.py") formFeedContent 11 f := by
  obtain ⟨-, hlines, ⟨hit, hmem, htext, hline, f, hf, htype, hfline⟩, -⟩ := formFeed_scan
  have hcovers : hit.Covers (decode formFeedContent) 11 :=
    ⟨[py "x = 1\n", py "\x0c"], [], 4, by rw [htext]; exact hlines, hline,
      by rw [htext]; decide, by decide⟩
  exact ⟨hit, hmem, hcovers, f, hf, htype, hit, hmem, hcovers, hfline⟩

/-- The node is that of the call. -/
lemma exists_formFeed_node : ∃ g, AstReports codeSettings (fun _ => some formFeedTree)
    (fun _ => sampleStamp) (py "/srv/auth/a.py") formFeedContent 11 g := by
  obtain ⟨⟨-, hparser, -⟩, -, -, hreturns, g, hg, htype, hline⟩ := formFeed_scan
  exact ⟨g, hreturns, hg, htype, ⟨2, by decide⟩, hparser.symm, hline⟩

theorem lines_agree_formFeed :
    (∃ hit ∈ regexHits codeSettings (decode formFeedContent),
        hit.Covers (decode formFeedContent) 11 ∧
          (hit.line.val = parserLine (decode formFeedContent) 11 ↔
            PlainBefore (decode formFeedContent) 11)) ∧
      ∃ f g, RegexReports codeSettings (fun _ => sampleStamp) (py "/srv/auth/a.py") formFeedContent
          11 f ∧
        AstReports codeSettings (fun _ => some formFeedTree) (fun _ => sampleStamp)
          (py "/srv/auth/a.py") formFeedContent 11 g ∧
        ((callFindings f.line g.line (scanContent codeSettings (fun _ => some formFeedTree)
            (fun _ => sampleStamp) (py "/srv/auth/a.py") formFeedContent).findings).length = 1 ↔
          PlainBefore (decode formFeedContent) 11) := by
  obtain ⟨hit, hmem, hcovers, f, hf⟩ := exists_formFeed_hit
  obtain ⟨g, hg⟩ := exists_formFeed_node
  obtain ⟨hcovered, hreported⟩ := lines_agree_iff codeSettings (fun _ => some formFeedTree)
    (fun _ => sampleStamp) (py "/srv/auth/a.py")
  exact ⟨⟨hit, hmem, hcovers, hcovered _ hit hmem 11 hcovers⟩, f, g, hf, hg,
    hreported formFeedContent 11 f g hf hg⟩

end Sample

/-! ## A pattern over several lines -/

/-- On a line of `str.splitlines` nothing follows a line feed. -/
lemma eq_nil_of_mem_splitLines (s : PyStr) : ∀ {line before after : PyStr},
    line ∈ splitLines s → line = before ++ 10 :: after → after = [] := by
  induction s using splitLines.induct with
  | case1 =>
      intro line before after h
      cases h
  | case2 s ih =>
      intro line before after h hline
      rw [splitLines] at h
      rcases List.mem_cons.mp h with rfl | h
      · rcases before with _ | ⟨c, _ | ⟨d, before⟩⟩
        · simp at hline
        · exact (by simpa using hline : 13 = c ∧ after = []).2
        · simp at hline
      · exact ih h hline
  | case3 c s hcr hbreak ih =>
      intro line before after h hline
      rw [splitLines, if_pos hbreak] at h
      · rcases List.mem_cons.mp h with rfl | h
        · rcases before with _ | ⟨d, before⟩
          · simpa using (List.cons_eq_cons.mp hline).2.symm
          · simp at hline
        · exact ih h hline
      · exact hcr
  | case4 c s hcr hbreak hlines ih =>
      intro line before after h hline
      rw [splitLines, if_neg hbreak, hlines] at h
      · rw [List.mem_singleton.mp h] at hline
        rcases before with _ | ⟨d, before⟩
        · simpa using (List.cons_eq_cons.mp hline).2.symm
        · simp at hline
      · exact hcr
  | case5 c s hcr hbreak first lines hlines ih =>
      intro line before after h hline
      rw [splitLines, if_neg hbreak, hlines] at h
      · rcases List.mem_cons.mp h with rfl | h
        · rcases before with _ | ⟨d, before⟩
          · have hc : c = 10 := (List.cons_eq_cons.mp hline).1
            exact absurd (by rw [hc]; decide) hbreak
          · obtain ⟨-, hfirst⟩ := List.cons_eq_cons.mp hline
            exact ih (by rw [hlines]; exact List.mem_cons_self) hfirst
        · exact ih (by rw [hlines]; exact List.mem_cons_of_mem _ h) hline
      · exact hcr

/-- A match of the pattern has a line feed with `def` after it. -/
lemma lineFeed_of_missingAuth [WordData] {line : PyStr} {prev : Option PyChar}
    (h : missingAuthPattern.search prev line = true) :
    ∃ before after, line = before ++ 10 :: py "def" ++ after := by
  obtain ⟨p, t, ht, hne⟩ := Regex.exists_ends_of_search h
  obtain ⟨e, he⟩ := List.exists_mem_of_ne_nil _ hne
  -- the three parts before the line feed, and the one that begins with it
  obtain ⟨d₁, hd₁, he⟩ := List.mem_flatMap.mp he
  obtain ⟨d₂, hd₂, he⟩ := List.mem_flatMap.mp he
  obtain ⟨d₃, hd₃, he⟩ := List.mem_flatMap.mp he
  obtain ⟨d₄, hd₄, he⟩ := List.mem_flatMap.mp he
  obtain ⟨d₅, hd₅, -⟩ := List.mem_flatMap.mp he
  have hsuffix : d₄.2 <:+ line :=
    (Regex.suffix_of_mem_ends _ hd₄).trans <| (Regex.suffix_of_mem_ends _ hd₃).trans <|
      (Regex.suffix_of_mem_ends _ hd₂).trans <| (Regex.suffix_of_mem_ends _ hd₁).trans ht
  obtain ⟨before, hbefore⟩ := hsuffix
  obtain ⟨m, hm, -, hmatch⟩ := (Regex.mem_ends_iff (plain_lit _)).mp hd₅
  rw [matches_lit_iff] at hmatch
  refine ⟨before, d₅.2, ?_⟩
  rw [← hbefore, hm, hmatch, List.append_assoc]
  rfl

/-- There is one pattern of this type. -/
lemma pattern_eq_missingAuth [WordData] {p : SecurityPattern} (h : p ∈ securityPatterns)
    (htype : p.type = .missingAuthCheck) : p.pattern = missingAuthPattern := by
  have hfilter : securityPatterns.filter (fun p => p.type == .missingAuthCheck)
      = [⟨missingAuthPattern, .missingAuthCheck, .medium,
          py "Route handler potentially missing auth decorator",
          unitDouble 0.55⟩] := rfl
  have hmem : p ∈ securityPatterns.filter fun p => p.type == .missingAuthCheck :=
    List.mem_filter.mpr ⟨h, by rw [htype]; rfl⟩
  rw [hfilter, List.mem_singleton] at hmem
  rw [hmem]

lemma linePattern_ne_missingAuth [WordData] {settings : Settings} {source line : PyStr}
    {p : SecurityPattern} (hline : line ∈ splitLines source)
    (h : linePattern settings line = some p) : p.type ≠ .missingAuthCheck := by
  intro htype
  simp only [linePattern] at h
  split_ifs at h
  have hpattern := pattern_eq_missingAuth (List.mem_of_find?_eq_some h) htype
  have hsearch := List.find?_some h
  rw [Bool.and_eq_true, hpattern] at hsearch
  obtain ⟨before, after, heq⟩ := lineFeed_of_missingAuth hsearch.2
  rw [List.append_assoc, List.cons_append] at heq
  have hnil := eq_nil_of_mem_splitLines source hline heq
  exact List.append_ne_nil_of_left_ne_nil (by decide) _ hnil

lemma hit_ne_missingAuth [WordData] {settings : Settings} {source : PyStr} {hit : RegexHit} :
    ∀ {lines : List PyStr} {n : ℕ}, (∀ line ∈ lines, line ∈ splitLines source) →
      hit ∈ regexHitsFrom settings n lines → hit.pattern.type ≠ .missingAuthCheck := by
  intro lines
  induction lines with
  | nil =>
      intro n _ h
      cases h
  | cons line lines ih =>
      intro n hlines h
      have hrest := fun line h => hlines line (List.mem_cons_of_mem _ h)
      rw [regexHitsFrom] at h
      split at h
      · next p hp =>
          rcases List.mem_cons.mp h with rfl | h
          · exact linePattern_ne_missingAuth (hlines line List.mem_cons_self) hp
          · exact ih hrest h
      · exact ih hrest h

section Findings

variable [UnicodeData] [Sha256]

lemma exists_of_mem_makeFindings {stamps : ℕ → Stamp} {f : Finding} :
    ∀ {reports : List (Except PyExc Report)} {k : ℕ}, f ∈ (makeFindings stamps k reports).1 →
      ∃ r stamp, .ok r ∈ reports ∧ makeFinding stamp r = .ok f := by
  intro reports
  induction reports with
  | nil =>
      intro k h
      cases h
  | cons report reports ih =>
      intro k h
      rw [makeFindings] at h
      split at h
      · next g hg =>
          rcases List.mem_cons.mp h with rfl | h
          · obtain ⟨r, hr, hmade⟩ := bind_eq_ok_iff.mp hg
            exact ⟨r, stamps k, by rw [hr]; exact List.mem_cons_self, hmade⟩
          · obtain ⟨r, stamp, hr, hmade⟩ := ih h
            exact ⟨r, stamp, List.mem_cons_of_mem _ hr, hmade⟩
      · cases h

/-- **No scan reports a route without its decorator**, whatever the source holds: no line that the
pattern is tried on has anything after its line feed. -/
theorem missingAuth_never_reported [WordData] [ContentDigest] (settings : Settings)
    (stamps : ℕ → Stamp) (path source : PyStr) :
    ∀ f ∈ (scanFileRegex settings stamps path source).1, f.type ≠ .missingAuthCheck := by
  intro f hf
  obtain ⟨r, stamp, hr, hmade⟩ := exists_of_mem_makeFindings hf
  obtain ⟨hit, hhit, heq⟩ := List.mem_map.mp hr
  split_ifs at heq
  cases heq
  rw [(newFinding_reportOf hmade).type]
  exact hit_ne_missingAuth (fun _ h => h) hhit

end Findings

section Sample

attribute [local instance] asciiData latinWords pathDigest sampleContentDigest

/-- What a scan does report is something else. -/
theorem missingAuth_never_reported_eval :
    ∃ f ∈ (scanFileRegex codeSettings (fun _ => sampleStamp) (py "/srv/auth/a.py")
      (py "eval(x)")).1, f.type ≠ .missingAuthCheck := by
  have hreported : ((scanFileRegex codeSettings (fun _ => sampleStamp) (py "/srv/auth/a.py")
      (py "eval(x)")).1.map Finding.type) = [.evalUsage] := by
    decide +kernel
  obtain ⟨f, hf, -⟩ := List.mem_map.mp (hreported ▸ List.mem_singleton_self FindingType.evalUsage)
  exact ⟨f, hf, missingAuth_never_reported codeSettings _ _ _ f hf⟩

/-- A route without a decorator. -/
def openRoute : PyStr := py "@app.route('/x')\ndef home():\n    return 1\n"

/-- The pattern matches the text, and the scan of the text finds nothing. -/
theorem openRoute_unreported :
    missingAuthPattern.search none openRoute = true ∧
      ((scanFileRegex codeSettings (fun _ => sampleStamp) (py "/srv/auth/a.py")
        openRoute).1.map Finding.type, (scanFileRegex codeSettings (fun _ => sampleStamp)
        (py "/srv/auth/a.py") openRoute).2) = ([], none) := by
  decide +kernel

end Sample

end Watchtower
