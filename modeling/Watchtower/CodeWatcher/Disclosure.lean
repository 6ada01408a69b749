import Watchtower.CodeWatcher.Fitting

/-!
# What findings reveal

A finding on a file says on which line which pattern matched, and holds a hash of the line.  Apart
from that hash, nothing of the file's text gets into it.

* `LooksAlike` — two texts that the scanner takes for the same, line by line.
* `SameButLineHash` — two findings that differ in id, time and the hash of the line at most.
* `makeFinding_withContext` — the context is taken over as it is, and decides nothing else.
* **`scanFile_reveals`** — texts that look alike are reported alike.
-/

namespace Watchtower

open Core Py

/-! ## Alike -/

/-- A context without the hash of the line. -/
def withoutLineHash : PyEntries → PyEntries
  | .empty => .empty
  | .entry k v rest =>
      if k = .str (py "line_sha256") then withoutLineHash rest else .entry k v (withoutLineHash rest)

/-- The same lines are skipped, the same pattern is the first to match on each of the others, and
the visitor emits the same. -/
structure LooksAlike [WordData] (settings : Settings) (parse : PyStr → Option (Ast .node))
    (path source source' : PyStr) : Prop where
  comments : (splitLines source).map isComment = (splitLines source').map isComment
  patterns : (splitLines source).map (linePattern settings)
    = (splitLines source').map (linePattern settings)
  emissions : fileAstHits parse path source = fileAstHits parse path source'

section Findings

variable [UnicodeData]

/-- Every field is the same, but for the id, the time, and the hash of the line in the context. -/
structure SameButLineHash (f g : Finding) : Prop where
  fields : { f with id := g.id, timestamp := g.timestamp, context := g.context } = g
  context : withoutLineHash f.context.val = withoutLineHash g.context.val

/-- Two outcomes: alike findings, or the same exception. -/
inductive SameOutcome : Except PyExc Finding → Except PyExc Finding → Prop
  | ok {f g : Finding} (h : SameButLineHash f g) : SameOutcome (.ok f) (.ok g)
  | error (e : PyExc) : SameOutcome (.error e) (.error e)

/-! ## One finding -/

lemma SameButLineHash.key_eq {f g : Finding} (h : SameButLineHash f g) :
    (f.type, f.line) = (g.type, g.line) := by
  rw [← h.fields]

/-- The time of a finding made with a stamp. -/
def Stamp.time (stamp : Stamp) : Timestamp := ⟨.float stamp.now.val, stamp.now.property, rfl⟩

omit [UnicodeData] in
lemma checkContext_of_serializable {context : PyEntries} (h : context.serializable = true) :
    checkContext (.dict context) = .ok ⟨context, h⟩ :=
  dif_pos h

variable [Sha256]

/-- **The context decides nothing but itself.** -/
theorem makeFinding_withContext (stamp stamp' : Stamp) (r : Report) {context : PyEntries}
    (h : r.context.serializable = true) (h' : context.serializable = true) :
    makeFinding stamp' { r with context := context }
      = (fun f => { f with id := stamp'.id, timestamp := stamp'.time, context := ⟨context, h'⟩ })
          <$> makeFinding stamp r := by
  have htime : ∀ stamp : Stamp,
      checkTimestamp (.float (.finite stamp.now.val)) = .ok stamp.time :=
    fun stamp => checkTimestamp_val stamp.time
  simp only [makeFinding, newFinding, Report.args, Finding.init, checkUuid_val, htime,
    checkContext_of_serializable h, checkContext_of_serializable h', ok_bind, map_bind, map_pure]

/-- Reports that differ in the hash of the line come to the same. -/
lemma sameOutcome_makeFinding (stamp stamp' : Stamp) (r : Report) {context : PyEntries}
    (h : r.context.serializable = true) (h' : context.serializable = true)
    (hsame : withoutLineHash r.context = withoutLineHash context) :
    SameOutcome (makeFinding stamp r) (makeFinding stamp' { r with context := context }) := by
  rw [makeFinding_withContext stamp stamp' r h h']
  cases hmade : makeFinding stamp r with
  | error e => exact .error e
  | ok f =>
      -- the finding has its own report's context
      have hself := makeFinding_withContext stamp stamp r h h
      rw [hmade] at hself
      have hcontext : f.context = ⟨r.context, h⟩ := congrArg Finding.context (Except.ok.inj hself)
      refine .ok ⟨rfl, ?_⟩
      rw [hcontext]
      exact hsame

/-! ## All findings of a file -/

/-- Reports of which each is made into the same as its counterpart. -/
def SameReports (r r' : Except PyExc Report) : Prop :=
  ∀ stamp stamp', SameOutcome (r >>= makeFinding stamp) (r' >>= makeFinding stamp')

/-- Reports of the same outcomes make the same findings, up to the same exception. -/
lemma sameFindings_makeFindings (stamps stamps' : ℕ → Stamp)
    {reports reports' : List (Except PyExc Report)} (h : List.Forall₂ SameReports reports reports') :
    ∀ k k', List.Forall₂ SameButLineHash (makeFindings stamps k reports).1
        (makeFindings stamps' k' reports').1 ∧
      (makeFindings stamps k reports).2 = (makeFindings stamps' k' reports').2 := by
  induction h with
  | nil => exact fun _ _ => ⟨.nil, rfl⟩
  | @cons r r' _ _ hr _ ih =>
      intro k k'
      have hsame := hr (stamps k) (stamps' k')
      rw [makeFindings, makeFindings]
      revert hsame
      generalize r >>= makeFinding (stamps k) = outcome
      generalize r' >>= makeFinding (stamps' k') = outcome'
      intro hsame
      cases hsame with
      | ok hfg =>
          obtain ⟨hfindings, hexc⟩ := ih (k + 1) (k' + 1)
          exact ⟨.cons hfg hfindings, hexc⟩
      | error e => exact ⟨.nil, rfl⟩

omit [Sha256] in
/-- Repetitions are left out alike. -/
lemma sameFindings_deduplicateFrom {found found' : List Finding}
    (h : List.Forall₂ SameButLineHash found found') :
    ∀ seen, List.Forall₂ SameButLineHash (deduplicateFrom seen found)
      (deduplicateFrom seen found') := by
  induction h with
  | nil => exact fun _ => .nil
  | cons hfg _ ih =>
      intro seen
      rw [deduplicateFrom, deduplicateFrom, hfg.key_eq]
      split_ifs
      · exact ih seen
      · exact .cons hfg (ih _)

section Scan

variable [WordData]

omit [UnicodeData] [Sha256] in
/-- Lines with the same patterns have the same hits, but for the text. -/
lemma forall₂_regexHitsFrom (settings : Settings) : ∀ {lines lines' : List PyStr},
    lines.map (linePattern settings) = lines'.map (linePattern settings) → ∀ n,
      List.Forall₂ (fun hit hit' => hit.line = hit'.line ∧ hit.pattern = hit'.pattern)
        (regexHitsFrom settings n lines) (regexHitsFrom settings n lines') := by
  intro lines
  induction lines with
  | nil =>
      intro lines' h n
      obtain rfl := List.map_eq_nil_iff.mp h.symm
      exact .nil
  | cons line lines ih =>
      intro lines' h n
      cases lines' with
      | nil => cases h
      | cons line' lines' =>
          rw [List.map_cons, List.map_cons, List.cons.injEq] at h
          rw [regexHitsFrom, regexHitsFrom, h.1]
          cases linePattern settings line' with
          | none => exact ih h.2 (n + 1)
          | some p => exact .cons ⟨rfl, rfl⟩ (ih h.2 (n + 1))

variable [ContentDigest]

omit [WordData] in
/-- Hits that differ in the text of the line are reported alike. -/
lemma sameReports_regexReport (settings : Settings) (path : PyStr) {hit hit' : RegexHit}
    (h : hit.line = hit'.line ∧ hit.pattern = hit'.pattern) :
    SameReports (.ok (regexReport settings path hit)) (.ok (regexReport settings path hit')) := by
  obtain ⟨line, text, pattern⟩ := hit
  obtain ⟨line', text', pattern'⟩ := hit'
  obtain ⟨rfl, rfl⟩ := h
  intro stamp stamp'
  rw [ok_bind, ok_bind]
  refine sameOutcome_makeFinding stamp stamp' (regexReport settings path ⟨line, text, pattern⟩)
    ?_ ?_ ?_
  · simp [regexReport, codeReport, PyTree.serializable_entries]
  · simp [PyTree.serializable_entries]
  · simp [regexReport, codeReport, PyTree.entries, withoutLineHash]

omit [WordData] [ContentDigest] in
lemma sameReports_astReport (settings : Settings) (path : PyStr) (hit : AstHit) :
    SameReports (.ok (astReport settings path hit)) (.ok (astReport settings path hit)) := by
  intro stamp stamp'
  rw [ok_bind, ok_bind]
  refine sameOutcome_makeFinding stamp stamp' (astReport settings path hit) ?_ ?_ rfl
  all_goals simp [astReport, codeReport, PyTree.serializable_entries]

variable {settings : Settings} {parse : PyStr → Option (Ast .node)} {path : PyStr}
  {content content' : Bytes}

lemma sameFindings_scanFileRegex (stamps stamps' : ℕ → Stamp)
    (h : LooksAlike settings parse path (decode content) (decode content')) :
    List.Forall₂ SameButLineHash (scanFileRegex settings stamps path (decode content)).1
        (scanFileRegex settings stamps' path (decode content')).1 ∧
      (scanFileRegex settings stamps path (decode content)).2
        = (scanFileRegex settings stamps' path (decode content')).2 := by
  rw [scanFileRegex_decode, scanFileRegex_decode]
  refine sameFindings_makeFindings stamps stamps' ?_ 0 0
  rw [List.map_map, List.map_map, List.forall₂_map_left_iff, List.forall₂_map_right_iff]
  exact (forall₂_regexHitsFrom settings h.patterns 0).imp fun _ _ hhits =>
    sameReports_regexReport settings path hhits

omit [ContentDigest] in
lemma sameFindings_scanFileAst (stamps stamps' : ℕ → Stamp)
    (h : LooksAlike settings parse path (decode content) (decode content')) (k : ℕ) :
    List.Forall₂ SameButLineHash (scanFileAst settings parse stamps k path (decode content))
      (scanFileAst settings parse stamps' k path (decode content')) := by
  have hreports : List.Forall₂ SameReports
      ((fileAstHits parse path (decode content)).map fun hit => .ok (astReport settings path hit))
      ((fileAstHits parse path (decode content)).map fun hit => .ok (astReport settings path hit)) := by
    refine List.forall₂_same.mpr fun r hr => ?_
    obtain ⟨hit, -, rfl⟩ := List.mem_map.mp hr
    exact sameReports_astReport settings path hit
  obtain ⟨hfindings, hexc⟩ := sameFindings_makeFindings stamps stamps' hreports k k
  rw [scanFileAst, scanFileAst, ← h.emissions]
  revert hfindings hexc
  generalize makeFindings stamps k _ = made
  generalize makeFindings stamps' k _ = made'
  obtain ⟨found, exc⟩ := made
  obtain ⟨found', exc'⟩ := made'
  rintro hfindings (rfl : exc = exc')
  cases exc with
  | none => exact hfindings
  | some e => exact .nil

/-- **Texts that look alike are reported alike.**  Every field of every finding is the same, but for
the id, the time and the hash of the line; so is the exception that ends the scan. -/
theorem scanFile_reveals (settings : Settings) (parse : PyStr → Option (Ast .node))
    (stamps stamps' : ℕ → Stamp) (path : PyStr) {calls calls' : SnapshotCalls}
    {content content' : Bytes} (hread : calls.content = some content)
    (hread' : calls'.content = some content')
    (h : LooksAlike settings parse path (decode content) (decode content')) :
    List.Forall₂ SameButLineHash (scanFile settings parse stamps path calls).findings
        (scanFile settings parse stamps' path calls').findings ∧
      (scanFile settings parse stamps path calls).caught
        = (scanFile settings parse stamps' path calls').caught := by
  obtain ⟨hregex, hexc⟩ := sameFindings_scanFileRegex stamps stamps' h
  have hast := sameFindings_scanFileAst stamps stamps' h
  simp only [scanFile, hread, hread', scanContent]
  revert hregex hexc
  generalize scanFileRegex settings stamps path (decode content) = made
  generalize scanFileRegex settings stamps' path (decode content') = made'
  obtain ⟨found, exc⟩ := made
  obtain ⟨found', exc'⟩ := made'
  rintro hregex (rfl : exc = exc')
  cases exc with
  | some e => exact ⟨sameFindings_deduplicateFrom hregex [], rfl⟩
  | none =>
      refine ⟨sameFindings_deduplicateFrom ?_ [], rfl⟩
      have hlen : found.length = found'.length := hregex.length_eq
      rw [hlen]
      exact List.rel_append hregex (hast found'.length)

end Scan

end Findings

section Sample

attribute [local instance] asciiData latinWords pathDigest sampleContentDigest

/-- A pattern is known by its title. -/
lemma linePattern_eq_of_title {settings : Settings} {line line' : PyStr}
    (h : (linePattern settings line).map SecurityPattern.title
      = (linePattern settings line').map SecurityPattern.title) :
    linePattern settings line = linePattern settings line' := by
  have hmem : ∀ {line p}, linePattern settings line = some p → p ∈ securityPatterns := by
    intro line p hp
    unfold linePattern at hp
    split_ifs at hp
    exact List.mem_of_find?_eq_some hp
  have hnodup : (securityPatterns.map SecurityPattern.title).Nodup := by
    simp only [securityPatterns, List.map_cons, List.map_nil]
    exact nodup_literals [_, _, _, _, _, _, _, _, _, _, _, _, _, _, _, _] (by decide)
  cases hp : linePattern settings line with
  | none =>
      rw [hp, Option.map_none, eq_comm, Option.map_eq_none_iff] at h
      exact h.symm
  | some p =>
      rw [hp, Option.map_some, eq_comm, Option.map_eq_some_iff] at h
      obtain ⟨p', hp', htitle⟩ := h
      rw [hp', List.inj_on_of_nodup_map hnodup (hmem hp') (hmem hp) htitle]

/-- Another call to `eval`. -/
def otherContent : Bytes := encode (py "eval(secret)")

/-- Two files that differ in what is evaluated. -/
theorem scanFile_reveals_evaluated :
    List.Forall₂ SameButLineHash
        (scanFile codeSettings (fun _ => none) (fun _ => sampleStamp) (py "/srv/auth/a.py")
          (.undisturbed evalContent)).findings
        (scanFile codeSettings (fun _ => none) (fun _ => sampleStamp) (py "/srv/auth/a.py")
          (.undisturbed otherContent)).findings ∧
      (scanFile codeSettings (fun _ => none) (fun _ => sampleStamp) (py "/srv/auth/a.py")
          (.undisturbed evalContent)).caught
        = (scanFile codeSettings (fun _ => none) (fun _ => sampleStamp) (py "/srv/auth/a.py")
            (.undisturbed otherContent)).caught := by
  have halike : LooksAlike codeSettings (fun _ => none) (py "/srv/auth/a.py") (decode evalContent)
      (decode otherContent) :=
    { comments := by decide +kernel
      patterns := by
        have hlines : splitLines (decode evalContent) = [py "eval(x)"] := by decide +kernel
        have hlines' : splitLines (decode otherContent) = [py "eval(secret)"] := by decide +kernel
        rw [hlines, hlines', List.map_singleton, List.map_singleton,
          linePattern_eq_of_title (show (linePattern codeSettings (py "eval(x)")).map _
            = (linePattern codeSettings (py "eval(secret)")).map _ by decide +kernel)]
      emissions := rfl }
  exact scanFile_reveals codeSettings _ _ _ _ content_evalContent
    (content_undisturbed (by decide)) halike

end Sample

end Watchtower
