import Watchtower.CodeWatcher.Patterns
import Watchtower.CodeWatcher.Snapshot
import Watchtower.Config.Settings

/-!
# Scanning a file

`scan_file` reads a file once and puts what it finds into findings: the expressions tried on every
line, then, for a Python file, what the walk over its syntax tree emits.

* `inferServiceSystem` — the service a path belongs to.
* `regexHits`, `astHits` — what is found, and where.
* `scanFile` — `scan_file`: the findings it returns, and the exception its `except Exception` logs.
* `ScanComplete` — the call returns all that is found.
* **`scanComplete_iff`** — it does exactly when every report it makes fits the schema.
-/

namespace Watchtower

open Core Py

/-! ## Services -/

/-- The directory after a marker, unless it is blank. -/
def markedService (parts : List PyStr) (marker : PyStr) : Option PyStr :=
  match parts.dropWhile fun part => part != marker with
  | _ :: next :: _ => if strip next = [] then none else some ((strip next).take 200)
  | _ => none

/-- The service of a path. -/
def inferService (path : PyStr) : PyStr :=
  let parts := (PurePath.ofStr path).parts
  match markedService parts (py "services") with
  | some service => service
  | none =>
      match markedService parts (py "components") with
      | some service => service
      | none =>
          let parent := strip (PurePath.ofStr path).parent.name
          (if parent = [] then py "unknown-service" else parent).take 200

/-- `_infer_service_system`. -/
def inferServiceSystem (settings : Settings) (path : PyStr) : PyStr × PyStr :=
  (inferService path, settings.platform)

/-! ## Lines -/

/-- A line the scanner takes for a comment. -/
def isComment (line : PyStr) : Bool :=
  [py "#", py "//", py "*", py "<!--"].any fun start => start.isPrefixOf (strip line)

/-- A pattern that is not switched off. -/
def SecurityPattern.isEnabled (settings : Settings) (p : SecurityPattern) : Bool :=
  p.type != .hardcodedSecret || settings.codeWatcher.secretPatternsEnabled

/-- A line with a match. -/
structure RegexHit where
  line : LineNo
  text : PyStr
  pattern : SecurityPattern

section Regex

variable [WordData] (settings : Settings)

/-- The first enabled pattern that matches a line. -/
def linePattern (line : PyStr) : Option SecurityPattern :=
  if isComment line then none
  else securityPatterns.find? fun p => p.isEnabled settings && p.pattern.search none line

/-- The hits on the lines after the first `n`. -/
def regexHitsFrom : ℕ → List PyStr → List RegexHit
  | _, [] => []
  | n, line :: lines =>
      match linePattern settings line with
      | some p => ⟨⟨n + 1, Nat.succ_pos n⟩, line, p⟩ :: regexHitsFrom (n + 1) lines
      | none => regexHitsFrom (n + 1) lines

/-- The lines of a source on which a pattern matches. -/
def regexHits (source : PyStr) : List RegexHit := regexHitsFrom settings 0 (splitLines source)

end Regex

/-! ## Syntax trees -/

/-- What a tree is a tree of. -/
inductive AstIx
  | node
  | nodes
  | keywords

/-- Python syntax trees, with what the visitor looks at.  The children of any other node are listed
in the order in which `generic_visit` comes to them. -/
inductive Ast : AstIx → Type
  | name (id : PyStr) : Ast .node
  | attr (line : LineNo) (value : Ast .node) (name : PyStr) (load : Bool) : Ast .node
  | call (line : LineNo) (func : Ast .node) (args : Ast .nodes) (keywords : Ast .keywords) : Ast .node
  | constant (isTrue : Bool) : Ast .node
  | other (children : Ast .nodes) : Ast .node
  | nil : Ast .nodes
  | cons (head : Ast .node) (tail : Ast .nodes) : Ast .nodes
  | noKeyword : Ast .keywords
  | keyword (arg : Option PyStr) (value : Ast .node) (rest : Ast .keywords) : Ast .keywords

/-- What the visitor emits at a node. -/
structure AstHit where
  line : LineNo
  node : PyStr
  type : FindingType
  severity : Severity
  title : PyStr
  description : PyStr
  confidence : { q : FiniteFloat // 0 ≤ q.val ∧ q.val ≤ 1 }

/-- The check of `visit_Call` on its callee. -/
def evalHits (line : LineNo) : Ast .node → List AstHit
  | .name id =>
      if id = py "eval" ∨ id = py "exec" then
        [{ line, node := py "Call", type := .evalUsage, severity := .high,
           title := py "eval()/exec() call detected",
           description := py "Direct use of eval()/exec() can execute arbitrary code.",
           confidence := unitDouble 0.88 }]
      else []
  | _ => []

/-- `shell=True` among the keywords. -/
def shellHits (line : LineNo) : Ast .keywords → List AstHit
  | .noKeyword => []
  | .keyword arg (.constant true) rest =>
      (if arg = some (py "shell") then
        [{ line, node := py "Call", type := .suspiciousPattern, severity := .high,
           title := py "subprocess shell=True detected",
           description := py "shell=True allows shell injection via unsanitized input.",
           confidence := unitDouble 0.85 }]
      else []) ++ shellHits line rest
  | .keyword _ _ rest => shellHits line rest

/-- A callee that may start a process. -/
def startsProcess : Ast .node → Bool
  | .attr _ _ name _ => [py "run", py "call", py "Popen"].contains name
  | _ => false

/-- The check of `visit_Attribute` on the object. -/
def dereferenceHits (line : LineNo) : Ast .node → List AstHit
  | .attr _ _ name _ =>
      if [py "password", py "token", py "secret", py "key"].contains name then
        [{ line, node := py "Attribute", type := .nullDereference, severity := .medium,
           title := py "Possible null dereference on sensitive field",
           description := py "Attribute chain on sensitive field '" ++ name ++
             py "' without None guard.",
           confidence := unitDouble 0.55 }]
      else []
  | _ => []

/-- `_ASTVisitor`: what it emits on its way through a tree. -/
def astHits : {i : AstIx} → Ast i → List AstHit
  | _, .name _ => []
  | _, .attr line value _ load =>
      (if load then dereferenceHits line value else []) ++ astHits value
  | _, .call line func args keywords =>
      evalHits line func ++ (if startsProcess func then shellHits line keywords else []) ++
        (astHits func ++ astHits args ++ astHits keywords)
  | _, .constant _ => []
  | _, .other children => astHits children
  | _, .nil => []
  | _, .cons head tail => astHits head ++ astHits tail
  | _, .noKeyword => []
  | _, .keyword _ value rest => astHits value ++ astHits rest

/-- What the visitor finds in a file: nothing when it is not a Python file or not one that
`ast.parse` accepts. -/
def fileAstHits (parse : PyStr → Option (Ast .node)) (path source : PyStr) : List AstHit :=
  if (py ".py").isSuffixOf path then
    match parse source with
    | some tree => astHits tree
    | none => []
  else []

/-! ## Reports -/

section Reports

variable (settings : Settings) (path : PyStr)

/-- What every report on a file has in common. -/
def codeReport (type : FindingType) (severity : Severity) (title description : PyStr)
    (line : Option LineNo) (confidence : { q : FiniteFloat // 0 ≤ q.val ∧ q.val ≤ 1 })
    (context : PyEntries) : Report where
  source := .code
  type := type
  severity := severity
  service := (inferServiceSystem settings path).1
  system := (inferServiceSystem settings path).2
  title := title
  description := description
  file := some path
  line := line.map fun n => (n.val : ℤ)
  confidence := confidence
  context := context

/-- A title with the place it is about. -/
def placedTitle (title : PyStr) (line : LineNo) : PyStr :=
  title ++ py " [" ++ (PurePath.ofStr path).name ++ py ":" ++ decimal line.val ++ py "]"

/-- The report on a line. -/
def regexReport [ContentDigest] (hit : RegexHit) : Report :=
  codeReport settings path hit.pattern.type hit.pattern.severity
    (placedTitle path hit.pattern.title hit.line)
    (py "Security pattern matched in " ++ path ++ py " at line " ++ decimal hit.line.val)
    (some hit.line) hit.pattern.confidence
    (PyTree.entries
      [(py "pattern_type", .str hit.pattern.type.value), (py "file_path", .str path),
        (py "line_sha256", .str (ContentDigest.hexdigest (encode hit.text))),
        (py "evidence", .str (py "[REDACTED]"))])

/-- The report on a node. -/
def astReport (hit : AstHit) : Report :=
  codeReport settings path hit.type hit.severity (placedTitle path hit.title hit.line)
    hit.description (some hit.line) hit.confidence
    (PyTree.entries [(py "ast_node", .str hit.node)])

end Reports

/-! ## The scan -/

section Scan

variable [UnicodeData] [Sha256]

/-- What `new_finding` takes from its surroundings: a fresh id, and the clock. -/
structure Stamp where
  id : Uuid
  now : { q : FiniteFloat // 0 < q.val }

/-- The finding a report is made into. -/
def makeFinding (stamp : Stamp) (report : Report) : Except PyExc Finding :=
  newFinding stamp.id stamp.now.val report.args

/-- The findings made one after the other, and the exception that stops it.  The `k`-th one has the
`k`-th stamp. -/
def makeFindings (stamps : ℕ → Stamp) : ℕ → List (Except PyExc Report) →
    List Finding × Option PyExc
  | _, [] => ([], none)
  | k, report :: reports =>
      match report >>= makeFinding (stamps k) with
      | .ok f =>
          let (found, e) := makeFindings stamps (k + 1) reports
          (f :: found, e)
      | .error e => ([], some e)

/-- The findings of which none of the same type and line comes before. -/
def deduplicateFrom (seen : List (FindingType × Option LineNo)) : List Finding → List Finding
  | [] => []
  | f :: found =>
      if (f.type, f.line) ∈ seen then deduplicateFrom seen found
      else f :: deduplicateFrom ((f.type, f.line) :: seen) found

variable [WordData] [ContentDigest] (settings : Settings) (parse : PyStr → Option (Ast .node))
  (stamps : ℕ → Stamp)

/-- `_scan_file_regex`, and the exception that ends it.  A line is encoded strictly before the
finding is made. -/
def scanFileRegex (path source : PyStr) : List Finding × Option PyExc :=
  makeFindings stamps 0 <| (regexHits settings source).map fun hit =>
    if encodable hit.text then .ok (regexReport settings path hit) else .error .unicodeEncodeError

/-- `_scan_file_ast`: an exception costs all findings of the walk.  The stamps before the `k`-th are
used up. -/
def scanFileAst (k : ℕ) (path source : PyStr) : List Finding :=
  match makeFindings stamps k
      ((fileAstHits parse path source).map fun hit => .ok (astReport settings path hit)) with
  | (found, none) => found
  | (_, some _) => []

/-- What a call of `scan_file` returns, and the exception its `except Exception` logs. -/
structure ScanOutcome where
  findings : List Finding
  caught : Option PyExc

/-- `scan_file`, once the file has been read. -/
def scanContent (path : PyStr) (content : Bytes) : ScanOutcome :=
  let source := decode content
  match scanFileRegex settings stamps path source with
  | (found, some e) => ⟨deduplicateFrom [] found, some e⟩
  | (found, none) =>
      ⟨deduplicateFrom [] (found ++ scanFileAst settings parse stamps found.length path source), none⟩

/-- `scan_file`. -/
def scanFile (path : PyStr) (calls : SnapshotCalls) : ScanOutcome :=
  match calls.content with
  | none => ⟨[], none⟩
  | some content => scanContent settings parse stamps path content

/-! ## Complete scans -/

omit [UnicodeData] [Sha256] in
/-- All there is to report on a file. -/
def scanReports (path source : PyStr) : List Report :=
  (regexHits settings source).map (regexReport settings path) ++
    (fileAstHits parse path source).map (astReport settings path)

/-- A finding made from a report, at some time. -/
def MadeFrom (report : Report) (f : Finding) : Prop := ∃ stamp, makeFinding stamp report = .ok f

/-- The call does not take its `except Exception` branch and returns all there is to report, but for
repetitions of a type on a line. -/
def ScanComplete (path : PyStr) (content : Bytes) (outcome : ScanOutcome) : Prop :=
  outcome.caught = none ∧
    ∃ found, List.Forall₂ MadeFrom (scanReports settings parse path (decode content)) found ∧
      outcome.findings = deduplicateFrom [] found

section Complete

variable {settings : Settings} {parse : PyStr → Option (Ast .node)} {stamps : ℕ → Stamp}

omit [WordData] [ContentDigest] in
/-- A finding is made from a report exactly when the report fits. -/
lemma returns_makeFinding_iff (stamp : Stamp) (report : Report) :
    Returns (makeFinding stamp report) ↔ report.Fits := by
  rw [makeFinding, newFinding_returns_iff, and_iff_left stamp.now.property]

omit [WordData] [ContentDigest] in
lemma fits_of_madeFrom {report : Report} {f : Finding} (h : MadeFrom report f) : report.Fits := by
  obtain ⟨stamp, hmade⟩ := h
  exact (returns_makeFinding_iff stamp report).mp ⟨f, hmade⟩

omit [WordData] [ContentDigest] in
/-- Of reports that all fit, findings are made without an exception. -/
lemma makeFindings_of_fits (stamps : ℕ → Stamp) {reports : List Report}
    (h : ∀ r ∈ reports, r.Fits) : ∀ k, ∃ found, List.Forall₂ MadeFrom reports found ∧
      makeFindings stamps k (reports.map .ok) = (found, none) := by
  induction reports with
  | nil => exact fun _ => ⟨[], .nil, rfl⟩
  | cons r reports ih =>
      intro k
      obtain ⟨f, hf⟩ := (returns_makeFinding_iff (stamps k) r).mpr (h r List.mem_cons_self)
      obtain ⟨found, hfound, hmake⟩ := ih (fun r hr => h r (List.mem_cons_of_mem _ hr)) (k + 1)
      refine ⟨f :: found, .cons ⟨stamps k, hf⟩ hfound, ?_⟩
      simp only [List.map_cons, makeFindings, ok_bind, hf, hmake]

omit [UnicodeData] [Sha256] [ContentDigest] in
lemma text_mem_of_mem_regexHitsFrom {hit : RegexHit} : ∀ {lines : List PyStr} {n : ℕ},
    hit ∈ regexHitsFrom settings n lines → hit.text ∈ lines := by
  intro lines
  induction lines with
  | nil =>
      intro n h
      cases h
  | cons line lines ih =>
      intro n h
      rw [regexHitsFrom] at h
      split at h
      · rcases List.mem_cons.mp h with rfl | h
        · exact List.mem_cons_self
        · exact List.mem_cons_of_mem _ (ih h)
      · exact List.mem_cons_of_mem _ (ih h)

omit [UnicodeData] [Sha256] [ContentDigest] in
/-- A line of a decoded file can be encoded. -/
lemma encodable_of_mem_regexHits {content : Bytes} {hit : RegexHit}
    (h : hit ∈ regexHits settings (decode content)) : encodable hit.text = true := by
  have hline := text_mem_of_mem_regexHitsFrom h
  have hsource := encodable_decode content
  simp only [encodable, List.all_eq_true] at hsource ⊢
  intro c hc
  refine hsource c ?_
  rw [← flatten_splitLines (decode content)]
  exact List.mem_flatten.mpr ⟨hit.text, hline, hc⟩

/-- The encoding of a line never stands in the way. -/
lemma scanFileRegex_decode (path : PyStr) (content : Bytes) :
    scanFileRegex settings stamps path (decode content)
      = makeFindings stamps 0
          (((regexHits settings (decode content)).map (regexReport settings path)).map .ok) := by
  rw [scanFileRegex, List.map_map]
  congr 1
  refine List.map_congr_left fun hit hhit => ?_
  rw [if_pos (encodable_of_mem_regexHits hhit)]
  rfl

/-- **A scan is complete exactly when all of its reports fit the schema.** -/
theorem scanComplete_iff {path : PyStr} {content : Bytes} :
    ScanComplete settings parse path content (scanContent settings parse stamps path content) ↔
      ∀ r ∈ scanReports settings parse path (decode content), r.Fits := by
  constructor
  · rintro ⟨-, found, hfound, -⟩
    have hfits := hfound.imp fun r f hmade => And.intro (fits_of_madeFrom hmade) hmade
    exact ((List.forall₂_and_left _ _).mp hfits).1
  · intro h
    simp only [scanReports, List.mem_append, or_imp, forall_and] at h
    obtain ⟨found, hfound, hregex⟩ := makeFindings_of_fits stamps h.1 0
    obtain ⟨found', hfound', hast⟩ := makeFindings_of_fits stamps h.2 found.length
    rw [List.map_map] at hast
    have hscan : scanContent settings parse stamps path content
        = ⟨deduplicateFrom [] (found ++ found'), none⟩ := by
      simp only [scanContent, scanFileRegex_decode, hregex, scanFileAst]
      rw [show (fun hit => Except.ok (astReport settings path hit))
        = (Except.ok : Report → Except PyExc Report) ∘ astReport settings path from rfl, hast]
    rw [hscan]
    exact ⟨rfl, found ++ found', List.rel_append hfound hfound', rfl⟩

end Complete

end Scan

end Watchtower
