import Watchtower.CodeWatcher.Handler

/-!
# Paths that blind the scanner

A file's path goes into the title, the description, the file and the service of every finding on it,
and the fingerprint encodes it strictly.  A path that exceeds one of the limits, or that holds a byte
that is not UTF-8, makes the construction of the findings raise: `scan_file` then loses what it has
found, and `on_modified` records a failure that stops the service.

* `PathAccepted`, `HitFits` — what the schema asks of a path, and of a hit in it.
* `scanReports_fit_iff`, `modifiedReport_fits_iff` — the reports on a path, in these terms.
* **`path_harmless_iff`** — when neither happens.
* `undecodablePath_loses_findings` — a path for which both do.
-/

namespace Watchtower

open Core Py

/-! ## Services -/

/-- A stripped text begins with something. -/
lemma isSpace_head_strip {s t : PyStr} {c : PyChar} (h : strip s = c :: t) : isSpace c = false := by
  have hprefix : c :: t <+: s.dropWhile isSpace := h ▸ List.rdropWhile_prefix isSpace _
  obtain ⟨rest, hrest⟩ := hprefix
  have hhead := List.head?_dropWhile_not isSpace s
  rw [← hrest] at hhead
  simpa using hhead

lemma strip_take_strip_ne_nil {s : PyStr} (h : strip s ≠ []) (n : ℕ) :
    strip ((strip s).take (n + 1)) ≠ [] := by
  obtain ⟨c, t, hs⟩ := List.exists_cons_of_ne_nil h
  rw [hs, List.take_succ_cons, strip_ne_nil_iff]
  exact ⟨c, List.mem_cons_self, isSpace_head_strip hs⟩

lemma markedService_required {parts : List PyStr} {marker service : PyStr}
    (h : markedService parts marker = some service) : Report.IsRequired 200 service := by
  unfold markedService at h
  split at h
  · split_ifs at h with hblank
    cases h
    exact ⟨strip_take_strip_ne_nil hblank 199, List.length_take_le _ _⟩
  · cases h

/-- The service of a path is never blank or long. -/
lemma inferService_required (path : PyStr) : Report.IsRequired 200 (inferService path) := by
  unfold inferService
  dsimp only
  split
  · next h => exact markedService_required h
  · split
    · next h => exact markedService_required h
    · refine ⟨?_, List.length_take_le _ _⟩
      split_ifs with hblank
      · decide
      · exact strip_take_strip_ne_nil hblank 199

lemma encodable_take_strip {s : PyStr} (h : encodable s = true) (n : ℕ) :
    encodable ((strip s).take n) = true := by
  simp only [encodable, List.all_eq_true] at h ⊢
  intro c hc
  have hstrip := (List.rdropWhile_prefix isSpace _).subset (List.mem_of_mem_take hc)
  exact h c ((List.dropWhile_sublist isSpace).subset hstrip)

lemma markedService_encodable {parts : List PyStr} {marker service : PyStr}
    (h : ∀ part ∈ parts, encodable part = true)
    (hservice : markedService parts marker = some service) : encodable service = true := by
  unfold markedService at hservice
  split at hservice
  · next next rest hdrop =>
      split_ifs at hservice
      cases hservice
      refine encodable_take_strip (h next ?_) 200
      exact (List.dropWhile_sublist _).subset (by rw [hdrop]; simp)
  · cases hservice

/-- The service of a path that can be encoded can be encoded. -/
lemma inferService_encodable {path : PyStr} (h : encodable path = true) :
    encodable (inferService path) = true := by
  have hparts : ∀ part ∈ (PurePath.ofStr path).parts, encodable part = true :=
    fun part hpart => PurePath.encodable_part h hpart
  have hparent : encodable (PurePath.ofStr path).parent.name = true := by
    rw [PurePath.name, PurePath.parent, List.getLastD_eq_getLast?]
    cases hlast : (PurePath.ofStr path).components.dropLast.getLast? with
    | none => rfl
    | some name =>
        exact PurePath.encodable_component h
          ((List.dropLast_sublist _).subset (List.mem_of_getLast? hlast))
  unfold inferService
  dsimp only
  split
  · next hservice => exact markedService_encodable hparts hservice
  · split
    · next hservice => exact markedService_encodable hparts hservice
    · split_ifs
      · decide
      · exact encodable_take_strip hparent 200

/-! ## Reports -/

/-- What the schema asks of a path. -/
structure PathAccepted (settings : Settings) (path : PyStr) : Prop where
  platform : Report.IsRequired 200 settings.platform
  encodable : encodable path = true
  length : path.length ≤ 4096

section Reports

variable {settings : Settings} {path : PyStr}

/-- A report on a file fits when its path is accepted and its texts are short enough. -/
lemma codeReport_fits_iff {type : FindingType} {severity : Severity} {title description : PyStr}
    {line : Option LineNo} {confidence : { q : FiniteFloat // 0 ≤ q.val ∧ q.val ≤ 1 }}
    {context : PyEntries} (htitle : strip title ≠ []) (hdescription : strip description ≠ [])
    (hcontext : context.serializable = true) :
    (codeReport settings path type severity title description line confidence context).Fits ↔
      PathAccepted settings path ∧ title.length ≤ 500 ∧ description.length ≤ 4000 := by
  constructor
  · intro h
    exact ⟨⟨h.system, h.file_encodable, h.file path rfl⟩, h.title.2, h.description.2⟩
  · rintro ⟨haccepted, hlong, hlong'⟩
    exact
      { service := inferService_required path
        system := haccepted.platform
        title := ⟨htitle, hlong⟩
        description := ⟨hdescription, hlong'⟩
        endpoint := by
          rintro s hs
          cases hs
        file := by
          rintro s hs
          cases hs
          exact haccepted.length
        line := by
          intro n hn
          obtain ⟨m, -, rfl⟩ := Option.map_eq_some_iff.mp hn
          exact_mod_cast m.property
        service_encodable := inferService_encodable haccepted.encodable
        endpoint_encodable := rfl
        file_encodable := haccepted.encodable
        context := hcontext }

end Reports

section Places

variable (settings : Settings) (path : PyStr)

/-- What the schema asks of a hit: besides the path, that the title with the place behind it is not
too long. -/
def HitFits (title : PyStr) (line : LineNo) : Prop :=
  PathAccepted settings path ∧
    title.length + (PurePath.ofStr path).name.length + (decimal line.val).length + 4 ≤ 500

/-- What it asks of all the hits in a file.  The description of a matched line holds the path. -/
def ScanFits [WordData] (parse : PyStr → Option (Ast .node)) (source : PyStr) : Prop :=
  (∀ hit ∈ regexHits settings source, HitFits settings path hit.pattern.title hit.line ∧
      path.length + (decimal hit.line.val).length + 37 ≤ 4000) ∧
    ∀ hit ∈ fileAstHits parse path source, HitFits settings path hit.title hit.line

/-- What it asks of a modified file. -/
def ModifiedFits : Prop :=
  PathAccepted settings path ∧ (PurePath.ofStr path).name.length + 15 ≤ 500 ∧
    path.length + 24 ≤ 4000

end Places

section Reports

variable {settings : Settings} {path : PyStr}

lemma length_placedTitle (title : PyStr) (line : LineNo) :
    (placedTitle path title line).length
      = title.length + (PurePath.ofStr path).name.length + (decimal line.val).length + 4 := by
  have h₁ : (py " [").length = 2 := by decide
  have h₂ : (py ":").length = 1 := by decide
  have h₃ : (py "]").length = 1 := by decide
  simp only [placedTitle, List.length_append, h₁, h₂, h₃]
  omega

lemma strip_placedTitle {title : PyStr} (h : strip title ≠ []) (line : LineNo) :
    strip (placedTitle path title line) ≠ [] := by
  simp only [placedTitle, List.append_assoc]
  exact strip_append_ne_nil h _

lemma title_of_mem_securityPatterns [WordData] {p : SecurityPattern} (h : p ∈ securityPatterns) :
    strip p.title ≠ [] := by
  have htitles : ∀ p ∈ securityPatterns, strip p.title ≠ [] := by
    simp only [securityPatterns, List.forall_mem_cons]
    and_intros
    all_goals first
      | exact strip_literal_ne_nil _ _ (by decide)
      | exact fun p hp => absurd hp List.not_mem_nil
  exact htitles p h

lemma pattern_mem_of_mem_regexHitsFrom [WordData] {hit : RegexHit} : ∀ {lines : List PyStr} {n : ℕ},
    hit ∈ regexHitsFrom settings n lines → hit.pattern ∈ securityPatterns := by
  intro lines
  induction lines with
  | nil =>
      intro n h
      cases h
  | cons line lines ih =>
      intro n h
      rw [regexHitsFrom] at h
      split at h
      · next p hp =>
          rcases List.mem_cons.mp h with rfl | h
          · unfold linePattern at hp
            split_ifs at hp
            exact List.mem_of_find?_eq_some hp
          · exact ih h
      · exact ih h

/-- The reports on lines. -/
lemma regexReport_fits_iff [WordData] [ContentDigest] {source : PyStr} {hit : RegexHit}
    (h : hit ∈ regexHits settings source) :
    (regexReport settings path hit).Fits ↔
      HitFits settings path hit.pattern.title hit.line ∧
        path.length + (decimal hit.line.val).length + 37 ≤ 4000 := by
  have htitle := title_of_mem_securityPatterns (pattern_mem_of_mem_regexHitsFrom h)
  have h₁ : (py "Security pattern matched in ").length = 28 := by decide
  have h₂ : (py " at line ").length = 9 := by decide
  rw [regexReport, codeReport_fits_iff (strip_placedTitle htitle hit.line)
    (by simpa only [List.append_assoc] using strip_append_ne_nil (by decide) _)
    (by simp [PyTree.serializable_entries]), length_placedTitle, HitFits, and_assoc]
  simp only [List.length_append, h₁, h₂]
  refine and_congr_right fun _ => and_congr_right fun _ => ?_
  omega

/-- The texts the visitor reports are the scanner's own, but for an attribute from a list. -/
structure AstHit.Fits (hit : AstHit) : Prop where
  title : strip hit.title ≠ []
  description : strip hit.description ≠ [] ∧ hit.description.length ≤ 4000

lemma fits_of_mem_evalHits {line : LineNo} {func : Ast .node} {hit : AstHit}
    (h : hit ∈ evalHits line func) : hit.Fits := by
  unfold evalHits at h
  split at h
  · split_ifs at h
    · have htitle : strip (py "eval()/exec() call detected") ≠ [] := by decide
      have hdescription : strip (py "Direct use of eval()/exec() can execute arbitrary code.") ≠ [] ∧
          (py "Direct use of eval()/exec() can execute arbitrary code.").length ≤ 4000 := by decide
      rw [List.mem_singleton.mp h]
      exact ⟨htitle, hdescription⟩
    · cases h
  · cases h

lemma fits_of_mem_shellHits {line : LineNo} {hit : AstHit} :
    ∀ keywords : Ast .keywords, hit ∈ shellHits line keywords → hit.Fits
  | .noKeyword, h => by simp [shellHits] at h
  | .keyword arg value rest, h => by
      have htitle : strip (py "subprocess shell=True detected") ≠ [] := by decide
      have hdescription :
          strip (py "shell=True allows shell injection via unsanitized input.") ≠ [] ∧
          (py "shell=True allows shell injection via unsanitized input.").length ≤ 4000 := by decide
      unfold shellHits at h
      split at h
      · cases h
      · next harg _ rest' heq =>
          cases heq
          rcases List.mem_append.mp h with h | h
          · split_ifs at h
            · rw [List.mem_singleton.mp h]
              exact ⟨htitle, hdescription⟩
            · cases h
          · exact fits_of_mem_shellHits rest h
      · next heq =>
          cases heq
          exact fits_of_mem_shellHits rest h

lemma fits_of_mem_dereferenceHits {line : LineNo} {value : Ast .node} {hit : AstHit}
    (h : hit ∈ dereferenceHits line value) : hit.Fits := by
  unfold dereferenceHits at h
  split at h
  · next name _ =>
      split_ifs at h with hname
      · have htitle : strip (py "Possible null dereference on sensitive field") ≠ [] := by decide
        rw [List.mem_singleton.mp h]
        refine ⟨htitle, ?_, ?_⟩
        · simpa only [List.append_assoc] using strip_append_ne_nil (by decide) _
        · have hlong : ∀ a ∈ [py "password", py "token", py "secret", py "key"], a.length ≤ 8 := by
            decide
          have hle := hlong name (by simpa using hname)
          have h₁ : (py "Attribute chain on sensitive field '").length = 36 := by decide
          have h₂ : (py "' without None guard.").length = 21 := by decide
          simp only [List.length_append, h₁, h₂]
          omega
      · cases h
  · cases h

/-- Whatever the visitor emits, its texts fit. -/
lemma fits_of_mem_astHits {hit : AstHit} {i : AstIx} (tree : Ast i) (h : hit ∈ astHits tree) :
    hit.Fits := by
  induction tree with
  | name id => cases h
  | attr line value name load ih =>
      rcases List.mem_append.mp h with h | h
      · split_ifs at h
        · exact fits_of_mem_dereferenceHits h
        · cases h
      · exact ih h
  | call line func args keywords ihfunc ihargs ihkeywords =>
      simp only [astHits, List.mem_append] at h
      rcases h with (h | h) | (h | h) | h
      · exact fits_of_mem_evalHits h
      · split_ifs at h
        · exact fits_of_mem_shellHits keywords h
        · cases h
      · exact ihfunc h
      · exact ihargs h
      · exact ihkeywords h
  | constant isTrue => cases h
  | other children ih => exact ih h
  | nil => cases h
  | cons head tail ihhead ihtail =>
      rcases List.mem_append.mp h with h | h
      · exact ihhead h
      · exact ihtail h
  | noKeyword => cases h
  | keyword arg value rest ihvalue ihrest =>
      rcases List.mem_append.mp h with h | h
      · exact ihvalue h
      · exact ihrest h

lemma AstHit.fits_of_mem {parse : PyStr → Option (Ast .node)} {source : PyStr} {hit : AstHit}
    (h : hit ∈ fileAstHits parse path source) : hit.Fits := by
  unfold fileAstHits at h
  split at h
  · split at h
    · exact fits_of_mem_astHits _ h
    · cases h
  · cases h

/-- The reports on nodes. -/
lemma astReport_fits_iff {hit : AstHit} (h : hit.Fits) :
    (astReport settings path hit).Fits ↔ HitFits settings path hit.title hit.line := by
  rw [astReport, codeReport_fits_iff (strip_placedTitle h.title hit.line) h.description.1
    (by simp [PyTree.serializable_entries]), length_placedTitle, HitFits,
    and_iff_left h.description.2]

/-- **The reports of a scan fit when the path is fit for every hit.** -/
theorem scanReports_fit_iff [WordData] [ContentDigest] {parse : PyStr → Option (Ast .node)}
    {source : PyStr} :
    (∀ r ∈ scanReports settings parse path source, r.Fits) ↔
      ScanFits settings path parse source := by
  have hregex : (∀ r ∈ (regexHits settings source).map (regexReport settings path), r.Fits) ↔
      ∀ hit ∈ regexHits settings source, HitFits settings path hit.pattern.title hit.line ∧
        path.length + (decimal hit.line.val).length + 37 ≤ 4000 := by
    rw [List.forall_mem_map]
    exact forall₂_congr fun hit hhit => regexReport_fits_iff hhit
  have hast : (∀ r ∈ (fileAstHits parse path source).map (astReport settings path), r.Fits) ↔
      ∀ hit ∈ fileAstHits parse path source, HitFits settings path hit.title hit.line := by
    rw [List.forall_mem_map]
    exact forall₂_congr fun hit hhit => astReport_fits_iff (AstHit.fits_of_mem hhit)
  rw [scanReports, List.forall_mem_append, hregex, hast, ScanFits]

lemma modifiedReport_fits_iff :
    (modifiedReport settings path).Fits ↔ ModifiedFits settings path := by
  have h₁ : (py "File Modified: ").length = 15 := by decide
  have h₂ : (py "Monitored file changed: ").length = 24 := by decide
  rw [modifiedReport, codeReport_fits_iff (strip_append_ne_nil (by decide) _)
    (strip_append_ne_nil (by decide) _) (by simp [PyTree.serializable_entries]), ModifiedFits]
  simp only [List.length_append, h₁, h₂, Nat.add_comm]

end Reports

/-! ## Handlers -/

/-- Nothing but the sending of a finding has failed. -/
def OnlyEmission (failure : Option HandlerFailure) : Prop :=
  ∀ e, failure = some e → ∃ cause, e = .emission cause

@[simp] lemma onlyEmission_none : OnlyEmission none := by
  rintro e h
  cases h

lemma onlyEmission_map (e : Option PyExc) : OnlyEmission (e.map .emission) := by
  intro failure h
  obtain ⟨cause, -, rfl⟩ := Option.map_eq_some_iff.mp h
  exact ⟨cause, rfl⟩

section Handlers

variable [UnicodeData] [Sha256] [WordData] [ContentDigest] {settings : Settings}
  {parse : PyStr → Option (Ast .node)} {path : PyStr} {hashes : FileHashes}

/-- A watched file has a content whose digest is not the recorded one. -/
def Noticed (settings : Settings) (hashes : FileHashes) (event : FileEvent) (hashRead : SnapshotCalls) :
    Prop :=
  event.isDirectory = false ∧ shouldScan settings event.srcPath (.ok false) = .ok true ∧
    ∃ content, hashRead.content = some content ∧
      hashes.get event.srcPath ≠ some (ContentDigest.hexdigest content)

/-- A modification is reported unless its own finding does not fit. -/
lemma onlyEmission_onModified_iff {event : FileEvent} {calls : HandlerCalls}
    (hregular : calls.symlink = .ok false) :
    OnlyEmission (onModified settings parse hashes event calls).failure ↔
      (Noticed settings hashes event calls.hashRead → ModifiedFits settings event.srcPath) := by
  have hchanged : (hasChanged maxTrackedFiles hashes event.srcPath calls.hashRead).1 = true ↔
      ∃ content, calls.hashRead.content = some content ∧
        hashes.get event.srcPath ≠ some (ContentDigest.hexdigest content) := hasChanged_iff
  unfold Noticed
  rw [← hchanged]
  cases hdirectory : event.isDirectory with
  | true => simp [onModified, hdirectory]
  | false =>
      simp only [onModified, hdirectory, hregular, Bool.false_eq_true, if_false, true_and]
      cases hscan : shouldScan settings event.srcPath (.ok false) with
      | error e =>
          -- a regular file is looked up without an error
          unfold shouldScan at hscan
          split_ifs at hscan
          cases hscan
      | ok scan =>
          cases scan with
          | false => simp
          | true =>
              obtain ⟨changed, hashes'⟩ := hasChanged maxTrackedFiles hashes event.srcPath calls.hashRead
              cases changed with
              | false => simp
              | true =>
                  simp only [true_and, forall_const]
                  rw [← modifiedReport_fits_iff,
                    ← returns_makeFinding_iff calls.fileStamp (modifiedReport settings event.srcPath)]
                  cases hmade : makeFinding calls.fileStamp (modifiedReport settings event.srcPath) with
                  | error e => simp [OnlyEmission]
                  | ok f =>
                      simp only [returns_ok, iff_true]
                      cases calls.emit f with
                      | error e => exact onlyEmission_map (some e)
                      | ok _ => exact onlyEmission_map _

/-- A new file never fails to be reported. -/
lemma onlyEmission_onCreated {event : FileEvent} {calls : HandlerCalls}
    (hregular : calls.symlink = .ok false) :
    OnlyEmission (onCreated settings parse hashes event calls).failure := by
  unfold onCreated
  split_ifs
  · exact onlyEmission_none
  · rw [hregular]
    unfold shouldScan
    split_ifs
    · cases hignored : isIgnored event.srcPath settings.codeWatcher.ignorePaths with
      | true => simp [Except.map]
      | false => exact onlyEmission_map _
    · exact onlyEmission_none

/-- **When a path neither blinds nor stops the scanner.**  A scan is complete exactly when the path
is fit for each of its hits; a handler records nothing but failures to send exactly when the path of
a modified file that is noticed is fit for the report on it. -/
theorem path_harmless_iff (settings : Settings) (parse : PyStr → Option (Ast .node))
    (stamps : ℕ → Stamp) (path : PyStr) {calls : SnapshotCalls} {content : Bytes}
    (hread : calls.content = some content) (hashes : FileHashes) (isDirectory : Bool)
    {during : HandlerCalls} (hregular : during.symlink = .ok false) :
    (ScanComplete settings parse path content (scanFile settings parse stamps path calls) ↔
        ScanFits settings path parse (decode content)) ∧
      (OnlyEmission (onModified settings parse hashes ⟨isDirectory, path⟩ during).failure ↔
        (Noticed settings hashes ⟨isDirectory, path⟩ during.hashRead →
          ModifiedFits settings path)) ∧
      OnlyEmission (onCreated settings parse hashes ⟨isDirectory, path⟩ during).failure := by
  refine ⟨?_, onlyEmission_onModified_iff hregular, onlyEmission_onCreated hregular⟩
  rw [scanFile, hread, scanComplete_iff, scanReports_fit_iff]

end Handlers

/-! ## A path that is not UTF-8 -/

section Sample

attribute [local instance] asciiData latinWords

/-- SHA-256 on the texts that are hashed for the samples. -/
@[reducible] def pathDigest : Sha256 where
  hexdigest32 text :=
    if text = py "auth||file_modified|/srv/auth/a.py|" then py "cd04e2c4ecec126e4c07d133f56f8483"
    else if text = py "auth||eval_usage|/srv/auth/a.py|1" then py "d03826c1d994dda07f3a2796388b05e1"
    else if text = py "auth||eval_usage|/srv/auth/a.py|2" then py "bba3fc68079e866470da95e56ceb3ee1"
    else if text = py "auth||eval_usage|/srv/auth/a.py|3" then py "2b364784b8dd46cb1d20677336a055d6"
    else py "00000000000000000000000000000000"
  isFingerprint_hexdigest32 text := by
    split_ifs <;> exact isFingerprint_literal _ rfl

/-- The contents and the lines of the samples, and their digests. -/
def contentSamples : List (Bytes × PyStr) :=
  [(encode (py "eval(x)"), py "43aec61ea49223f19b47822e8ea1f3ee301bc5c1568989bbbb8ad86635c9379f"),
    (encode (py "eval(secret)"), py "700e4ff5e38312cb9b7d4add6fcd54d1a26a517d46f95829d53735c996adfce3"),
    (encode (py "y = eval(z)\n"), py "722d59250ab0c117504dc56ba977710758144f0107a2736c12c0625520ef9448"),
    (encode (py "x = 1\n\x0cy = eval(z)\n"),
      py "cdbeaae011ec68590e65bae8507fae5f4f5d0a45d3d0b9b4cbec3f7ab57c5ecb")]

/-- SHA-256 on them; any other content stands for itself. -/
@[reducible] def sampleContentDigest : ContentDigest where
  hexdigest content :=
    match contentSamples.find? fun sample => decide (sample.1 = content) with
    | some sample => sample.2
    | none => 0 :: content.map fun byte => ⟨byte.val, by omega⟩

attribute [local instance] pathDigest sampleContentDigest

def codeSettings : Settings where
  redis := { host := py "redis", password := some (py "correct-horse-battery-staple") }
  notifier :=
    { slackWebhookUrl := none, telegramBotToken := none, telegramChatId := none,
      genericWebhookUrl := none, minAlertSeverity := py "HIGH" }
  apiWatcher :=
    { targetUrls := [], failureThreshold := 3, latencyWarnMs := defaultLatencyWarnMs }
  codeWatcher :=
    { watchPaths := [py "/srv"], watchExtensions := [py ".py"], ignorePaths := [],
      secretPatternsEnabled := true }
  env := py "production"
  platform := py "multi-service-platform"

def sampleStamp : Stamp where
  id := sampleApiId
  now := ⟨sampleClock, sampleClock_pos⟩

/-- A call to `eval`. -/
def evalContent : Bytes := encode (py "eval(x)")

/-- What a handler comes upon when the file holds such a call and everything else goes well. -/
def sampleCalls : HandlerCalls where
  symlink := .ok false
  hashRead := .undisturbed evalContent
  scanRead := .undisturbed evalContent
  fileStamp := sampleStamp
  stamps _ := sampleStamp
  emit _ := .ok ()

lemma content_evalContent : (SnapshotCalls.undisturbed evalContent).content = some evalContent :=
  content_undisturbed (by decide)

theorem path_harmless_iff_sample :
    (SnapshotCalls.undisturbed evalContent).content = some evalContent ∧
      sampleCalls.symlink = .ok false ∧
      ((ScanComplete codeSettings (fun _ => none) (py "/srv/auth/a.py") evalContent
            (scanFile codeSettings (fun _ => none) (fun _ => sampleStamp) (py "/srv/auth/a.py")
              (.undisturbed evalContent)) ↔
          ScanFits codeSettings (py "/srv/auth/a.py") (fun _ => none) (decode evalContent)) ∧
        (OnlyEmission (onModified codeSettings (fun _ => none) .empty
              ⟨false, py "/srv/auth/a.py"⟩ sampleCalls).failure ↔
          (Noticed codeSettings .empty ⟨false, py "/srv/auth/a.py"⟩ sampleCalls.hashRead →
            ModifiedFits codeSettings (py "/srv/auth/a.py"))) ∧
        OnlyEmission (onCreated codeSettings (fun _ => none) .empty
          ⟨false, py "/srv/auth/a.py"⟩ sampleCalls).failure) :=
  ⟨content_evalContent, rfl, path_harmless_iff _ _ _ _ content_evalContent _ _ rfl⟩

/-- A path with a byte that is not UTF-8. -/
def undecodablePath : PyStr := py "/srv/auth/" ++ [0xDC80] ++ py ".py"

/-- The scanner matches the call and returns nothing; the handler of modifications records the
exception. -/
theorem undecodablePath_loses_findings :
    (regexHits codeSettings (decode evalContent)).length = 1 ∧
      (scanFile codeSettings (fun _ => none) (fun _ => sampleStamp) undecodablePath
          (.undisturbed evalContent)).caught = some .unicodeEncodeError ∧
      (scanFile codeSettings (fun _ => none) (fun _ => sampleStamp) undecodablePath
          (.undisturbed evalContent)).findings = [] ∧
      (onModified codeSettings (fun _ => none) .empty ⟨false, undecodablePath⟩ sampleCalls).failure
        = some (.construction .unicodeEncodeError) := by
  have hscanned : (regexHits codeSettings (decode evalContent)).length = 1 ∧
      (scanFile codeSettings (fun _ => none) (fun _ => sampleStamp) undecodablePath
          (.undisturbed evalContent)).caught = some .unicodeEncodeError ∧
      (scanFile codeSettings (fun _ => none) (fun _ => sampleStamp) undecodablePath
          (.undisturbed evalContent)).findings.isEmpty = true := by
    rw [scanFile, content_evalContent]
    decide +kernel
  refine ⟨hscanned.1, hscanned.2.1, List.isEmpty_iff.mp hscanned.2.2, ?_⟩
  have hchanged : hasChanged maxTrackedFiles .empty undecodablePath sampleCalls.hashRead
      = (true, FileHashes.evict maxTrackedFiles
        (FileHashes.put .empty undecodablePath (ContentDigest.hexdigest evalContent))) := by
    rw [hasChanged, sampleCalls, content_evalContent]
    rfl
  have hscan : shouldScan codeSettings undecodablePath (.ok false) = .ok true := by rfl
  have hconfidence : checkConfidence (.float (.finite (unitDouble 1).val))
      = .ok ⟨.float (unitDouble 1).val, (unitDouble 1).property⟩ := dif_pos (unitDouble 1).property
  have hmake : makeFinding sampleCalls.fileStamp (modifiedReport codeSettings undecodablePath)
      = .error .unicodeEncodeError := by
    simp only [makeFinding, newFinding, Report.args, modifiedReport, codeReport, hconfidence]
    rfl
  simp only [onModified, hchanged, show sampleCalls.symlink = .ok false from rfl, hscan, hmake]
  rfl

end Sample

end Watchtower
