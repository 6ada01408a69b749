import Watchtower.CodeWatcher.Fitting

/-!
# Passes over a directory

`scan_directory` walks a tree.  For every file it first asks `_has_changed`, which reads the file and
records its digest, and then `scan_file`, which reads it again; with `changed_only` a file whose
digest is the recorded one is passed over.  A digest that was recorded for a content the scanner then
failed to read hides that content from every later pass.

* `visitEntry` — what a pass does with one path of the walk, `watcher` — pass after pass of it.
* `SkipSound` — a recorded digest is that of a content the scanner has read.
* `Paired` — the two reads of a file come back with the same content, as far as it is new.
* **`skips_sound_iff`** — the first holds in every state exactly when the second holds at every step.
* `lostContent_skipped` — a run in which the second read fails.
-/

namespace Watchtower

open Core Py

section Directory

variable [UnicodeData] [Sha256] [WordData] [ContentDigest]

/-- A path the walk comes to, and what happens while it is looked at. -/
structure Entry where
  path : PyStr
  isFile : Except OsError Bool
  isSymlink : Except OsError Bool
  hashRead : SnapshotCalls
  scanRead : SnapshotCalls
  stamps : ℕ → Stamp
  emit : Finding → Except PyExc Unit

/-- The table of digests; with it, every content `scan_file` has read, by path, and how many findings
were emitted. -/
structure WatchState where
  hashes : FileHashes
  scanned : List (PyStr × Bytes)
  emitted : ℕ

/-- Nothing has been looked at. -/
def WatchState.init : WatchState := ⟨.empty, [], 0⟩

/-- What stops a pass. -/
inductive PassFailure
  | lookup (e : OsError)
  | emission (e : PyExc)

variable (settings : Settings) (parse : PyStr → Option (Ast .node))

/-- Whether a path is left out of a pass. -/
def Entry.isSkipped (e : Entry) : Except OsError Bool :=
  if isIgnored e.path settings.codeWatcher.ignorePaths then .ok true
  else
    match e.isFile with
    | .error error => .error error
    | .ok false => .ok true
    | .ok true =>
        match e.isSymlink with
        | .error error => .error error
        | .ok true => .ok true
        | .ok false =>
            .ok (!settings.codeWatcher.watchExtensions.contains (PurePath.ofStr e.path).suffix)

/-- The body of the loop in `scan_directory`. -/
def visitEntry (changedOnly : Bool) (s : WatchState) (e : Entry) : Except PassFailure WatchState :=
  match e.isSkipped settings with
  | .error error => .error (.lookup error)
  | .ok true => .ok s
  | .ok false =>
      let (changed, hashes) := hasChanged maxTrackedFiles s.hashes e.path e.hashRead
      if changedOnly && !changed then .ok { s with hashes }
      else
        let found := (scanFile settings parse e.stamps e.path e.scanRead).findings
        match emitAll e.emit found with
        | (_, some error) => .error (.emission error)
        | (_, none) =>
            .ok
              { hashes
                scanned := (e.scanRead.content.map fun content => (e.path, content)).toList
                  ++ s.scanned
                emitted := s.emitted + found.length }

/-- Passes, one path after the other; with each path goes the `changed_only` of its pass. -/
def watcher : Machine WatchState (Bool × Entry) PassFailure where
  init := .init
  step s i := visitEntry settings parse i.1 s i.2

/-- `scan_directory`, over the paths of its walk, with the count it returns. -/
def scanDirectory (changedOnly : Bool) (s : WatchState) (entries : List Entry) :
    Except PassFailure (WatchState × ℕ) :=
  ((watcher settings parse).runFrom s (entries.map fun e => (changedOnly, e))).map
    fun t => (t, t.emitted - s.emitted)

/-! ## Skipping -/

/-- Whatever a file holds now, if the digest of that is the recorded one, `scan_file` has read it. -/
def SkipSound (s : WatchState) : Prop :=
  ∀ path content, s.hashes.get path = some (ContentDigest.hexdigest content) →
    (path, content) ∈ s.scanned

/-- A content that is new to the table is one that `scan_file` has read before or reads now, in a
visit that raises nothing. -/
def Paired (s : WatchState) (i : Bool × Entry) : Prop :=
  Returns (visitEntry settings parse i.1 s i.2) → i.2.isSkipped settings = .ok false →
    ∀ content, i.2.hashRead.content = some content →
      s.hashes.get i.2.path ≠ some (ContentDigest.hexdigest content) →
        (i.2.path, content) ∈ s.scanned ∨ i.2.scanRead.content = some content

/-! ## One visit -/

section Visit

variable {settings : Settings} {parse : PyStr → Option (Ast .node)} {changedOnly : Bool}
  {s t : WatchState} {e : Entry}

/-- What a visit does: nothing, an update of the table alone, or that and a scan. -/
lemma visitEntry_cases (h : visitEntry settings parse changedOnly s e = .ok t) :
    (e.isSkipped settings = .ok true ∧ t = s) ∨
      (e.isSkipped settings = .ok false ∧
        t.hashes = (hasChanged maxTrackedFiles s.hashes e.path e.hashRead).2 ∧
        (((hasChanged maxTrackedFiles s.hashes e.path e.hashRead).1 = false ∧
            t.scanned = s.scanned) ∨
          t.scanned = (e.scanRead.content.map fun content => (e.path, content)).toList
            ++ s.scanned)) := by
  unfold visitEntry at h
  cases hskip : e.isSkipped settings with
  | error error =>
      rw [hskip] at h
      cases h
  | ok skipped =>
      cases skipped with
      | true =>
          rw [hskip] at h
          cases h
          exact Or.inl ⟨rfl, rfl⟩
      | false =>
          rw [hskip] at h
          refine Or.inr ⟨rfl, ?_⟩
          dsimp only at h
          split_ifs at h with hpass
          · cases h
            rw [Bool.and_eq_true, Bool.not_eq_true'] at hpass
            exact ⟨rfl, Or.inl ⟨hpass.2, rfl⟩⟩
          · split at h
            · cases h
            · cases h
              exact ⟨rfl, Or.inr rfl⟩

/-- A pass over what has changed leaves it at the table for a file that has not. -/
lemma visitEntry_of_unchanged (hskip : e.isSkipped settings = .ok false)
    (hsame : (hasChanged maxTrackedFiles s.hashes e.path e.hashRead).1 = false) :
    visitEntry settings parse true s e
      = .ok { s with hashes := (hasChanged maxTrackedFiles s.hashes e.path e.hashRead).2 } := by
  simp only [visitEntry, hskip, hsame, Bool.not_false, Bool.and_true, if_true]

/-- So does any pass for a file that cannot be read a second time. -/
lemma visitEntry_of_unread (hskip : e.isSkipped settings = .ok false)
    (hread : e.scanRead.content = none) :
    visitEntry settings parse changedOnly s e
      = .ok { s with hashes := (hasChanged maxTrackedFiles s.hashes e.path e.hashRead).2 } := by
  simp only [visitEntry, hskip, scanFile, hread, emitAll]
  split_ifs <;> rfl

/-- Nothing that was scanned is forgotten. -/
lemma scanned_subset (h : visitEntry settings parse changedOnly s e = .ok t) :
    s.scanned ⊆ t.scanned := by
  rcases visitEntry_cases h with ⟨-, rfl⟩ | ⟨-, -, ⟨-, hscanned⟩ | hscanned⟩
  · exact List.Subset.refl _
  · rw [hscanned]
    exact List.Subset.refl _
  · rw [hscanned]
    exact List.subset_append_right _ _

/-- A visit that finds a new content scans the file. -/
lemma scanned_of_changed (h : visitEntry settings parse changedOnly s e = .ok t)
    (hskip : e.isSkipped settings = .ok false)
    (hchanged : (hasChanged maxTrackedFiles s.hashes e.path e.hashRead).1 = true) :
    t.scanned = (e.scanRead.content.map fun content => (e.path, content)).toList ++ s.scanned := by
  rcases visitEntry_cases h with ⟨hskipped, -⟩ | ⟨-, -, ⟨hsame, -⟩ | hscanned⟩
  · rw [hskip] at hskipped
    cases hskipped
  · rw [hsame] at hchanged
    cases hchanged
  · exact hscanned

/-- **A visit keeps skipping sound exactly when its two reads are paired.** -/
theorem skipSound_visit_iff (hinj : Function.Injective ContentDigest.hexdigest)
    (hs : SkipSound s) :
    (∀ t, visitEntry settings parse changedOnly s e = .ok t → SkipSound t) ↔
      Paired settings parse s (changedOnly, e) := by
  have hcapacity : 0 < maxTrackedFiles := by decide
  constructor
  · rintro hkeep ⟨t, ht⟩ hskip content hcontent hnew
    have hchanged : (hasChanged maxTrackedFiles s.hashes e.path e.hashRead).1 = true :=
      hasChanged_iff.mpr ⟨content, hcontent, hnew⟩
    have hscanned := scanned_of_changed ht hskip hchanged
    have hhashes : t.hashes = (hasChanged maxTrackedFiles s.hashes e.path e.hashRead).2 := by
      rcases visitEntry_cases ht with ⟨hskipped, -⟩ | ⟨-, hhashes, -⟩
      · rw [hskip] at hskipped
        cases hskipped
      · exact hhashes
    have hmem := hkeep t ht e.path content (by rw [hhashes, get_hasChanged hcapacity hcontent])
    rw [hscanned, List.mem_append, Option.mem_toList, Option.map_eq_some_iff] at hmem
    rcases hmem with ⟨c, hc, heq⟩ | hmem
    · cases heq
      exact Or.inr hc
    · exact Or.inl hmem
  · intro hpaired t ht path content hget
    rcases visitEntry_cases ht with ⟨-, rfl⟩ | ⟨hskip, hhashes, -⟩
    · exact hs path content hget
    · rw [hhashes] at hget
      by_cases hpath : path = e.path
      · subst hpath
        cases hread : e.hashRead.content with
        | none =>
            rw [hasChanged_of_error hread] at hget
            exact scanned_subset ht (hs _ content hget)
        | some read =>
            rw [get_hasChanged hcapacity hread, Option.some.injEq] at hget
            obtain rfl := hinj hget
            by_cases hnew : s.hashes.get e.path = some (ContentDigest.hexdigest read)
            · exact scanned_subset ht (hs _ read hnew)
            · rcases hpaired ⟨t, ht⟩ hskip read hread hnew with hmem | hscan
              · exact scanned_subset ht hmem
              · rw [scanned_of_changed ht hskip (hasChanged_iff.mpr ⟨read, hread, hnew⟩), hscan]
                simp
      · exact scanned_subset ht (hs path content (get_hasChanged_other hpath hget))

end Visit

/-! ## Runs -/

/-- **Skipping is sound throughout passes exactly when at every visit the two reads are paired.**
The states after the last visit of a pass are among those gone through. -/
theorem skips_sound_iff (settings : Settings) (parse : PyStr → Option (Ast .node))
    (hinj : Function.Injective ContentDigest.hexdigest) (visits : List (Bool × Entry)) :
    (watcher settings parse).Throughout visits SkipSound ↔
      (watcher settings parse).Always visits (Paired settings parse) := by
  have hinit : SkipSound (watcher settings parse).init := by
    intro path content hget
    cases hget
  exact Machine.throughout_iff_always hinit (fun s i hs => skipSound_visit_iff hinj hs) visits

end Directory

/-! ## A content that is never scanned -/

section Sample

attribute [local instance] asciiData latinWords pathDigest sampleContentDigest

/-- A visit of a file, with what its two reads return. -/
def sampleEntry (hashRead scanRead : SnapshotCalls) : Entry where
  path := py "/srv/auth/a.py"
  isFile := .ok true
  isSymlink := .ok false
  hashRead := hashRead
  scanRead := scanRead
  stamps _ := sampleStamp
  emit _ := .ok ()

/-- A visit nothing disturbs. -/
def quietEntry : Entry := sampleEntry (.undisturbed evalContent) (.undisturbed evalContent)

/-- A visit during which the file cannot be opened the second time. -/
def failedEntry : Entry :=
  sampleEntry (.undisturbed evalContent) (.unopened ⟨"Too many open files"⟩)

lemma sampleContentDigest_injective : Function.Injective ContentDigest.hexdigest := by
  -- the digests of the samples differ from one another, and none begins with zero
  have hsamples : (contentSamples.map Prod.snd).Nodup ∧
      ∀ sample ∈ contentSamples, sample.2.head? ≠ some 0 := by
    decide +kernel
  have hraw : Function.Injective fun content : Bytes =>
      (content.map fun byte => ⟨byte.val, by omega⟩ : PyStr) :=
    List.map_injective_iff.mpr fun x y h => Fin.ext (Fin.mk.inj h)
  have hfound : ∀ {content : Bytes} {sample : Bytes × PyStr},
      (contentSamples.find? fun s => decide (s.1 = content)) = some sample →
        sample ∈ contentSamples ∧ sample.1 = content :=
    fun h => ⟨List.mem_of_find?_eq_some h, by simpa using List.find?_some h⟩
  intro x y h
  simp only [ContentDigest.hexdigest] at h
  cases hx : contentSamples.find? fun s => decide (s.1 = x) with
  | some s =>
      obtain ⟨hs, rfl⟩ := hfound hx
      cases hy : contentSamples.find? fun s => decide (s.1 = y) with
      | some t =>
          obtain ⟨ht, rfl⟩ := hfound hy
          rw [hx, hy] at h
          exact congrArg Prod.fst (List.inj_on_of_nodup_map hsamples.1 hs ht h)
      | none =>
          rw [hx, hy] at h
          exact absurd (congrArg List.head? h) (hsamples.2 s hs)
  | none =>
      cases hy : contentSamples.find? fun s => decide (s.1 = y) with
      | some t =>
          rw [hx, hy] at h
          exact absurd (congrArg List.head? h).symm (hsamples.2 t (hfound hy).1)
      | none =>
          rw [hx, hy] at h
          exact hraw (List.cons.inj h).2

theorem skips_sound_iff_failedEntry :
    Function.Injective ContentDigest.hexdigest ∧
      ((watcher codeSettings fun _ => none).Throughout [(true, quietEntry), (true, failedEntry)]
          SkipSound ↔
        (watcher codeSettings fun _ => none).Always [(true, quietEntry), (true, failedEntry)]
          (Paired codeSettings fun _ => none)) :=
  ⟨sampleContentDigest_injective, skips_sound_iff _ _ sampleContentDigest_injective _⟩

/-- The digest is recorded and the scanner reads nothing; the next pass, which nothing disturbs, takes
the file for one that has not changed. -/
theorem lostContent_skipped :
    ∃ s, (watcher codeSettings fun _ => none).run
        [(true, failedEntry), (true, quietEntry)] = .ok s ∧
      s.hashes.get (py "/srv/auth/a.py") = some (ContentDigest.hexdigest evalContent) ∧
      s.scanned = [] := by
  have hcapacity : 0 < maxTrackedFiles := by decide
  -- the first pass records the digest, whatever the table
  have hfailed : ∀ hashes : FileHashes, ∃ hashes' : FileHashes,
      visitEntry codeSettings (fun _ => none) true ⟨hashes, [], 0⟩ failedEntry
          = .ok ⟨hashes', [], 0⟩ ∧
        hashes'.get failedEntry.path = some (ContentDigest.hexdigest evalContent) := fun hashes =>
    ⟨_, visitEntry_of_unread rfl (content_unopened _), get_hasChanged hcapacity content_evalContent⟩
  -- the second one keeps it
  have hquiet : ∀ hashes : FileHashes,
      hashes.get quietEntry.path = some (ContentDigest.hexdigest evalContent) →
        ∃ hashes' : FileHashes,
          visitEntry codeSettings (fun _ => none) true ⟨hashes, [], 0⟩ quietEntry
              = .ok ⟨hashes', [], 0⟩ ∧
            hashes'.get quietEntry.path = some (ContentDigest.hexdigest evalContent) := by
    intro hashes hget
    have hsame : hasChanged maxTrackedFiles hashes quietEntry.path quietEntry.hashRead
        = (false, hashes.put quietEntry.path (ContentDigest.hexdigest evalContent)) := by
      rw [hasChanged, show quietEntry.hashRead.content = some evalContent from content_evalContent]
      exact if_pos hget
    refine ⟨_, visitEntry_of_unchanged rfl (by rw [hsame]), ?_⟩
    rw [hsame]
    exact FileHashes.get_put_self
  obtain ⟨first, hfirst, hget⟩ := hfailed .empty
  obtain ⟨second, hsecond, hget'⟩ := hquiet first hget
  refine ⟨⟨second, [], 0⟩, ?_, hget', rfl⟩
  have hrun : (watcher codeSettings fun _ => none).run [(true, failedEntry)]
      = .ok ⟨first, [], 0⟩ := by
    rw [Machine.run_singleton]
    exact hfirst
  exact (Machine.run_snoc _ hrun (true, quietEntry)).trans hsecond

end Sample

end Watchtower
