import Watchtower.CodeWatcher.Fitting

/-!
# The bounded table of hashes

`_file_hashes` keeps the hashes of the files looked at last and forgets the others.  What forgetting
costs is seen next to a table that never forgets.

* `hasChangedUnbounded` — `_has_changed` on such a table.
* `hashesAfter_entries` — what the bounded table holds after any calls.
* `digestsAfter_apply` — what the other one holds.
* **`hasChanged_refines`** — the bounded table is the end of the list of last checks; it never hides
  a change, and answers as the unbounded one does while few other files have been looked at.
-/

namespace Watchtower

open Core Py

/-- A call of `_has_changed`. -/
structure CheckCall where
  path : PyStr
  calls : SnapshotCalls

section Tracking

variable [ContentDigest]

/-- The checks whose read succeeds, with the hash of what was read. -/
def successfulChecks (run : List CheckCall) : List (PyStr × PyStr) :=
  run.filterMap fun check =>
    check.calls.content.map fun content => (check.path, ContentDigest.hexdigest content)

/-- `_file_hashes` after the calls. -/
def hashesAfter (capacity : ℕ) (run : List CheckCall) : FileHashes :=
  run.foldl (fun hashes check => (hasChanged capacity hashes check.path check.calls).2)
    FileHashes.empty

/-- `_has_changed`, on a table from which nothing is ever removed. -/
def hasChangedUnbounded (digests : PyStr → Option PyStr) (path : PyStr) (calls : SnapshotCalls) :
    Bool × (PyStr → Option PyStr) :=
  match calls.content with
  | none => (false, digests)
  | some content =>
      let current := ContentDigest.hexdigest content
      if digests path = some current then (false, digests)
      else (true, Function.update digests path (some current))

/-- That table after the calls. -/
def digestsAfter (run : List CheckCall) : PyStr → Option PyStr :=
  run.foldl (fun digests check => (hasChangedUnbounded digests check.path check.calls).2)
    fun _ => none

lemma hashesAfter_concat (capacity : ℕ) (run : List CheckCall) (check : CheckCall) :
    hashesAfter capacity (run ++ [check])
      = (hasChanged capacity (hashesAfter capacity run) check.path check.calls).2 := by
  rw [hashesAfter, List.foldl_concat]
  rfl

lemma digestsAfter_concat (run : List CheckCall) (check : CheckCall) :
    digestsAfter (run ++ [check])
      = (hasChangedUnbounded (digestsAfter run) check.path check.calls).2 := by
  rw [digestsAfter, List.foldl_concat]
  rfl

lemma successfulChecks_concat_error {check : CheckCall} (h : check.calls.content = none)
    (run : List CheckCall) : successfulChecks (run ++ [check]) = successfulChecks run := by
  rw [successfulChecks, List.filterMap_append, List.filterMap_cons_none (by rw [h]; rfl),
    List.filterMap_nil, List.append_nil]
  rfl

lemma successfulChecks_concat {check : CheckCall} {content : Bytes}
    (h : check.calls.content = some content) (run : List CheckCall) :
    successfulChecks (run ++ [check])
      = successfulChecks run ++ [(check.path, ContentDigest.hexdigest content)] := by
  rw [successfulChecks, List.filterMap_append, List.filterMap_cons_some (by rw [h]; rfl),
    List.filterMap_nil]
  rfl

/-! ## The bounded table -/

omit [ContentDigest] in
/-- A hit needs no eviction: the table is not longer than it was. -/
lemma evict_put_of_get {capacity : ℕ} {hashes : FileHashes} {path d current : PyStr}
    (hlen : hashes.entries.length ≤ capacity) (h : hashes.get path = some d) :
    (hashes.put path current).evict capacity = hashes.put path current := by
  have hmem : ∃ entry ∈ hashes.entries, ¬ (entry.1 != path) = true :=
    ⟨(path, d), mem_of_lookup h, by simp⟩
  have hput : (hashes.put path current).entries.length ≤ capacity := by
    have hfilter := List.length_filter_lt_length_iff_exists.mpr hmem
    rw [FileHashes.put, List.length_append, List.length_singleton]
    omega
  rw [FileHashes.evict, FileHashes.mk.injEq, Nat.sub_eq_zero_of_le hput, List.drop_zero]

/-- **The table holds the last checks of the paths checked last.** -/
theorem hashesAfter_entries {capacity : ℕ} (hcapacity : 0 < capacity) (run : List CheckCall) :
    (hashesAfter capacity run).entries = (latest (successfulChecks run)).rtake capacity := by
  induction run using List.reverseRecOn with
  | nil => exact (List.rtake_nil _).symm
  | append_singleton run check ih =>
      rw [hashesAfter_concat]
      cases hcontent : check.calls.content with
      | none => rw [hasChanged_of_error hcontent, successfulChecks_concat_error hcontent, ih]
      | some content =>
          have hstep : (hasChanged capacity (hashesAfter capacity run) check.path check.calls).2
              = ((hashesAfter capacity run).put check.path
                  (ContentDigest.hexdigest content)).evict capacity := by
            have hlen : (hashesAfter capacity run).entries.length ≤ capacity := by
              rw [ih, List.rtake, List.length_drop]
              omega
            simp only [hasChanged, hcontent]
            split_ifs with hsame
            · exact (evict_put_of_get hlen hsame).symm
            · rfl
          have hforget := rtake_filter_concat (nodup_keys_latest (successfulChecks run)) capacity
            (check.path, ContentDigest.hexdigest content)
          rw [successfulChecks_concat hcontent, latest_concat, ← hforget, ← ih, hstep]
          rfl

/-- The unbounded table holds the last check of every path. -/
theorem digestsAfter_apply (run : List CheckCall) (path : PyStr) :
    digestsAfter run path = (latest (successfulChecks run)).lookup path := by
  induction run using List.reverseRecOn with
  | nil => rfl
  | append_singleton run check ih =>
      rw [digestsAfter_concat]
      cases hcontent : check.calls.content with
      | none =>
          rw [successfulChecks_concat_error hcontent, ← ih, hasChangedUnbounded, hcontent]
      | some content =>
          have hstep : (hasChangedUnbounded (digestsAfter run) check.path check.calls).2
              = Function.update (digestsAfter run) check.path
                  (some (ContentDigest.hexdigest content)) := by
            simp only [hasChangedUnbounded, hcontent]
            split_ifs with hsame
            · rw [← hsame, Function.update_eq_self]
            · rfl
          rw [successfulChecks_concat hcontent, latest_concat, hstep, List.lookup_append]
          by_cases hpath : path = check.path
          · rw [hpath, Function.update_self, lookup_others (List.Subset.refl _), Option.none_or,
              List.lookup_cons_self]
          · rw [Function.update_of_ne hpath, lookup_filter_ne hpath, ih, List.lookup_cons,
              beq_false_of_ne hpath]
            simp

/-! ## Answers -/

/-- Both tables answer "changed" when the hash read is not the one they hold. -/
lemma hasChangedUnbounded_iff {digests : PyStr → Option PyStr} {path : PyStr}
    {calls : SnapshotCalls} :
    (hasChangedUnbounded digests path calls).1 = true ↔
      ∃ content, calls.content = some content ∧
        digests path ≠ some (ContentDigest.hexdigest content) := by
  cases h : calls.content with
  | none => simp [hasChangedUnbounded, h]
  | some content =>
      simp only [hasChangedUnbounded, h]
      split_ifs with hsame
      · simp [hsame]
      · simp [hsame]

/-- With the same hash on both sides the answers are the same. -/
lemma answers_eq {capacity : ℕ} {hashes : FileHashes} {digests : PyStr → Option PyStr}
    {path : PyStr} (h : hashes.get path = digests path) (calls : SnapshotCalls) :
    (hasChanged capacity hashes path calls).1 = (hasChangedUnbounded digests path calls).1 := by
  rw [Bool.eq_iff_iff, hasChanged_iff, hasChangedUnbounded_iff, h]

/-- **The bounded table, next to the unbounded one.**  After any calls it holds the last `capacity`
of the last checks; a read error changes nothing and answers `False`; it answers "unchanged" only
where the unbounded table does; and the answers agree when the path has not been checked before, or
when fewer than `capacity` other paths have been since. -/
theorem hasChanged_refines {capacity : ℕ} (hcapacity : 0 < capacity) (run : List CheckCall) :
    (hashesAfter capacity run).entries = (latest (successfulChecks run)).rtake capacity ∧
    ∀ path calls,
      (calls.content = none →
        hasChanged capacity (hashesAfter capacity run) path calls
          = (false, hashesAfter capacity run)) ∧
      ((hasChanged capacity (hashesAfter capacity run) path calls).1 = false →
        (hasChangedUnbounded (digestsAfter run) path calls).1 = false) ∧
      (path ∉ (successfulChecks run).map Prod.fst →
        (hasChanged capacity (hashesAfter capacity run) path calls).1
          = (hasChangedUnbounded (digestsAfter run) path calls).1) ∧
      ∀ before d since, successfulChecks run = before ++ (path, d) :: since →
        path ∉ since.map Prod.fst → (since.map Prod.fst).dedup.length < capacity →
        (hasChanged capacity (hashesAfter capacity run) path calls).1
          = (hasChangedUnbounded (digestsAfter run) path calls).1 := by
  have hentries := hashesAfter_entries hcapacity run
  refine ⟨hentries, fun path calls => ⟨hasChanged_of_error, ?_, ?_, ?_⟩⟩
  · -- what the bounded table knows, the unbounded one knows as well
    intro hunchanged
    by_contra hchanged
    rw [Bool.not_eq_false, hasChangedUnbounded_iff] at hchanged
    obtain ⟨content, hcontent, hne⟩ := hchanged
    have hsame : (hashesAfter capacity run).get path = some (ContentDigest.hexdigest content) := by
      by_contra hother
      have htrue : (hasChanged capacity (hashesAfter capacity run) path calls).1 = true :=
        hasChanged_iff.mpr ⟨content, hcontent, hother⟩
      rw [hunchanged] at htrue
      cases htrue
    rw [FileHashes.get, hentries] at hsame
    exact hne ((digestsAfter_apply run path).trans (lookup_latest_of_rtake hsame))
  · intro hnew
    refine answers_eq ?_ calls
    rw [digestsAfter_apply, lookup_latest_of_not_mem hnew, FileHashes.get, hentries]
    cases hlookup : ((latest (successfulChecks run)).rtake capacity).lookup path with
    | none => rfl
    | some d =>
        have hknown := lookup_latest_of_rtake hlookup
        rw [lookup_latest_of_not_mem hnew] at hknown
        cases hknown
  · intro before d since hrun hlast hfew
    refine answers_eq ?_ calls
    have hknown : ((latest (successfulChecks run)).rtake capacity).lookup path = some d := by
      rw [hrun]
      exact lookup_rtake_latest hlast hfew
    rw [digestsAfter_apply, FileHashes.get, hentries, hknown, lookup_latest_of_rtake hknown]

end Tracking

section Sample

attribute [local instance] sampleContentDigest

/-- Two files are looked at. -/
def twoChecks : List CheckCall :=
  [⟨py "/srv/auth/a.py", SnapshotCalls.undisturbed evalContent⟩,
    ⟨py "/srv/auth/b.py", SnapshotCalls.undisturbed evalContent⟩]

lemma successfulChecks_twoChecks :
    successfulChecks twoChecks =
      [(py "/srv/auth/a.py", sampleContentDigest.hexdigest evalContent),
        (py "/srv/auth/b.py", sampleContentDigest.hexdigest evalContent)] := by
  simp only [successfulChecks, twoChecks, List.filterMap_cons, content_evalContent, Option.map_some,
    List.filterMap_nil]

/-- A table for two files still knows the first of two. -/
theorem hasChanged_refines_twoChecks :
    (hashesAfter 2 twoChecks).entries = (latest (successfulChecks twoChecks)).rtake 2 ∧
      (hasChanged 2 (hashesAfter 2 twoChecks) (py "/srv/auth/a.py")
          (SnapshotCalls.undisturbed evalContent)).1
        = (hasChangedUnbounded (digestsAfter twoChecks) (py "/srv/auth/a.py")
            (SnapshotCalls.undisturbed evalContent)).1 := by
  obtain ⟨hentries, hanswers⟩ := hasChanged_refines (show 0 < 2 by decide) twoChecks
  obtain ⟨-, -, -, hagree⟩ := hanswers (py "/srv/auth/a.py") (SnapshotCalls.undisturbed evalContent)
  exact ⟨hentries, hagree [] _ _ successfulChecks_twoChecks (by decide) (by decide)⟩

end Sample

end Watchtower
