import Watchtower.Core.Machine
import Watchtower.Core.Recency
import Watchtower.Python.Bytes

/-!
# Snapshots and change detection

The watcher looks at a file through `_read_file_snapshot`, once to see whether it has changed and
once more to scan it.  The two reads are independent: whatever happens to the file between their
system calls is in what the calls return.

* `readFileSnapshot` — one read, given what its system calls return.
* **`content_undisturbed`** — a read that nothing disturbs succeeds.
* `FileHashes` — the digest recorded for each path, the least recently used first.
* `hasChanged` — `_has_changed`, with **`hasChanged_iff`**, **`get_hasChanged`** and
  **`get_hasChanged_other`**.
-/

namespace Watchtower

open Core Py

/-- An `OSError`, with its text. -/
structure OsError where
  text : String
  deriving DecidableEq

/-- `MAX_FILE_SIZE_BYTES`. -/
def maxFileSizeBytes : ℕ := 1024 * 1024

/-- `MAX_TRACKED_FILES`. -/
def maxTrackedFiles : ℕ := 100000

/-! ## Reading -/

/-- What `os.fstat` says of an open file. -/
structure FileStat where
  isRegular : Bool
  dev : ℕ
  ino : ℕ
  size : ℕ
  mtimeNs : ℤ
  deriving DecidableEq

/-- What the system calls of one read return.  The answer to a call of `os.read` is cut to what the
call asks for. -/
structure SnapshotCalls where
  opened : Except OsError Unit
  before : Except OsError FileStat
  read : ℕ → Except OsError Bytes
  after : Except OsError FileStat
  closed : Except OsError Unit

/-- The most a call of `os.read` asks for. -/
def chunkSize : ℕ := 64 * 1024

/-- How many bytes a call of `os.read` asks for. -/
def chunkRequest (limit bytesRead : ℕ) : ℕ := min chunkSize (limit + 1 - bytesRead)

/-- The loop over `os.read`, from the `k`-th call on. -/
def readChunks (limit : ℕ) (read : ℕ → Except OsError Bytes) (k bytesRead : ℕ) :
    Except OsError Bytes :=
  match read k with
  | .error e => .error e
  | .ok answer =>
      let chunk := answer.take (chunkRequest limit bytesRead)
      if chunk = [] then .ok []
      else if limit < bytesRead + chunk.length then
        .error ⟨"scan target grew beyond the file-size limit"⟩
      else (readChunks limit read (k + 1) (bytesRead + chunk.length)).map (chunk ++ ·)
termination_by limit + 1 - bytesRead
decreasing_by
  rename_i hend hlimit
  have hpos : 0 < chunk.length := List.length_pos_iff.mpr hend
  exact Nat.sub_lt_sub_left (by omega) (Nat.lt_add_of_pos_right hpos)

/-- The part of `_read_file_snapshot` under `try`. -/
def readOpened (limit : ℕ) (calls : SnapshotCalls) : Except OsError (Bytes × FileStat) := do
  let before ← calls.before
  if before.isRegular = false then .error ⟨"scan target is not a regular file"⟩
  else if limit < before.size then .error ⟨"scan target exceeds the file-size limit"⟩
  else
    let content ← readChunks limit calls.read 0 0
    let after ← calls.after
    if (before.dev, before.ino, before.size, before.mtimeNs)
          ≠ (after.dev, after.ino, after.size, after.mtimeNs) ∨ content.length ≠ after.size then
      .error ⟨"scan target changed while it was being read"⟩
    else .ok (content, after)

/-- `_read_file_snapshot`.  An error on closing replaces the result. -/
def readFileSnapshot (limit : ℕ) (calls : SnapshotCalls) : Except OsError (Bytes × FileStat) := do
  calls.opened
  let result := readOpened limit calls
  calls.closed
  result

/-- The content a read of the watcher comes back with. -/
def SnapshotCalls.content (calls : SnapshotCalls) : Option Bytes :=
  match readFileSnapshot maxFileSizeBytes calls with
  | .ok (content, _) => some content
  | .error _ => none

/-- What the calls return when nothing disturbs them. -/
def SnapshotCalls.undisturbed (content : Bytes) : SnapshotCalls :=
  let stat : FileStat :=
    { isRegular := true, dev := 1, ino := 1, size := content.length, mtimeNs := 0 }
  { opened := .ok ()
    before := .ok stat
    read := fun k => .ok (content.drop (chunkSize * k))
    after := .ok stat
    closed := .ok () }

/-- What the calls return when the file cannot be opened. -/
def SnapshotCalls.unopened (e : OsError) : SnapshotCalls where
  opened := .error e
  before := .error e
  read _ := .error e
  after := .error e
  closed := .error e

@[simp] lemma content_unopened (e : OsError) : (SnapshotCalls.unopened e).content = none := rfl

section Reads

variable {limit : ℕ}

/-- The loop reads a file that does not change to its end. -/
lemma readChunks_drop {content : Bytes} (h : content.length ≤ limit) (k : ℕ) :
    readChunks limit (fun k => .ok (content.drop (chunkSize * k))) k
      (min (chunkSize * k) content.length) = .ok (content.drop (chunkSize * k)) := by
  have hchunk : chunkSize = 65536 := rfl
  generalize hn : content.length - chunkSize * k = n
  induction n using Nat.strong_induction_on generalizing k with
  | h n ih =>
      rw [readChunks]
      -- what is left to read is all that is asked for, or a whole chunk
      have hrequest : (content.drop (chunkSize * k)).take
          (chunkRequest limit (min (chunkSize * k) content.length))
          = (content.drop (chunkSize * k)).take chunkSize := by
        rw [List.take_eq_take_iff, List.length_drop, chunkRequest]
        omega
      simp only [hrequest]
      split_ifs with hend hlimit
      · rw [List.take_eq_nil_iff] at hend
        rcases hend with hzero | hnil
        · omega
        · rw [hnil]
      · rw [List.length_take, List.length_drop] at hlimit
        omega
      · have hlt : chunkSize * k < content.length := by
          by_contra hge
          exact hend (by rw [List.drop_eq_nil_of_le (Nat.not_lt.mp hge), List.take_nil])
        have hnext : min (chunkSize * k) content.length
            + ((content.drop (chunkSize * k)).take chunkSize).length
            = min (chunkSize * (k + 1)) content.length := by
          rw [List.length_take, List.length_drop, Nat.mul_succ]
          omega
        rw [hnext, ih _ (by rw [← hn, Nat.mul_succ]; omega) (k + 1) rfl, Nat.mul_succ,
          ← List.drop_drop]
        simp only [Except.map, List.take_append_drop]

/-- **A read that nothing disturbs comes back with the content.** -/
theorem content_undisturbed {content : Bytes} (h : content.length ≤ maxFileSizeBytes) :
    (SnapshotCalls.undisturbed content).content = some content := by
  have hread := readChunks_drop h 0
  rw [Nat.mul_zero, Nat.zero_min, List.drop_zero] at hread
  simp only [SnapshotCalls.content, readFileSnapshot, readOpened, SnapshotCalls.undisturbed, ok_bind,
    if_neg (Nat.not_lt.mpr h), hread]
  simp

end Reads

/-! ## Recorded digests -/

/-- `hashlib.sha256(content).hexdigest()`. -/
class ContentDigest where
  hexdigest : Bytes → PyStr

/-- `_file_hashes`: a digest for each path, the least recently used first. -/
structure FileHashes where
  entries : List (PyStr × PyStr)
  nodup : (entries.map Prod.fst).Nodup
  deriving DecidableEq

namespace FileHashes

/-- No file has been looked at. -/
def empty : FileHashes := ⟨[], List.nodup_nil⟩

/-- `_file_hashes.get(path)`. -/
def get (hashes : FileHashes) (path : PyStr) : Option PyStr := hashes.entries.lookup path

/-- `_file_hashes[path] = current` and `move_to_end(path)`. -/
def put (hashes : FileHashes) (path current : PyStr) : FileHashes where
  entries := hashes.entries.filter (fun entry => entry.1 != path) ++ [(path, current)]
  nodup := by
    have hothers : ((hashes.entries.filter fun entry => entry.1 != path).map Prod.fst).Nodup :=
      hashes.nodup.sublist (List.filter_sublist.map _)
    rw [List.map_append, List.nodup_append]
    refine ⟨hothers, List.nodup_singleton _, ?_⟩
    rintro a ha b hb rfl
    obtain ⟨entry, hentry, rfl⟩ := List.mem_map.mp ha
    have hne := (List.mem_filter.mp hentry).2
    simp_all

/-- `popitem(last=False)` for as long as there are too many. -/
def evict (capacity : ℕ) (hashes : FileHashes) : FileHashes where
  entries := hashes.entries.drop (hashes.entries.length - capacity)
  nodup := hashes.nodup.sublist ((List.drop_sublist _ _).map _)

section Get

variable {hashes : FileHashes} {path q current d : PyStr} {capacity : ℕ}

@[simp] lemma get_put_self : (hashes.put path current).get path = some current := by
  rw [get, put, List.lookup_append, lookup_others (List.Subset.refl _), Option.none_or,
    List.lookup_cons_self]

lemma get_put_of_ne (h : q ≠ path) : (hashes.put path current).get q = hashes.get q := by
  rw [get, put, List.lookup_append, lookup_filter_ne h, List.lookup_cons, beq_false_of_ne h]
  simp [get]

/-- Eviction records nothing. -/
lemma get_of_get_evict (h : (hashes.evict capacity).get q = some d) : hashes.get q = some d :=
  lookup_of_suffix (List.drop_suffix _ _) hashes.nodup h

/-- The entry used last is the last to go. -/
lemma get_evict_put_self (hcapacity : 0 < capacity) :
    ((hashes.put path current).evict capacity).get path = some current := by
  have hlast : ((hashes.put path current).evict capacity).entries
      = (hashes.entries.filter fun entry => entry.1 != path).drop
          ((hashes.put path current).entries.length - capacity) ++ [(path, current)] := by
    refine List.drop_append_of_le_length ?_
    simp only [put, List.length_append, List.length_singleton]
    omega
  rw [get, hlast, List.lookup_append, lookup_others (List.drop_subset _ _), Option.none_or,
    List.lookup_cons_self]

end Get

end FileHashes

section Changes

variable [ContentDigest]

/-- `_has_changed`, on the table it updates. -/
def hasChanged (capacity : ℕ) (hashes : FileHashes) (path : PyStr) (calls : SnapshotCalls) :
    Bool × FileHashes :=
  match calls.content with
  | none => (false, hashes)
  | some content =>
      let current := ContentDigest.hexdigest content
      if hashes.get path = some current then (false, hashes.put path current)
      else (true, (hashes.put path current).evict capacity)

variable {capacity : ℕ} {hashes : FileHashes} {path q d : PyStr} {calls : SnapshotCalls}
  {content : Bytes}

/-- A failed read answers "unchanged" and leaves the table alone. -/
lemma hasChanged_of_error (h : calls.content = none) :
    hasChanged capacity hashes path calls = (false, hashes) := by
  rw [hasChanged, h]

/-- **A file has changed when its digest is not the recorded one.** -/
theorem hasChanged_iff :
    (hasChanged capacity hashes path calls).1 = true ↔
      ∃ content, calls.content = some content ∧
        hashes.get path ≠ some (ContentDigest.hexdigest content) := by
  cases h : calls.content with
  | none => simp [hasChanged_of_error h]
  | some content =>
      simp only [hasChanged, h]
      split_ifs with hsame
      · simp [hsame]
      · simp [hsame]

/-- **The digest of what was read is recorded.** -/
theorem get_hasChanged (hcapacity : 0 < capacity) (h : calls.content = some content) :
    (hasChanged capacity hashes path calls).2.get path
      = some (ContentDigest.hexdigest content) := by
  simp only [hasChanged, h]
  split_ifs
  · exact FileHashes.get_put_self
  · exact FileHashes.get_evict_put_self hcapacity

/-- **Nothing is recorded for another path.** -/
theorem get_hasChanged_other (hq : q ≠ path)
    (h : (hasChanged capacity hashes path calls).2.get q = some d) : hashes.get q = some d := by
  cases hcontent : calls.content with
  | none => rwa [hasChanged_of_error hcontent] at h
  | some content =>
      simp only [hasChanged, hcontent] at h
      split_ifs at h
      · rwa [FileHashes.get_put_of_ne hq] at h
      · have hput := FileHashes.get_of_get_evict h
        rwa [FileHashes.get_put_of_ne hq] at hput

end Changes

end Watchtower
