import Watchtower.CodeWatcher.Snapshot
import Watchtower.Core.Traced

/-!
# The calls of a snapshot

`_read_file_snapshot` opens the file, looks at it, reads chunk after chunk, looks again and closes
it.  Each read asks for what is left up to one byte past the limit, so that a file at the limit can
be told from a larger one.

* `snapshotRun` — the function with the system calls it makes; `outcome_snapshotRun` leaves
  `readFileSnapshot`.
* `ReadLoop` — the ways the loop over `os.read` can go.
* **`readFileSnapshot_bounded`** — what every run keeps to, however the reads come out.
-/

namespace Watchtower

open Core Py

/-! ## The function with its calls -/

/-- A system call; a read with what it asked for and what came back. -/
inductive SysCall
  | openFile
  | fstat
  | read (requested : ℕ) (answer : Except OsError Bytes)
  | close
  deriving DecidableEq

/-- `os.read`: at most as many bytes as were asked for. -/
def osRead (requested : ℕ) (answer : Except OsError Bytes) : Traced SysCall OsError Bytes :=
  let answer := answer.map (List.take requested)
  .perform (.read requested answer) answer

/-- The loop over `os.read`. -/
def readChunksRun (limit : ℕ) (read : ℕ → Except OsError Bytes) (k bytesRead : ℕ) :
    Traced SysCall OsError Bytes := do
  let chunk ← osRead (chunkRequest limit bytesRead) (read k)
  if chunk = [] then return []
  else if limit < bytesRead + chunk.length then
    .raise ⟨"scan target grew beyond the file-size limit"⟩
  else
    let rest ← readChunksRun limit read (k + 1) (bytesRead + chunk.length)
    return chunk ++ rest
termination_by limit + 1 - bytesRead
decreasing_by
  rename_i hend hlimit
  have hpos : 0 < chunk.length := List.length_pos_iff.mpr hend
  omega

/-- The part under `try`. -/
def openedRun (limit : ℕ) (calls : SnapshotCalls) :
    Traced SysCall OsError (Bytes × FileStat) := do
  let before ← .perform .fstat calls.before
  if before.isRegular = false then .raise ⟨"scan target is not a regular file"⟩
  else if limit < before.size then .raise ⟨"scan target exceeds the file-size limit"⟩
  else
    let content ← readChunksRun limit calls.read 0 0
    let after ← .perform .fstat calls.after
    if (before.dev, before.ino, before.size, before.mtimeNs)
          ≠ (after.dev, after.ino, after.size, after.mtimeNs) ∨ content.length ≠ after.size then
      .raise ⟨"scan target changed while it was being read"⟩
    else return (content, after)

/-- `_read_file_snapshot`, with its calls. -/
def snapshotRun (limit : ℕ) (calls : SnapshotCalls) :
    Traced SysCall OsError (Bytes × FileStat) := do
  .perform .openFile calls.opened
  (openedRun limit calls).closing (.perform .close calls.closed)

/-! ## The way it comes out -/

variable {limit : ℕ}

/-- The ways the loop can go from a number of bytes on: the calls, and how it comes out. -/
inductive ReadLoop (limit : ℕ) : ℕ → List SysCall → Except OsError Bytes → Prop
  | failed {bytesRead : ℕ} (e : OsError) :
      ReadLoop limit bytesRead [.read (chunkRequest limit bytesRead) (.error e)] (.error e)
  | ended {bytesRead : ℕ} :
      ReadLoop limit bytesRead [.read (chunkRequest limit bytesRead) (.ok [])] (.ok [])
  | grown {bytesRead : ℕ} {chunk : Bytes} (hlen : chunk.length ≤ chunkRequest limit bytesRead)
      (hlimit : limit < bytesRead + chunk.length) :
      ReadLoop limit bytesRead [.read (chunkRequest limit bytesRead) (.ok chunk)]
        (.error ⟨"scan target grew beyond the file-size limit"⟩)
  | further {bytesRead : ℕ} {chunk : Bytes} {calls : List SysCall} {outcome : Except OsError Bytes}
      (hne : chunk ≠ []) (hlen : chunk.length ≤ chunkRequest limit bytesRead)
      (hlimit : bytesRead + chunk.length ≤ limit)
      (rest : ReadLoop limit (bytesRead + chunk.length) calls outcome) :
      ReadLoop limit bytesRead (.read (chunkRequest limit bytesRead) (.ok chunk) :: calls)
        (outcome.map (chunk ++ ·))

lemma osRead_bind_ok {α : Type} (requested : ℕ) (answer : Bytes)
    (f : Bytes → Traced SysCall OsError α) :
    (osRead requested (.ok answer) >>= f)
      = ⟨.read requested (.ok (answer.take requested)) :: (f (answer.take requested)).calls,
          (f (answer.take requested)).outcome⟩ := rfl

/-- The loop with its calls comes out as the loop does. -/
lemma outcome_readChunksRun (read : ℕ → Except OsError Bytes) (k bytesRead : ℕ) :
    (readChunksRun limit read k bytesRead).outcome = readChunks limit read k bytesRead := by
  induction k, bytesRead using readChunks.induct limit read with
  | case1 k bytesRead e hread =>
      rw [readChunksRun, readChunks, hread]
      rfl
  | case2 k bytesRead answer hread chunk hend =>
      rw [readChunksRun, readChunks, hread, osRead_bind_ok, if_pos hend]
      exact (if_pos hend).symm
  | case3 k bytesRead answer hread chunk hend hlimit =>
      rw [readChunksRun, readChunks, hread, osRead_bind_ok, if_neg hend, if_pos hlimit]
      exact ((if_neg hend).trans (if_pos hlimit)).symm
  | case4 k bytesRead answer hread chunk hend hlimit ih =>
      rw [readChunksRun, readChunks, hread, osRead_bind_ok, if_neg hend, if_neg hlimit]
      refine Eq.trans ?_ ((if_neg hend).trans (if_neg hlimit)).symm
      rw [← ih]
      exact Traced.outcome_bind _ _

/-- Its calls go one of these ways. -/
lemma readLoop_readChunksRun (read : ℕ → Except OsError Bytes) (k bytesRead : ℕ) :
    ReadLoop limit bytesRead (readChunksRun limit read k bytesRead).calls
      (readChunksRun limit read k bytesRead).outcome := by
  induction k, bytesRead using readChunks.induct limit read with
  | case1 k bytesRead e hread =>
      rw [readChunksRun, hread]
      exact .failed e
  | case2 k bytesRead answer hread chunk hend =>
      rw [readChunksRun, hread, osRead_bind_ok, if_pos hend, show answer.take _ = [] from hend]
      exact .ended
  | case3 k bytesRead answer hread chunk hend hlimit =>
      rw [readChunksRun, hread, osRead_bind_ok, if_neg hend, if_pos hlimit]
      exact .grown (List.length_take_le _ _) hlimit
  | case4 k bytesRead answer hread chunk hend hlimit ih =>
      rw [readChunksRun, hread, osRead_bind_ok, if_neg hend, if_neg hlimit]
      have hfurther := ReadLoop.further hend (List.length_take_le _ _) (Nat.not_lt.mp hlimit) ih
      rw [← Traced.outcome_map, ← Traced.calls_map] at hfurther
      exact hfurther

/-! ## What a run keeps to -/

def SysCall.isRead : SysCall → Bool
  | .read _ _ => true
  | _ => false

/-- The bytes a call brings. -/
def SysCall.bytes : SysCall → Bytes
  | .read _ (.ok chunk) => chunk
  | _ => []

/-- The bytes a sequence of calls brings. -/
def received (calls : List SysCall) : Bytes := calls.flatMap SysCall.bytes

/-- Before the limit is passed something is always asked for, at most one byte past it. -/
lemma chunkRequest_pos {bytesRead : ℕ} (h : bytesRead ≤ limit) :
    0 < chunkRequest limit bytesRead := by
  have hchunk : chunkSize = 65536 := rfl
  rw [chunkRequest, hchunk]
  omega

lemma chunkRequest_le (bytesRead : ℕ) : chunkRequest limit bytesRead ≤ limit + 1 - bytesRead :=
  min_le_right _ _

namespace ReadLoop

variable {bytesRead : ℕ} {calls : List SysCall} {outcome : Except OsError Bytes}

/-- Every chunk but the last brings a byte. -/
lemma length_le (h : ReadLoop limit bytesRead calls outcome) (hread : bytesRead ≤ limit) :
    calls.length ≤ limit + 1 - bytesRead := by
  induction h with
  | failed e =>
      rw [List.length_singleton]
      omega
  | ended =>
      rw [List.length_singleton]
      omega
  | grown hlen hlimit =>
      rw [List.length_singleton]
      omega
  | further hne hlen hlimit rest ih =>
      have hpos := List.length_pos_iff.mpr hne
      have hrest := ih hlimit
      rw [List.length_cons]
      omega

lemma isRead_of_mem (h : ReadLoop limit bytesRead calls outcome) {call : SysCall}
    (hmem : call ∈ calls) : call.isRead = true := by
  induction h with
  | failed e => rw [List.mem_singleton.mp hmem]; rfl
  | ended => rw [List.mem_singleton.mp hmem]; rfl
  | grown hlen hlimit => rw [List.mem_singleton.mp hmem]; rfl
  | further hne hlen hlimit rest ih =>
      rcases List.mem_cons.mp hmem with rfl | hmem
      · rfl
      · exact ih hmem

/-- No read asks for nothing. -/
lemma requested_pos (h : ReadLoop limit bytesRead calls outcome) (hread : bytesRead ≤ limit)
    {requested : ℕ} {answer : Except OsError Bytes} (hmem : .read requested answer ∈ calls) :
    0 < requested := by
  induction h with
  | failed e =>
      cases List.mem_singleton.mp hmem
      exact chunkRequest_pos hread
  | ended =>
      cases List.mem_singleton.mp hmem
      exact chunkRequest_pos hread
  | grown hlen hlimit =>
      cases List.mem_singleton.mp hmem
      exact chunkRequest_pos hread
  | further hne hlen hlimit rest ih =>
      rcases List.mem_cons.mp hmem with heq | hmem
      · cases heq
        exact chunkRequest_pos hread
      · exact ih hlimit hmem

/-- At most one byte past the limit comes in. -/
lemma received_le (h : ReadLoop limit bytesRead calls outcome) (hread : bytesRead ≤ limit) :
    bytesRead + (received calls).length ≤ limit + 1 := by
  induction h with
  | failed e =>
      show _ + 0 ≤ _
      omega
  | ended =>
      show _ + 0 ≤ _
      omega
  | @grown bytesRead chunk hlen hlimit =>
      have hrequest : chunkRequest limit bytesRead ≤ limit + 1 - bytesRead :=
        chunkRequest_le bytesRead
      rw [received, List.flatMap_singleton, SysCall.bytes]
      omega
  | further hne hlen hlimit rest ih =>
      have hrest := ih hlimit
      rw [received, List.flatMap_cons, SysCall.bytes, List.length_append, ← Nat.add_assoc]
      exact hrest

/-- A loop that ends at the end of the file returns what came in, which is within the limit. -/
lemma eq_received (h : ReadLoop limit bytesRead calls outcome) (hread : bytesRead ≤ limit)
    {content : Bytes} (hok : outcome = .ok content) :
    content = received calls ∧ bytesRead + content.length ≤ limit := by
  induction h generalizing content with
  | failed e => cases hok
  | ended =>
      cases hok
      exact ⟨rfl, hread⟩
  | grown hlen hlimit => cases hok
  | @further bytesRead chunk calls outcome hne hlen hlimit rest ih =>
      cases outcome with
      | error e => cases hok
      | ok tail =>
          cases hok
          obtain ⟨htail, hle⟩ := ih hlimit rfl
          refine ⟨?_, ?_⟩
          · rw [received, List.flatMap_cons, SysCall.bytes]
            exact congrArg (chunk ++ ·) htail
          · rw [List.length_append, ← Nat.add_assoc]
            exact hle

end ReadLoop

/-! ## The whole function -/

/-- Leaving the calls out gives the part under `try`. -/
lemma outcome_openedRun (limit : ℕ) (calls : SnapshotCalls) :
    (openedRun limit calls).outcome = readOpened limit calls := by
  rw [openedRun, readOpened, Traced.outcome_bind]
  refine congrArg (calls.before >>= ·) (funext fun before => ?_)
  split_ifs
  · rfl
  · rfl
  · rw [Traced.outcome_bind, outcome_readChunksRun]
    refine congrArg (readChunks limit calls.read 0 0 >>= ·) (funext fun content => ?_)
    rw [Traced.outcome_bind]
    refine congrArg (calls.after >>= ·) (funext fun after => ?_)
    split_ifs <;> rfl

/-- And the function. -/
theorem outcome_snapshotRun (limit : ℕ) (calls : SnapshotCalls) :
    (snapshotRun limit calls).outcome = readFileSnapshot limit calls := by
  rw [snapshotRun, Traced.outcome_bind, readFileSnapshot]
  refine congrArg (calls.opened >>= ·) (funext fun _ => ?_)
  rw [Traced.outcome_closing, outcome_openedRun]
  rfl

/-- What stands between opening and closing: a look at the file, the loop if it is reached, and a
second look if the loop comes to an end. -/
lemma calls_openedRun (limit : ℕ) (calls : SnapshotCalls) :
    ∃ loop tail, (openedRun limit calls).calls = .fstat :: (loop ++ tail) ∧
      (loop = (readChunksRun limit calls.read 0 0).calls ∨
        loop = [] ∧ ¬ Returns (readOpened limit calls)) ∧
      (tail = [] ∨ tail = [.fstat]) := by
  rw [openedRun, readOpened]
  cases calls.before with
  | error e => exact ⟨[], [], rfl, .inr ⟨rfl, not_returns_error e⟩, .inl rfl⟩
  | ok before =>
      rw [Traced.perform_ok_bind, ok_bind]
      split_ifs
      · exact ⟨[], [], rfl, .inr ⟨rfl, not_returns_error _⟩, .inl rfl⟩
      · exact ⟨[], [], rfl, .inr ⟨rfl, not_returns_error _⟩, .inl rfl⟩
      · generalize readChunksRun limit calls.read 0 0 = run
        obtain ⟨loop, outcome⟩ := run
        cases outcome with
        | error e => exact ⟨loop, [], congrArg _ (List.append_nil loop).symm, .inl rfl, .inl rfl⟩
        | ok content =>
            refine ⟨loop, [.fstat], congrArg _ (congrArg (loop ++ ·) ?_), .inl rfl, .inr rfl⟩
            show (Traced.perform SysCall.fstat calls.after >>= _).calls = _
            cases calls.after with
            | error e => rfl
            | ok after =>
                rw [Traced.perform_ok_bind]
                split_ifs <;> rfl

/-- A run that opened the file: its calls, with the loop among them. -/
lemma calls_snapshotRun (limit : ℕ) {calls : SnapshotCalls} (h : calls.opened = .ok ()) :
    ∃ loop tail, (snapshotRun limit calls).calls
        = [.openFile, .fstat] ++ (loop ++ (tail ++ [.close])) ∧
      (loop = (readChunksRun limit calls.read 0 0).calls ∨
        loop = [] ∧ ¬ Returns (readOpened limit calls)) ∧
      (tail = [] ∨ tail = [.fstat]) := by
  obtain ⟨loop, tail, hcalls, hloop, htail⟩ := calls_openedRun limit calls
  refine ⟨loop, tail, ?_, hloop, htail⟩
  rw [snapshotRun, h, Traced.perform_ok_bind]
  show _ :: ((openedRun limit calls).calls ++ [.close]) = _
  rw [hcalls]
  simp

lemma calls_snapshotRun_unopened {calls : SnapshotCalls} {e : OsError}
    (h : calls.opened = .error e) : (snapshotRun limit calls).calls = [.openFile] := by
  rw [snapshotRun, h, Traced.perform_error_bind]

/-! ## Bounds -/

/-- How much is read. -/
structure ReadsBounded (limit : ℕ) (trace : List SysCall) : Prop where
  reads_le : trace.countP SysCall.isRead ≤ limit + 1
  requested_pos : ∀ requested answer, .read requested answer ∈ trace → 0 < requested
  received_le : ∀ earlier, earlier <+: trace → (received earlier).length ≤ limit + 1

/-- The file is closed once if it was opened, and nothing is called after that. -/
structure ClosedOnce (opened : Except OsError Unit) (trace : List SysCall) : Prop where
  count_close : trace.count .close = if Returns opened then 1 else 0
  last : Returns opened → trace.getLast? = some .close

/-- What a normal return says: the content is what came in, within the limit, and of the size that
was reported before and after. -/
structure SnapshotTaken (limit : ℕ) (calls : SnapshotCalls) (trace : List SysCall)
    (content : Bytes) (after : FileStat) : Prop where
  content_eq : content = received trace
  length_le : content.length ≤ limit
  size_before : ∃ before, calls.before = .ok before ∧ before.size = content.length
  size_after : calls.after = .ok after ∧ after.size = content.length

/-- What brings no bytes can be left out. -/
lemma received_around {before after : List SysCall} (loop : List SysCall)
    (hbefore : ∀ call ∈ before, call.isRead = false)
    (hafter : ∀ call ∈ after, call.isRead = false) :
    received (before ++ (loop ++ after)) = received loop := by
  have hnone : ∀ call : SysCall, call.isRead = false → call.bytes = [] := by
    intro call hcall
    cases call with
    | read requested answer => cases hcall
    | openFile => rfl
    | fstat => rfl
    | close => rfl
  have hbytes : ∀ calls : List SysCall, (∀ call ∈ calls, call.isRead = false) →
      received calls = [] := fun calls hcalls =>
    List.flatMap_eq_nil_iff.mpr fun call hcall => hnone call (hcalls call hcall)
  rw [received, List.flatMap_append, List.flatMap_append]
  show received before ++ (received loop ++ received after) = _
  rw [hbytes before hbefore, hbytes after hafter, List.nil_append, List.append_nil]

/-- The bounds of the loop are those of the calls around it. -/
lemma readsBounded_around (before loop after : List SysCall)
    (hloop : loop = [] ∨ ∃ outcome, ReadLoop limit 0 loop outcome)
    (hbefore : ∀ call ∈ before, call.isRead = false)
    (hafter : ∀ call ∈ after, call.isRead = false) :
    ReadsBounded limit (before ++ (loop ++ after)) := by
  have hcount : ∀ calls : List SysCall, (∀ call ∈ calls, call.isRead = false) →
      calls.countP SysCall.isRead = 0 := fun calls hcalls =>
    List.countP_eq_zero.mpr fun call hcall => by simp [hcalls call hcall]
  obtain ⟨hlength, hreceived, hpos⟩ : loop.length ≤ limit + 1 ∧
      (received loop).length ≤ limit + 1 ∧
      ∀ requested answer, SysCall.read requested answer ∈ loop → 0 < requested := by
    rcases hloop with rfl | ⟨outcome, hloop⟩
    · exact ⟨Nat.zero_le _, Nat.zero_le _, fun _ _ hmem => absurd hmem List.not_mem_nil⟩
    · refine ⟨hloop.length_le (Nat.zero_le _), ?_, fun _ _ => hloop.requested_pos (Nat.zero_le _)⟩
      simpa using hloop.received_le (Nat.zero_le _)
  refine ⟨?_, fun requested answer hmem => ?_, fun earlier hprefix => ?_⟩
  · have hle : loop.countP SysCall.isRead ≤ loop.length := List.countP_le_length
    rw [List.countP_append, List.countP_append, hcount before hbefore, hcount after hafter]
    omega
  · rcases List.mem_append.mp hmem with hmem | hmem
    · cases hbefore _ hmem
    · rcases List.mem_append.mp hmem with hmem | hmem
      · exact hpos requested answer hmem
      · cases hafter _ hmem
  · obtain ⟨later, hlater⟩ := hprefix
    have htotal : received earlier ++ received later = received loop := by
      rw [received, received, ← List.flatMap_append, hlater]
      exact received_around loop hbefore hafter
    have hlengths := congrArg List.length htotal
    rw [List.length_append] at hlengths
    omega

lemma readsBounded_snapshotRun (limit : ℕ) (calls : SnapshotCalls) :
    ReadsBounded limit (snapshotRun limit calls).calls := by
  cases hopened : calls.opened with
  | error e =>
      rw [calls_snapshotRun_unopened hopened]
      exact readsBounded_around [.openFile] [] [] (.inl rfl) (by decide) (by decide)
  | ok _ =>
      obtain ⟨loop, tail, hcalls, hloop, htail⟩ := calls_snapshotRun limit hopened
      rw [hcalls]
      refine readsBounded_around _ loop _ ?_ (by decide) ?_
      · rcases hloop with rfl | ⟨rfl, -⟩
        · exact .inr ⟨_, readLoop_readChunksRun calls.read 0 0⟩
        · exact .inl rfl
      · rcases htail with rfl | rfl <;> decide

lemma closedOnce_snapshotRun (limit : ℕ) (calls : SnapshotCalls) :
    ClosedOnce calls.opened (snapshotRun limit calls).calls := by
  cases hopened : calls.opened with
  | error e =>
      rw [calls_snapshotRun_unopened hopened]
      exact ⟨rfl, fun h => absurd h (not_returns_error e)⟩
  | ok _ =>
      obtain ⟨loop, tail, hcalls, hloop, htail⟩ := calls_snapshotRun limit hopened
      have hnone : loop.count .close = 0 := by
        rw [List.count_eq_zero]
        rcases hloop with rfl | ⟨rfl, -⟩
        · intro hmem
          cases (readLoop_readChunksRun calls.read 0 0).isRead_of_mem hmem
        · exact List.not_mem_nil
      rw [hcalls]
      refine ⟨?_, fun _ => ?_⟩
      · rw [if_pos (returns_ok _), List.count_append, List.count_append, hnone]
        rcases htail with rfl | rfl <;> rfl
      · rw [← List.append_assoc, ← List.append_assoc, List.getLast?_concat]

/-- A normal return of the function. -/
lemma snapshotTaken {calls : SnapshotCalls} {content : Bytes} {after : FileStat}
    (h : readFileSnapshot limit calls = .ok (content, after)) :
    SnapshotTaken limit calls (snapshotRun limit calls).calls content after := by
  simp only [readFileSnapshot, bind_eq_ok_iff] at h
  obtain ⟨_, hopened, _, -, hresult⟩ := h
  obtain ⟨loop, tail, hcalls, hloop, htail⟩ := calls_snapshotRun limit hopened
  -- the loop was reached
  have hrun : loop = (readChunksRun limit calls.read 0 0).calls :=
    hloop.resolve_right fun hnot => hnot.2 ⟨_, hresult⟩
  simp only [readOpened, bind_eq_ok_iff] at hresult
  obtain ⟨before, hbefore, hresult⟩ := hresult
  split_ifs at hresult
  simp only [bind_eq_ok_iff] at hresult
  obtain ⟨read, hread, stat, hafter, hsame⟩ := hresult
  split_ifs at hsame with hchanged
  cases hsame
  simp only [not_or, not_not, Prod.mk.injEq] at hchanged
  obtain ⟨⟨-, -, hsizes, -⟩, hlength⟩ := hchanged
  obtain ⟨hcontent, hle⟩ := (readLoop_readChunksRun calls.read 0 0).eq_received (Nat.zero_le _)
    ((outcome_readChunksRun calls.read 0 0).trans hread)
  refine ⟨?_, by simpa using hle, ⟨before, hbefore, hsizes.trans hlength.symm⟩, hafter,
    hlength.symm⟩
  rw [hcalls, received_around loop (by decide) (by rcases htail with rfl | rfl <;> decide), hrun]
  exact hcontent

/-- **However the reads come out, `_read_file_snapshot` keeps to its bounds**: it reads at most once
for each byte up to the limit and once more, never asks for nothing and never takes in more than one
byte past the limit; it returns only what it found unchanged within the limit, and fails with an
`OSError` otherwise; and it closes what it opened. -/
theorem readFileSnapshot_bounded (limit : ℕ) (calls : SnapshotCalls) :
    (snapshotRun limit calls).outcome = readFileSnapshot limit calls ∧
      ReadsBounded limit (snapshotRun limit calls).calls ∧
      ClosedOnce calls.opened (snapshotRun limit calls).calls ∧
      ((∃ content after, readFileSnapshot limit calls = .ok (content, after) ∧
          SnapshotTaken limit calls (snapshotRun limit calls).calls content after) ∨
        ∃ e : OsError, readFileSnapshot limit calls = .error e) := by
  refine ⟨outcome_snapshotRun limit calls, readsBounded_snapshotRun limit calls,
    closedOnce_snapshotRun limit calls, ?_⟩
  cases h : readFileSnapshot limit calls with
  | error e => exact .inr ⟨e, rfl⟩
  | ok result =>
      obtain ⟨content, after⟩ := result
      exact .inl ⟨content, after, rfl, snapshotTaken h⟩

end Watchtower
