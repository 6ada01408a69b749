import Watchtower.CodeWatcher.Directory

/-!
# Events instead of passes

With `watchdog` the files are not walked: every operation on a file delivers an event, and the
handler looks at the file the event is about.  A file that is renamed within the tree delivers an
event that `_SecurityEventHandler` does not handle.

* `TreeState`, `treeStep` — the files of a watched tree, the events on their way and the tables of
  the watcher, under operations on files and calls of the handler in any order.
* `Covered` — what a file holds has been scanned or is about to be looked at.
* `Meets` — what is asked of an operation, and of the two reads of a call.
* **`covered_iff`** — the files stay covered exactly when every step meets what is asked of it.
* **`events_scan_everything`** — then, whenever no event is left, everything has been scanned that a
  pass over the tree would have scanned.
* `renamedFile_unscanned` — a rename after which it has not.
-/

namespace Watchtower

open Core Py

/-- An operation on a regular file of the tree. -/
inductive FileOp
  | create (path : PyStr) (content : Bytes)
  | write (path : PyStr) (content : Bytes)
  | delete (path : PyStr)
  | rename (source target : PyStr)

/-- An event on its way to the handler. -/
inductive TreeEvent
  | created (path : PyStr)
  | modified (path : PyStr)
  | deleted (path : PyStr)
  | moved (source target : PyStr)
  deriving DecidableEq

/-- The path an event makes the handler look at. -/
def TreeEvent.announced : TreeEvent → Option PyStr
  | .created path => some path
  | .modified path => some path
  | .deleted _ => none
  | .moved _ _ => none

/-- What the regular files of the tree hold. -/
abbrev Files := PyStr → Option Bytes

/-- The files after an operation.  What does not exist cannot be written, deleted or renamed. -/
def FileOp.files (files : Files) : FileOp → Files
  | .create path content => Function.update files path (some content)
  | .write path content =>
      if (files path).isSome then Function.update files path (some content) else files
  | .delete path => Function.update files path none
  | .rename source target =>
      if (files source).isSome then
        Function.update (Function.update files source none) target (files source)
      else files

/-- The event an operation delivers. -/
def FileOp.event (files : Files) : FileOp → Option TreeEvent
  | .create path _ => some (.created path)
  | .write path _ => if (files path).isSome then some (.modified path) else none
  | .delete path => if (files path).isSome then some (.deleted path) else none
  | .rename source target => if (files source).isSome then some (.moved source target) else none

section Tree

variable [UnicodeData] [Sha256] [WordData] [ContentDigest]

/-- A watched tree and its watcher: with the files the events that wait for the handler, the one it is
called with, the digests, and every content `scan_file` has read, by path. -/
structure TreeState where
  files : Files
  pending : List TreeEvent
  current : Option TreeEvent
  hashes : FileHashes
  scanned : List (PyStr × Bytes)

/-- An empty tree, and a watcher that has not looked at anything. -/
def TreeState.init : TreeState := ⟨fun _ => none, [], none, .empty, []⟩

/-- An operation, with the event it delivers. -/
def TreeState.apply (s : TreeState) (op : FileOp) : TreeState :=
  { s with files := op.files s.files, pending := s.pending ++ (op.event s.files).toList }

/-- The handler is called with the event that has waited longest. -/
def TreeState.start (s : TreeState) : TreeState :=
  match s.current, s.pending with
  | none, event :: pending => { s with pending := pending, current := some event }
  | _, _ => s

/-- What the handler comes upon by the time it returns: what its reads have returned, and what has
become of its findings. -/
structure Call where
  hashRead : SnapshotCalls
  scanRead : SnapshotCalls
  fileStamp : Stamp
  stamps : ℕ → Stamp
  emit : Finding → Except PyExc Unit

/-- No path of the tree is a symbolic link. -/
def Call.during (c : Call) : HandlerCalls where
  symlink := .ok false
  hashRead := c.hashRead
  scanRead := c.scanRead
  fileStamp := c.fileStamp
  stamps := c.stamps
  emit := c.emit

variable (settings : Settings) (parse : PyStr → Option (Ast .node))

/-- What the handler does on an event.  `on_deleted` and `on_moved` are those of the base class. -/
def handle (hashes : FileHashes) (c : Call) : TreeEvent → HandlerEffect
  | .created path => onCreated settings parse hashes ⟨false, path⟩ c.during
  | .modified path => onModified settings parse hashes ⟨false, path⟩ c.during
  | .deleted _ => { hashes }
  | .moved _ _ => { hashes }

/-- The contents a call has scanned, by path. -/
def scannedBy (event : TreeEvent) (effect : HandlerEffect) : List (PyStr × Bytes) :=
  match event.announced, effect.scanned with
  | some path, some content => [(path, content)]
  | _, _ => []

/-- The handler returns. -/
def TreeState.finish (s : TreeState) (c : Call) : TreeState :=
  match s.current with
  | none => s
  | some event =>
      let effect := handle settings parse s.hashes c event
      { s with
        current := none
        hashes := effect.hashes
        scanned := scannedBy event effect ++ s.scanned }

/-- A step of the tree or of its watcher.  Operations come at any moment, also during a call. -/
inductive TreeStep
  | op (op : FileOp)
  | start
  | finish (c : Call)

def treeStep (s : TreeState) : TreeStep → TreeState
  | .op op => s.apply op
  | .start => s.start
  | .finish c => s.finish settings parse c

/-- Every run of operations and calls. -/
def tree : Machine TreeState TreeStep Empty where
  init := .init
  step s i := .ok (treeStep settings parse s i)

/-! ## Covered files -/

/-- A path the handler and the passes look at. -/
def IsWatched (path : PyStr) : Prop := shouldScan settings path (.ok false) = .ok true

/-- A watched file holds a content within the limit. -/
def Holds (files : Files) (path : PyStr) (content : Bytes) : Prop :=
  IsWatched settings path ∧ files path = some content ∧ content.length ≤ maxFileSizeBytes

/-- An event waits that makes the handler look at the path. -/
def Awaited (s : TreeState) (path : PyStr) : Prop := ∃ event ∈ s.pending, event.announced = some path

/-- The handler looks at the path now. -/
def LookedAt (s : TreeState) (path : PyStr) : Prop :=
  ∃ event, s.current = some event ∧ event.announced = some path

/-- What a watched file holds has been scanned, or the handler is going to look at it; and what the
handler takes for unchanged has been scanned. -/
structure Covered (s : TreeState) : Prop where
  files : ∀ path content, Holds settings s.files path content →
    (path, content) ∈ s.scanned ∨ Awaited s path ∨ LookedAt s path
  hashes : ∀ path content, s.hashes.get path = some (ContentDigest.hexdigest content) →
    (path, content) ∈ s.scanned

/-- A rename brings a content onto a watched path only when it has been scanned there, or when the
handler is going to look at that path. -/
def OpMeets (s : TreeState) : FileOp → Prop
  | .rename source target => ∀ content, s.files source = some content → IsWatched settings target →
      content.length ≤ maxFileSizeBytes →
        (target, content) ∈ s.scanned ∨ Awaited s target ∨ LookedAt s target
  | _ => True

/-- A call gets as far as its second read.  That on a created file always does; that on a modified
one does when the first read shows a change, and the finding about it can be made and is emitted. -/
def ScanReached (hashes : FileHashes) (c : Call) : TreeEvent → Prop
  | .created _ => True
  | .modified path =>
      (∃ content, c.hashRead.content = some content ∧
          hashes.get path ≠ some (ContentDigest.hexdigest content)) ∧
        ModifiedFits settings path ∧
          ∀ f, makeFinding c.fileStamp (modifiedReport settings path) = .ok f → c.emit f = .ok ()
  | .deleted _ => False
  | .moved _ _ => False

/-- A call that looks at a watched path `path`. -/
structure CallMeets (s : TreeState) (c : Call) (event : TreeEvent) (path : PyStr) : Prop where
  /-- One of its reads has returned what the file then holds, unless that is already known or another
  event about the file waits. -/
  fresh : ∀ content, Holds settings s.files path content → ¬ Awaited s path →
    (path, content) ∈ s.scanned ∨ c.hashRead.content = some content ∨
      ScanReached settings s.hashes c event ∧ c.scanRead.content = some content
  /-- A content that is new to the table has been scanned before, or is what the second read
  returns. -/
  paired : ∀ content, c.hashRead.content = some content →
    s.hashes.get path ≠ some (ContentDigest.hexdigest content) →
      (path, content) ∈ s.scanned ∨
        ScanReached settings s.hashes c event ∧ c.scanRead.content = some content

/-- What is asked of a step. -/
def Meets (s : TreeState) : TreeStep → Prop
  | .op op => OpMeets settings s op
  | .start => True
  | .finish c => ∀ event path, s.current = some event → event.announced = some path →
      IsWatched settings path → CallMeets settings s c event path

end Tree

/-! ## Operations -/

section Operations

variable {s : TreeState} {path : PyStr} {content : Bytes}

lemma awaited_apply_iff {op : FileOp} :
    Awaited (s.apply op) path ↔
      Awaited s path ∨ ∃ event, op.event s.files = some event ∧ event.announced = some path := by
  simp only [Awaited, TreeState.apply, List.mem_append, Option.mem_toList, or_and_right, exists_or]

variable [ContentDigest] {settings : Settings}

/-- An operation that leaves every watched file as it was, or announces it, keeps the files
covered. -/
lemma covered_apply {op : FileOp} (hs : Covered settings s)
    (h : ∀ path content, Holds settings (op.files s.files) path content →
      Holds settings s.files path content ∨
        (path, content) ∈ s.scanned ∨ Awaited (s.apply op) path ∨ LookedAt s path) :
    Covered settings (s.apply op) where
  files path content hholds := by
    rcases h path content hholds with hold | hnew
    · rcases hs.files path content hold with hscanned | hawaited | hlooked
      · exact Or.inl hscanned
      · exact Or.inr (Or.inl (awaited_apply_iff.mpr (Or.inl hawaited)))
      · exact Or.inr (Or.inr hlooked)
    · exact hnew
  hashes := hs.hashes

/-- A new content that is announced. -/
lemma covered_apply_update {op : FileOp} (hs : Covered settings s)
    (hfiles : op.files s.files = Function.update s.files path (some content))
    (hevent : ∃ event, op.event s.files = some event ∧ event.announced = some path) :
    Covered settings (s.apply op) := by
  refine covered_apply hs fun q c hholds => ?_
  by_cases hq : q = path
  · subst hq
    exact Or.inr (Or.inr (Or.inl (awaited_apply_iff.mpr (Or.inr hevent))))
  · rw [Holds, hfiles, Function.update_of_ne hq] at hholds
    exact Or.inl hholds

/-- **An operation keeps the files covered exactly when it meets what is asked of it.** -/
theorem covered_apply_iff {op : FileOp} (hs : Covered settings s) :
    Covered settings (s.apply op) ↔ OpMeets settings s op := by
  cases op with
  | create path content =>
      exact iff_of_true (covered_apply_update hs rfl ⟨_, rfl, rfl⟩) trivial
  | write path content =>
      refine iff_of_true ?_ trivial
      by_cases hexists : (s.files path).isSome
      · exact covered_apply_update hs (if_pos hexists) ⟨_, if_pos hexists, rfl⟩
      · refine covered_apply hs fun q c hholds => Or.inl ?_
        rwa [FileOp.files, if_neg hexists] at hholds
  | delete path =>
      refine iff_of_true (covered_apply hs fun q c hholds => Or.inl ?_) trivial
      obtain ⟨hwatched, hc, hlen⟩ := hholds
      rw [FileOp.files] at hc
      by_cases hq : q = path
      · rw [hq, Function.update_self] at hc
        cases hc
      · rw [Function.update_of_ne hq] at hc
        exact ⟨hwatched, hc, hlen⟩
  | rename source target =>
      constructor
      · intro h content hcontent hwatched hlen
        have hexists : (s.files source).isSome := by simp [hcontent]
        have hholds : Holds settings (FileOp.rename source target |>.files s.files) target content := by
          refine ⟨hwatched, ?_, hlen⟩
          rw [FileOp.files, if_pos hexists, Function.update_self, hcontent]
        rcases h.files target content hholds with hscanned | hawaited | hlooked
        · exact Or.inl hscanned
        · rcases awaited_apply_iff.mp hawaited with hawaited | ⟨event, hevent, hannounced⟩
          · exact Or.inr (Or.inl hawaited)
          · -- the event of a rename announces nothing
            rw [FileOp.event, if_pos hexists] at hevent
            cases hevent
            cases hannounced
        · exact Or.inr (Or.inr hlooked)
      · intro hmeets
        refine covered_apply hs fun q c ⟨hwatched, hc, hlen⟩ => ?_
        by_cases hexists : (s.files source).isSome
        · rw [FileOp.files, if_pos hexists] at hc
          by_cases htarget : q = target
          · rw [htarget, Function.update_self] at hc
            rw [htarget] at hwatched ⊢
            rcases hmeets c hc hwatched hlen with hscanned | hawaited | hlooked
            · exact Or.inr (Or.inl hscanned)
            · exact Or.inr (Or.inr (Or.inl (awaited_apply_iff.mpr (Or.inl hawaited))))
            · exact Or.inr (Or.inr (Or.inr hlooked))
          · rw [Function.update_of_ne htarget] at hc
            by_cases hsource : q = source
            · rw [hsource, Function.update_self] at hc
              cases hc
            · rw [Function.update_of_ne hsource] at hc
              exact Or.inl ⟨hwatched, hc, hlen⟩
        · rw [FileOp.files, if_neg hexists] at hc
          exact Or.inl ⟨hwatched, hc, hlen⟩

/-- The event that is taken up is still covered. -/
lemma covered_start (hs : Covered settings s) : Covered settings s.start := by
  unfold TreeState.start
  split
  · next event pending hcurrent hpending =>
      refine ⟨fun path content hholds => ?_, hs.hashes⟩
      rcases hs.files path content hholds with hscanned | ⟨e, he, hannounced⟩ | ⟨e, he, -⟩
      · exact Or.inl hscanned
      · rw [hpending] at he
        rcases List.mem_cons.mp he with rfl | he
        · exact Or.inr (Or.inr ⟨e, rfl, hannounced⟩)
        · exact Or.inr (Or.inl ⟨e, he, hannounced⟩)
      · rw [hcurrent] at he
        cases he
  · exact hs

end Operations

/-! ## Calls -/

section Calls

variable [UnicodeData] [Sha256] [WordData] [ContentDigest] {settings : Settings}
  {parse : PyStr → Option (Ast .node)} {s : TreeState} {hashes : FileHashes} {c : Call}
  {event : TreeEvent} {path : PyStr}

/-- A call that looks at no watched path changes nothing. -/
lemma handle_of_not_watched (h : ∀ path, event.announced = some path → ¬ IsWatched settings path) :
    (handle settings parse hashes c event).hashes = hashes ∧
      (handle settings parse hashes c event).scanned = none := by
  cases event with
  | created path =>
      have hwatched : ¬ shouldScan settings path (.ok false) = .ok true := h path rfl
      simp only [handle, onCreated, Call.during, Bool.false_eq_true, if_false]
      split
      · exact ⟨rfl, rfl⟩
      · exact ⟨rfl, rfl⟩
      · next hscan => exact absurd hscan hwatched
  | modified path =>
      have hwatched : ¬ shouldScan settings path (.ok false) = .ok true := h path rfl
      simp only [handle, onModified, Call.during, Bool.false_eq_true, if_false]
      split
      · exact ⟨rfl, rfl⟩
      · exact ⟨rfl, rfl⟩
      · next hscan => exact absurd hscan hwatched
  | deleted path => exact ⟨rfl, rfl⟩
  | moved source target => exact ⟨rfl, rfl⟩

/-- A call that looks at a watched path updates the table with its first read. -/
lemma handle_of_watched (hannounced : event.announced = some path)
    (hwatched : IsWatched settings path) :
    (handle settings parse hashes c event).hashes
      = (hasChanged maxTrackedFiles hashes path c.hashRead).2 := by
  cases event with
  | created p =>
      obtain rfl : p = path := Option.some.inj hannounced
      simp only [handle, onCreated, Call.during, Bool.false_eq_true, if_false]
      rw [show shouldScan settings p (.ok false) = .ok true from hwatched]
      rfl
  | modified p =>
      obtain rfl : p = path := Option.some.inj hannounced
      simp only [handle, onModified, Call.during, Bool.false_eq_true, if_false]
      rw [show shouldScan settings p (.ok false) = .ok true from hwatched]
      dsimp only
      obtain ⟨changed, hashes'⟩ := hasChanged maxTrackedFiles hashes p c.hashRead
      cases changed with
      | false => rfl
      | true =>
          -- whatever becomes of the finding on the modification
          dsimp only
          split
          · rfl
          · split <;> rfl
  | deleted p => cases hannounced
  | moved source target => cases hannounced

/-- What it scans is what its second read returns, if it gets there. -/
lemma scanned_handle_iff {content : Bytes} (hannounced : event.announced = some path)
    (hwatched : IsWatched settings path) :
    (handle settings parse hashes c event).scanned = some content ↔
      ScanReached settings hashes c event ∧ c.scanRead.content = some content := by
  cases event with
  | created p =>
      obtain rfl : p = path := Option.some.inj hannounced
      simp only [handle, onCreated, Call.during, Bool.false_eq_true, if_false]
      rw [show shouldScan settings p (.ok false) = .ok true from hwatched]
      exact (and_iff_right trivial).symm
  | modified p =>
      obtain rfl : p = path := Option.some.inj hannounced
      simp only [handle, onModified, Call.during, Bool.false_eq_true, if_false]
      rw [show shouldScan settings p (.ok false) = .ok true from hwatched]
      have hchanged : (hasChanged maxTrackedFiles hashes p c.hashRead).1 = true ↔
          ∃ content, c.hashRead.content = some content ∧
            hashes.get p ≠ some (ContentDigest.hexdigest content) := hasChanged_iff
      rw [ScanReached, ← hchanged, ← modifiedReport_fits_iff, ← returns_makeFinding_iff c.fileStamp]
      dsimp only
      obtain ⟨changed, hashes'⟩ := hasChanged maxTrackedFiles hashes p c.hashRead
      cases changed with
      | false => simp
      | true =>
          cases hmake : makeFinding c.fileStamp (modifiedReport settings p) with
          | error e => simp [Returns]
          | ok f =>
              cases hemit : c.emit f with
              | error e => simp [hemit]
              | ok u => simp [scanAndEmit, hemit, returns_ok]
  | deleted p => cases hannounced
  | moved source target => cases hannounced

omit [Sha256] [WordData] [ContentDigest] in
lemma mem_scannedBy_iff {effect : HandlerEffect} {entry : PyStr × Bytes} :
    entry ∈ scannedBy event effect ↔
      event.announced = some entry.1 ∧ effect.scanned = some entry.2 := by
  unfold scannedBy
  split
  · next path content hannounced hscanned =>
      rw [hannounced, hscanned, List.mem_singleton, Option.some.injEq, Option.some.injEq, Prod.ext_iff]
      exact and_congr eq_comm eq_comm
  · next h =>
      simp only [List.not_mem_nil, false_iff]
      rintro ⟨hannounced, hscanned⟩
      exact h _ _ hannounced hscanned

/-- **A call keeps the files covered exactly when it meets what is asked of it.** -/
theorem covered_finish_iff (hinj : Function.Injective ContentDigest.hexdigest)
    (hs : Covered settings s) :
    Covered settings (s.finish settings parse c) ↔ Meets settings s (.finish c) := by
  have hcapacity : 0 < maxTrackedFiles := by decide
  cases hcurrent : s.current with
  | none =>
      have hsame : s.finish settings parse c = s := by rw [TreeState.finish, hcurrent]
      rw [hsame]
      refine iff_of_true hs fun event path h => ?_
      rw [hcurrent] at h
      cases h
  | some event =>
      have hfinish : s.finish settings parse c
          = { s with
              current := none
              hashes := (handle settings parse s.hashes c event).hashes
              scanned := scannedBy event (handle settings parse s.hashes c event) ++ s.scanned } := by
        rw [TreeState.finish, hcurrent]
      rw [hfinish]
      constructor
      · rintro ⟨hfiles, hhashes⟩ event' path hevent hannounced hwatched
        obtain rfl : event' = event := by
          rw [hcurrent] at hevent
          exact (Option.some.inj hevent).symm
        refine ⟨fun content hholds hawaited => ?_, fun content hread _ => ?_⟩
        · rcases hfiles path content hholds with hscanned | hwaits | ⟨e, he, -⟩
          · rcases List.mem_append.mp hscanned with hnow | hbefore
            · exact Or.inr (Or.inr
                ((scanned_handle_iff hannounced hwatched).mp (mem_scannedBy_iff.mp hnow).2))
            · exact Or.inl hbefore
          · exact absurd hwaits hawaited
          · cases he
        · have hget : (handle settings parse s.hashes c event').hashes.get path
              = some (ContentDigest.hexdigest content) := by
            rw [handle_of_watched hannounced hwatched, get_hasChanged hcapacity hread]
          rcases List.mem_append.mp (hhashes path content hget) with hnow | hbefore
          · exact Or.inr ((scanned_handle_iff hannounced hwatched).mp (mem_scannedBy_iff.mp hnow).2)
          · exact Or.inl hbefore
      · intro hmeets
        -- what the first read of a watched path returns is scanned by the end
        have hread : ∀ path content, event.announced = some path → IsWatched settings path →
            c.hashRead.content = some content →
              (path, content) ∈ scannedBy event (handle settings parse s.hashes c event)
                ++ s.scanned := by
          intro path content hannounced hwatched hcontent
          by_cases hknown : s.hashes.get path = some (ContentDigest.hexdigest content)
          · exact List.mem_append_right _ (hs.hashes path content hknown)
          · rcases (hmeets event path hcurrent hannounced hwatched).paired content hcontent hknown
              with hbefore | hnow
            · exact List.mem_append_right _ hbefore
            · exact List.mem_append_left _ (mem_scannedBy_iff.mpr
                ⟨hannounced, (scanned_handle_iff hannounced hwatched).mpr hnow⟩)
        constructor
        · intro path content hholds
          rcases hs.files path content hholds with hscanned | hawaited | ⟨e, he, hannounced⟩
          · exact Or.inl (List.mem_append_right _ hscanned)
          · exact Or.inr (Or.inl hawaited)
          · obtain rfl : event = e := by
              rw [hcurrent] at he
              exact Option.some.inj he
            by_cases hawaited : Awaited s path
            · exact Or.inr (Or.inl hawaited)
            · refine Or.inl ?_
              rcases (hmeets event path hcurrent hannounced hholds.1).fresh content hholds hawaited
                with hbefore | hfirst | hnow
              · exact List.mem_append_right _ hbefore
              · exact hread path content hannounced hholds.1 hfirst
              · exact List.mem_append_left _ (mem_scannedBy_iff.mpr
                  ⟨hannounced, (scanned_handle_iff hannounced hholds.1).mpr hnow⟩)
        · intro path content hget
          by_cases hlooks : ∃ p, event.announced = some p ∧ IsWatched settings p
          · obtain ⟨p, hannounced, hwatched⟩ := hlooks
            dsimp only at hget
            rw [handle_of_watched hannounced hwatched] at hget
            by_cases hpath : path = p
            · subst hpath
              cases hcontent : c.hashRead.content with
              | none =>
                  rw [hasChanged_of_error hcontent] at hget
                  exact List.mem_append_right _ (hs.hashes path content hget)
              | some read =>
                  rw [get_hasChanged hcapacity hcontent, Option.some.injEq] at hget
                  obtain rfl := hinj hget
                  exact hread path read hannounced hwatched hcontent
            · exact List.mem_append_right _
                (hs.hashes path content (get_hasChanged_other hpath hget))
          · dsimp only at hget
            rw [(handle_of_not_watched fun p hannounced hwatched =>
              hlooks ⟨p, hannounced, hwatched⟩).1] at hget
            exact List.mem_append_right _ (hs.hashes path content hget)

/-! ## Runs -/

/-- **The files stay covered exactly when every step meets what is asked of it.** -/
theorem covered_iff (hinj : Function.Injective ContentDigest.hexdigest) (steps : List TreeStep) :
    (tree settings parse).Throughout steps (Covered settings) ↔
      (tree settings parse).Always steps (Meets settings) := by
  refine Machine.throughout_iff_always ?_ ?_ steps
  · constructor
    · rintro path content ⟨-, hfiles, -⟩
      cases hfiles
    · intro path content hget
      cases hget
  · intro s step hs
    have hstep : (∀ t, (tree settings parse).step s step = .ok t → Covered settings t) ↔
        Covered settings (treeStep settings parse s step) := by
      simp [tree]
    rw [hstep]
    cases step with
    | op op => exact covered_apply_iff hs
    | start => exact iff_of_true (covered_start hs) trivial
    | finish c => exact covered_finish_iff hinj hs

/-! ## Passes -/

omit [UnicodeData] [Sha256] [WordData] [ContentDigest] in
/-- Everything the watched files hold has been scanned. -/
def AllScanned (settings : Settings) (files : Files) (scanned : List (PyStr × Bytes)) : Prop :=
  ∀ path content, Holds settings files path content → (path, content) ∈ scanned

/-- A pass while nothing changes: it comes to every watched file, and both reads of a file return
the same. -/
structure QuietPass (settings : Settings) (files : Files) (entries : List Entry) : Prop where
  visits : ∀ path content, Holds settings files path content → ∃ e ∈ entries,
    e.path = path ∧ e.isFile = .ok true ∧ e.isSymlink = .ok false ∧ e.hashRead.content = some content
  reads : ∀ e ∈ entries, e.scanRead.content = e.hashRead.content

/-- What a visit whose reads agree has read is scanned by the end. -/
lemma mem_scanned_of_visit {changedOnly : Bool} {w w' : WatchState} {e : Entry} {content : Bytes}
    (hw : SkipSound w) (hvisit : visitEntry settings parse changedOnly w e = .ok w')
    (hskip : e.isSkipped settings = .ok false) (hreads : e.scanRead.content = e.hashRead.content)
    (hread : e.hashRead.content = some content) : (e.path, content) ∈ w'.scanned := by
  by_cases hknown : w.hashes.get e.path = some (ContentDigest.hexdigest content)
  · exact scanned_subset hvisit (hw e.path content hknown)
  · rw [scanned_of_changed hvisit hskip (hasChanged_iff.mpr ⟨content, hread, hknown⟩), hreads, hread]
    simp

/-- A pass whose reads agree scans what it reads and keeps skipping sound. -/
lemma runFrom_scans (hinj : Function.Injective ContentDigest.hexdigest) {changedOnly : Bool}
    {entries : List Entry} : ∀ {w w' : WatchState}, SkipSound w →
      (∀ e ∈ entries, e.scanRead.content = e.hashRead.content) →
      (watcher settings parse).runFrom w (entries.map fun e => (changedOnly, e)) = .ok w' →
      w.scanned ⊆ w'.scanned ∧ ∀ e ∈ entries, e.isSkipped settings = .ok false → ∀ content,
        e.hashRead.content = some content → (e.path, content) ∈ w'.scanned := by
  induction entries with
  | nil =>
      intro w w' hw hreads hrun
      cases hrun
      exact ⟨List.Subset.refl _, fun e he => by cases he⟩
  | cons e entries ih =>
      intro w w' hw hreads hrun
      rw [List.forall_mem_cons] at hreads
      cases hvisit : visitEntry settings parse changedOnly w e with
      | error error =>
          simp only [List.map_cons, Machine.runFrom, watcher, hvisit] at hrun
          cases hrun
      | ok u =>
          simp only [List.map_cons, Machine.runFrom, watcher, hvisit] at hrun
          have hpaired : Paired settings parse w (changedOnly, e) := by
            intro _ _ content hread _
            exact Or.inr (hreads.1.trans hread)
          have hu := (skipSound_visit_iff hinj hw).mpr hpaired u hvisit
          obtain ⟨hsubset, hscanned⟩ := ih hu hreads.2 hrun
          refine ⟨List.Subset.trans (scanned_subset hvisit) hsubset, ?_⟩
          rintro e' he' hskip content hread
          rcases List.mem_cons.mp he' with rfl | he'
          · exact hsubset (mem_scanned_of_visit hw hvisit hskip hreads.1 hread)
          · exact hscanned e' he' hskip content hread

omit [Sha256] [WordData] [ContentDigest] in
/-- A pass does not leave a watched file out. -/
lemma not_skipped_of_isWatched {e : Entry} (hwatched : IsWatched settings e.path)
    (hfile : e.isFile = .ok true) (hsymlink : e.isSymlink = .ok false) :
    e.isSkipped settings = .ok false := by
  unfold IsWatched shouldScan at hwatched
  split_ifs at hwatched with hsuffix
  · have hignored : isIgnored e.path settings.codeWatcher.ignorePaths = false := by
      simpa [Except.map] using hwatched
    simp only [Entry.isSkipped, hignored, hfile, hsymlink, hsuffix, Bool.false_eq_true, if_false,
      Bool.not_true]
  · cases hwatched

/-- **A pass over a quiet tree leaves nothing unscanned.** -/
theorem quietPass_scans (hinj : Function.Injective ContentDigest.hexdigest) {files : Files}
    {entries : List Entry} {w w' : WatchState} {n : ℕ} (hw : SkipSound w)
    (hquiet : QuietPass settings files entries)
    (hrun : scanDirectory settings parse true w entries = .ok (w', n)) :
    AllScanned settings files w'.scanned := by
  intro path content hholds
  have hfrom : (watcher settings parse).runFrom w (entries.map fun e => (true, e)) = .ok w' := by
    unfold scanDirectory at hrun
    cases hfrom : (watcher settings parse).runFrom w (entries.map fun e => (true, e)) with
    | error error =>
        rw [hfrom] at hrun
        cases hrun
    | ok u =>
        rw [hfrom] at hrun
        cases hrun
        rfl
  obtain ⟨e, he, rfl, hfile, hsymlink, hread⟩ := hquiet.visits path content hholds
  exact (runFrom_scans hinj hw hquiet.reads hfrom).2 e he
    (not_skipped_of_isWatched hholds.1 hfile hsymlink) content hread

/-- **What events and passes scan.**  The files stay covered exactly when every step meets what is
asked of it.  In a run whose steps all do, everything the watched files hold has been scanned
whenever no event is left — which is what a pass over the quiet tree ensures. -/
theorem events_scan_everything (settings : Settings) (parse : PyStr → Option (Ast .node))
    (hinj : Function.Injective ContentDigest.hexdigest) (steps : List TreeStep) :
    ((tree settings parse).Throughout steps (Covered settings) ↔
        (tree settings parse).Always steps (Meets settings)) ∧
      ((tree settings parse).Always steps (Meets settings) →
        (tree settings parse).Throughout steps fun s =>
          s.pending = [] → s.current = none → AllScanned settings s.files s.scanned) ∧
      ∀ files entries w w' n, SkipSound w → QuietPass settings files entries →
        scanDirectory settings parse true w entries = .ok (w', n) →
          AllScanned settings files w'.scanned := by
  have hcovered : (tree settings parse).Throughout steps (Covered settings) ↔
      (tree settings parse).Always steps (Meets settings) := covered_iff hinj steps
  refine ⟨hcovered, ?_, fun files entries w w' n => quietPass_scans hinj⟩
  intro hmeets before after s hsteps hs hpending hcurrent path content hholds
  rcases (hcovered.mpr hmeets before after s hsteps hs).files path content hholds
    with hscanned | ⟨event, hevent, -⟩ | ⟨event, hevent, -⟩
  · exact hscanned
  · rw [hpending] at hevent
    cases hevent
  · rw [hcurrent] at hevent
    cases hevent

end Calls

/-! ## A renamed file -/

section Sample

attribute [local instance] asciiData latinWords pathDigest sampleContentDigest

/-- A call about a file that is gone. -/
def lateCall : Call where
  hashRead := .unopened ⟨"No such file or directory"⟩
  scanRead := .unopened ⟨"No such file or directory"⟩
  fileStamp := sampleStamp
  stamps _ := sampleStamp
  emit _ := .ok ()

/-- A file is written under a temporary name and renamed at once; then both events are handled. -/
def atomicSave : List TreeStep :=
  [.op (.create (py "/srv/auth/tmp.py") evalContent),
    .op (.rename (py "/srv/auth/tmp.py") (py "/srv/auth/a.py")), .start, .finish lateCall, .start,
    .finish lateCall]

theorem events_scan_everything_atomicSave :
    Function.Injective ContentDigest.hexdigest ∧
      (((tree codeSettings fun _ => none).Throughout atomicSave (Covered codeSettings) ↔
          (tree codeSettings fun _ => none).Always atomicSave (Meets codeSettings)) ∧
        ((tree codeSettings fun _ => none).Always atomicSave (Meets codeSettings) →
          (tree codeSettings fun _ => none).Throughout atomicSave fun s =>
            s.pending = [] → s.current = none → AllScanned codeSettings s.files s.scanned) ∧
        ∀ files entries w w' n, SkipSound w → QuietPass codeSettings files entries →
          scanDirectory codeSettings (fun _ => none) true w entries = .ok (w', n) →
            AllScanned codeSettings files w'.scanned) :=
  ⟨sampleContentDigest_injective, events_scan_everything _ _ sampleContentDigest_injective _⟩

/-- No event is left, and what the renamed file holds has not been scanned under any name. -/
theorem renamedFile_unscanned :
    ∃ s, (tree codeSettings fun _ => none).run atomicSave = .ok s ∧ s.pending = [] ∧
      s.current = none ∧ Holds codeSettings s.files (py "/srv/auth/a.py") evalContent ∧
      s.scanned = [] :=
  ⟨_, rfl, rfl, rfl, ⟨rfl, rfl, by decide⟩, rfl⟩

end Sample

end Watchtower
