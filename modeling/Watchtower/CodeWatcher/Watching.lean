import Watchtower.CodeWatcher.Directory
import Watchtower.Core.Once

/-!
# The code watcher at work

`watch` selects the paths that are directories, scans them if it is told to, and then leaves the work
to the thread of an observer, which it looks after once a second; without the package it goes over
the directories itself.  The observer's thread calls the handlers, and a handler that fails leaves
its exception in a cell for `watch` to find.

* `WatcherState.watchStep` — `watch`, from one look at shared state to the next.
* `codeWatcher` — `watch`, the thread of the observer, and whoever sets the stop event, in any
  interleaving.
* `WatcherState.Inv` — what the end of `watch` has to do with the handlers and the observer.
* `Trouble` — what makes `watch` leave its loop, `Trouble.Holds` — whether it has come up.
* **`codeWatch_leaves`** — once one of them has come up, `watch` is at its end within seven steps of
  its own, whatever the other threads do.
* **`codeWatch_ends`** — how it ends.
-/

namespace Watchtower

open Core Py

/-! ## The parties -/

/-- What `watch` raises. -/
inductive WatcherFailure
  | runtimeError (message : String) (cause : Option HandlerFailure)
  /-- An answer of the file system about a watch path, or the start of the observer. -/
  | os (e : OsError)
  | pass (e : PassFailure)

namespace WatcherFailure

def noPath : WatcherFailure :=
  .runtimeError "none of the configured code watch paths is a directory" none

/-- `raise_if_failed` has found an exception. -/
def handling (f : HandlerFailure) : WatcherFailure :=
  .runtimeError "code watcher event handling failed" (some f)

def observerDied : WatcherFailure :=
  .runtimeError "code watcher observer stopped unexpectedly" none

def observerAlive : WatcherFailure := .runtimeError "code watcher observer did not stop" none

end WatcherFailure

/-- The loop around the observer: the condition, `raise_if_failed`, the look at the observer, and the
wait. -/
inductive LoopPlace
  | condition
  | failure
  | observer
  | wait
  deriving DecidableEq

/-- Where `watch` stands. -/
inductive WatcherPlace
  | selecting (remaining active : List PyStr)
  | scanning (remaining active : List PyStr)
  | scheduling (remaining : List PyStr)
  | starting
  | looping (place : LoopPlace)
  /-- Before `observer.stop()`, with the exception that is on its way. -/
  | stopping (raised : Option WatcherFailure)
  | joining (raised : Option WatcherFailure)
  /-- Behind the join, before the last look at the observer. -/
  | confirming (raised : Option WatcherFailure)
  /-- The condition of the loop without an observer. -/
  | pollCondition (active : List PyStr)
  | polling (remaining active : List PyStr)
  | pollWait (active : List PyStr)
  | finished (outcome : Except WatcherFailure Unit)

/-- Where the thread of the observer stands. -/
inductive ObserverPlace
  | unstarted
  | dispatching
  /-- A handler has caught an exception and is before the block under `_failure_lock`. -/
  | recording (f : HandlerFailure)
  | dead

def ObserverPlace.isAlive : ObserverPlace → Bool
  | .dispatching => true
  | .recording _ => true
  | _ => false

/-- A thread that was started and is not alive has come to its end. -/
lemma ObserverPlace.eq_dead (place : ObserverPlace) (hstarted : place ≠ .unstarted)
    (halive : ¬ place.isAlive = true) : place = .dead := by
  cases place with
  | dead => rfl
  | unstarted => exact absurd rfl hstarted
  | _ => exact absurd rfl halive

/-- What the threads share, where they stand, and every failure that was recorded. -/
structure WatcherState where
  place : WatcherPlace
  stopEvent : Bool
  /-- The table of digests, and what was done with it. -/
  work : WatchState
  observer : ObserverPlace
  /-- `observer.stop()` has been called. -/
  stopped : Bool
  failure : Option HandlerFailure
  recorded : List HandlerFailure

namespace WatcherState

/-! ## `watch` -/

def init (settings : Settings) : WatcherState where
  place := .selecting settings.codeWatcher.watchPaths []
  stopEvent := false
  work := .init
  observer := .unstarted
  stopped := false
  failure := none
  recorded := []

def moved (s : WatcherState) (place : WatcherPlace) : WatcherState := { s with place := place }

/-- `active_paths`, one path after the other. -/
def lookStep (s : WatcherState) (isDir isSymlink : Except OsError Bool) : Except Unit WatcherState :=
  match s.place with
  | .selecting (path :: remaining) active =>
      match isDir with
      | .error e => .ok (s.moved (.finished (.error (.os e))))
      | .ok false => .ok (s.moved (.selecting remaining active))
      | .ok true =>
          match isSymlink with
          | .error e => .ok (s.moved (.finished (.error (.os e))))
          | .ok true => .ok (s.moved (.selecting remaining active))
          | .ok false => .ok (s.moved (.selecting remaining (active ++ [path])))
  | _ => .error ()

/-- The loop around the observer: where it goes on, or how it is left. -/
def loopStep (s : WatcherState) : LoopPlace → WatcherPlace
  | .condition => if s.stopEvent then .stopping none else .looping .failure
  | .failure =>
      match s.failure with
      | some f => .stopping (some (.handling f))
      | none => .looping .observer
  | .observer =>
      if s.observer.isAlive then .looping .wait else .stopping (some .observerDied)
  | .wait => .looping .condition

/-- The end of the `finally` block. -/
def verdict (s : WatcherState) (raised : Option WatcherFailure) : Except WatcherFailure Unit :=
  if s.observer.isAlive then .error .observerAlive
  else
    match raised with
    | some e => .error e
    | none => .ok ()

/-- What `watch` does by itself. -/
def watchStep (scanOnStart watchdogAvailable : Bool) (s : WatcherState) :
    Except Unit WatcherState :=
  match s.place with
  | .selecting [] active =>
      if active = [] then .ok (s.moved (.finished (.error .noPath)))
      else if scanOnStart then .ok (s.moved (.scanning active active))
      else .ok (s.moved (if watchdogAvailable then .scheduling active else .pollCondition active))
  | .scanning [] active =>
      .ok (s.moved (if watchdogAvailable then .scheduling active else .pollCondition active))
  | .scheduling [] => .ok (s.moved .starting)
  | .looping place => .ok (s.moved (s.loopStep place))
  | .stopping raised => .ok { s.moved (.joining raised) with stopped := true }
  | .joining raised => .ok (s.moved (.confirming raised))
  | .confirming raised => .ok (s.moved (.finished (s.verdict raised)))
  | .pollCondition active =>
      .ok (s.moved (if s.stopEvent then .finished (.ok ()) else .polling active active))
  | .polling [] active => .ok (s.moved (.pollWait active))
  | .pollWait active => .ok (s.moved (.pollCondition active))
  | _ => .error ()

/-! ## How `watch` ends -/

/-- An exception that is on its way through the `finally` block, or none, has its reason. -/
def HasReason (s : WatcherState) : Option WatcherFailure → Prop
  | none => s.stopEvent = true
  | some e =>
      (∃ f, s.failure = some f ∧ e = .handling f) ∨ (e = .observerDied ∧ s.observer = .dead)

/-- Before there is an observer, or without one, `watch` is ended by what it finds on the disk or by
what it does. -/
def FailedAlone (s : WatcherState) (e : WatcherFailure) : Prop :=
  s.observer = .unstarted ∧ (e = .noPath ∨ (∃ error, e = .os error) ∨ ∃ error, e = .pass error)

/-- How `watch` may end. -/
def Ends (s : WatcherState) : Except WatcherFailure Unit → Prop
  | .ok () =>
      s.stopEvent = true ∧ (s.observer = .unstarted ∨ (s.observer = .dead ∧ s.stopped = true))
  | .error e =>
      (s.HasReason (some e) ∧ s.observer = .dead ∧ s.stopped = true) ∨
        (e = .observerAlive ∧ s.observer ≠ .unstarted ∧ s.stopped = true) ∨ s.FailedAlone e

/-- What a place says about the rest. -/
def Agrees (s : WatcherState) : WatcherPlace → Prop
  | .looping _ => s.observer ≠ .unstarted
  | .stopping raised => s.observer ≠ .unstarted ∧ s.HasReason raised
  | .joining raised => s.observer ≠ .unstarted ∧ s.HasReason raised ∧ s.stopped = true
  | .confirming raised => s.observer ≠ .unstarted ∧ s.HasReason raised ∧ s.stopped = true
  | .finished outcome => s.Ends outcome
  | _ => s.observer = .unstarted

/-- What holds in every state. -/
structure Inv (s : WatcherState) : Prop where
  /-- The cell holds the failure that was recorded first. -/
  first : s.failure = s.recorded.head?
  agrees : s.Agrees s.place

/-- What the other threads may do to the state: nothing they have done is undone. -/
structure Grows (s t : WatcherState) : Prop where
  place : t.place = s.place
  stopped : t.stopped = s.stopped
  stopEvent : s.stopEvent = true → t.stopEvent = true
  failure : ∀ f, s.failure = some f → t.failure = some f
  dead : s.observer = .dead → t.observer = .dead
  unstarted : t.observer = .unstarted ↔ s.observer = .unstarted

variable {s t : WatcherState}

lemma HasReason.grows {raised : Option WatcherFailure} (h : s.HasReason raised) (hgrows : s.Grows t) :
    t.HasReason raised := by
  cases raised with
  | none => exact hgrows.stopEvent h
  | some e =>
      refine Or.imp ?_ ?_ h
      · rintro ⟨f, hf, he⟩
        exact ⟨f, hgrows.failure f hf, he⟩
      · rintro ⟨he, hdead⟩
        exact ⟨he, hgrows.dead hdead⟩

lemma Ends.grows {outcome : Except WatcherFailure Unit} (h : s.Ends outcome) (hgrows : s.Grows t) :
    t.Ends outcome := by
  have hstarted : s.observer ≠ .unstarted → t.observer ≠ .unstarted := hgrows.unstarted.not.mpr
  cases outcome with
  | ok u =>
      obtain ⟨hstop, hobserver⟩ := h
      refine ⟨hgrows.stopEvent hstop, hobserver.imp hgrows.unstarted.mpr ?_⟩
      rintro ⟨hdead, hstopped⟩
      exact ⟨hgrows.dead hdead, hgrows.stopped.trans hstopped⟩
  | error e =>
      rcases h with ⟨hreason, hdead, hstopped⟩ | ⟨he, hobserver, hstopped⟩ | ⟨hunstarted, he⟩
      · exact .inl ⟨hreason.grows hgrows, hgrows.dead hdead, hgrows.stopped.trans hstopped⟩
      · exact .inr (.inl ⟨he, hstarted hobserver, hgrows.stopped.trans hstopped⟩)
      · exact .inr (.inr ⟨hgrows.unstarted.mpr hunstarted, he⟩)

/-- What a place says survives what the other threads do. -/
lemma Agrees.grows {place : WatcherPlace} (h : s.Agrees place) (hgrows : s.Grows t) :
    t.Agrees place := by
  have hstarted : s.observer ≠ .unstarted → t.observer ≠ .unstarted := hgrows.unstarted.not.mpr
  cases place with
  | looping p => exact hstarted h
  | stopping raised => exact ⟨hstarted h.1, h.2.grows hgrows⟩
  | joining raised => exact ⟨hstarted h.1, h.2.1.grows hgrows, hgrows.stopped.trans h.2.2⟩
  | confirming raised => exact ⟨hstarted h.1, h.2.1.grows hgrows, hgrows.stopped.trans h.2.2⟩
  | finished outcome => exact Ends.grows h hgrows
  | _ => exact hgrows.unstarted.mpr h

/-- What a place says does not depend on where `watch` stands or on its table. -/
lemma agrees_moved_iff {place other : WatcherPlace} {work : WatchState} :
    Agrees { s.moved other with work := work } place ↔ s.Agrees place := by
  cases place with
  | finished outcome => cases outcome <;> exact Iff.rfl
  | stopping raised => cases raised <;> exact Iff.rfl
  | joining raised => cases raised <;> exact Iff.rfl
  | confirming raised => cases raised <;> exact Iff.rfl
  | _ => exact Iff.rfl

lemma Inv.grows (h : s.Inv) (hgrows : s.Grows t) (hfirst : t.failure = t.recorded.head?) : t.Inv where
  first := hfirst
  agrees := by
    rw [hgrows.place]
    exact h.agrees.grows hgrows

/-- The observer's thread goes on while it lives. -/
lemma grows_of_observer {place : ObserverPlace} {work : WatchState} (halive : s.observer.isAlive = true)
    (hplace : place ≠ .unstarted) : s.Grows { s with observer := place, work := work } where
  place := rfl
  stopped := rfl
  stopEvent := id
  failure _ hf := hf
  dead hdead := by
    rw [hdead] at halive
    cases halive
  unstarted := by
    refine iff_of_false hplace fun hunstarted => ?_
    rw [hunstarted] at halive
    cases halive

/-- `watch` goes on to another place. -/
lemma Inv.moved (h : s.Inv) {place : WatcherPlace} (hplace : s.Agrees place) : (s.moved place).Inv where
  first := h.first
  agrees := by
    have hmoved : Agrees { s.moved place with work := s.work } place := agrees_moved_iff.mpr hplace
    exact hmoved

lemma FailedAlone.ends {e : WatcherFailure} (h : s.FailedAlone e) : s.Ends (.error e) := .inr (.inr h)

lemma inv_init (settings : Settings) : (init settings).Inv where
  first := rfl
  agrees := rfl

lemma inv_lookStep (h : s.Inv) {isDir isSymlink : Except OsError Bool}
    (hstep : s.lookStep isDir isSymlink = .ok t) : t.Inv := by
  have hagrees := h.agrees
  unfold lookStep at hstep
  split at hstep
  · next path remaining active hplace =>
      rw [hplace] at hagrees
      have hfailed : ∀ e, s.Agrees (.finished (.error (.os e))) :=
        fun e => FailedAlone.ends ⟨hagrees, .inr (.inl ⟨e, rfl⟩)⟩
      repeat' split at hstep
      all_goals cases hstep
      all_goals first
        | exact h.moved (hfailed _)
        | exact h.moved hagrees
  · cases hstep

/-- Where the loop goes on, or how it is left. -/
lemma agrees_loopStep (hobserver : s.observer ≠ .unstarted) (place : LoopPlace) :
    s.Agrees (s.loopStep place) := by
  cases place with
  | condition =>
      simp only [loopStep]
      split_ifs with hstop
      · exact ⟨hobserver, hstop⟩
      · exact hobserver
  | failure =>
      simp only [loopStep]
      split
      · next f hf => exact ⟨hobserver, .inl ⟨f, hf, rfl⟩⟩
      · exact hobserver
  | observer =>
      simp only [loopStep]
      split_ifs with halive
      · exact hobserver
      · exact ⟨hobserver, .inr ⟨rfl, s.observer.eq_dead hobserver halive⟩⟩
  | wait => exact hobserver

/-- The last look at the observer decides how `watch` ends. -/
lemma ends_verdict {raised : Option WatcherFailure} (h : s.Agrees (.confirming raised)) :
    s.Ends (s.verdict raised) := by
  obtain ⟨hobserver, hreason, hstopped⟩ := h
  unfold verdict
  split_ifs with halive
  · exact .inr (.inl ⟨rfl, hobserver, hstopped⟩)
  · have hdead := s.observer.eq_dead hobserver halive
    cases raised with
    | none => exact ⟨hreason, .inr ⟨hdead, hstopped⟩⟩
    | some e => exact .inl ⟨hreason, hdead, hstopped⟩

lemma inv_watchStep (h : s.Inv) {scanOnStart watchdogAvailable : Bool}
    (hstep : s.watchStep scanOnStart watchdogAvailable = .ok t) : t.Inv := by
  have hagrees := h.agrees
  cases hplace : s.place with
  | selecting remaining active =>
      rw [hplace] at hagrees
      cases remaining with
      | cons path remaining => simp [watchStep, hplace] at hstep
      | nil =>
          simp only [watchStep, hplace] at hstep
          split_ifs at hstep
          all_goals cases hstep
          · exact h.moved (FailedAlone.ends ⟨hagrees, .inl rfl⟩)
          all_goals exact h.moved hagrees
  | scanning remaining active =>
      rw [hplace] at hagrees
      cases remaining with
      | cons path remaining => simp [watchStep, hplace] at hstep
      | nil =>
          simp only [watchStep, hplace] at hstep
          cases hstep
          split_ifs
          all_goals exact h.moved hagrees
  | scheduling remaining =>
      rw [hplace] at hagrees
      cases remaining with
      | cons path remaining => simp [watchStep, hplace] at hstep
      | nil =>
          simp only [watchStep, hplace] at hstep
          cases hstep
          exact h.moved hagrees
  | looping place =>
      rw [hplace] at hagrees
      simp only [watchStep, hplace] at hstep
      cases hstep
      exact h.moved (agrees_loopStep hagrees place)
  | stopping raised =>
      rw [hplace] at hagrees
      simp only [watchStep, hplace] at hstep
      cases hstep
      refine ⟨h.first, hagrees.1, ?_, rfl⟩
      cases raised <;> exact hagrees.2
  | joining raised =>
      rw [hplace] at hagrees
      simp only [watchStep, hplace] at hstep
      cases hstep
      exact h.moved hagrees
  | confirming raised =>
      rw [hplace] at hagrees
      simp only [watchStep, hplace] at hstep
      cases hstep
      exact h.moved (ends_verdict hagrees)
  | pollCondition active =>
      rw [hplace] at hagrees
      simp only [watchStep, hplace] at hstep
      cases hstep
      split_ifs with hstop
      · exact h.moved ⟨hstop, .inl hagrees⟩
      · exact h.moved hagrees
  | polling remaining active =>
      rw [hplace] at hagrees
      cases remaining with
      | cons path remaining => simp [watchStep, hplace] at hstep
      | nil =>
          simp only [watchStep, hplace] at hstep
          cases hstep
          exact h.moved hagrees
  | pollWait active =>
      rw [hplace] at hagrees
      simp only [watchStep, hplace] at hstep
      cases hstep
      exact h.moved hagrees
  | starting => simp [watchStep, hplace] at hstep
  | finished outcome => simp [watchStep, hplace] at hstep

end WatcherState

/-! ## How long `watch` takes -/

/-- What makes `watch` leave its loop. -/
inductive Trouble
  | stopRequest
  | handlerFailure
  | observerDeath

namespace Trouble

/-- It has come up. -/
def Holds (s : WatcherState) : Trouble → Prop
  | .stopRequest => s.stopEvent = true
  | .handlerFailure => s.failure.isSome = true
  | .observerDeath => s.observer = .dead

/-- Where `watch` notices it. -/
def place : Trouble → LoopPlace
  | .stopRequest => .condition
  | .handlerFailure => .failure
  | .observerDeath => .observer

lemma Holds.grows {trouble : Trouble} {s t : WatcherState} (h : trouble.Holds s) (hgrows : s.Grows t) :
    trouble.Holds t := by
  cases trouble with
  | stopRequest => exact hgrows.stopEvent h
  | handlerFailure =>
      obtain ⟨f, hf⟩ := Option.isSome_iff_exists.mp h
      exact Option.isSome_iff_exists.mpr ⟨f, hgrows.failure f hf⟩
  | observerDeath => exact hgrows.dead h

end Trouble

/-- How often the loop has gone on when it comes to the place. -/
def LoopPlace.index : LoopPlace → ℕ
  | .condition => 0
  | .failure => 1
  | .observer => 2
  | .wait => 3

namespace WatcherPlace

/-- The observer has been started. -/
def isWatching : WatcherPlace → Bool
  | .looping _ => true
  | .stopping _ => true
  | .joining _ => true
  | .confirming _ => true
  | .finished _ => true
  | _ => false

def isFinished : WatcherPlace → Bool
  | .finished _ => true
  | _ => false

/-- The steps `watch` has to make at most: to the place where it notices the trouble, and four from
there. -/
def stepsLeft (trouble : Trouble) : WatcherPlace → ℕ
  | .looping p => (trouble.place.index + 4 - p.index) % 4 + 4
  | .stopping _ => 3
  | .joining _ => 2
  | .confirming _ => 1
  | _ => 0

lemma stepsLeft_le (trouble : Trouble) (place : WatcherPlace) : place.stepsLeft trouble ≤ 7 := by
  cases place with
  | looping p => exact Nat.add_le_add_right (Nat.le_of_lt_succ (Nat.mod_lt _ (by decide))) 4
  | _ => simp [stepsLeft]

end WatcherPlace

namespace WatcherState

variable {s t : WatcherState}

/-- A turn of the loop brings `watch` nearer to the place where it notices the trouble, and there it
leaves. -/
lemma stepsLeft_loopStep {trouble : Trouble} (htrouble : trouble.Holds s) (place : LoopPlace) :
    (s.loopStep place).isWatching = true ∧
      (s.loopStep place).stepsLeft trouble + 1 ≤ (WatcherPlace.looping place).stepsLeft trouble := by
  -- leaving at any place is fast enough
  have hleave : ∀ raised, (WatcherPlace.stopping raised).stepsLeft trouble + 1
      ≤ (WatcherPlace.looping place).stepsLeft trouble := fun _ => Nat.le_add_left 4 _
  cases place with
  | condition =>
      simp only [loopStep]
      split_ifs with hstop
      · exact ⟨rfl, hleave none⟩
      · refine ⟨rfl, ?_⟩
        cases trouble with
        | stopRequest => exact absurd htrouble hstop
        | _ => decide
  | failure =>
      simp only [loopStep]
      split
      · exact ⟨rfl, hleave _⟩
      · next hnone =>
          refine ⟨rfl, ?_⟩
          cases trouble with
          | handlerFailure =>
              rw [Trouble.Holds, hnone] at htrouble
              cases htrouble
          | _ => decide
  | observer =>
      simp only [loopStep]
      split_ifs with halive
      · refine ⟨rfl, ?_⟩
        cases trouble with
        | observerDeath =>
            rw [Trouble.Holds] at htrouble
            rw [htrouble] at halive
            cases halive
        | _ => decide
      · exact ⟨rfl, hleave _⟩
  | wait =>
      refine ⟨rfl, ?_⟩
      rw [loopStep]
      cases trouble <;> decide

/-- Every step of `watch` itself brings it nearer to its end. -/
lemma stepsLeft_watchStep {trouble : Trouble} (htrouble : trouble.Holds s)
    (hplace : s.place.isWatching = true) {scanOnStart watchdogAvailable : Bool}
    (hstep : s.watchStep scanOnStart watchdogAvailable = .ok t) :
    (t.place.isWatching = true ∧ trouble.Holds t) ∧
      1 + t.place.stepsLeft trouble ≤ s.place.stepsLeft trouble := by
  have hmoved : ∀ {place : WatcherPlace}, trouble.Holds (s.moved place) := by
    intro place
    cases trouble <;> exact htrouble
  cases hs : s.place with
  | looping place =>
      simp only [watchStep, hs] at hstep
      cases hstep
      obtain ⟨hwatching, hle⟩ := stepsLeft_loopStep htrouble place
      exact ⟨⟨hwatching, hmoved⟩, by rw [Nat.add_comm]; exact hle⟩
  | stopping raised =>
      simp only [watchStep, hs] at hstep
      cases hstep
      exact ⟨⟨rfl, by cases trouble <;> exact htrouble⟩, Nat.le_refl 3⟩
  | joining raised =>
      simp only [watchStep, hs] at hstep
      cases hstep
      exact ⟨⟨rfl, hmoved⟩, Nat.le_refl 2⟩
  | confirming raised =>
      simp only [watchStep, hs] at hstep
      cases hstep
      exact ⟨⟨rfl, hmoved⟩, Nat.le_refl 1⟩
  | finished outcome => simp [watchStep, hs] at hstep
  | _ => simp [hs, WatcherPlace.isWatching] at hplace

/-- `watch` is never stuck behind the start of the observer. -/
lemma exists_watchStep (hplace : s.place.isWatching = true) (hopen : s.place.isFinished = false)
    (scanOnStart watchdogAvailable : Bool) :
    ∃ t, s.watchStep scanOnStart watchdogAvailable = .ok t := by
  cases hs : s.place with
  | looping place => exact ⟨_, by simp only [watchStep, hs]; rfl⟩
  | stopping raised => exact ⟨_, by simp only [watchStep, hs]; rfl⟩
  | joining raised => exact ⟨_, by simp only [watchStep, hs]; rfl⟩
  | confirming raised => exact ⟨_, by simp only [watchStep, hs]; rfl⟩
  | finished outcome => simp [hs, WatcherPlace.isFinished] at hopen
  | _ => simp [hs, WatcherPlace.isWatching] at hplace

end WatcherState

/-! ## The observer -/

section Watcher

variable [UnicodeData]

inductive WatcherEvent
  /-- What `is_dir` and `is_symlink` say about the next path. -/
  | looked (isDir isSymlink : Except OsError Bool)
  /-- A pass over the next directory. -/
  | scanned (entries : List Entry)
  | scheduled (outcome : Except OsError Unit)
  | started (outcome : Except OsError Unit)
  /-- `watch` goes on. -/
  | watch
  /-- Somebody sets the stop event. -/
  | stop
  /-- The observer calls `on_created` or `on_modified`. -/
  | handled (created : Bool) (event : FileEvent) (calls : HandlerCalls)
  /-- `_record_failure`, under the lock. -/
  | record
  /-- The thread of the observer comes to its end. -/
  | died

def WatcherEvent.isWatch : WatcherEvent → Bool
  | .watch => true
  | _ => false

/-- Another thread does something. -/
def WatcherEvent.isBeside : WatcherEvent → Bool
  | .stop => true
  | .handled _ _ _ => true
  | .record => true
  | .died => true
  | _ => false

variable [Sha256] [WordData] [ContentDigest] (settings : Settings)
  (parse : PyStr → Option (Ast .node)) (scanOnStart watchdogAvailable : Bool)

namespace WatcherState

/-- A call of `scan_directory`: before the observer is there, over everything, and in its place, over
what has changed. -/
def scanStep (s : WatcherState) (entries : List Entry) : Except Unit WatcherState :=
  match s.place with
  | .scanning (_ :: remaining) active =>
      match scanDirectory settings parse false s.work entries with
      | .error e => .ok (s.moved (.finished (.error (.pass e))))
      | .ok (work, _) => .ok { s.moved (.scanning remaining active) with work := work }
  | .polling (_ :: remaining) active =>
      match scanDirectory settings parse true s.work entries with
      | .error e => .ok (s.moved (.finished (.error (.pass e))))
      | .ok (work, _) => .ok { s.moved (.polling remaining active) with work := work }
  | _ => .error ()

/-- A call of a handler. -/
def handlerStep (s : WatcherState) (created : Bool) (event : FileEvent) (calls : HandlerCalls) :
    WatcherState :=
  let effect :=
    if created then onCreated settings parse s.work.hashes event calls
    else onModified settings parse s.work.hashes event calls
  { s with
    work :=
      { hashes := effect.hashes
        scanned := (effect.scanned.map fun content => (event.srcPath, content)).toList
          ++ s.work.scanned
        emitted := s.work.emitted + effect.emitted.length }
    observer :=
      match effect.failure with
      | some f => .recording f
      | none => .dispatching }

/-- One event; an event that is not possible in the state is an error. -/
def step (s : WatcherState) : WatcherEvent → Except Unit WatcherState
  | .looked isDir isSymlink => s.lookStep isDir isSymlink
  | .scanned entries => s.scanStep settings parse entries
  | .scheduled outcome =>
      match s.place with
      | .scheduling (_ :: remaining) =>
          match outcome with
          | .error e => .ok (s.moved (.finished (.error (.os e))))
          | .ok () => .ok (s.moved (.scheduling remaining))
      | _ => .error ()
  | .started outcome =>
      match s.place with
      | .starting =>
          match outcome with
          | .error e => .ok (s.moved (.finished (.error (.os e))))
          | .ok () => .ok { s.moved (.looping .condition) with observer := .dispatching }
      | _ => .error ()
  | .watch => s.watchStep scanOnStart watchdogAvailable
  | .stop => .ok { s with stopEvent := true }
  | .handled created event calls =>
      match s.observer with
      | .dispatching => .ok (s.handlerStep settings parse created event calls)
      | _ => .error ()
  | .record =>
      match s.observer with
      | .recording f =>
          .ok
            { s with
              observer := .dispatching
              failure := fill s.failure f
              recorded := s.recorded ++ [f] }
      | _ => .error ()
  | .died =>
      match s.observer with
      | .dispatching => .ok { s with observer := .dead }
      | _ => .error ()

end WatcherState

/-- `watch` and the threads beside it. -/
def codeWatcher : Machine WatcherState WatcherEvent Unit where
  init := .init settings
  step := WatcherState.step settings parse scanOnStart watchdogAvailable

/-! ## Every run -/

namespace WatcherState

variable {settings parse scanOnStart watchdogAvailable} {s t : WatcherState}

lemma inv_scanStep (h : s.Inv) {entries : List Entry}
    (hstep : s.scanStep settings parse entries = .ok t) : t.Inv := by
  have hagrees := h.agrees
  -- a pass that raises ends `watch`, another one leaves it where it is
  have hpass : ∀ changedOnly place, s.observer = .unstarted → s.Agrees place →
      (match scanDirectory settings parse changedOnly s.work entries with
        | .error e => .ok (s.moved (.finished (.error (.pass e))))
        | .ok (work, _) => .ok { s.moved place with work := work } : Except Unit WatcherState)
          = .ok t → t.Inv := by
    intro changedOnly place hunstarted hplace hmatch
    split at hmatch
    · next e _ =>
        cases hmatch
        exact h.moved (FailedAlone.ends ⟨hunstarted, .inr (.inr ⟨e, rfl⟩)⟩)
    · cases hmatch
      exact ⟨h.first, agrees_moved_iff.mpr hplace⟩
  unfold scanStep at hstep
  split at hstep
  · next path remaining active hplace =>
      rw [hplace] at hagrees
      exact hpass false (.scanning remaining active) hagrees hagrees hstep
  · next path remaining active hplace =>
      rw [hplace] at hagrees
      exact hpass true (.polling remaining active) hagrees hagrees hstep
  · cases hstep

/-- What the other threads do. -/
lemma grows_step {e : WatcherEvent} (hbeside : e.isBeside = true)
    (hstep : s.step settings parse scanOnStart watchdogAvailable e = .ok t) :
    s.Grows t ∧ (s.failure = s.recorded.head? → t.failure = t.recorded.head?) := by
  cases e with
  | stop =>
      cases hstep
      exact ⟨⟨rfl, rfl, fun _ => rfl, fun _ hf => hf, id, Iff.rfl⟩, id⟩
  | handled created event calls =>
      simp only [step] at hstep
      split at hstep
      · next hplace =>
          cases hstep
          refine ⟨grows_of_observer (by rw [hplace]; rfl) ?_, id⟩
          split <;> nofun
      · cases hstep
  | record =>
      simp only [step] at hstep
      split at hstep
      · next f hplace =>
          cases hstep
          have hstarted : s.observer ≠ .unstarted := by
            rw [hplace]
            nofun
          refine ⟨⟨rfl, rfl, id, fun g hg => fill_of_eq_some hg f, ?_, ?_⟩, fun hfirst => ?_⟩
          · rw [hplace]
            nofun
          · exact iff_of_false nofun hstarted
          · rw [hfirst, fill_head?]
      · cases hstep
  | died =>
      simp only [step] at hstep
      split at hstep
      · next hplace =>
          cases hstep
          exact ⟨grows_of_observer (by rw [hplace]; rfl) nofun, id⟩
      · cases hstep
  | _ => cases hbeside

/-- **Every event keeps the invariant.** -/
theorem inv_step (e : WatcherEvent) (h : s.Inv)
    (hstep : s.step settings parse scanOnStart watchdogAvailable e = .ok t) : t.Inv := by
  have hagrees := h.agrees
  cases e with
  | looked isDir isSymlink => exact inv_lookStep h hstep
  | scanned entries => exact inv_scanStep h hstep
  | scheduled outcome =>
      simp only [step] at hstep
      split at hstep
      · next path remaining hplace =>
          rw [hplace] at hagrees
          split at hstep
          · next e =>
              cases hstep
              exact h.moved (FailedAlone.ends ⟨hagrees, .inr (.inl ⟨e, rfl⟩)⟩)
          · cases hstep
            exact h.moved hagrees
      · cases hstep
  | started outcome =>
      simp only [step] at hstep
      split at hstep
      · next hplace =>
          rw [hplace] at hagrees
          split at hstep
          · next e =>
              cases hstep
              exact h.moved (FailedAlone.ends ⟨hagrees, .inr (.inl ⟨e, rfl⟩)⟩)
          · cases hstep
            exact ⟨h.first, nofun⟩
      · cases hstep
  | watch => exact inv_watchStep h hstep
  | _ =>
      obtain ⟨hgrows, hfirst⟩ := grows_step rfl hstep
      exact h.grows hgrows (hfirst h.first)

/-- Behind the start of the observer there is nothing left to look at, to scan or to start. -/
lemma isWatch_or_isBeside {e : WatcherEvent} (hplace : s.place.isWatching = true)
    (hstep : s.step settings parse scanOnStart watchdogAvailable e = .ok t) :
    e = .watch ∨ e.isBeside = true := by
  cases e with
  | looked isDir isSymlink =>
      simp only [step, lookStep] at hstep
      split at hstep
      · next hs =>
          rw [hs] at hplace
          cases hplace
      · cases hstep
  | scanned entries =>
      simp only [step, scanStep] at hstep
      split at hstep
      · next hs =>
          rw [hs] at hplace
          cases hplace
      · next hs =>
          rw [hs] at hplace
          cases hplace
      · cases hstep
  | scheduled outcome =>
      simp only [step] at hstep
      split at hstep
      · next hs =>
          rw [hs] at hplace
          cases hplace
      · cases hstep
  | started outcome =>
      simp only [step] at hstep
      split at hstep
      · next hs =>
          rw [hs] at hplace
          cases hplace
      · cases hstep
  | watch => exact .inl rfl
  | _ => exact .inr rfl

/-- With trouble no step takes `watch` away from its end, and its own steps bring it nearer. -/
lemma stepsLeft_step {trouble : Trouble} (e : WatcherEvent)
    (h : s.place.isWatching = true ∧ trouble.Holds s)
    (hstep : s.step settings parse scanOnStart watchdogAvailable e = .ok t) :
    (t.place.isWatching = true ∧ trouble.Holds t) ∧
      e.isWatch.toNat + t.place.stepsLeft trouble ≤ s.place.stepsLeft trouble := by
  rcases isWatch_or_isBeside h.1 hstep with rfl | hbeside
  · exact stepsLeft_watchStep h.2 h.1 hstep
  · obtain ⟨hgrows, -⟩ := grows_step hbeside hstep
    have hown : e.isWatch = false := by
      cases e with
      | watch => cases hbeside
      | _ => rfl
    refine ⟨⟨by rw [hgrows.place]; exact h.1, h.2.grows hgrows⟩, ?_⟩
    rw [hgrows.place, hown]
    exact Nat.le_of_eq (Nat.zero_add _)

/-- `watch` does not go on from its end. -/
lemma finished_step {e : WatcherEvent} {outcome : Except WatcherFailure Unit}
    (hplace : s.place = .finished outcome)
    (hstep : s.step settings parse scanOnStart watchdogAvailable e = .ok t) :
    t.place = .finished outcome := by
  rcases isWatch_or_isBeside (by rw [hplace]; rfl) hstep with rfl | hbeside
  · simp [step, watchStep, hplace] at hstep
  · rw [(grows_step hbeside hstep).1.place, hplace]

end WatcherState

section Results

variable {settings parse scanOnStart watchdogAvailable}

/-- **`watch` leaves its loop at once.**  From the moment at which the stop event is set, a handler's
failure is recorded or the observer has died, `watch` makes seven steps at most, whatever the other
threads do, and it can always make the next one until it has returned or raised. -/
theorem codeWatch_leaves {s t : WatcherState} {trouble : Trouble} (hplace : s.place.isWatching = true)
    (htrouble : trouble.Holds s) {later : List WatcherEvent}
    (hrun : (codeWatcher settings parse scanOnStart watchdogAvailable).runFrom s later = .ok t) :
    later.countP WatcherEvent.isWatch ≤ 7 ∧
      ((∃ outcome, t.place = .finished outcome) ∨
        ∃ u, (codeWatcher settings parse scanOnStart watchdogAvailable).step t .watch = .ok u) := by
  have hstep : ∀ u e v, u.place.isWatching = true ∧ trouble.Holds u →
      (codeWatcher settings parse scanOnStart watchdogAvailable).step u e = .ok v →
      (v.place.isWatching = true ∧ trouble.Holds v) ∧
        e.isWatch.toNat + v.place.stepsLeft trouble ≤ u.place.stepsLeft trouble :=
    fun u e v hu huv => WatcherState.stepsLeft_step e hu huv
  obtain ⟨⟨hwatching, -⟩, hcount⟩ := Machine.countP_add_le hstep later ⟨hplace, htrouble⟩ hrun
  have hseven := s.place.stepsLeft_le trouble
  refine ⟨by omega, ?_⟩
  cases ht : t.place with
  | finished outcome => exact .inl ⟨outcome, rfl⟩
  | _ => exact .inr (WatcherState.exists_watchStep hwatching (by rw [ht]; rfl) _ _)

/-- **How `watch` ends.**  It returns only when it was told to stop; it raises the failure that was
recorded first, or that the observer has died, or that it is still alive when it should not be, or,
where no observer was ever started, what went wrong before; and it leaves no observer behind without
saying so. -/
theorem codeWatch_ends {events : List WatcherEvent} {s : WatcherState}
    (hrun : (codeWatcher settings parse scanOnStart watchdogAvailable).run events = .ok s)
    {outcome : Except WatcherFailure Unit} (hplace : s.place = .finished outcome) :
    (outcome = .ok () → s.stopEvent = true) ∧
      (∀ e, outcome = .error e →
        (∃ f, s.recorded.head? = some f ∧ e = .handling f) ∨
          (e = .observerDied ∧ s.observer = .dead) ∨ e = .observerAlive ∨ s.FailedAlone e) ∧
      (s.observer ≠ .unstarted → s.stopped = true ∧
        (s.observer = .dead ∨ outcome = .error .observerAlive)) ∧
      ∀ later t, (codeWatcher settings parse scanOnStart watchdogAvailable).runFrom s later = .ok t →
        t.place = .finished outcome := by
  have hinv : s.Inv :=
    Machine.invariant (WatcherState.inv_init settings) (fun _ e _ => WatcherState.inv_step e) hrun
  have hends := hinv.agrees
  rw [hplace] at hends
  refine ⟨fun hok => ?_, fun e herror => ?_, fun hstarted => ?_, fun later t hlater => ?_⟩
  · subst hok
    exact hends.1
  · subst herror
    rcases hends with ⟨⟨f, hf, he⟩ | hdied, -⟩ | ⟨he, -⟩ | halone
    · exact .inl ⟨f, by rw [← hinv.first, hf], he⟩
    · exact .inr (.inl hdied)
    · exact .inr (.inr (.inl he))
    · exact .inr (.inr (.inr halone))
  · cases outcome with
    | ok u =>
        obtain ⟨hdead, hstopped⟩ := hends.2.resolve_left hstarted
        exact ⟨hstopped, .inl hdead⟩
    | error e =>
        rcases hends with ⟨-, hdead, hstopped⟩ | ⟨rfl, -, hstopped⟩ | ⟨hunstarted, -⟩
        · exact ⟨hstopped, .inl hdead⟩
        · exact ⟨hstopped, .inr rfl⟩
        · exact absurd hunstarted hstarted
  · have hstays : ∀ u e v, u.place = .finished outcome →
        (codeWatcher settings parse scanOnStart watchdogAvailable).step u e = .ok v →
          v.place = .finished outcome :=
      fun _ _ _ hu hstep => WatcherState.finished_step hu hstep
    exact Machine.invariant_runFrom hstays later hplace hlater

end Results

end Watcher

/-! ## A handler that fails -/

section Sample

attribute [local instance] asciiData latinWords pathDigest sampleContentDigest

/-- The disk does not answer the question whether the file is a link. -/
def lookupCalls : HandlerCalls where
  symlink := .error ⟨"Input/output error"⟩
  hashRead := .undisturbed evalContent
  scanRead := .undisturbed evalContent
  fileStamp := sampleStamp
  stamps _ := sampleStamp
  emit _ := .ok ()

/-- The handler fails while `watch` waits. -/
def handlerFails : List WatcherEvent :=
  [.looked (.ok true) (.ok false), .watch, .scheduled (.ok ()), .watch, .started (.ok ()), .watch,
    .watch, .watch, .handled false ⟨false, py "/srv/auth/a.py"⟩ lookupCalls, .record]

/-- `watch` comes round, finds the failure and stops the observer. -/
def failureFound : List WatcherEvent := [.watch, .watch, .watch, .watch, .died, .watch, .watch]

/-- What the handler records. -/
def lookupFailure : HandlerFailure := .lookup ⟨"Input/output error"⟩

lemma exists_run_handlerFails :
    ∃ s t, (codeWatcher codeSettings (fun _ => none) false true).run handlerFails = .ok s ∧
      s.place.isWatching = true ∧ Trouble.handlerFailure.Holds s ∧
      (codeWatcher codeSettings (fun _ => none) false true).runFrom s failureFound = .ok t ∧
      (codeWatcher codeSettings (fun _ => none) false true).run (handlerFails ++ failureFound) = .ok t ∧
      t.place = .finished (.error (.handling lookupFailure)) :=
  ⟨_, _, rfl, rfl, rfl, rfl, rfl, rfl⟩

/-- It needs six of the seven steps. -/
theorem codeWatch_leaves_handlerFails : failureFound.countP WatcherEvent.isWatch ≤ 7 := by
  obtain ⟨s, t, -, hplace, htrouble, hrun, -⟩ := exists_run_handlerFails
  exact (codeWatch_leaves hplace htrouble hrun).1

/-- It has raised what the handler recorded, whatever comes later. -/
theorem codeWatch_ends_handlerFails :
    ∃ t, (codeWatcher codeSettings (fun _ => none) false true).run (handlerFails ++ failureFound)
        = .ok t ∧
      ∀ later u, (codeWatcher codeSettings (fun _ => none) false true).runFrom t later = .ok u →
        u.place = .finished (.error (.handling lookupFailure)) := by
  obtain ⟨s, t, -, -, -, -, hrun, hplace⟩ := exists_run_handlerFails
  exact ⟨t, hrun, (codeWatch_ends hrun hplace).2.2.2⟩

end Sample

end Watchtower
