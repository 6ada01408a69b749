import Watchtower.Core.Once
import Watchtower.Python.Value

/-!
# Supervision

`main` starts three threads and a task, waits for the shutdown event, stops what it has started,
waiting for the threads within bounds and for the cancelled task until it has ended, and reports the
first failure.  Every component that raises, and every signal, goes through the one
`_ShutdownController`, at any moment and from any thread.

* `SupervisorState.callStep` — `fail` and `trigger`, one access to shared state after another.
* `SupervisorState.mainStep` — `main`, from the start of the threads to its last line.
* `supervisor` — the components, the signals, the event loop and `main`, in any interleaving.
* `SupervisorState.Inv` — what the controller's cells and the places of its callers have to do with
  each other.
* **`supervisor_stops`** — a request to stop is never lost, and nothing else stops the service.
* **`main_reports`** — `main` reports the first failure that was recorded, and returns normally only
  when no component it has waited for has failed.
-/

namespace Watchtower

open Core Py

/-! ## The parties -/

/-- What runs beside `main`: three threads, and the task of the API watcher. -/
inductive Component
  | correlator
  | codeWatcher
  | health
  | apiWatcher
  deriving DecidableEq

def Component.name : Component → String
  | .correlator => "correlator"
  | .codeWatcher => "code-watcher"
  | .health => "health"
  | .apiWatcher => "api-watcher"

/-- In the order in which they are started. -/
def components : List Component := [.correlator, .codeWatcher, .health, .apiWatcher]

lemma mem_components (c : Component) : c ∈ components := by
  cases c <;> decide

/-- The threads, in the order in which they are joined. -/
def threads : List Component := [.correlator, .codeWatcher, .health]

/-- What `fail` records: the component and the class of the exception. -/
structure ComponentFailure where
  component : Component
  errorType : String
  deriving DecidableEq

/-- What `main` raises in the end. -/
def ComponentFailure.toExc (f : ComponentFailure) : PyExc :=
  .runtimeError ("Watchtower stopped after " ++ f.component.name ++ " failed with " ++ f.errorType)

/-- Who calls the controller: a component that has raised, or the handler of a signal, which is
delivered any number of times. -/
inductive Caller
  | component (c : Component)
  | signal (n : ℕ)
  deriving DecidableEq

/-- Where a component or a signal handler stands.  From `recording` on, a component is in `fail`; a
handler is in `trigger` at once. -/
inductive TaskPlace
  | unstarted
  | running
  /-- Before the block under `_lock`. -/
  | recording (errorType : String)
  /-- Before `first_trigger = not self._stop_event.is_set()`. -/
  | checking (reason : String)
  /-- Before `self._stop_event.set()`. -/
  | setting (reason : String) (first : Bool)
  /-- Before the call of `call_soon_threadsafe`. -/
  | waking (reason : String) (first : Bool)
  /-- The controller's method has returned. -/
  | called
  /-- The component has returned, or has been cancelled, without a call. -/
  | ended
  deriving DecidableEq

namespace TaskPlace

/-- Nothing is left to run. -/
def isOver : TaskPlace → Bool
  | .called => true
  | .ended => true
  | _ => false

/-- In `trigger`, or behind it. -/
def pastRecording : TaskPlace → Bool
  | .checking _ => true
  | .setting _ _ => true
  | .waking _ _ => true
  | .called => true
  | _ => false

/-- The stop event has been set. -/
def pastSetting : TaskPlace → Bool
  | .waking _ _ => true
  | .called => true
  | _ => false

end TaskPlace

/-- Where `main` stands. -/
inductive MainPlace
  | starting (remaining : List Component)
  /-- At `await async_stop.wait()`. -/
  | waiting
  | stopping
  /-- At `wait_for`, for the cancelled task of the API watcher. -/
  | cancelling
  | joining (remaining : List Component)
  /-- Before the read of `controller.failure`. -/
  | reporting
  | finished (outcome : Except PyExc Unit)
  deriving DecidableEq

namespace MainPlace

/-- The components `main` has not waited for yet. -/
def unjoined : MainPlace → List Component
  | .joining remaining => remaining
  | .reporting => []
  | .finished _ => []
  | _ => components

/-- `main` has seen the event. -/
def pastWaiting : MainPlace → Bool
  | .starting _ => false
  | .waiting => false
  | _ => true

def isFinished : MainPlace → Bool
  | .finished _ => true
  | _ => false

/-- The number of steps `main` has before it. -/
def stepsLeft : MainPlace → ℕ
  | .starting remaining => remaining.length + 9
  | .waiting => 8
  | .stopping => 7
  | .cancelling => 6
  | .joining remaining => remaining.length + 2
  | .reporting => 1
  | .finished _ => 0

end MainPlace

/-! ## The machine -/

structure SupervisorState where
  /-- `_failure`. -/
  failure : Option ComponentFailure
  /-- Every failure for which `fail` has been through its lock, in that order. -/
  recorded : List ComponentFailure
  /-- `_stop_event`. -/
  stopEvent : Bool
  /-- The reasons that were logged. -/
  announced : List String
  /-- The calls of `async_stop.set` that wait in the event loop. -/
  wakeups : ℕ
  /-- `async_stop`. -/
  asyncEvent : Bool
  loopClosed : Bool
  tasks : Caller → TaskPlace
  main : MainPlace
  /-- The components that were not over when `main` gave up waiting for them. -/
  abandoned : List Component

inductive SupervisorEvent
  /-- The target of a component raises. -/
  | raised (c : Component) (errorType : String)
  /-- The target of a component returns, or the task is cancelled. -/
  | returned (c : Component)
  /-- A signal is delivered. -/
  | signal (n : ℕ) (name : String)
  /-- A caller of the controller goes on. -/
  | call (k : Caller)
  /-- The event loop runs a call of `async_stop.set`. -/
  | wake
  /-- `main` goes on; a wait that is not over has timed out if `timedOut` says so. -/
  | main (timedOut : Bool)
  /-- The event loop is closed behind `main`. -/
  | close

namespace SupervisorState

def init : SupervisorState where
  failure := none
  recorded := []
  stopEvent := false
  announced := []
  wakeups := 0
  asyncEvent := false
  loopClosed := false
  tasks _ := .unstarted
  main := .starting components
  abandoned := []

/-- A component or a handler goes on to a place. -/
def moved (s : SupervisorState) (k : Caller) (place : TaskPlace) : SupervisorState :=
  { s with tasks := Function.update s.tasks k place }

/-- `fail` up to the call of `trigger`. -/
def record (s : SupervisorState) (f : ComponentFailure) : SupervisorState :=
  { s.moved (.component f.component) (.checking (f.component.name ++ " failed")) with
    failure := fill s.failure f
    recorded := s.recorded ++ [f] }

/-- The next access of a caller of the controller to what it shares with the others.  A wakeup for a
loop that is closed raises a `RuntimeError`, which is caught. -/
def callStep (s : SupervisorState) (k : Caller) : Except Unit SupervisorState :=
  match s.tasks k, k with
  | .recording errorType, .component c => .ok (s.record ⟨c, errorType⟩)
  | .checking reason, _ => .ok (s.moved k (.setting reason (!s.stopEvent)))
  | .setting reason first, _ => .ok { s.moved k (.waking reason first) with stopEvent := true }
  | .waking reason first, _ =>
      .ok { s.moved k .called with
            announced := if first then s.announced ++ [reason] else s.announced
            wakeups := if s.loopClosed then s.wakeups else s.wakeups + 1 }
  | _, _ => .error ()

/-- `join`: the thread is over, or the time is. -/
def join (s : SupervisorState) (c : Component) (timedOut : Bool) (next : MainPlace) :
    Except Unit SupervisorState :=
  if (s.tasks (.component c)).isOver then .ok { s with main := next }
  else if timedOut then .ok { s with main := next, abandoned := s.abandoned ++ [c] }
  else .error ()

/-- The outcome of `main`: `raise RuntimeError(...)` if there is a failure. -/
def outcome (s : SupervisorState) : Except PyExc Unit :=
  match s.failure with
  | some f => .error f.toExc
  | none => .ok ()

/-- The next step of `main`.  At its time-out `wait_for` cancels the task once more and waits until it
has ended, without a bound. -/
def mainStep (s : SupervisorState) (timedOut : Bool) : Except Unit SupervisorState :=
  match s.main with
  | .starting (c :: remaining) =>
      .ok { s.moved (.component c) .running with main := .starting remaining }
  | .starting [] => .ok { s with main := .waiting }
  | .waiting => if s.asyncEvent then .ok { s with main := .stopping } else .error ()
  | .stopping => .ok { s with stopEvent := true, main := .cancelling }
  | .cancelling =>
      if (s.tasks (.component .apiWatcher)).isOver then .ok { s with main := .joining threads }
      else .error ()
  | .joining (c :: remaining) => s.join c timedOut (.joining remaining)
  | .joining [] => .ok { s with main := .reporting }
  | .reporting => .ok { s with main := .finished s.outcome }
  | .finished _ => .error ()

/-- One event; an event that is not possible in the state is an error. -/
def step (s : SupervisorState) : SupervisorEvent → Except Unit SupervisorState
  | .raised c errorType =>
      if s.tasks (.component c) = .running then .ok (s.moved (.component c) (.recording errorType))
      else .error ()
  | .returned c =>
      if s.tasks (.component c) = .running then .ok (s.moved (.component c) .ended) else .error ()
  | .signal n name =>
      if s.tasks (.signal n) = .unstarted ∧ s.loopClosed = false then
        .ok (s.moved (.signal n) (.checking name))
      else .error ()
  | .call k => s.callStep k
  | .wake =>
      if 0 < s.wakeups ∧ s.loopClosed = false then
        .ok { s with wakeups := s.wakeups - 1, asyncEvent := true }
      else .error ()
  | .main timedOut => s.mainStep timedOut
  | .close => if s.main.isFinished then .ok { s with loopClosed := true } else .error ()

end SupervisorState

/-- The service from the start of its threads on. -/
def supervisor : Machine SupervisorState SupervisorEvent Unit where
  init := .init
  step := SupervisorState.step

/-! ## The invariant -/

namespace SupervisorState

/-- What holds in every state. -/
structure Inv (s : SupervisorState) : Prop where
  first : s.failure = s.recorded.head?
  /-- A component that is past the lock of `fail` has its failure recorded. -/
  recorded_of_task : ∀ c, (s.tasks (.component c)).pastRecording = true →
    ∃ f ∈ s.recorded, f.component = c
  task_of_recorded : ∀ f ∈ s.recorded, (s.tasks (.component f.component)).pastRecording = true
  set : ∀ k, (s.tasks k).pastSetting = true → s.stopEvent = true
  /-- Whoever has returned from the controller has woken `main`. -/
  woken : ∀ k, s.tasks k = .called → s.asyncEvent = true ∨ 0 < s.wakeups ∨ s.main.isFinished = true
  /-- Nobody else wakes it. -/
  called : s.asyncEvent = true ∨ 0 < s.wakeups → ∃ k, s.tasks k = .called
  awake : s.main.pastWaiting = true → s.asyncEvent = true
  unstarted : ∀ remaining, s.main = .starting remaining →
    remaining.Nodup ∧ ∀ c ∈ remaining, s.tasks (.component c) = .unstarted
  /-- What `main` has waited for is over, or was given up. -/
  joined : ∀ c ∉ s.main.unjoined, c ∈ s.abandoned ∨ (s.tasks (.component c)).isOver = true
  /-- The verdict stands: a failure that comes after it is one of a component that was given up. -/
  verdict : ∀ outcome, s.main = .finished outcome →
    (outcome = .ok () ∧ ∀ f ∈ s.recorded, f.component ∈ s.abandoned) ∨
      ∃ f, s.failure = some f ∧ outcome = .error f.toExc
  closed : s.loopClosed = true → s.main.isFinished = true

variable {s t : SupervisorState}

lemma inv_init : init.Inv where
  first := rfl
  recorded_of_task _ h := by cases h
  task_of_recorded _ h := by cases h
  set _ h := by cases h
  woken _ h := by cases h
  called h := by simp [init] at h
  awake h := by cases h
  unstarted remaining h := by
    cases h
    exact ⟨by decide, fun _ _ => rfl⟩
  joined c h := absurd (mem_components c) h
  verdict _ h := by cases h
  closed h := by cases h

/-! ## Tasks -/

/-- A task that is neither over nor waiting for its start. -/
def Underway (s : SupervisorState) (k : Caller) : Prop :=
  (s.tasks k).isOver = false ∧ ∀ c, k = .component c → s.tasks k ≠ .unstarted

/-- **A task goes on.**  It may set the stop event and wake `main`, and it enters no failure. -/
lemma Inv.task (h : s.Inv) {k : Caller} {p : TaskPlace} (hk : s.Underway k)
    (hrecording : ∀ c, k = .component c → p.pastRecording = (s.tasks k).pastRecording)
    {stopEvent : Bool} {announced : List String} {wakeups : ℕ}
    (hstop : s.stopEvent = true ∨ p.pastSetting = true → stopEvent = true)
    (hwakeups : s.wakeups ≤ wakeups) (hcalls : s.wakeups < wakeups → p = .called)
    (hwoken : p = .called → s.asyncEvent = true ∨ 0 < wakeups ∨ s.main.isFinished = true) :
    Inv { s.moved k p with stopEvent, announced, wakeups } := by
  -- where a task stands after the move
  have hplace : ∀ m, (m = k ∧ Function.update s.tasks k p m = p) ∨
      (m ≠ k ∧ Function.update s.tasks k p m = s.tasks m) := by
    intro m
    by_cases hmk : m = k
    · exact .inl ⟨hmk, by rw [hmk, Function.update_self]⟩
    · exact .inr ⟨hmk, Function.update_of_ne hmk _ _⟩
  have hpast : ∀ c, (Function.update s.tasks k p (.component c)).pastRecording
      = (s.tasks (.component c)).pastRecording := by
    intro c
    rcases hplace (.component c) with ⟨hc, hp⟩ | ⟨-, hp⟩
    · rw [hp, hrecording c hc.symm, hc]
    · rw [hp]
  refine ⟨h.first, fun c hc => ?_, fun f hf => ?_, fun m hm => ?_, fun m hm => ?_, fun hwake => ?_,
    h.awake, fun remaining hmain => ?_, fun c hc => ?_, h.verdict, h.closed⟩
  · exact h.recorded_of_task c (by rw [← hpast c]; exact hc)
  · exact (hpast f.component).trans (h.task_of_recorded f hf)
  · rcases hplace m with ⟨-, hp⟩ | ⟨-, hp⟩
    · exact hstop (.inr (by rw [← hp]; exact hm))
    · exact hstop (.inl (h.set m (by rw [← hp]; exact hm)))
  · rcases hplace m with ⟨-, hp⟩ | ⟨-, hp⟩
    · exact hwoken (hp.symm.trans hm)
    · rcases h.woken m (hp.symm.trans hm) with hasync | hwake | hmain
      · exact .inl hasync
      · exact .inr (.inl (lt_of_lt_of_le hwake hwakeups))
      · exact .inr (.inr hmain)
  · by_cases hmore : s.wakeups < wakeups
    · refine ⟨k, ?_⟩
      show Function.update s.tasks k p k = .called
      rw [Function.update_self, hcalls hmore]
    · obtain ⟨m, hm⟩ := h.called (hwake.imp_right fun hpos => by
        change 0 < wakeups at hpos
        omega)
      -- a task that is over is not the one that goes on
      have hmk : m ≠ k := by
        rintro rfl
        have hover := hk.1
        rw [hm] at hover
        cases hover
      exact ⟨m, (Function.update_of_ne hmk _ _).trans hm⟩
  · obtain ⟨hnodup, hunstarted⟩ := h.unstarted remaining hmain
    refine ⟨hnodup, fun c hc => ?_⟩
    rcases hplace (.component c) with ⟨hck, -⟩ | ⟨-, hp⟩
    · exact absurd (hck ▸ hunstarted c hc) (hk.2 c hck.symm)
    · exact hp.trans (hunstarted c hc)
  · rcases h.joined c hc with habandoned | hover
    · exact .inl habandoned
    · refine .inr ?_
      rcases hplace (.component c) with ⟨hck, -⟩ | ⟨-, hp⟩
      · rw [hck, hk.1] at hover
        cases hover
      · exact (congrArg TaskPlace.isOver hp).trans hover

/-- A task moves on and touches nothing that is shared. -/
lemma Inv.moved (h : s.Inv) {k : Caller} {p : TaskPlace} (hk : s.Underway k)
    (hrecording : ∀ c, k = .component c → p.pastRecording = (s.tasks k).pastRecording)
    (hset : p.pastSetting = false) : (s.moved k p).Inv := by
  refine h.task hk hrecording (fun hstop => ?_) le_rfl (fun hlt => absurd hlt (lt_irrefl _)) ?_
  · rcases hstop with hstop | hp
    · exact hstop
    · rw [hset] at hp
      cases hp
  · rintro rfl
    cases hset

/-- A component goes through the lock of `fail`. -/
lemma Inv.record (h : s.Inv) {f : ComponentFailure} {errorType : String}
    (hplace : s.tasks (.component f.component) = .recording errorType) : (s.record f).Inv := by
  have hself : ∀ c, c = f.component →
      (s.record f).tasks (.component c) = .checking (f.component.name ++ " failed") := by
    rintro c rfl
    exact Function.update_self _ _ _
  have hother : ∀ k, k ≠ .component f.component → (s.record f).tasks k = s.tasks k :=
    fun k hk => Function.update_of_ne hk _ _
  have hne : ∀ c, c ≠ f.component → Caller.component c ≠ .component f.component :=
    fun c hc heq => hc (Caller.component.inj heq)
  -- a place that `recording` and `checking` do not share is that of another task
  have hkeeps : ∀ {P : TaskPlace → Prop}, (∀ reason, ¬ P (.checking reason)) →
      ∀ k, P ((s.record f).tasks k) → P (s.tasks k) := by
    intro P hP k hk
    by_cases hkf : k = .component f.component
    · rw [hkf, hself _ rfl] at hk
      exact absurd hk (hP _)
    · rwa [hother k hkf] at hk
  refine ⟨?_, fun c hc => ?_, fun g hg => ?_, fun k hk => ?_, fun k hk => ?_, fun hwake => ?_, h.awake,
    fun remaining hmain => ?_, fun c hc => ?_, fun outcome hmain => ?_, h.closed⟩
  · show fill s.failure f = (s.recorded ++ [f]).head?
    rw [h.first, fill_head?]
  · by_cases hcf : c = f.component
    · exact ⟨f, List.mem_append_right _ List.mem_cons_self, hcf.symm⟩
    · rw [hother _ (hne c hcf)] at hc
      obtain ⟨g, hg, hgc⟩ := h.recorded_of_task c hc
      exact ⟨g, List.mem_append_left _ hg, hgc⟩
  · by_cases hgf : g.component = f.component
    · rw [hself _ hgf]
      rfl
    · rw [hother _ (hne _ hgf)]
      rcases List.mem_append.mp hg with hg | hg
      · exact h.task_of_recorded g hg
      · exact absurd (congrArg _ (List.mem_singleton.mp hg)) hgf
  · exact h.set k (hkeeps (P := fun p => p.pastSetting = true) (fun _ => nofun) k hk)
  · exact h.woken k (hkeeps (P := fun p => p = .called) (fun _ => nofun) k hk)
  · obtain ⟨k, hk⟩ := h.called hwake
    refine ⟨k, (hother k ?_).trans hk⟩
    rintro rfl
    rw [hplace] at hk
    cases hk
  · obtain ⟨hnodup, hunstarted⟩ := h.unstarted remaining hmain
    refine ⟨hnodup, fun c hc => (hother _ (hne c ?_)).trans (hunstarted c hc)⟩
    rintro rfl
    rw [hunstarted _ hc] at hplace
    cases hplace
  · rcases h.joined c hc with habandoned | hover
    · exact .inl habandoned
    · refine .inr ?_
      rw [hother _ (hne c ?_)]
      · exact hover
      · rintro rfl
        rw [hplace] at hover
        cases hover
  · -- a failure that is recorded after the verdict is one of an abandoned component
    rcases h.verdict outcome hmain with ⟨hok, hall⟩ | ⟨g, hg, houtcome⟩
    · refine .inl ⟨hok, fun g hg => ?_⟩
      rcases List.mem_append.mp hg with hg | hg
      · exact hall g hg
      · rw [List.mem_singleton.mp hg]
        have hunjoined : f.component ∉ s.main.unjoined := by
          rw [show s.main = _ from hmain]
          exact List.not_mem_nil
        rcases h.joined f.component hunjoined with habandoned | hover
        · exact habandoned
        · rw [hplace] at hover
          cases hover
    · exact .inr ⟨g, fill_of_eq_some hg f, houtcome⟩

lemma inv_callStep {k : Caller} (h : s.Inv) (hstep : s.callStep k = .ok t) : t.Inv := by
  cases hplace : s.tasks k with
  | recording errorType =>
      cases k with
      | component c =>
          simp only [callStep, hplace] at hstep
          cases hstep
          exact h.record hplace
      | signal n => simp [callStep, hplace] at hstep
  | checking reason =>
      simp only [callStep, hplace] at hstep
      cases hstep
      exact h.moved ⟨by rw [hplace]; rfl, fun c _ => by rw [hplace]; nofun⟩
        (fun c _ => by rw [hplace]; rfl) rfl
  | setting reason first =>
      simp only [callStep, hplace] at hstep
      cases hstep
      exact h.task ⟨by rw [hplace]; rfl, fun c _ => by rw [hplace]; nofun⟩
        (fun c _ => by rw [hplace]; rfl) (fun _ => rfl) le_rfl
        (fun hlt => absurd hlt (lt_irrefl _)) nofun
  | waking reason first =>
      simp only [callStep, hplace] at hstep
      cases hstep
      have hset := h.set k (by rw [hplace]; rfl)
      refine h.task ⟨by rw [hplace]; rfl, fun c _ => by rw [hplace]; nofun⟩
        (fun c _ => by rw [hplace]; rfl) (fun _ => hset) ?_ (fun _ => rfl) fun _ => ?_
      · split_ifs <;> omega
      · cases hclosed : s.loopClosed with
        | true => exact .inr (.inr (h.closed hclosed))
        | false => exact .inr (.inl (Nat.succ_pos _))
  | _ => simp [callStep, hplace] at hstep

/-! ## `main` -/

/-- `main` goes on to a place that asks for no more than what it has seen. -/
lemma Inv.main (h : s.Inv) {place : MainPlace} {abandoned : List Component}
    (hawake : place.pastWaiting = true → s.asyncEvent = true)
    (hstarting : ∀ remaining, place ≠ .starting remaining)
    (hunfinished : s.main.isFinished = false) (hopen : place.isFinished = false)
    (hjoined : ∀ c ∉ place.unjoined, c ∈ abandoned ∨ (s.tasks (.component c)).isOver = true) :
    Inv { s with main := place, abandoned } where
  first := h.first
  recorded_of_task := h.recorded_of_task
  task_of_recorded := h.task_of_recorded
  set := h.set
  woken k hk := by
    rcases h.woken k hk with hasync | hwake | hmain
    · exact .inl hasync
    · exact .inr (.inl hwake)
    · rw [hunfinished] at hmain
      cases hmain
  called := h.called
  awake := hawake
  unstarted remaining hmain := absurd hmain (hstarting remaining)
  joined := hjoined
  verdict outcome hmain := by
    have hplace : place = .finished outcome := hmain
    rw [hplace] at hopen
    cases hopen
  closed hclosed := by
    rw [h.closed hclosed] at hunfinished
    cases hunfinished

/-- A thread is joined, or given up. -/
lemma Inv.join (h : s.Inv) {c : Component} {timedOut : Bool} {place : MainPlace}
    (hawake : s.main.pastWaiting = true) (hstarting : ∀ remaining, place ≠ .starting remaining)
    (hunfinished : s.main.isFinished = false) (hopen : place.isFinished = false)
    (hunjoined : ∀ d ∉ place.unjoined, d = c ∨ d ∉ s.main.unjoined)
    (hstep : s.join c timedOut place = .ok t) : t.Inv := by
  unfold SupervisorState.join at hstep
  split_ifs at hstep with hover htimeout
  · cases hstep
    refine h.main (fun _ => h.awake hawake) hstarting hunfinished hopen fun d hd => ?_
    rcases hunjoined d hd with rfl | hd
    · exact .inr hover
    · exact h.joined d hd
  · cases hstep
    refine h.main (fun _ => h.awake hawake) hstarting hunfinished hopen fun d hd => ?_
    rcases hunjoined d hd with rfl | hd
    · exact .inl (List.mem_append_right _ List.mem_cons_self)
    · exact (h.joined d hd).imp_left (List.mem_append_left _)

/-- A component is started. -/
lemma Inv.started (h : s.Inv) {c : Component} {remaining : List Component}
    (hmain : s.main = .starting (c :: remaining)) :
    Inv { s.moved (.component c) .running with main := .starting remaining } := by
  obtain ⟨hnodup, hunstarted⟩ := h.unstarted _ hmain
  have hplace := hunstarted c List.mem_cons_self
  have hother : ∀ k, k ≠ .component c →
      Function.update s.tasks (.component c) .running k = s.tasks k :=
    fun k hk => Function.update_of_ne hk _ _
  have hkeeps : ∀ {P : TaskPlace → Prop}, ¬ P .running →
      ∀ k, P (Function.update s.tasks (.component c) .running k) → P (s.tasks k) := by
    intro P hP k hk
    by_cases hkc : k = .component c
    · rw [hkc, Function.update_self] at hk
      exact absurd hk hP
    · rwa [hother k hkc] at hk
  have hopen : s.main.isFinished = false := by
    rw [hmain]
    rfl
  refine ⟨h.first, fun d hd => ?_, fun f hf => ?_, fun k hk => ?_, fun k hk => ?_, fun hwake => ?_,
    nofun, fun rest hrest => ?_, fun d hd => ?_, nofun, fun hclosed => ?_⟩
  · exact h.recorded_of_task d (hkeeps (P := fun p => p.pastRecording = true) nofun _ hd)
  · refine (congrArg TaskPlace.pastRecording (hother _ fun heq => ?_)).trans (h.task_of_recorded f hf)
    have hpast := h.task_of_recorded f hf
    rw [heq, hplace] at hpast
    cases hpast
  · exact h.set k (hkeeps (P := fun p => p.pastSetting = true) nofun k hk)
  · rcases h.woken k (hkeeps (P := fun p => p = .called) nofun k hk) with hasync | hwake | hfinished
    · exact .inl hasync
    · exact .inr (.inl hwake)
    · rw [hopen] at hfinished
      cases hfinished
  · obtain ⟨k, hk⟩ := h.called hwake
    refine ⟨k, (hother k ?_).trans hk⟩
    rintro rfl
    rw [hplace] at hk
    cases hk
  · cases hrest
    obtain ⟨hnot, hrestNodup⟩ := List.nodup_cons.mp hnodup
    refine ⟨hrestNodup, fun d hd => (hother _ ?_).trans (hunstarted d (List.mem_cons_of_mem _ hd))⟩
    rintro heq
    exact hnot (Caller.component.inj heq ▸ hd)
  · exact absurd (mem_components d) hd
  · rw [h.closed hclosed] at hopen
    cases hopen

/-- `main` reads the failure. -/
lemma Inv.reported (h : s.Inv) (hmain : s.main = .reporting) :
    Inv { s with main := .finished s.outcome } where
  first := h.first
  recorded_of_task := h.recorded_of_task
  task_of_recorded := h.task_of_recorded
  set := h.set
  woken _ _ := .inr (.inr rfl)
  called := h.called
  awake _ := h.awake (by rw [hmain]; rfl)
  unstarted _ := nofun
  joined c _ := h.joined c (by rw [hmain]; exact List.not_mem_nil)
  verdict outcome hfinished := by
    cases hfinished
    unfold SupervisorState.outcome
    cases hfailure : s.failure with
    | some f => exact .inr ⟨f, rfl, rfl⟩
    | none =>
        refine .inl ⟨rfl, fun f hf => ?_⟩
        rw [h.first, List.head?_eq_none_iff] at hfailure
        rw [hfailure] at hf
        cases hf
  closed _ := rfl

lemma inv_mainStep {timedOut : Bool} (h : s.Inv) (hstep : s.mainStep timedOut = .ok t) : t.Inv := by
  cases hmain : s.main with
  | starting remaining =>
      cases remaining with
      | cons c remaining =>
          simp only [mainStep, hmain] at hstep
          cases hstep
          exact h.started hmain
      | nil =>
          simp only [mainStep, hmain] at hstep
          cases hstep
          exact h.main nofun nofun (by rw [hmain]; rfl) rfl
            fun c hc => absurd (mem_components c) hc
  | waiting =>
      simp only [mainStep, hmain] at hstep
      split_ifs at hstep with hasync
      cases hstep
      exact h.main (fun _ => hasync) nofun (by rw [hmain]; rfl) rfl
        fun c hc => absurd (mem_components c) hc
  | stopping =>
      simp only [mainStep, hmain] at hstep
      cases hstep
      have hawake := h.awake (by rw [hmain]; rfl)
      have hstopped : Inv { s with main := .cancelling } :=
        h.main (fun _ => hawake) nofun (by rw [hmain]; rfl) rfl
          fun c hc => absurd (mem_components c) hc
      exact { hstopped with set := fun _ _ => rfl }
  | cancelling =>
      simp only [mainStep, hmain] at hstep
      split_ifs at hstep with hover
      cases hstep
      refine h.main (fun _ => h.awake (by rw [hmain]; rfl)) nofun (by rw [hmain]; rfl) rfl
        fun d hd => ?_
      cases d with
      | apiWatcher => exact .inr hover
      | _ => exact absurd (by decide) hd
  | joining remaining =>
      cases remaining with
      | cons c remaining =>
          simp only [mainStep, hmain] at hstep
          refine h.join (by rw [hmain]; rfl) (by exact nofun) (by rw [hmain]; rfl) rfl
            (fun d hd => ?_) hstep
          by_cases hdc : d = c
          · exact .inl hdc
          · refine .inr ?_
            rw [hmain]
            exact fun hmem => hd ((List.mem_cons.mp hmem).resolve_left hdc)
      | nil =>
          simp only [mainStep, hmain] at hstep
          cases hstep
          exact h.main (fun _ => h.awake (by rw [hmain]; rfl)) nofun (by rw [hmain]; rfl) rfl
            fun c _ => h.joined c (by rw [hmain]; exact List.not_mem_nil)
  | reporting =>
      simp only [mainStep, hmain] at hstep
      cases hstep
      exact h.reported hmain
  | finished outcome => simp [mainStep, hmain] at hstep

/-- **Every event keeps the invariant.** -/
theorem inv_step (e : SupervisorEvent) (h : s.Inv) (hstep : s.step e = .ok t) : t.Inv := by
  cases e with
  | raised c errorType =>
      simp only [step] at hstep
      split_ifs at hstep with hrunning
      cases hstep
      exact h.moved ⟨by rw [hrunning]; rfl, fun _ _ => by rw [hrunning]; nofun⟩
        (fun _ _ => by rw [hrunning]; rfl) rfl
  | returned c =>
      simp only [step] at hstep
      split_ifs at hstep with hrunning
      cases hstep
      exact h.moved ⟨by rw [hrunning]; rfl, fun _ _ => by rw [hrunning]; nofun⟩
        (fun _ _ => by rw [hrunning]; rfl) rfl
  | signal n name =>
      simp only [step] at hstep
      split_ifs at hstep with hdelivered
      cases hstep
      exact h.moved ⟨by rw [hdelivered.1]; rfl, nofun⟩ nofun rfl
  | call k => exact inv_callStep h hstep
  | wake =>
      simp only [step] at hstep
      split_ifs at hstep with hwake
      cases hstep
      exact { h with
        woken := fun _ _ => .inl rfl
        called := fun _ => h.called (.inr hwake.1)
        awake := fun _ => rfl }
  | main timedOut => exact inv_mainStep h hstep
  | close =>
      simp only [step] at hstep
      split_ifs at hstep with hfinished
      cases hstep
      exact { h with closed := fun _ => hfinished }

/-! ## The way to the end -/

/-- The steps `main` and the event loop have to make between them. -/
def left (s : SupervisorState) : ℕ := s.main.stepsLeft + if s.asyncEvent then 0 else 1

/-- Some call of the controller has returned. -/
def Requested (s : SupervisorState) : Prop := ∃ k, s.tasks k = .called

/-- The task of the API watcher is over. -/
def TaskOver (s : SupervisorState) : Prop := (s.tasks (.component .apiWatcher)).isOver = true

/-- By steps of its own and of the event loop alone `main` comes to its end; or, while the task of the
API watcher is not over, to its wait for that task, which it has cancelled. -/
def Finishes (s : SupervisorState) : Prop :=
  ∃ events t, (∀ e ∈ events, e = .wake ∨ e = .main true) ∧ events.length ≤ s.left ∧
    supervisor.runFrom s events = .ok t ∧
    (t.main.isFinished = true ∨ (t.main = .cancelling ∧ ¬ s.TaskOver))

/-- A `join` that may time out comes to an end. -/
lemma exists_join (s : SupervisorState) (c : Component) (place : MainPlace) :
    ∃ t, s.join c true place = .ok t ∧ t.tasks = s.tasks ∧ t.asyncEvent = s.asyncEvent ∧
      t.main = place := by
  unfold SupervisorState.join
  by_cases hover : (s.tasks (.component c)).isOver = true
  · rw [if_pos hover]
    exact ⟨_, rfl, rfl, rfl, rfl⟩
  · rw [if_neg hover, if_pos rfl]
    exact ⟨_, rfl, rfl, rfl, rfl⟩

/-- What a step on the way to the end does. -/
structure LeadsOn (s : SupervisorState) (e : SupervisorEvent) (t : SupervisorState) : Prop where
  own : e = .wake ∨ e = .main true
  step : s.step e = .ok t
  requested : t.Requested
  taskOver : s.TaskOver → t.TaskOver
  left_lt : t.left < s.left

/-- Once a stop is requested there is always a step that leads on, but for the wait for the task. -/
lemma Inv.exists_leadsOn (h : s.Inv) (hrequested : s.Requested) (hopen : s.main.isFinished = false)
    (hwait : s.main = .cancelling → s.TaskOver) : ∃ e t, s.LeadsOn e t := by
  obtain ⟨k, hk⟩ := hrequested
  -- a step of `main` that leaves the tasks and the event as they are
  have hstep : ∀ t, s.mainStep true = .ok t → t.tasks = s.tasks → t.asyncEvent = s.asyncEvent →
      t.main.stepsLeft < s.main.stepsLeft → ∃ e t, s.LeadsOn e t := by
    intro t ht htasks hasync hlt
    refine ⟨.main true, t, .inr rfl, ht, ⟨k, by rw [htasks, hk]⟩, ?_, ?_⟩
    · rw [TaskOver, TaskOver, htasks]
      exact id
    · rw [left, left, hasync]
      omega
  cases hmain : s.main with
  | starting remaining =>
      cases remaining with
      | cons c remaining =>
          have hunstarted := (h.unstarted _ hmain).2 c List.mem_cons_self
          have hkc : k ≠ .component c := by
            rintro rfl
            rw [hunstarted] at hk
            cases hk
          refine ⟨.main true, { s.moved (.component c) .running with main := .starting remaining },
            .inr rfl, by simp only [SupervisorState.step, mainStep, hmain],
            ⟨k, (Function.update_of_ne hkc _ _).trans hk⟩, fun hover => ?_, ?_⟩
          · have hne : Caller.component .apiWatcher ≠ .component c := by
              rintro heq
              rw [TaskOver, heq, hunstarted] at hover
              cases hover
            exact (congrArg TaskPlace.isOver (Function.update_of_ne hne _ _)).trans hover
          · show remaining.length + 9 + (if s.asyncEvent then 0 else 1) < s.left
            simp only [left, hmain, MainPlace.stepsLeft, List.length_cons]
            omega
      | nil =>
          exact hstep { s with main := .waiting } (by simp only [mainStep, hmain]) rfl rfl
            (by rw [hmain]; exact Nat.lt_succ_self _)
  | waiting =>
      cases hasync : s.asyncEvent with
      | true =>
          exact hstep { s with main := .stopping } (by simp only [mainStep, hmain, hasync, if_true])
            rfl rfl (by rw [hmain]; exact Nat.lt_succ_self _)
      | false =>
          -- the wakeup is still on its way
          have hwake : 0 < s.wakeups := by
            rcases h.woken k hk with hseen | hwake | hfinished
            · rw [hasync] at hseen
              cases hseen
            · exact hwake
            · rw [hopen] at hfinished
              cases hfinished
          have hloop : s.loopClosed = false := by
            cases hclosed : s.loopClosed with
            | false => rfl
            | true =>
                rw [h.closed hclosed] at hopen
                cases hopen
          refine ⟨.wake, { s with wakeups := s.wakeups - 1, asyncEvent := true }, .inl rfl, ?_,
            ⟨k, hk⟩, id, ?_⟩
          · simp only [SupervisorState.step, hwake, hloop, and_self, if_true]
          · simp [left, hasync]
  | stopping =>
      exact hstep { s with stopEvent := true, main := .cancelling } (by simp only [mainStep, hmain])
        rfl rfl (by rw [hmain]; exact Nat.lt_succ_self _)
  | cancelling =>
      exact hstep { s with main := .joining threads }
        (by simp only [mainStep, hmain]; exact if_pos (hwait hmain)) rfl rfl
        (by rw [hmain]; exact Nat.lt_succ_self _)
  | joining remaining =>
      cases remaining with
      | cons c remaining =>
          obtain ⟨t, ht, htasks, hasync, hplace⟩ := s.exists_join c (.joining remaining)
          exact hstep t (by simp only [mainStep, hmain, ht]) htasks hasync
            (by rw [hplace, hmain]; exact Nat.lt_succ_self _)
      | nil =>
          exact hstep { s with main := .reporting } (by simp only [mainStep, hmain]) rfl rfl
            (by rw [hmain]; exact Nat.lt_succ_self _)
  | reporting =>
      exact hstep { s with main := .finished s.outcome } (by simp only [mainStep, hmain]) rfl rfl
        (by rw [hmain]; exact Nat.one_pos)
  | finished outcome =>
      rw [hmain] at hopen
      cases hopen

/-- So `main` comes to its end.  The induction is on the steps that are left. -/
lemma Inv.finishes (h : s.Inv) (hrequested : s.Requested) : s.Finishes := by
  induction hleft : s.left using Nat.strong_induction_on generalizing s with
  | _ n ih =>
      by_cases hend : s.main.isFinished = true ∨ (s.main = .cancelling ∧ ¬ s.TaskOver)
      · exact ⟨[], s, by simp, Nat.zero_le _, rfl, hend⟩
      · rw [not_or, Bool.not_eq_true, not_and, not_not] at hend
        obtain ⟨e, t, hleads⟩ := h.exists_leadsOn hrequested hend.1 hend.2
        obtain ⟨events, u, hevents, hlength, hrun, hfinished⟩ :=
          ih t.left (hleft ▸ hleads.left_lt) (inv_step e h hleads.step) hleads.requested rfl
        refine ⟨e :: events, u, ?_, ?_, ?_, hfinished.imp_right fun hwait => ⟨hwait.1, fun hover => ?_⟩⟩
        · intro e' he'
          rcases List.mem_cons.mp he' with rfl | he'
          · exact hleads.own
          · exact hevents e' he'
        · have hlt := hleads.left_lt
          rw [List.length_cons]
          omega
        · have hstep' : supervisor.step s e = .ok t := hleads.step
          simp only [Machine.runFrom, hstep', hrun]
        · exact hwait.2 (hleads.taskOver hover)

/-! ## What stays -/

/-- A failure that has been recorded first is not replaced. -/
lemma failure_step {e : SupervisorEvent} {f : ComponentFailure} (hf : s.failure = some f)
    (hstep : s.step e = .ok t) : t.failure = some f := by
  cases e with
  | call k =>
      simp only [step, callStep] at hstep
      split at hstep
      all_goals cases hstep
      · exact fill_of_eq_some hf _
      all_goals exact hf
  | main timedOut =>
      simp only [step, mainStep, SupervisorState.join] at hstep
      repeat' split at hstep
      all_goals cases hstep
      all_goals exact hf
  | _ =>
      simp only [step] at hstep
      split_ifs at hstep
      cases hstep
      exact hf

/-- `main` does not go on from its end. -/
lemma main_step {e : SupervisorEvent} {outcome : Except PyExc Unit}
    (hmain : s.main = .finished outcome) (hstep : s.step e = .ok t) : t.main = .finished outcome := by
  cases e with
  | call k =>
      simp only [step, callStep] at hstep
      split at hstep
      all_goals cases hstep
      all_goals exact hmain
  | main timedOut => simp [step, mainStep, hmain] at hstep
  | _ =>
      simp only [step] at hstep
      split_ifs at hstep
      cases hstep
      exact hmain

end SupervisorState

/-- **A request to stop is never lost, and nothing else stops the service.**  In every state of every
run: once a call of the controller has returned, the stop event is set, `main` has seen its own event
or is about to be woken, and comes to its end whatever the components go on to do, if only the task of
the API watcher, which it cancels, is over by then; and `main` leaves its wait only after such a
call. -/
theorem supervisor_stops {events : List SupervisorEvent} {s : SupervisorState}
    (hrun : supervisor.run events = .ok s) :
    (s.Requested → s.stopEvent = true ∧
        (s.asyncEvent = true ∨ 0 < s.wakeups ∨ s.main.isFinished = true) ∧ s.Finishes) ∧
      (s.main.pastWaiting = true → s.Requested) := by
  have hinv : s.Inv :=
    Machine.invariant SupervisorState.inv_init (fun _ e _ => SupervisorState.inv_step e) hrun
  refine ⟨fun hrequested => ?_, fun hpast => hinv.called (.inl (hinv.awake hpast))⟩
  obtain ⟨k, hk⟩ := hrequested
  exact ⟨hinv.set k (by rw [hk]; rfl), hinv.woken k hk, hinv.finishes ⟨k, hk⟩⟩

/-- The code watcher raises while the others run; they stop once `main` has set the stop event. -/
def codeWatcherFails : List SupervisorEvent :=
  [.main false, .main false, .main false, .main false, .main false,
    .raised .codeWatcher "OSError", .call (.component .codeWatcher), .call (.component .codeWatcher),
    .call (.component .codeWatcher), .call (.component .codeWatcher), .wake, .main false, .main false,
    .returned .apiWatcher, .main false, .returned .correlator, .main false, .main false,
    .returned .health, .main false, .main false, .main false]

lemma exists_run_codeWatcherFails :
    ∃ s, supervisor.run codeWatcherFails = .ok s ∧ s.Requested ∧ s.abandoned = [] ∧
      s.main = .finished (.error (ComponentFailure.toExc ⟨.codeWatcher, "OSError"⟩)) :=
  ⟨_, rfl, ⟨.component .codeWatcher, rfl⟩, rfl, rfl⟩

theorem supervisor_stops_codeWatcher :
    ∃ s, supervisor.run codeWatcherFails = .ok s ∧ s.stopEvent = true := by
  obtain ⟨s, hrun, hrequested, -⟩ := exists_run_codeWatcherFails
  exact ⟨s, hrun, ((supervisor_stops hrun).1 hrequested).1⟩

/-- **What `main` reports.**  It raises the failure that was recorded first; it returns normally only
when every failure is one of a component it has given up waiting for, so when it has given up none,
exactly when all of them have returned by themselves.  The verdict and the failure stand. -/
theorem main_reports {events : List SupervisorEvent} {s : SupervisorState}
    (hrun : supervisor.run events = .ok s) {outcome : Except PyExc Unit}
    (hmain : s.main = .finished outcome) :
    ((outcome = .ok () ∧ ∀ f ∈ s.recorded, f.component ∈ s.abandoned) ∨
        ∃ f, s.recorded.head? = some f ∧ outcome = .error f.toExc) ∧
      (s.abandoned = [] → (outcome = .ok () ↔ ∀ c, s.tasks (.component c) = .ended)) ∧
      ∀ later t, supervisor.runFrom s later = .ok t →
        t.main = .finished outcome ∧ ∀ f, s.failure = some f → t.failure = some f := by
  have hinv : s.Inv :=
    Machine.invariant SupervisorState.inv_init (fun _ e _ => SupervisorState.inv_step e) hrun
  have hverdict := hinv.verdict outcome hmain
  rw [hinv.first] at hverdict
  refine ⟨hverdict, fun habandoned => ⟨fun hok c => ?_, fun hended => ?_⟩,
    fun later t hlater => ⟨?_, ?_⟩⟩
  · -- there is no failure, so whoever is over has not called the controller
    have hnone : s.recorded = [] := by
      rcases hverdict with ⟨-, hall⟩ | ⟨f, -, hf⟩
      · refine List.eq_nil_iff_forall_not_mem.mpr fun f hf => ?_
        have hmem := hall f hf
        rw [habandoned] at hmem
        cases hmem
      · rw [hok] at hf
        cases hf
    have hover := (hinv.joined c (by rw [hmain]; exact List.not_mem_nil)).resolve_left
      (by rw [habandoned]; exact List.not_mem_nil)
    cases hplace : s.tasks (.component c) with
    | ended => rfl
    | called =>
        obtain ⟨f, hf, -⟩ := hinv.recorded_of_task c (by rw [hplace]; rfl)
        rw [hnone] at hf
        cases hf
    | _ => simp [hplace, TaskPlace.isOver] at hover
  · rcases hverdict with ⟨hok, -⟩ | ⟨f, hf, -⟩
    · exact hok
    · have hpast := hinv.task_of_recorded f (List.mem_of_mem_head? hf)
      rw [hended] at hpast
      cases hpast
  · exact Machine.invariant_runFrom (M := supervisor)
      (fun _ _ _ hu hstep => SupervisorState.main_step hu hstep) later hmain hlater
  · intro f hf
    have hstays : ∀ u e v, u.failure = some f → supervisor.step u e = .ok v → v.failure = some f :=
      fun _ _ _ hu hstep => SupervisorState.failure_step hu hstep
    exact Machine.invariant_runFrom hstays later hf hlater

/-- In that run it is the failure of the code watcher. -/
theorem main_reports_codeWatcher :
    ∃ s, supervisor.run codeWatcherFails = .ok s ∧
      ¬ ∀ c, s.tasks (.component c) = .ended := by
  obtain ⟨s, hrun, -, habandoned, hmain⟩ := exists_run_codeWatcherFails
  refine ⟨s, hrun, fun hended => ?_⟩
  have hok := ((main_reports hrun hmain).2.1 habandoned).mpr hended
  cases hok

end Watchtower
