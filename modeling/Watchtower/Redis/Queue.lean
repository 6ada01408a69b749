import Watchtower.Core.Channel
import Watchtower.Redis.Retry

/-!
# The findings queue

Producers call `push_finding`, the correlator calls `pop_finding`; both send one command to the
server inside the retry loop, and neither command is idempotent.  A command whose attempt fails at
the client may be executed at any later moment, or never.

* `PushCall` — a call of `push_finding`, told apart from other calls with the same payload.
* `findingsQueue` — producers, consumer and server as a machine over events.
* `QueueState.Exact` — nothing is lost or duplicated, and the order is kept.
* **`exact_iff`** — a run is exact throughout exactly when no lost command interferes.
* `lostReplies_not_exact` — a lost reply duplicates a finding, another one loses it.
-/

namespace Watchtower

open Core Py

/-! ## The parties -/

structure PushCall where
  id : ℕ
  payload : PyStr
  deriving DecidableEq

/-- A command to the server. -/
inductive QueueCommand
  | lpush (x : PushCall)
  | brpop
  deriving DecidableEq

/-- What a command does to the list. -/
def QueueCommand.exec (l : Channel PushCall) : QueueCommand → Channel PushCall
  | .lpush x => l.push x
  | .brpop => l.pop.2

structure QueueState where
  list : Channel PushCall
  /-- The commands given up by their clients that may still reach the server. -/
  inFlight : List QueueCommand
  /-- The number of calls of `push_finding` so far. -/
  calls : ℕ
  /-- The call each producer is in, with the number of its next attempt. -/
  producers : ℕ → Option (PushCall × ℕ)
  /-- The next attempt of the consumer, if it is in a call of `pop_finding`. -/
  consumer : Option ℕ
  /-- The calls of `push_finding` that have returned. -/
  pushed : List PushCall
  /-- What `pop_finding` has returned to the correlator. -/
  delivered : List PushCall

inductive QueueEvent
  | push (producer : ℕ) (payload : PyStr)
  | pushAttempt (producer : ℕ) (contact : Contact)
  | pop
  | popAttempt (contact : Contact)
  /-- A command given up by its client is executed by the server. -/
  | arrive (index : ℕ)

/-- The attempt that follows a turn of the retry loop, if there is one. -/
def Turn.next {α : Type} : Turn α → Option ℕ
  | .trying attempt => some attempt
  | _ => none

namespace QueueState

/-- One event; an event that is not possible in the state is an error.  The server does not fail,
so every error is a connection or timeout error.  A `BRPOP` is answered with an item as soon as there
is one, and with nothing when its timeout passes. -/
def step (s : QueueState) : QueueEvent → Except Unit QueueState
  | .push producer payload =>
      if (s.producers producer).isSome then .error ()
      else
        .ok { s with
              calls := s.calls + 1
              producers := Function.update s.producers producer (some (⟨s.calls, payload⟩, 1)) }
  | .pushAttempt producer contact =>
      match s.producers producer with
      | none => .error ()
      | some (x, k) =>
          match contact with
          | .answered =>
              .ok { s with
                    list := s.list.push x
                    producers := Function.update s.producers producer none
                    pushed := s.pushed ++ [x] }
          | .failed e =>
              if isRetryable e then
                .ok { s with
                      inFlight := .lpush x :: s.inFlight
                      producers := Function.update s.producers producer
                        ((retryTurn (α := Unit) k (.error e)).next.map fun k' => (x, k')) }
              else .error ()
  | .pop => if s.consumer.isSome then .error () else .ok { s with consumer := some 1 }
  | .popAttempt contact =>
      match s.consumer with
      | none => .error ()
      | some k =>
          match contact with
          | .answered =>
              .ok { s with
                    list := s.list.pop.2
                    consumer := none
                    delivered := s.delivered ++ s.list.pop.1.toList }
          | .failed e =>
              if isRetryable e then
                .ok { s with
                      inFlight := .brpop :: s.inFlight
                      consumer := (retryTurn (α := Unit) k (.error e)).next }
              else .error ()
  | .arrive index =>
      match s.inFlight[index]? with
      | none => .error ()
      | some c => .ok { s with list := c.exec s.list, inFlight := s.inFlight.eraseIdx index }

end QueueState

/-- The producers, the consumer and the server, from an empty list. -/
def findingsQueue : Machine QueueState QueueEvent Unit where
  init := { list := .empty, inFlight := [], calls := 0, producers := fun _ => none,
            consumer := none, pushed := [], delivered := [] }
  step := QueueState.step

/-! ## Exactness -/

/-- What has been delivered is what has been pushed. -/
structure QueueState.Exact (s : QueueState) : Prop where
  /-- A call that has returned has entered its finding exactly once. -/
  once : ∀ x ∈ s.pushed, s.list.entered.count x = 1
  /-- No call has entered its finding twice. -/
  nodup : s.list.entered.Nodup
  /-- Whatever has left the list has been delivered. -/
  returned : s.list.removed = s.delivered
  /-- What has been delivered comes first, in order, and the list holds the rest. -/
  fifo : s.list.entered = s.delivered ++ s.list.items.reverse

/-- No lost command interferes: an `LPUSH` is executed only while none of the same call has been,
and a lost `BRPOP` finds the list empty. -/
def QueueState.Undisturbed (s : QueueState) : QueueEvent → Prop
  | .pushAttempt producer .answered =>
      ∀ x k, s.producers producer = some (x, k) → x ∉ s.list.entered
  | .arrive index =>
      ∀ c, s.inFlight[index]? = some c →
        match c with
        | .lpush x => x ∉ s.list.entered
        | .brpop => s.list.items = []
  | _ => True

namespace QueueState

/-- Every call that has returned has entered its finding. -/
def Inv (s : QueueState) : Prop := s.pushed ⊆ s.list.entered

lemma exact_iff_nodup {s : QueueState} (hinv : s.Inv) :
    s.Exact ↔ s.list.entered.Nodup ∧ s.list.removed = s.delivered := by
  constructor
  · exact fun h => ⟨h.nodup, h.returned⟩
  · rintro ⟨hnodup, hreturned⟩
    exact
      { once := fun x hx => List.count_eq_one_of_mem hnodup (hinv hx)
        nodup := hnodup
        returned := hreturned
        fifo := by rw [s.list.entered_eq, hreturned] }

lemma inv_init : findingsQueue.init.Inv := List.nil_subset _

lemma inv_step (s : QueueState) (e : QueueEvent) (t : QueueState) (hinv : s.Inv)
    (h : s.step e = .ok t) : t.Inv := by
  cases e with
  | push producer payload =>
      simp only [step] at h
      split_ifs at h
      cases h
      exact hinv
  | pushAttempt producer contact =>
      simp only [step] at h
      cases hproducer : s.producers producer with
      | none => simp [hproducer] at h
      | some p =>
          obtain ⟨x, k⟩ := p
          cases contact with
          | answered =>
              simp only [hproducer] at h
              cases h
              exact List.append_subset.mpr
                ⟨List.Subset.trans hinv (List.subset_append_left _ _),
                  List.subset_append_right _ _⟩
          | failed e =>
              simp only [hproducer] at h
              split_ifs at h
              cases h
              exact hinv
  | pop =>
      simp only [step] at h
      split_ifs at h
      cases h
      exact hinv
  | popAttempt contact =>
      simp only [step] at h
      cases hconsumer : s.consumer with
      | none => simp [hconsumer] at h
      | some k =>
          cases contact with
          | answered =>
              simp only [hconsumer] at h
              cases h
              simpa only [Inv, Channel.pop_entered] using hinv
          | failed e =>
              simp only [hconsumer] at h
              split_ifs at h
              cases h
              exact hinv
  | arrive index =>
      simp only [step] at h
      cases hc : s.inFlight[index]? with
      | none => simp [hc] at h
      | some c =>
          simp only [hc] at h
          cases h
          cases c with
          | lpush x => exact List.Subset.trans hinv (List.subset_append_left _ _)
          | brpop => simpa only [Inv, QueueCommand.exec, Channel.pop_entered] using hinv

/-- A step that leaves the list and what has been returned alone. -/
lemma Exact.congr {s t : QueueState} (h : s.Exact) (hlist : t.list = s.list)
    (hpushed : t.pushed = s.pushed) (hdelivered : t.delivered = s.delivered) : t.Exact where
  once := by rw [hpushed, hlist]; exact h.once
  nodup := by rw [hlist]; exact h.nodup
  returned := by rw [hlist, hdelivered]; exact h.returned
  fifo := by rw [hlist, hdelivered]; exact h.fifo

/-- A finding that enters leaves the state exact when its call has not entered it before. -/
lemma exact_push_iff {s t : QueueState} (h : s.Exact) (hinv : t.Inv) {x : PushCall}
    (hlist : t.list = s.list.push x) (hdelivered : t.delivered = s.delivered) :
    t.Exact ↔ x ∉ s.list.entered := by
  rw [exact_iff_nodup hinv, hlist, hdelivered, Channel.push_entered, Channel.push_removed,
    List.nodup_append]
  constructor
  · rintro ⟨⟨-, -, hne⟩, -⟩ hx
    exact hne x hx x (List.mem_singleton_self x) rfl
  · intro hx
    refine ⟨⟨h.nodup, List.nodup_singleton x, ?_⟩, h.returned⟩
    rintro y hy z hz rfl
    rw [List.mem_singleton.mp hz] at hy
    exact hx hy

/-- A finding that leaves keeps the state exact when it is delivered. -/
lemma exact_pop_iff {s t : QueueState} (h : s.Exact) (hinv : t.Inv) (hlist : t.list = s.list.pop.2) :
    t.Exact ↔ t.delivered = s.delivered ++ s.list.pop.1.toList := by
  rw [exact_iff_nodup hinv, hlist, Channel.pop_entered, Channel.pop_removed, h.returned]
  exact ⟨fun ht => ht.2.symm, fun ht => ⟨h.nodup, ht.symm⟩⟩

/-- **One event keeps the state exact when no lost command interferes, and only then.** -/
theorem exact_step_iff (s : QueueState) (e : QueueEvent) (hinv : s.Inv) (h : s.Exact) :
    (∀ t, s.step e = .ok t → t.Exact) ↔ s.Undisturbed e := by
  cases e with
  | push producer payload =>
      simp only [Undisturbed, iff_true, step]
      intro t ht
      split_ifs at ht
      cases ht
      exact h.congr rfl rfl rfl
  | pushAttempt producer contact =>
      cases hproducer : s.producers producer with
      | none => cases contact <;> simp [Undisturbed, step, hproducer]
      | some p =>
          obtain ⟨x, k⟩ := p
          cases contact with
          | answered =>
              have hstep := inv_step s (.pushAttempt producer .answered)
              simp only [step, hproducer, Except.ok.injEq, forall_eq'] at hstep ⊢
              rw [exact_push_iff h (hstep _ hinv rfl) rfl rfl]
              simp [Undisturbed, hproducer]
          | failed e =>
              simp only [Undisturbed, iff_true, step, hproducer]
              intro t ht
              split_ifs at ht
              cases ht
              exact h.congr rfl rfl rfl
  | pop =>
      simp only [Undisturbed, iff_true, step]
      intro t ht
      split_ifs at ht
      cases ht
      exact h.congr rfl rfl rfl
  | popAttempt contact =>
      simp only [Undisturbed, iff_true]
      intro t ht
      have hinv' := inv_step s (.popAttempt contact) t hinv ht
      simp only [step] at ht
      cases hconsumer : s.consumer with
      | none => simp [hconsumer] at ht
      | some k =>
          cases contact with
          | answered =>
              simp only [hconsumer] at ht
              cases ht
              exact (exact_pop_iff h hinv' rfl).mpr rfl
          | failed e =>
              simp only [hconsumer] at ht
              split_ifs at ht
              cases ht
              exact h.congr rfl rfl rfl
  | arrive index =>
      cases hc : s.inFlight[index]? with
      | none => simp [Undisturbed, step, hc]
      | some c =>
          have hstep := inv_step s (.arrive index)
          simp only [step, hc, Except.ok.injEq, forall_eq', Undisturbed, Option.some.injEq] at hstep ⊢
          cases c with
          | lpush x => exact exact_push_iff h (hstep _ hinv rfl) rfl rfl
          | brpop =>
              rw [exact_pop_iff h (hstep _ hinv rfl) rfl, ← Channel.pop_fst_eq_none_iff]
              cases hpop : s.list.pop.1 with
              | none => simp
              | some x => simp

lemma exact_init : findingsQueue.init.Exact where
  once := by simp [findingsQueue]
  nodup := List.nodup_nil
  returned := rfl
  fifo := rfl

end QueueState

/-- **A run is exact throughout exactly when no lost command interferes**, for any number of
producers and any order of events. -/
theorem exact_iff (events : List QueueEvent) :
    findingsQueue.Throughout events QueueState.Exact ↔
      findingsQueue.Always events QueueState.Undisturbed :=
  Machine.throughout_iff QueueState.inv_init QueueState.inv_step QueueState.exact_init
    QueueState.exact_step_iff events

/-- The reply to the first `LPUSH` is lost after the server has executed it. -/
def lostPushReply : List QueueEvent :=
  [.push 0 (py "x"), .pushAttempt 0 (.failed .redisTimeoutError), .arrive 0,
    .pushAttempt 0 .answered]

/-- The reply to the first `BRPOP` is lost after the server has executed it. -/
def lostPopReply : List QueueEvent :=
  [.push 0 (py "x"), .pushAttempt 0 .answered, .pop, .popAttempt (.failed .redisTimeoutError),
    .arrive 0, .popAttempt .answered]

/-- **One lost reply enters a finding twice, another one loses it.** -/
theorem lostReplies_not_exact :
    ¬ findingsQueue.Throughout lostPushReply QueueState.Exact ∧
      ¬ findingsQueue.Throughout lostPopReply QueueState.Exact := by
  have hpush : ∃ s, findingsQueue.run lostPushReply = .ok s ∧
      s.pushed = [⟨0, py "x"⟩] ∧ s.list.entered = [⟨0, py "x"⟩, ⟨0, py "x"⟩] := by decide
  have hpop : ∃ s, findingsQueue.run lostPopReply = .ok s ∧
      s.list.removed = [⟨0, py "x"⟩] ∧ s.delivered = [] := by decide
  constructor
  · intro h
    obtain ⟨s, hs, hpushed, hentered⟩ := hpush
    have hcount := (h lostPushReply [] s (by simp) hs).once ⟨0, py "x"⟩ (by simp [hpushed])
    rw [hentered] at hcount
    exact absurd hcount (by decide)
  · intro h
    obtain ⟨s, hs, hremoved, hdelivered⟩ := hpop
    have hreturned := (h lostPopReply [] s (by simp) hs).returned
    rw [hremoved, hdelivered] at hreturned
    cases hreturned

end Watchtower
