import Watchtower.Core.Machine

/-!
# Computations that leave a trace

A computation that makes calls, one after another, and may fail on the answer to any of them.  What
was called stays on record when it does.

* `Traced` — the calls that were made, and how the computation came out.
* `perform`, `closing` — one call, and a call that is made however the computation before it ends.
* `outcome_bind`, `perform_ok_bind`, `perform_error_bind` — what a sequence comes to, and what it
  calls.
-/

namespace Core

/-- A computation with its calls, in their order. -/
structure Traced (κ ε α : Type) where
  calls : List κ
  outcome : Except ε α

namespace Traced

variable {κ ε α β : Type}

instance : Monad (Traced κ ε) where
  pure a := ⟨[], .ok a⟩
  bind x f :=
    match x.outcome with
    | .ok a => ⟨x.calls ++ (f a).calls, (f a).outcome⟩
    | .error e => ⟨x.calls, .error e⟩

/-- One call, with its answer. -/
def perform (call : κ) (answer : Except ε α) : Traced κ ε α := ⟨[call], answer⟩

/-- An error is raised. -/
def raise (e : ε) : Traced κ ε α := ⟨[], .error e⟩

/-- The computation, and another one after it whether it fails or not.  An error of the second one
replaces the outcome. -/
def closing (x : Traced κ ε α) (cleanup : Traced κ ε Unit) : Traced κ ε α :=
  ⟨x.calls ++ cleanup.calls, cleanup.outcome >>= fun _ => x.outcome⟩

@[simp] lemma outcome_closing (x : Traced κ ε α) (cleanup : Traced κ ε Unit) :
    (x.closing cleanup).outcome = cleanup.outcome >>= fun _ => x.outcome := rfl

/-- Sequences may be regrouped. -/
lemma bind_bind (x : Traced κ ε α) {γ : Type} (f : α → Traced κ ε β) (g : β → Traced κ ε γ) :
    (x >>= f) >>= g = x >>= fun a => f a >>= g := by
  obtain ⟨calls, outcome⟩ := x
  cases outcome with
  | error e => rfl
  | ok a =>
      cases hf : (f a).outcome with
      | error e => simp only [bind, hf]
      | ok b => simp only [bind, hf, List.append_assoc]

@[simp] lemma pure_bind (a : α) (f : α → Traced κ ε β) : (pure a >>= f) = f a := rfl

/-- A sequence comes to what its outcomes come to. -/
lemma outcome_bind (x : Traced κ ε α) (f : α → Traced κ ε β) :
    (x >>= f).outcome = x.outcome >>= fun a => (f a).outcome := by
  obtain ⟨calls, outcome⟩ := x
  cases outcome with
  | ok a => rfl
  | error e => rfl

/-- A call that is answered leads on to the rest. -/
@[simp] lemma perform_ok_bind (call : κ) (a : α) (f : α → Traced κ ε β) :
    (perform call (.ok a) >>= f) = ⟨call :: (f a).calls, (f a).outcome⟩ := rfl

/-- A call that fails is the last one. -/
@[simp] lemma perform_error_bind (call : κ) (e : ε) (f : α → Traced κ ε β) :
    (perform call (.error e) >>= f) = ⟨[call], .error e⟩ := rfl

/-- A sequence whose last step only computes calls what its first step calls. -/
@[simp] lemma calls_map (x : Traced κ ε α) (f : α → β) :
    (x >>= fun a => (pure (f a) : Traced κ ε β)).calls = x.calls := by
  obtain ⟨calls, outcome⟩ := x
  cases outcome with
  | ok a => exact List.append_nil calls
  | error e => rfl

@[simp] lemma outcome_map (x : Traced κ ε α) (f : α → β) :
    (x >>= fun a => (pure (f a) : Traced κ ε β)).outcome = x.outcome.map f := by
  obtain ⟨calls, outcome⟩ := x
  cases outcome with
  | ok a => rfl
  | error e => rfl

end Traced

end Core
