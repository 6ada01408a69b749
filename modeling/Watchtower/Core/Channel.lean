import Mathlib.Data.List.Basic

/-!
# Channels with a history

A list that is written at its left end and read at its right end, together with everything that has
entered and left it so far.  That the two agree with the contents is part of the type.

* `Channel.push`, `Channel.pop` — the two operations.
* `Channel.entered_eq` — first in, first out: what has left, and then what is still inside.
-/

namespace Core

/-- A list from the newest item to the oldest, with its history from the oldest to the newest. -/
structure Channel (α : Type*) where
  items : List α
  entered : List α
  removed : List α
  entered_eq : entered = removed ++ items.reverse

namespace Channel

variable {α : Type*}

/-- Nothing has entered yet. -/
def empty : Channel α where
  items := []
  entered := []
  removed := []
  entered_eq := rfl

/-- Add an item at the left end. -/
def push (c : Channel α) (a : α) : Channel α where
  items := a :: c.items
  entered := c.entered ++ [a]
  removed := c.removed
  entered_eq := by rw [c.entered_eq, List.reverse_cons, List.append_assoc]

/-- Take the item at the right end, if there is one. -/
def pop (c : Channel α) : Option α × Channel α :=
  match h : c.items.reverse with
  | [] => (none, c)
  | a :: rest =>
      (some a,
        { items := rest.reverse
          entered := c.entered
          removed := c.removed ++ [a]
          entered_eq := by
            rw [c.entered_eq, h, List.reverse_reverse, List.append_assoc, List.singleton_append] })

@[simp] lemma push_entered (c : Channel α) (a : α) : (c.push a).entered = c.entered ++ [a] := rfl

@[simp] lemma push_removed (c : Channel α) (a : α) : (c.push a).removed = c.removed := rfl

/-- Reading adds nothing. -/
@[simp] lemma pop_entered (c : Channel α) : c.pop.2.entered = c.entered := by
  unfold pop
  split <;> rfl

/-- What is read has left. -/
lemma pop_removed (c : Channel α) : c.pop.2.removed = c.removed ++ c.pop.1.toList := by
  unfold pop
  split
  · simp
  · rfl

lemma pop_fst_eq_none_iff (c : Channel α) : c.pop.1 = none ↔ c.items = [] := by
  unfold pop
  split
  · next h => simpa using h
  · next h =>
      simp only [reduceCtorEq, false_iff]
      intro hitems
      rw [hitems] at h
      cases h

end Channel

end Core
