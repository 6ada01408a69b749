import Watchtower.Core.Machine
import Mathlib.Logic.Function.Basic

/-!
# Cells that are filled once

A cell that several callers write, where only the first write counts, and the double-checked way of
filling a cell with something that must not be made twice.

* `fill` — a write that an earlier one makes void; `fill_head?` — the cell holds what came first.
* `OnceState.step` — callers that look at the cell, take the lock, look again, make the value and
  store it, in any interleaving.
* `OnceState.Inv` — one caller at most is under the lock, and what has been made is in the cell
  unless that caller is about to store it.
* **`OnceState.inv_step`** — every step keeps that; `OnceState.Inv.made_le_one` — so the value is made
  once at most.
-/

namespace Core

/-! ## The first write -/

section Fill

variable {α : Type}

/-- A write to a cell that keeps what it holds. -/
def fill (cell : Option α) (a : α) : Option α :=
  match cell with
  | some b => some b
  | none => some a

/-- A cell that holds the first of the values that were written holds the first after one write
more. -/
lemma fill_head? (written : List α) (a : α) : fill written.head? a = (written ++ [a]).head? := by
  cases written with
  | nil => rfl
  | cons b written => rfl

/-- What a cell holds is not replaced. -/
lemma fill_of_eq_some {cell : Option α} {b : α} (h : cell = some b) (a : α) :
    fill cell a = some b := by
  rw [h]
  rfl

end Fill

/-! ## Double-checked filling -/

/-- Where a caller stands. -/
inductive OncePlace (α ε : Type)
  | idle
  /-- Before the look at the cell without the lock. -/
  | checking
  | locking
  /-- Under the lock, before the second look. -/
  | inside
  | making
  | storing (a : α)
  | unlocking
  /-- Under the lock, which an error of the maker is about to leave. -/
  | raising (e : ε)
  /-- Before the cell is read for the result. -/
  | reading
  | returned (result : Option α)
  | raised (e : ε)

namespace OncePlace

variable {α ε : Type}

/-- The caller has the lock. -/
def underLock : OncePlace α ε → Bool
  | .inside => true
  | .making => true
  | .storing _ => true
  | .unlocking => true
  | .raising _ => true
  | _ => false

/-- The caller is in no call. -/
def isOut : OncePlace α ε → Bool
  | .idle => true
  | .returned _ => true
  | .raised _ => true
  | _ => false

end OncePlace

inductive OnceEvent (κ α ε : Type)
  | call (caller : κ)
  | move (caller : κ)
  /-- The maker returns or raises. -/
  | make (caller : κ) (outcome : Except ε α)

/-- The cell, the lock, everything that was ever made, and the callers. -/
structure OnceState (κ α ε : Type) where
  cell : Option α
  owner : Option κ
  made : List α
  place : κ → OncePlace α ε

namespace OnceState

variable {κ α ε : Type} [DecidableEq κ]

def init : OnceState κ α ε := ⟨none, none, [], fun _ => .idle⟩

/-- The caller goes on. -/
def moved (s : OnceState κ α ε) (caller : κ) (place : OncePlace α ε) : OnceState κ α ε :=
  { s with place := Function.update s.place caller place }

/-- One event; an event that is not possible in the state is an error. -/
def step (s : OnceState κ α ε) : OnceEvent κ α ε → Except Unit (OnceState κ α ε)
  | .call caller =>
      if (s.place caller).isOut then .ok (s.moved caller .checking) else .error ()
  | .move caller =>
      match s.place caller with
      | .checking => .ok (s.moved caller (if s.cell.isSome then .reading else .locking))
      | .locking =>
          if s.owner = none then .ok { s.moved caller .inside with owner := some caller }
          else .error ()
      | .inside => .ok (s.moved caller (if s.cell.isSome then .unlocking else .making))
      | .storing a => .ok { s.moved caller .unlocking with cell := some a }
      | .unlocking => .ok { s.moved caller .reading with owner := none }
      | .raising e => .ok { s.moved caller (.raised e) with owner := none }
      | .reading => .ok (s.moved caller (.returned s.cell))
      | _ => .error ()
  | .make caller outcome =>
      match s.place caller with
      | .making =>
          match outcome with
          | .ok a => .ok { s.moved caller (.storing a) with made := s.made ++ [a] }
          | .error e => .ok (s.moved caller (.raising e))
      | _ => .error ()

/-- What a place says about the cell. -/
def Agrees (s : OnceState κ α ε) : OncePlace α ε → Prop
  | .making => s.cell = none ∧ s.made = []
  | .storing a => s.cell = none ∧ s.made = [a]
  | .unlocking => s.cell.isSome = true
  | .reading => s.cell.isSome = true
  | .returned result => result.isSome = true ∧ result = s.cell
  | _ => True

/-- What holds in every state. -/
structure Inv (s : OnceState κ α ε) : Prop where
  /-- The lock is held by the caller that is under it. -/
  lock : ∀ n, (s.place n).underLock = true ↔ s.owner = some n
  agrees : ∀ n, s.Agrees (s.place n)
  /-- What has been made is in the cell, unless it is about to be stored. -/
  settled : (∀ n a, s.place n ≠ .storing a) → s.made = s.cell.toList

variable {s t : OnceState κ α ε}

omit [DecidableEq κ] in
lemma inv_init : (init : OnceState κ α ε).Inv where
  lock n := by simp [init, OncePlace.underLock]
  agrees _ := trivial
  settled _ := rfl

omit [DecidableEq κ] in
/-- The value is made once at most. -/
lemma Inv.made_le_one (h : s.Inv) : s.made.length ≤ 1 := by
  by_cases hstoring : ∃ n a, s.place n = .storing a
  · obtain ⟨n, a, hn⟩ := hstoring
    have hmade := h.agrees n
    rw [hn] at hmade
    rw [hmade.2]
    exact Nat.le_refl 1
  · rw [h.settled fun n a hn => hstoring ⟨n, a, hn⟩]
    cases s.cell with
    | none => exact Nat.zero_le 1
    | some a => exact Nat.le_refl 1

omit [DecidableEq κ] in
/-- Two callers are not under the lock at once. -/
lemma Inv.not_underLock (h : s.Inv) {m n : κ} (hn : s.owner = some n) (hne : m ≠ n) :
    (s.place m).underLock ≠ true := by
  rw [ne_eq, h.lock m, hn, Option.some.injEq]
  exact Ne.symm hne

omit [DecidableEq κ] in
/-- A caller outside the lock does not mind a cell that gets filled. -/
lemma Agrees.filled {p : OncePlace α ε} (h : s.Agrees p) (hout : p.underLock ≠ true)
    (hcell : s.cell = none) : t.Agrees p := by
  cases p with
  | making => exact absurd rfl hout
  | storing a => exact absurd rfl hout
  | unlocking => exact absurd rfl hout
  | reading =>
      rw [Agrees, hcell] at h
      cases h
  | returned result =>
      obtain ⟨hsome, hresult⟩ := h
      rw [hresult, hcell] at hsome
      cases hsome
  | _ => trivial

/-- **One caller moves.**  It may take, keep or leave the lock, as long as the others are left where
they are. -/
lemma Inv.move (h : s.Inv) {n : κ} {p : OncePlace α ε} (hplace : t.place = Function.update s.place n p)
    (hlock : ∀ m, t.owner = some m ↔ if m = n then p.underLock = true else s.owner = some m)
    (hself : t.Agrees p) (hothers : ∀ m, m ≠ n → s.Agrees (s.place m) → t.Agrees (s.place m))
    (hsettled : (∀ a, p ≠ .storing a) → (∀ m, m ≠ n → ∀ a, s.place m ≠ .storing a) →
      t.made = t.cell.toList) : t.Inv where
  lock m := by
    rw [hlock m, hplace]
    by_cases hmn : m = n
    · subst hmn
      rw [Function.update_self, if_pos rfl]
    · rw [Function.update_of_ne hmn, if_neg hmn]
      exact h.lock m
  agrees m := by
    rw [hplace]
    by_cases hmn : m = n
    · subst hmn
      rw [Function.update_self]
      exact hself
    · rw [Function.update_of_ne hmn]
      exact hothers m hmn (h.agrees m)
  settled hnone := by
    refine hsettled (fun a ha => ?_) fun m hmn a hm => ?_
    · exact hnone n a (by rw [hplace, Function.update_self, ha])
    · exact hnone m a (by rw [hplace, Function.update_of_ne hmn, hm])

/-- A caller that neither takes nor leaves the lock. -/
lemma Inv.moved (h : s.Inv) {n : κ} {p : OncePlace α ε}
    (hlock : p.underLock = (s.place n).underLock) (hfrom : ∀ a, s.place n ≠ .storing a)
    (hself : s.Agrees p) : (s.moved n p).Inv := by
  refine h.move (t := s.moved n p) rfl (fun m => ?_) ?_ (fun _ _ hm => ?_) fun _ hothers => ?_
  · by_cases hmn : m = n
    · subst hmn
      rw [if_pos rfl, hlock]
      exact (h.lock m).symm
    · rw [if_neg hmn]
      rfl
  · cases p <;> exact hself
  · cases hp : s.place _ <;> rw [hp] at hm <;> exact hm
  · refine h.settled fun m a hm => ?_
    by_cases hmn : m = n
    · exact hfrom a (hmn ▸ hm)
    · exact hothers m hmn a hm

/-- A caller that leaves the lock. -/
lemma Inv.unlocked (h : s.Inv) {n : κ} {p : OncePlace α ε} (hunder : (s.place n).underLock = true)
    (hfrom : ∀ a, s.place n ≠ .storing a) (hout : p.underLock = false) (hself : s.Agrees p) :
    Inv { s.moved n p with owner := none } := by
  have howner := (h.lock n).mp hunder
  refine h.move (n := n) (p := p) rfl (fun m => ?_) ?_ (fun m _ hm => ?_) fun _ hothers => ?_
  · by_cases hmn : m = n
    · simp [hmn, hout]
    · simp [hmn, howner, Ne.symm hmn]
  · cases p <;> exact hself
  · cases hp : s.place m <;> rw [hp] at hm <;> exact hm
  · refine h.settled fun m a hm => ?_
    by_cases hmn : m = n
    · exact hfrom a (hmn ▸ hm)
    · exact hothers m hmn a hm

/-- A caller that takes the free lock. -/
lemma Inv.locked (h : s.Inv) {n : κ} (hfree : s.owner = none) (hplace : s.place n = .locking) :
    Inv { s.moved n .inside with owner := some n } := by
  refine h.move (n := n) (p := .inside) rfl (fun m => ?_) trivial (fun m _ hm => ?_)
    fun _ hothers => ?_
  · by_cases hmn : m = n
    · simp [hmn, OncePlace.underLock]
    · simp [hmn, hfree, Ne.symm hmn]
  · cases hp : s.place m <;> rw [hp] at hm <;> exact hm
  · refine h.settled fun m a hm => ?_
    by_cases hmn : m = n
    · rw [hmn, hplace] at hm
      cases hm
    · exact hothers m hmn a hm

/-- The maker returns a value, the first one. -/
lemma Inv.made_first (h : s.Inv) {n : κ} (hplace : s.place n = .making) (a : α) :
    Inv { s.moved n (.storing a) with made := s.made ++ [a] } := by
  have howner := (h.lock n).mp (by rw [hplace]; rfl)
  have hself := h.agrees n
  rw [hplace] at hself
  obtain ⟨hcell, hmade⟩ := hself
  refine h.move (n := n) (p := .storing a) rfl (fun m => ?_) ⟨hcell, ?_⟩ (fun m hmn hm => ?_)
    fun hnot => absurd rfl (hnot a)
  · by_cases hmn : m = n
    · subst hmn
      rw [if_pos rfl]
      exact iff_of_true howner rfl
    · rw [if_neg hmn]
      rfl
  · rw [hmade]
    rfl
  · exact hm.filled (h.not_underLock howner hmn) hcell

/-- The value is stored. -/
lemma Inv.stored (h : s.Inv) {n : κ} {a : α} (hplace : s.place n = .storing a) :
    Inv { s.moved n .unlocking with cell := some a } := by
  have howner := (h.lock n).mp (by rw [hplace]; rfl)
  have hself := h.agrees n
  rw [hplace] at hself
  obtain ⟨hcell, hmade⟩ := hself
  refine h.move (n := n) (p := .unlocking) rfl (fun m => ?_) rfl (fun m hmn hm => ?_)
    fun _ _ => hmade
  · by_cases hmn : m = n
    · subst hmn
      rw [if_pos rfl]
      exact iff_of_true howner rfl
    · rw [if_neg hmn]
      rfl
  · exact hm.filled (h.not_underLock howner hmn) hcell

/-- What is in the cell stays there. -/
lemma Inv.cell_step {e : OnceEvent κ α ε} (h : s.Inv) {a : α} (hcell : s.cell = some a)
    (hstep : s.step e = .ok t) : t.cell = some a := by
  cases e with
  | call n =>
      simp only [step] at hstep
      split_ifs at hstep
      cases hstep
      exact hcell
  | make n outcome =>
      simp only [step] at hstep
      repeat' split at hstep
      all_goals cases hstep
      all_goals exact hcell
  | move n =>
      have hself := h.agrees n
      cases hplace : s.place n with
      | storing b =>
          -- a caller stores a value only while there is none
          rw [hplace] at hself
          rw [hself.1] at hcell
          cases hcell
      | _ =>
          simp only [step, hplace] at hstep
          try split_ifs at hstep
          all_goals cases hstep
          all_goals exact hcell

/-- What has been made was returned by the maker. -/
lemma mem_made_step {e : OnceEvent κ α ε} (hstep : s.step e = .ok t) {a : α} (ha : a ∈ t.made) :
    a ∈ s.made ∨ ∃ n, e = .make n (.ok a) := by
  cases e with
  | call n =>
      simp only [step] at hstep
      split_ifs at hstep
      cases hstep
      exact .inl ha
  | move n =>
      simp only [step] at hstep
      repeat' split at hstep
      all_goals cases hstep
      all_goals exact .inl ha
  | make n outcome =>
      simp only [step] at hstep
      split at hstep
      · cases outcome with
        | ok b =>
            cases hstep
            rcases List.mem_append.mp ha with ha | ha
            · exact .inl ha
            · rw [List.mem_singleton.mp ha]
              exact .inr ⟨n, rfl⟩
        | error e =>
            cases hstep
            exact .inl ha
      · cases hstep

/-- **Every step keeps the invariant.** -/
theorem inv_step (e : OnceEvent κ α ε) (h : s.Inv) (hstep : s.step e = .ok t) : t.Inv := by
  cases e with
  | call n =>
      simp only [step] at hstep
      split_ifs at hstep with hout
      cases hstep
      cases hplace : s.place n with
      | idle => exact h.moved (by rw [hplace]; rfl) (by simp [hplace]) trivial
      | returned result => exact h.moved (by rw [hplace]; rfl) (by simp [hplace]) trivial
      | raised e => exact h.moved (by rw [hplace]; rfl) (by simp [hplace]) trivial
      | _ => simp [hplace, OncePlace.isOut] at hout
  | make n outcome =>
      simp only [step] at hstep
      split at hstep
      · next hplace =>
          cases outcome with
          | ok a =>
              cases hstep
              exact h.made_first hplace a
          | error e =>
              cases hstep
              exact h.moved (by rw [hplace]; rfl) (by simp [hplace]) trivial
      · cases hstep
  | move n =>
      have hself := h.agrees n
      cases hplace : s.place n with
      | checking =>
          simp only [step, hplace] at hstep
          cases hstep
          cases hcell : s.cell with
          | none => exact h.moved (by rw [hplace]; rfl) (by simp [hplace]) trivial
          | some a => exact h.moved (by rw [hplace]; rfl) (by simp [hplace]) (by simp [Agrees, hcell])
      | locking =>
          simp only [step, hplace] at hstep
          split_ifs at hstep with hfree
          cases hstep
          exact h.locked hfree hplace
      | inside =>
          simp only [step, hplace] at hstep
          cases hstep
          cases hcell : s.cell with
          | none =>
              -- nobody else can be about to store a value
              have howner := (h.lock n).mp (by rw [hplace]; rfl)
              have hmade : s.made = [] := by
                rw [h.settled fun m a hm => ?_, hcell]
                · rfl
                · by_cases hmn : m = n
                  · rw [hmn, hplace] at hm
                    cases hm
                  · exact h.not_underLock howner hmn (by rw [hm]; rfl)
              exact h.moved (by rw [hplace]; rfl) (by simp [hplace]) ⟨hcell, hmade⟩
          | some a => exact h.moved (by rw [hplace]; rfl) (by simp [hplace]) (by simp [Agrees, hcell])
      | storing a =>
          simp only [step, hplace] at hstep
          cases hstep
          exact h.stored hplace
      | unlocking =>
          simp only [step, hplace] at hstep
          cases hstep
          rw [hplace] at hself
          exact h.unlocked (by rw [hplace]; rfl) (by simp [hplace]) rfl hself
      | raising e =>
          simp only [step, hplace] at hstep
          cases hstep
          exact h.unlocked (by rw [hplace]; rfl) (by simp [hplace]) rfl trivial
      | reading =>
          simp only [step, hplace] at hstep
          cases hstep
          rw [hplace] at hself
          exact h.moved (by rw [hplace]; rfl) (by simp [hplace]) ⟨hself, rfl⟩
      | _ => simp [step, hplace] at hstep

end OnceState

end Core
