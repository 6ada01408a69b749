import Mathlib.Logic.Function.Basic
import Mathlib.Order.Lattice

/-!
# A key store with expiry

Keys hold a value until a moment, and the store offers three commands: an unconditional write, a
write that only takes a free key, and a deletion that only removes an expected value.  Each command
acts atomically, at one moment.

* `Store.live` — what a key holds at a moment.
* `Command.exec` — what a command does at a moment, and whether it took effect; `exec_cases` — on
  which key.
* **`Command.exec_keeps`** — a held key survives every command that is neither an unconditional
  write to it nor the deletion of its own value: the fact a lease on the key rests on.
-/

namespace Core

/-- A value, and the moment at which it disappears. -/
structure Lease (ν τ : Type*) where
  value : ν
  expiresAt : τ
  deriving DecidableEq

/-- What was last written to each key. -/
abbrev Store (κ ν τ : Type*) := κ → Option (Lease ν τ)

/-- A command to the store. -/
inductive Command (κ ν τ : Type*)
  | setEx (key : κ) (value : ν) (ttl : τ)
  | setNxEx (key : κ) (value : ν) (ttl : τ)
  | compareDel (key : κ) (value : ν)
  deriving DecidableEq

namespace Command

variable {κ ν τ : Type*}

/-- The key a command is about. -/
def key : Command κ ν τ → κ
  | setEx key _ _ => key
  | setNxEx key _ _ => key
  | compareDel key _ => key

/-- The value a command carries. -/
def value : Command κ ν τ → ν
  | setEx _ value _ => value
  | setNxEx _ value _ => value
  | compareDel _ value => value

end Command

variable {κ ν τ : Type*} [LinearOrder τ]

/-- What a key holds at a moment. -/
def Store.live (s : Store κ ν τ) (now : τ) (k : κ) : Option ν :=
  match s k with
  | some l => if now < l.expiresAt then some l.value else none
  | none => none

lemma Store.live_eq_some_iff {s : Store κ ν τ} {now : τ} {k : κ} {v : ν} :
    s.live now k = some v ↔ ∃ e, s k = some ⟨v, e⟩ ∧ now < e := by
  unfold Store.live
  constructor
  · intro h
    cases hk : s k with
    | none => simp [hk] at h
    | some l =>
        obtain ⟨w, e⟩ := l
        simp only [hk, Option.ite_none_right_eq_some, Option.some.injEq] at h
        exact ⟨e, by rw [h.2], h.1⟩
  · rintro ⟨e, hk, he⟩
    simp [hk, he]

lemma Store.live_of_lease {s : Store κ ν τ} {now : τ} {k : κ} {v : ν} {e : τ}
    (hk : s k = some ⟨v, e⟩) (he : now < e) : s.live now k = some v :=
  Store.live_eq_some_iff.mpr ⟨e, hk, he⟩

namespace Command

variable [DecidableEq κ] [DecidableEq ν] [Add τ]

/-- Execute a command at a moment: whether it took effect, and the store afterwards. -/
def exec (now : τ) (s : Store κ ν τ) : Command κ ν τ → Bool × Store κ ν τ
  | setEx k v ttl => (true, Function.update s k (some ⟨v, now + ttl⟩))
  | setNxEx k v ttl =>
      if (s.live now k).isNone then (true, Function.update s k (some ⟨v, now + ttl⟩))
      else (false, s)
  | compareDel k v =>
      if s.live now k = some v then (true, Function.update s k none) else (false, s)

/-- What a command that takes effect leaves under its key. -/
def leaves (now : τ) : Command κ ν τ → Option (Lease ν τ)
  | setEx _ v ttl => some ⟨v, now + ttl⟩
  | setNxEx _ v ttl => some ⟨v, now + ttl⟩
  | compareDel _ _ => none

/-- A command takes effect on its own key, or it does nothing. -/
lemma exec_cases (now : τ) (s : Store κ ν τ) (c : Command κ ν τ) :
    c.exec now s = (false, s) ∨ c.exec now s = (true, Function.update s c.key (c.leaves now)) := by
  cases c with
  | setEx k v ttl => exact Or.inr rfl
  | setNxEx k v ttl =>
      simp only [exec]
      split_ifs
      · exact Or.inr rfl
      · exact Or.inl rfl
  | compareDel k v =>
      simp only [exec]
      split_ifs
      · exact Or.inr rfl
      · exact Or.inl rfl

/-- A command leaves the other keys alone. -/
lemma exec_other {now : τ} {s : Store κ ν τ} {c : Command κ ν τ} {k : κ} (h : k ≠ c.key) :
    (c.exec now s).2 k = s k := by
  cases c with
  | setEx k' v ttl => exact Function.update_of_ne h _ _
  | setNxEx k' v ttl =>
      simp only [exec]
      split_ifs
      · exact Function.update_of_ne h _ _
      · rfl
  | compareDel k' v =>
      simp only [exec]
      split_ifs
      · exact Function.update_of_ne h _ _
      · rfl

/-- A conditional write takes a free key. -/
lemma exec_setNxEx_free {now : τ} {s : Store κ ν τ} {k : κ} (v : ν) (ttl : τ)
    (h : s.live now k = none) :
    (setNxEx k v ttl).exec now s = (true, Function.update s k (some ⟨v, now + ttl⟩)) := by
  simp [exec, h]

/-- A conditional write does nothing to a held key. -/
lemma exec_setNxEx_held {now : τ} {s : Store κ ν τ} {k : κ} (v : ν) (ttl : τ) {w : ν}
    (h : s.live now k = some w) : (setNxEx k v ttl).exec now s = (false, s) := by
  simp [exec, h]

/-- **A held key survives** every command but an unconditional write to it and the deletion of its
own value. -/
theorem exec_keeps {now : τ} {s : Store κ ν τ} {c : Command κ ν τ} {k : κ} {v : ν} {e : τ}
    (hheld : s k = some ⟨v, e⟩) (hnow : now < e) (hset : ∀ w ttl, c ≠ setEx k w ttl)
    (hdel : c ≠ compareDel k v) : (c.exec now s).2 k = some ⟨v, e⟩ := by
  by_cases hkey : k = c.key
  · have hlive : s.live now k = some v := Store.live_of_lease hheld hnow
    cases c with
    | setEx k' w ttl =>
        have hk : k = k' := hkey
        exact absurd (by rw [hk]) (hset w ttl)
    | setNxEx k' w ttl =>
        have hk : k = k' := hkey
        subst hk
        rw [exec_setNxEx_held w ttl hlive]
        exact hheld
    | compareDel k' w =>
        have hk : k = k' := hkey
        subst hk
        have hne : s.live now k ≠ some w := by
          rw [hlive]
          intro h
          cases h
          exact hdel rfl
        simp only [exec, if_neg hne]
        exact hheld
  · rw [exec_other hkey]
    exact hheld

/-- What a key holds after a command was there before, unless the command wrote it. -/
theorem exec_origin {now : τ} {s : Store κ ν τ} {c : Command κ ν τ} {k : κ} {l : Lease ν τ}
    (h : (c.exec now s).2 k = some l) :
    s k = some l ∨ (c.key = k ∧ c.value = l.value) := by
  by_cases hkey : k = c.key
  · cases c with
    | setEx k' v ttl =>
        have hk : k = k' := hkey
        subst hk
        simp only [exec, Function.update_self, Option.some.injEq] at h
        exact Or.inr ⟨rfl, by rw [← h]; rfl⟩
    | setNxEx k' v ttl =>
        have hk : k = k' := hkey
        subst hk
        simp only [exec] at h
        split_ifs at h with hfree
        · simp only [Function.update_self, Option.some.injEq] at h
          exact Or.inr ⟨rfl, by rw [← h]; rfl⟩
        · exact Or.inl h
    | compareDel k' v =>
        have hk : k = k' := hkey
        subst hk
        simp only [exec] at h
        split_ifs at h
        · simp at h
        · exact Or.inl h
  · rw [exec_other hkey] at h
    exact Or.inl h

end Command

end Core
