import Mathlib.Data.List.Induction
import Mathlib.Data.List.Perm.Subperm
import Mathlib.Logic.Basic

/-!
# Fallible machines

A computation that may fail, and a machine that takes one input after another and may fail on any
of them.  The library knows nothing of what the inputs are.

* `Returns` — a computation does not fail, with its rules for sequencing.
* `Machine.run` — the state after a list of inputs, with the rule for a run in two parts.
* **`Machine.invariant`** — what one step preserves holds in every state reached.
* **`Machine.countP_add_le`** — how many steps of one kind a run can have.
* **`Machine.refines`** — a machine each of whose steps is a step of another one, or none.
* `Machine.Throughout` — a property of every state a run goes through.
* `Machine.Always` — a property of every step a run takes; **`Machine.always_congr`** trades one
  such property for another that agrees with it under an invariant, and
  **`Machine.always_iff_of_kept`** does so when the property is what keeps the invariant.
* **`Machine.throughout_iff`** — a property holds throughout a run exactly when every step meets
  the condition under which it is kept.
* **`Machine.returns_run_iff`** — a run succeeds exactly when each of its steps does.
* `Machine.trace` — what is observed along a run; **`Machine.trace_subperm`** — where each step
  observes and keeps no more than it held and was brought, so does the whole run.
-/

namespace Core

/-! ## Computations that may fail -/

/-- The computation returns instead of failing. -/
def Returns {ε α : Type*} (x : Except ε α) : Prop := ∃ a, x = .ok a

section Returns

variable {ε α β : Type*}

@[simp] lemma returns_ok (a : α) : Returns (.ok a : Except ε α) := ⟨a, rfl⟩

@[simp] lemma not_returns_error (e : ε) : ¬ Returns (.error e : Except ε α) := by
  rintro ⟨a, ha⟩
  cases ha

instance (x : Except ε α) : Decidable (Returns x) :=
  match x with
  | .ok a => .isTrue (returns_ok a)
  | .error e => .isFalse (not_returns_error e)

/-- A property of what is returned can be computed. -/
instance decidableExistsOk (x : Except ε α) (P : α → Prop) [DecidablePred P] :
    Decidable (∃ a, x = .ok a ∧ P a) :=
  match x with
  | .ok a => decidable_of_iff (P a) (by simp)
  | .error e => .isFalse (by simp)

end Returns

section Bind

variable {ε α β : Type}

@[simp] lemma ok_bind (a : α) (f : α → Except ε β) : (Except.ok a >>= f) = f a := rfl

@[simp] lemma error_bind (e : ε) (f : α → Except ε β) :
    ((Except.error e : Except ε α) >>= f) = .error e := rfl

/-- A sequence succeeds when its first step does and the rest does on its value. -/
lemma bind_eq_ok_iff {x : Except ε α} {f : α → Except ε β} {b : β} :
    (x >>= f) = .ok b ↔ ∃ a, x = .ok a ∧ f a = .ok b := by
  cases x with
  | error e => simp
  | ok a => simp

/-- A sequence returns when its first step does and the rest does on what the step returned. -/
lemma returns_bind {x : Except ε α} {f : α → Except ε β} :
    Returns (x >>= f) ↔ ∃ a, x = .ok a ∧ Returns (f a) := by
  cases x with
  | error e => simp
  | ok a => simp

/-- A mapped computation returns what the function makes of a value. -/
lemma map_eq_ok {x : Except ε α} {f : α → β} {b : β} (h : x.map f = .ok b) :
    ∃ a, x = .ok a ∧ f a = b := by
  cases x with
  | error e => cases h
  | ok a =>
      cases h
      exact ⟨a, rfl, rfl⟩

end Bind

/-! ## Machines -/

/-- A machine with states `σ` and inputs `ι` whose step may fail with an `ε`. -/
structure Machine (σ ι ε : Type*) where
  init : σ
  step : σ → ι → Except ε σ

namespace Machine

variable {σ ι ε : Type*} (M : Machine σ ι ε)

/-- The state after a list of inputs, from a given one. -/
def runFrom : σ → List ι → Except ε σ
  | s, [] => .ok s
  | s, i :: is =>
      match M.step s i with
      | .ok t => runFrom t is
      | .error e => .error e

/-- The state after a list of inputs. -/
def run (is : List ι) : Except ε σ := M.runFrom M.init is

@[simp] lemma run_nil : M.run [] = .ok M.init := rfl

/-- A run in two parts: the first must succeed, and the second goes on from where it stopped. -/
lemma runFrom_append (is js : List ι) : ∀ s : σ, M.runFrom s (is ++ js) =
    match M.runFrom s is with
    | .ok t => M.runFrom t js
    | .error e => .error e := by
  induction is with
  | nil => intro s; rfl
  | cons i is ih =>
      intro s
      cases hstep : M.step s i with
      | error e => simp only [List.cons_append, runFrom, hstep]
      | ok u => simp only [List.cons_append, runFrom, hstep, ih]

/-- The last step of a run. -/
lemma run_snoc {s : σ} {is : List ι} (h : M.run is = .ok s) (i : ι) :
    M.run (is ++ [i]) = M.step s i := by
  rw [run] at h ⊢
  rw [runFrom_append, h]
  simp only [runFrom]
  cases M.step s i with
  | ok t => rfl
  | error e => rfl

lemma run_singleton (i : ι) : M.run [i] = M.step M.init i :=
  M.run_snoc M.run_nil i

/-- A run that succeeds has succeeded up to its last step. -/
lemma exists_of_run_append {is js : List ι} {t : σ} (h : M.run (is ++ js) = .ok t) :
    ∃ s, M.run is = .ok s ∧ M.runFrom s js = .ok t := by
  rw [run, runFrom_append] at h
  cases his : M.runFrom M.init is with
  | error e => simp [his] at h
  | ok s => exact ⟨s, his, by simpa [his] using h⟩

/-! ## Invariants -/

variable {M}

lemma invariant_runFrom {Inv : σ → Prop} (hstep : ∀ s i t, Inv s → M.step s i = .ok t → Inv t)
    (is : List ι) : ∀ {s t : σ}, Inv s → M.runFrom s is = .ok t → Inv t := by
  induction is with
  | nil =>
      intro s t hs hrun
      cases hrun
      exact hs
  | cons i is ih =>
      intro s t hs hrun
      cases hi : M.step s i with
      | error e => simp [runFrom, hi] at hrun
      | ok u =>
          simp only [runFrom, hi] at hrun
          exact ih (hstep s i u hs hi) hrun

/-- **A run has only so many steps of one kind** where each of them brings a measure down and no other
step raises it. -/
theorem countP_add_le {Inv : σ → Prop} {own : ι → Bool} {measure : σ → ℕ}
    (hstep : ∀ s i t, Inv s → M.step s i = .ok t → Inv t ∧ (own i).toNat + measure t ≤ measure s)
    (is : List ι) : ∀ {s t : σ}, Inv s → M.runFrom s is = .ok t →
      Inv t ∧ is.countP own + measure t ≤ measure s := by
  induction is with
  | nil =>
      intro s t hs hrun
      cases hrun
      exact ⟨hs, by simp⟩
  | cons i is ih =>
      intro s t hs hrun
      cases hi : M.step s i with
      | error e => simp [runFrom, hi] at hrun
      | ok u =>
          simp only [runFrom, hi] at hrun
          obtain ⟨hu, hle⟩ := hstep s i u hs hi
          obtain ⟨ht, hrest⟩ := ih hu hrun
          refine ⟨ht, ?_⟩
          rw [List.countP_cons]
          cases hown : own i with
          | true =>
              simp only [hown, Bool.toNat_true] at hle
              simp only [if_true]
              omega
          | false =>
              simp only [hown, Bool.toNat_false] at hle
              simp only [Bool.false_eq_true, if_false]
              omega

/-- **What one step preserves holds in every state reached.** -/
theorem invariant {Inv : σ → Prop} (hinit : Inv M.init)
    (hstep : ∀ s i t, Inv s → M.step s i = .ok t → Inv t) {is : List ι} {s : σ}
    (hrun : M.run is = .ok s) : Inv s :=
  invariant_runFrom hstep is hinit hrun

/-- The same for a property of the inputs so far and the state they lead to. -/
theorem invariant_history {Inv : List ι → σ → Prop} (hinit : Inv [] M.init)
    (hstep : ∀ past s i t, Inv past s → M.step s i = .ok t → Inv (past ++ [i]) t) {is : List ι}
    {s : σ} (hrun : M.run is = .ok s) : Inv is s := by
  induction is using List.reverseRecOn generalizing s with
  | nil =>
      cases hrun
      exact hinit
  | append_singleton is i ih =>
      obtain ⟨t, ht, -⟩ := exists_of_run_append M hrun
      rw [run_snoc M ht] at hrun
      exact hstep is t i s (ih ht) hrun

/-- **A machine each of whose steps is a step of another one, or none, goes only where the other one
does.** -/
theorem refines {τ κ ε' : Type*} {N : Machine τ κ ε'} (abs : σ → τ) (hinit : abs M.init = N.init)
    (hstep : ∀ s i t, M.step s i = .ok t → abs t = abs s ∨ ∃ j, N.step (abs s) j = .ok (abs t))
    {is : List ι} {s : σ} (hrun : M.run is = .ok s) : ∃ js, N.run js = .ok (abs s) := by
  have hfollows : ∀ s i t, (∃ js, N.run js = .ok (abs s)) → M.step s i = .ok t →
      ∃ js, N.run js = .ok (abs t) := by
    rintro s i t ⟨js, hjs⟩ hi
    rcases hstep s i t hi with hsame | ⟨j, hj⟩
    · exact ⟨js, by rw [hjs, hsame]⟩
    · exact ⟨js ++ [j], by rw [N.run_snoc hjs, hj]⟩
  exact invariant ⟨[], by rw [hinit, run_nil]⟩ hfollows hrun

/-- A property of every step a run takes: of the state before it and the input it reads. -/
def Always (M : Machine σ ι ε) (is : List ι) (P : σ → ι → Prop) : Prop :=
  ∀ before i after s, is = before ++ i :: after → M.run before = .ok s → P s i

/-- Two properties of a step that agree under an invariant agree along every run. -/
theorem always_congr {Inv : σ → Prop} (hinit : Inv M.init)
    (hstep : ∀ s i t, Inv s → M.step s i = .ok t → Inv t) {P Q : σ → ι → Prop}
    (h : ∀ s i, Inv s → (P s i ↔ Q s i)) (is : List ι) : M.Always is P ↔ M.Always is Q := by
  constructor
  · intro hP before i after s his hs
    exact (h s i (invariant hinit hstep hs)).mp (hP before i after s his hs)
  · intro hQ before i after s his hs
    exact (h s i (invariant hinit hstep hs)).mpr (hQ before i after s his hs)

/-- Two properties that agree on the inputs of a run agree along it. -/
lemma always_congr_of_mem {is : List ι} {P Q : σ → ι → Prop} (h : ∀ i ∈ is, ∀ s, P s i ↔ Q s i) :
    M.Always is P ↔ M.Always is Q := by
  constructor
  · intro hP before i after s his hs
    exact (h i (by simp [his]) s).mp (hP before i after s his hs)
  · intro hQ before i after s his hs
    exact (h i (by simp [his]) s).mpr (hQ before i after s his hs)

/-- What an invariant gives at every step, it gives along every run. -/
theorem always_of_invariant {Inv : σ → Prop} (hinit : Inv M.init)
    (hstep : ∀ s i t, Inv s → M.step s i = .ok t → Inv t) {P : σ → ι → Prop}
    (h : ∀ s i, Inv s → P s i) (is : List ι) : M.Always is P :=
  fun _ i _ s _ hs => h s i (invariant hinit hstep hs)

lemma always_nil (P : σ → ι → Prop) : M.Always [] P := by
  intro before i after s his
  simp at his

/-- A property holds at every step when it does at every step but the last, and at the last. -/
lemma always_snoc_iff {is : List ι} {i : ι} {P : σ → ι → Prop} :
    M.Always (is ++ [i]) P ↔ M.Always is P ∧ ∀ s, M.run is = .ok s → P s i := by
  constructor
  · intro h
    constructor
    · intro before j after s his hs
      exact h before j (after ++ [i]) s (by simp [his]) hs
    · intro s hs
      exact h is i [] s rfl hs
  · rintro ⟨hinit, hlast⟩ before j after s his hs
    rcases List.eq_nil_or_concat after with rfl | ⟨rest, k, rfl⟩
    · obtain ⟨rfl, hij⟩ := List.append_inj' his rfl
      cases hij
      exact hlast s hs
    · have hsplit : is ++ [i] = (before ++ j :: rest) ++ [k] := by simpa using his
      exact hinit before j rest s (List.append_inj_left' hsplit rfl) hs

/-- An invariant of the steps that meet a condition holds after every run whose steps all
meet it. -/
theorem invariant_of_always {Inv : σ → Prop} {P : σ → ι → Prop} (hinit : Inv M.init)
    (hstep : ∀ s i t, Inv s → P s i → M.step s i = .ok t → Inv t) {is : List ι}
    (hP : M.Always is P) {s : σ} (hrun : M.run is = .ok s) : Inv s := by
  induction is using List.reverseRecOn generalizing s with
  | nil =>
      cases hrun
      exact hinit
  | append_singleton is i ih =>
      obtain ⟨hbefore, hlast⟩ := always_snoc_iff.mp hP
      obtain ⟨t, ht, -⟩ := exists_of_run_append M hrun
      rw [run_snoc M ht] at hrun
      exact hstep t i s (ih hbefore ht) (hlast t ht) hrun

/-- **Two properties of a step that agree under an invariant agree along every run**, also when it takes
one of them to keep the invariant. -/
theorem always_iff_of_kept {Inv : σ → Prop} {P Q : σ → ι → Prop} (hinit : Inv M.init)
    (hstep : ∀ s i t, Inv s → Q s i → M.step s i = .ok t → Inv t)
    (h : ∀ s i, Inv s → (P s i ↔ Q s i)) (is : List ι) : M.Always is P ↔ M.Always is Q := by
  induction is using List.reverseRecOn with
  | nil => exact ⟨fun _ => always_nil _, fun _ => always_nil _⟩
  | append_singleton is i ih =>
      rw [always_snoc_iff, always_snoc_iff, ih]
      refine and_congr_right fun hQ => ?_
      have hlast : ∀ s, M.run is = .ok s → (P s i ↔ Q s i) :=
        fun s hs => h s i (invariant_of_always hinit hstep hQ hs)
      exact ⟨fun hP s hs => (hlast s hs).mp (hP s hs), fun hQ s hs => (hlast s hs).mpr (hQ s hs)⟩

/-- The same with a third property that keeps it. -/
theorem always_congr_of_always {Inv : σ → Prop} {C P Q : σ → ι → Prop} (hinit : Inv M.init)
    (hstep : ∀ s i t, Inv s → C s i → M.step s i = .ok t → Inv t)
    (h : ∀ s i, Inv s → (P s i ↔ Q s i)) {is : List ι} (hC : M.Always is C) :
    M.Always is P ↔ M.Always is Q := by
  induction is using List.reverseRecOn with
  | nil => exact ⟨fun _ => always_nil _, fun _ => always_nil _⟩
  | append_singleton is i ih =>
      obtain ⟨hbefore, -⟩ := always_snoc_iff.mp hC
      rw [always_snoc_iff, always_snoc_iff, ih hbefore]
      have hlast : ∀ s, M.run is = .ok s → (P s i ↔ Q s i) :=
        fun s hs => h s i (invariant_of_always hinit hstep hbefore hs)
      exact and_congr_right fun _ =>
        ⟨fun hP s hs => (hlast s hs).mp (hP s hs), fun hQ s hs => (hlast s hs).mpr (hQ s hs)⟩

/-- A property of every state a run goes through. -/
def Throughout (M : Machine σ ι ε) (is : List ι) (P : σ → Prop) : Prop :=
  ∀ before after s, is = before ++ after → M.run before = .ok s → P s

lemma throughout_snoc_iff {is : List ι} {i : ι} {P : σ → Prop} :
    M.Throughout (is ++ [i]) P ↔ M.Throughout is P ∧ ∀ s, M.run (is ++ [i]) = .ok s → P s := by
  constructor
  · intro h
    constructor
    · intro before after s his hs
      exact h before (after ++ [i]) s (by simp [his]) hs
    · intro s hs
      exact h (is ++ [i]) [] s (by simp) hs
  · rintro ⟨hinit, hlast⟩ before after s his hs
    rcases List.eq_nil_or_concat after with rfl | ⟨rest, k, rfl⟩
    · rw [List.append_nil] at his
      exact hlast s (his ▸ hs)
    · have hsplit : is ++ [i] = (before ++ rest) ++ [k] := by simpa using his
      exact hinit before rest s (List.append_inj_left' hsplit rfl) hs

/-- **A property holds throughout a run exactly when every step meets the condition under which one
step keeps it.** -/
theorem throughout_iff {Inv P : σ → Prop} {C : σ → ι → Prop} (hinit : Inv M.init)
    (hstep : ∀ s i t, Inv s → M.step s i = .ok t → Inv t) (hP : P M.init)
    (hC : ∀ s i, Inv s → P s → ((∀ t, M.step s i = .ok t → P t) ↔ C s i)) (is : List ι) :
    M.Throughout is P ↔ M.Always is C := by
  induction is using List.reverseRecOn with
  | nil =>
      refine ⟨fun _ => always_nil _, fun _ before after s his hs => ?_⟩
      obtain ⟨rfl, -⟩ := List.append_eq_nil_iff.mp his.symm
      cases hs
      exact hP
  | append_singleton is i ih =>
      rw [throughout_snoc_iff, always_snoc_iff, ← ih]
      refine and_congr_right fun hbefore => ?_
      -- the state before the last step has the property, so the last step decides
      have hlast : ∀ s, M.run is = .ok s → ((∀ t, M.step s i = .ok t → P t) ↔ C s i) :=
        fun s hs => hC s i (invariant hinit hstep hs) (hbefore is [] s (by simp) hs)
      constructor
      · intro h s hs
        exact (hlast s hs).mp fun t ht => h t (by rw [run_snoc M hs, ht])
      · intro h t ht
        obtain ⟨s, hs, -⟩ := exists_of_run_append M ht
        rw [run_snoc M hs] at ht
        exact (hlast s hs).mpr (h s hs) t ht

/-- The same when the property is all there is to know of a state. -/
theorem throughout_iff_always {P : σ → Prop} {C : σ → ι → Prop} (hP : P M.init)
    (hC : ∀ s i, P s → ((∀ t, M.step s i = .ok t → P t) ↔ C s i)) (is : List ι) :
    M.Throughout is P ↔ M.Always is C := by
  have htrue : ∀ s i t, (fun _ : σ => True) s → M.step s i = .ok t → (fun _ : σ => True) t :=
    fun _ _ _ _ _ => trivial
  exact throughout_iff trivial htrue hP (fun s i _ hs => hC s i hs) is

/-- **A run succeeds exactly when each of its steps does.** -/
theorem returns_run_iff {is : List ι} :
    Returns (M.run is) ↔ M.Always is fun s i => Returns (M.step s i) := by
  induction is using List.reverseRecOn with
  | nil => exact ⟨fun _ => always_nil _, fun _ => returns_ok M.init⟩
  | append_singleton is i ih =>
      rw [always_snoc_iff, ← ih]
      constructor
      · rintro ⟨t, hrun⟩
        obtain ⟨s, hs, -⟩ := exists_of_run_append M hrun
        refine ⟨⟨s, hs⟩, fun s' hs' => ?_⟩
        exact ⟨t, by rw [← run_snoc M hs']; exact hrun⟩
      · rintro ⟨⟨s, hs⟩, hlast⟩
        rw [run_snoc M hs]
        exact hlast s hs

/-! ## Observations -/

section Trace

variable {β : Type*}

/-- What is observed along a run from a given state; the step that fails is observed too. -/
def traceFrom (M : Machine σ ι ε) (obs : σ → ι → List β) : σ → List ι → List β
  | _, [] => []
  | s, i :: is =>
      obs s i ++
        match M.step s i with
        | .ok t => traceFrom M obs t is
        | .error _ => []

/-- What is observed along a run. -/
def trace (M : Machine σ ι ε) (obs : σ → ι → List β) (is : List ι) : List β :=
  M.traceFrom obs M.init is

/-- **What is observed along a run was brought in, and nothing more often than it was brought.**
The states hold items; an input brings some; a step keeps some, and those it shows are gone. -/
theorem trace_subperm {Inv : σ → Prop} {obs : σ → ι → List β} {held : σ → List β}
    {brought : ι → List β} (hinit : Inv M.init)
    (hstep : ∀ s i t, Inv s → M.step s i = .ok t → Inv t)
    (hobs : ∀ s i, Inv s → (obs s i).Subperm (held s ++ brought i))
    (hkept : ∀ s i t, Inv s → M.step s i = .ok t →
      (obs s i ++ held t).Subperm (held s ++ brought i))
    (is : List ι) : (M.trace obs is).Subperm (held M.init ++ is.flatMap brought) := by
  have hfrom : ∀ is s, Inv s →
      (M.traceFrom obs s is).Subperm (held s ++ is.flatMap brought) := by
    intro is
    induction is with
    | nil => exact fun s _ => List.nil_subperm
    | cons i is ih =>
        intro s hs
        simp only [traceFrom, List.flatMap_cons]
        rw [← List.append_assoc]
        cases hi : M.step s i with
        | error e =>
            rw [List.append_nil]
            exact (hobs s i hs).trans (List.sublist_append_left _ _).subperm
        | ok t =>
            have hlater := (List.subperm_append_left (obs s i)).mpr (ih t (hstep s i t hs hi))
            rw [← List.append_assoc] at hlater
            exact hlater.trans ((List.subperm_append_right _).mpr (hkept s i t hs hi))
  exact hfrom is M.init hinit

end Trace

end Machine

end Core
