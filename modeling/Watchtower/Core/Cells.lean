import Mathlib.Data.List.Nodup
import Mathlib.Logic.Function.Basic

/-!
# Tasks over cells

Tasks that run side by side over one state.  The state is made of cells, and each task reads and
writes the cell of its own key, in one step, before it comes to a result.  The tasks of a round
complete in any order.

* `CellLocal` — a step knows of no other cell than its own.
* `gather` — tasks completing one after another, and their results.
* **`CellLocal.gather_eq`** — only the order among tasks of one key matters.
* **`CellLocal.gather_distinct`** — where the keys differ, every task runs as if it were alone.
-/

namespace Core

variable {σ κ γ τ ρ ι : Type*}

/-- A state of cells, and a step that reads and writes the one of its key. -/
structure CellLocal (view : σ → κ → γ) (key : τ → κ) (step : σ → τ → σ × ρ) : Prop where
  ext : ∀ s s', (∀ k, view s k = view s' k) → s = s'
  others : ∀ s t k, k ≠ key t → view (step s t).1 k = view s k
  own : ∀ s s' t, view s (key t) = view s' (key t) →
    view (step s t).1 (key t) = view (step s' t).1 (key t)
  result : ∀ s s' t, view s (key t) = view s' (key t) → (step s t).2 = (step s' t).2

section Gather

variable [DecidableEq ι] (step : σ → τ → σ × ρ) (tasks : ι → τ)

/-- Tasks complete one after another, given by their indices, with the results so far. -/
def gatherFrom : σ → (ι → Option ρ) → List ι → σ × (ι → Option ρ)
  | s, results, [] => (s, results)
  | s, results, i :: order =>
      gatherFrom (step s (tasks i)).1 (Function.update results i (some (step s (tasks i)).2)) order

/-- The tasks of a round. -/
def gather (s : σ) (order : List ι) : σ × (ι → Option ρ) :=
  gatherFrom step tasks s (fun _ => none) order

end Gather

/-! ## Orders -/

section Orders

variable [DecidableEq κ]

/-- The indices of each key come in the same order. -/
def SameOrder (key : ι → κ) (order order' : List ι) : Prop :=
  ∀ k, order.filter (fun i => key i = k) = order'.filter fun i => key i = k

/-- With different keys for different indices every order is as good as another. -/
lemma sameOrder_of_perm {key : ι → κ} (hkey : Function.Injective key) {order order' : List ι}
    (hperm : order.Perm order') : SameOrder key order order' := by
  intro k
  have hsame : ∀ i ∈ order.filter (fun i => key i = k), ∀ j ∈ order'.filter (fun i => key i = k),
      i = j := by
    intro i hi j hj
    simp only [List.mem_filter, decide_eq_true_eq] at hi hj
    exact hkey (hi.2.trans hj.2.symm)
  have hall : ∀ l : List ι, l.Pairwise fun _ _ => True :=
    fun l => List.pairwise_of_forall fun _ _ => trivial
  exact (hperm.filter _).eq_of_pairwise (fun i j hi hj _ _ => hsame i hi j hj) (hall _) (hall _)

/-- In a complete order an index with a key of its own is all that its key has. -/
lemma filter_eq_singleton [DecidableEq ι] {key : ι → κ} (hkey : Function.Injective key) {order : List ι}
    (hnodup : order.Nodup) {i : ι} (hi : i ∈ order) :
    order.filter (fun j => key j = key i) = [i] := by
  have heq : (fun j => decide (key j = key i)) = fun j => j == i := by
    funext j
    simp only [hkey.eq_iff, beq_eq_decide]
  rw [heq, List.filter_beq, List.count_eq_one_of_mem hnodup hi, List.replicate_one]

end Orders

/-! ## What a task depends on -/

namespace CellLocal

variable [DecidableEq ι] [DecidableEq κ] {view : σ → κ → γ} {key : τ → κ} {step : σ → τ → σ × ρ}
  {tasks : ι → τ}

/-- A cell, and the results of its tasks, are what the tasks of its key alone make of them. -/
lemma gatherFrom_filter (h : CellLocal view key step) {k : κ} {i : ι} (hi : key (tasks i) = k) :
    ∀ (order : List ι) (s s' : σ) (results results' : ι → Option ρ), view s k = view s' k →
      results i = results' i →
      view (gatherFrom step tasks s results order).1 k
          = view (gatherFrom step tasks s' results'
              (order.filter fun j => key (tasks j) = k)).1 k ∧
        (gatherFrom step tasks s results order).2 i
          = (gatherFrom step tasks s' results' (order.filter fun j => key (tasks j) = k)).2 i := by
  intro order
  induction order with
  | nil => exact fun s s' results results' hview hresults => ⟨hview, hresults⟩
  | cons j order ih =>
      intro s s' results results' hview hresults
      by_cases hj : key (tasks j) = k
      · rw [List.filter_cons_of_pos (by simpa using hj)]
        subst hj
        refine ih _ _ _ _ (h.own s s' (tasks j) hview) ?_
        by_cases hij : i = j
        · subst hij
          simp only [Function.update_self, h.result s s' (tasks i) hview]
        · simp only [Function.update_of_ne hij, hresults]
      · rw [List.filter_cons_of_neg (by simpa using hj)]
        refine ih _ _ _ _ ((h.others s (tasks j) k (Ne.symm hj)).trans hview) ?_
        have hij : i ≠ j := by
          rintro rfl
          exact hj hi
        rw [Function.update_of_ne hij]
        exact hresults

omit [DecidableEq κ] in
/-- A cell without tasks keeps what it holds. -/
lemma gatherFrom_of_forall_ne (h : CellLocal view key step) {k : κ} (hk : ∀ i, key (tasks i) ≠ k) :
    ∀ (order : List ι) (s : σ) (results : ι → Option ρ),
      view (gatherFrom step tasks s results order).1 k = view s k := by
  intro order
  induction order with
  | nil => exact fun s results => rfl
  | cons j order ih =>
      intro s results
      exact (ih _ _).trans (h.others s (tasks j) k (hk j).symm)

/-- **Only the order among tasks of one key matters**, for the state and for every result. -/
theorem gather_eq (h : CellLocal view key step) {order order' : List ι}
    (hsame : SameOrder (fun i => key (tasks i)) order order') (s : σ) :
    gather step tasks s order = gather step tasks s order' := by
  have hresults : ∀ i, (gather step tasks s order).2 i = (gather step tasks s order').2 i := by
    intro i
    rw [gather, gather, (h.gatherFrom_filter rfl order s s _ _ rfl rfl).2,
      (h.gatherFrom_filter rfl order' s s _ _ rfl rfl).2, hsame (key (tasks i))]
  refine Prod.ext (h.ext _ _ fun k => ?_) (funext hresults)
  by_cases hk : ∃ i, key (tasks i) = k
  · obtain ⟨i, rfl⟩ := hk
    rw [gather, gather, (h.gatherFrom_filter (i := i) rfl order s s _ _ rfl rfl).1,
      (h.gatherFrom_filter (i := i) rfl order' s s _ _ rfl rfl).1, hsame (key (tasks i))]
  · rw [gather, gather, h.gatherFrom_of_forall_ne (not_exists.mp hk),
      h.gatherFrom_of_forall_ne (not_exists.mp hk)]

/-- **Where the keys differ, every task runs as if it were alone**, from any state with the same cell
of its own. -/
theorem gather_distinct (h : CellLocal view key step)
    (hkey : Function.Injective fun i => key (tasks i)) {order : List ι} (hnodup : order.Nodup) {i : ι}
    (hi : i ∈ order) {s s' : σ} (hview : view s (key (tasks i)) = view s' (key (tasks i))) :
    view (gather step tasks s order).1 (key (tasks i))
        = view (step s' (tasks i)).1 (key (tasks i)) ∧
      (gather step tasks s order).2 i = some (step s' (tasks i)).2 := by
  have halone := h.gatherFrom_filter (i := i) rfl order s s' (fun _ => none) (fun _ => none) hview rfl
  have hfilter : (order.filter fun j => key (tasks j) = key (tasks i)) = [i] :=
    filter_eq_singleton hkey hnodup hi
  rw [hfilter] at halone
  refine ⟨halone.1, halone.2.trans ?_⟩
  simp only [gatherFrom, Function.update_self]

end CellLocal

end Core
