import Mathlib.Data.List.Basic

/-!
# Joined lists

Parts joined by a separator that may also occur inside the parts.  Such a join is not injective;
what it forgets is where one part ends and the next begins.

* `pieces` — all parts, cut at every separator.
* **`intercalate_eq_iff`** — two joins are equal exactly when their parts have the same pieces.
* **`eq_of_pieces_eq`** — parts with the same pieces are equal when each holds as many separators
  as its counterpart.
-/

namespace Core

section Joined

variable {α : Type*} [DecidableEq α] (sep : α)

/-- The parts, cut at every separator. -/
def pieces (parts : List (List α)) : List (List α) := parts.flatMap (List.splitOn sep)

lemma pieces_cons (p : List α) (ps : List (List α)) :
    pieces sep (p :: ps) = p.splitOn sep ++ pieces sep ps := List.flatMap_cons

/-- A list has one piece more than it has separators. -/
lemma length_splitOn (l : List α) : (l.splitOn sep).length = l.count sep + 1 := by
  induction l with
  | nil => rfl
  | cons a l ih =>
      rw [List.splitOn_cons_eq_if_modifyHead]
      by_cases h : a = sep
      · subst h
        simp [ih]
      · simp [h, ih]

lemma splitOn_injective : Function.Injective (List.splitOn sep) := by
  intro l m h
  have hjoin := congrArg (List.intercalate [sep]) h
  rwa [List.intercalate_splitOn, List.intercalate_splitOn] at hjoin

/-- Cutting a join gives the pieces of its parts. -/
lemma splitOn_intercalate_eq_pieces {parts : List (List α)} (h : parts ≠ []) :
    (List.intercalate [sep] parts).splitOn sep = pieces sep parts := by
  induction parts with
  | nil => exact absurd rfl h
  | cons p ps ih =>
      cases ps with
      | nil => simp [pieces]
      | cons q qs =>
          rw [List.intercalate_cons_cons, List.append_assoc, List.singleton_append,
            List.splitOn_append_cons_self, ih (by simp), pieces_cons sep p]

/-- **Two joins are equal exactly when their parts have the same pieces.** -/
theorem intercalate_eq_iff {parts parts' : List (List α)} (h : parts ≠ []) (h' : parts' ≠ []) :
    List.intercalate [sep] parts = List.intercalate [sep] parts' ↔
      pieces sep parts = pieces sep parts' := by
  rw [← splitOn_intercalate_eq_pieces sep h, ← splitOn_intercalate_eq_pieces sep h']
  exact (splitOn_injective sep).eq_iff.symm

/-- **Parts with the same pieces are equal when each holds as many separators as its
counterpart.** -/
theorem eq_of_pieces_eq {parts parts' : List (List α)}
    (hcount : parts.map (List.count sep) = parts'.map (List.count sep))
    (h : pieces sep parts = pieces sep parts') : parts = parts' := by
  induction parts generalizing parts' with
  | nil =>
      rw [List.map_nil] at hcount
      exact (List.map_eq_nil_iff.mp hcount.symm).symm
  | cons p ps ih =>
      obtain _ | ⟨q, qs⟩ := parts'
      · cases hcount
      · rw [List.map_cons, List.map_cons, List.cons.injEq] at hcount
        obtain ⟨hp, hps⟩ := hcount
        -- the two heads are cut into equally many pieces
        have hlen : (p.splitOn sep).length = (q.splitOn sep).length := by
          rw [length_splitOn, length_splitOn, hp]
        rw [pieces_cons, pieces_cons] at h
        obtain ⟨hhead, htail⟩ := List.append_inj h hlen
        rw [splitOn_injective sep hhead, ih hps htail]

end Joined

end Core
