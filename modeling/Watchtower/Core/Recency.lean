import Mathlib.Data.List.Dedup
import Mathlib.Data.List.DropRight
import Mathlib.Data.List.Nodup

/-!
# What was recorded last

A log of values recorded for keys, and the bounded table that forgets the keys not recorded for the
longest time.

* `latest` — the last value of every key of the log, in the order in which they were recorded.
* **`latest_concat`** — recording a value: its key moves to the end.
* **`rtake_filter_concat`** — the bounded table can do without what it has forgotten.
* **`lookup_rtake_latest`** — it still knows a key when few others have been recorded since.
-/

namespace Core

variable {κ α : Type} [DecidableEq κ]

/-- The last entry of every key. -/
def latest : List (κ × α) → List (κ × α)
  | [] => []
  | e :: l => if e.1 ∈ l.map Prod.fst then latest l else e :: latest l

/-- Every key of the log is kept once. -/
lemma keys_latest (l : List (κ × α)) : (latest l).map Prod.fst = (l.map Prod.fst).dedup := by
  induction l with
  | nil => rfl
  | cons e l ih =>
      rw [latest, List.map_cons]
      split_ifs with h
      · rw [List.dedup_cons_of_mem h, ih]
      · rw [List.dedup_cons_of_notMem h, List.map_cons, ih]

lemma nodup_keys_latest (l : List (κ × α)) : ((latest l).map Prod.fst).Nodup := by
  rw [keys_latest]
  exact List.nodup_dedup _

lemma length_latest (l : List (κ × α)) : (latest l).length = (l.map Prod.fst).dedup.length := by
  rw [← keys_latest, List.length_map]

/-- A later part of a log overrides the earlier one. -/
lemma latest_append (l m : List (κ × α)) :
    latest (l ++ m) = (latest l).filter (fun e => e.1 ∉ m.map Prod.fst) ++ latest m := by
  induction l with
  | nil => rfl
  | cons e l ih =>
      rw [List.cons_append, latest, latest, ih, List.map_append]
      by_cases hl : e.1 ∈ l.map Prod.fst
      · rw [if_pos hl, if_pos (List.mem_append_left _ hl)]
      · rw [if_neg hl, List.filter_cons]
        by_cases hm : e.1 ∈ m.map Prod.fst
        · rw [if_pos (List.mem_append_right _ hm), if_neg (by simpa using hm)]
        · rw [if_neg (by simp only [List.mem_append, hl, hm, or_self, not_false_eq_true]),
            if_pos (by simpa using hm), List.cons_append]

section Lookup

variable [BEq κ] [LawfulBEq κ]

/-- **To record a value is to take its key to the end.** -/
theorem latest_concat (l : List (κ × α)) (k : κ) (a : α) :
    latest (l ++ [(k, a)]) = (latest l).filter (fun e => e.1 != k) ++ [(k, a)] := by
  rw [latest_append]
  congr 1
  refine List.filter_congr fun e _ => ?_
  by_cases h : e.1 = k
  · simp [h]
  · simp [h]

omit [DecidableEq κ] in
lemma mem_of_lookup {l : List (κ × α)} {k : κ} {a : α} (h : l.lookup k = some a) : (k, a) ∈ l := by
  obtain ⟨before, after, rfl, -⟩ := List.lookup_eq_some_iff.mp h
  exact List.mem_append_right _ List.mem_cons_self

omit [DecidableEq κ] in
/-- Among the entries for other keys there is none for this one. -/
lemma lookup_others {l rest : List (κ × α)} {k : κ} (h : rest ⊆ l.filter fun e => e.1 != k) :
    rest.lookup k = none := by
  rw [List.lookup_eq_none_iff]
  intro e he
  have hne : e.1 ≠ k := by simpa using (List.mem_filter.mp (h he)).2
  simpa using hne.symm

omit [DecidableEq κ] in
lemma lookup_filter_ne {l : List (κ × α)} {k q : κ} (h : q ≠ k) :
    (l.filter fun e => e.1 != k).lookup q = l.lookup q := by
  induction l with
  | nil => rfl
  | cons e l ih =>
      obtain ⟨p, a⟩ := e
      rw [List.filter_cons]
      split_ifs with hp
      · rw [List.lookup_cons, List.lookup_cons, ih]
      · obtain rfl : p = k := by simpa using hp
        rw [ih, List.lookup_cons, beq_false_of_ne h]

omit [DecidableEq κ] in
/-- What is left of a table with one entry for each key says what the table says. -/
lemma lookup_of_suffix {l rest : List (κ × α)} (hsuffix : rest <:+ l)
    (hnodup : (l.map Prod.fst).Nodup) {q : κ} {a : α} (h : rest.lookup q = some a) :
    l.lookup q = some a := by
  obtain ⟨gone, rfl⟩ := hsuffix
  have hgone : gone.lookup q = none := by
    rw [List.lookup_eq_none_iff]
    rintro ⟨p, e⟩ hp
    rw [List.map_append, List.nodup_append] at hnodup
    obtain ⟨l₁, l₂, hrest, -⟩ := List.lookup_eq_some_iff.mp h
    have hq : q ∈ rest.map Prod.fst := by simp [hrest]
    simpa using (hnodup.2.2 p (List.mem_map_of_mem hp) q hq).symm
  rw [List.lookup_append, hgone, Option.none_or, h]

omit [DecidableEq κ] in
/-- In a table with one entry for each key, every entry is found. -/
lemma lookup_of_mem {l : List (κ × α)} (hnodup : (l.map Prod.fst).Nodup) {k : κ} {a : α}
    (h : (k, a) ∈ l) : l.lookup k = some a := by
  obtain ⟨before, after, rfl⟩ := List.append_of_mem h
  rw [List.lookup_eq_some_iff]
  refine ⟨before, after, rfl, fun e he => ?_⟩
  rw [List.map_append, List.nodup_append] at hnodup
  simpa using (hnodup.2.2 e.1 (List.mem_map_of_mem he) k List.mem_cons_self).symm

omit [DecidableEq κ] in
/-- Leaving out one key takes at most one entry. -/
lemma length_filter_ne {l : List (κ × α)} (hnodup : (l.map Prod.fst).Nodup) (k : κ) :
    l.length ≤ (l.filter fun e => e.1 != k).length + 1 := by
  induction l with
  | nil => exact Nat.zero_le _
  | cons e l ih =>
      rw [List.map_cons, List.nodup_cons] at hnodup
      rw [List.filter_cons, List.length_cons]
      by_cases hk : e.1 = k
      · have hall : l.filter (fun e => e.1 != k) = l := by
          refine List.filter_eq_self.mpr fun e' he' => ?_
          rw [bne_iff_ne]
          rintro heq
          exact hnodup.1 (hk ▸ heq ▸ List.mem_map_of_mem he')
        rw [if_neg (by simp [hk]), hall]
      · rw [if_pos (by simpa using hk), List.length_cons]
        exact Nat.succ_le_succ (ih hnodup.2)

omit [DecidableEq κ] [BEq κ] [LawfulBEq κ] in
/-- The end of a list is all there is of one long enough. -/
lemma rtake_append_of_le {β : Type} {n : ℕ} {l m : List β} (h : n ≤ m.length) :
    (l ++ m).rtake n = m.rtake n := by
  rw [List.rtake, List.rtake, List.length_append, Nat.add_sub_assoc h, List.drop_append,
    List.drop_of_length_le (Nat.le_add_right _ _), Nat.add_sub_cancel_left, List.nil_append]

omit [DecidableEq κ] in
/-- **What the bounded table has forgotten makes no difference to it.** -/
theorem rtake_filter_concat {l : List (κ × α)} (hnodup : (l.map Prod.fst).Nodup) (n : ℕ)
    (e : κ × α) :
    ((l.rtake n).filter (fun e' => e'.1 != e.1) ++ [e]).rtake n
      = (l.filter (fun e' => e'.1 != e.1) ++ [e]).rtake n := by
  have hsplit : l.filter (fun e' => e'.1 != e.1) ++ [e]
      = (l.take (l.length - n)).filter (fun e' => e'.1 != e.1)
        ++ ((l.rtake n).filter (fun e' => e'.1 != e.1) ++ [e]) := by
    rw [List.rtake, ← List.append_assoc, ← List.filter_append, List.take_append_drop]
  rcases Nat.le_total l.length n with hshort | hlong
  · have hall : l.rtake n = l := by rw [List.rtake, Nat.sub_eq_zero_of_le hshort, List.drop_zero]
    rw [hall]
  · have hlen : (l.rtake n).length = n := by
      rw [List.rtake, List.length_drop]
      omega
    have hkept := length_filter_ne (l := l.rtake n)
      (hnodup.sublist ((List.drop_sublist _ _).map _)) e.1
    rw [hsplit]
    refine (rtake_append_of_le ?_).symm
    rw [List.length_append, List.length_singleton]
    omega

/-- The bounded table knows no more than the log. -/
lemma lookup_latest_of_rtake {l : List (κ × α)} {n : ℕ} {k : κ} {a : α}
    (h : ((latest l).rtake n).lookup k = some a) : (latest l).lookup k = some a :=
  lookup_of_suffix (List.drop_suffix _ _) (nodup_keys_latest l) h

lemma lookup_latest_of_not_mem {l : List (κ × α)} {k : κ} (h : k ∉ l.map Prod.fst) :
    (latest l).lookup k = none := by
  rw [List.lookup_eq_none_iff]
  intro e he
  have hmem : e.1 ∈ l.map Prod.fst := by
    rw [← List.mem_dedup, ← keys_latest]
    exact List.mem_map_of_mem he
  simpa using ne_of_mem_of_not_mem hmem h |>.symm

/-- **A key is known as long as fewer than `n` other ones have been recorded since.** -/
theorem lookup_rtake_latest {before since : List (κ × α)} {n : ℕ} {k : κ} {a : α}
    (hlast : k ∉ since.map Prod.fst) (hfew : (since.map Prod.fst).dedup.length < n) :
    ((latest (before ++ (k, a) :: since)).rtake n).lookup k = some a := by
  have hlatest : latest ((k, a) :: since) = (k, a) :: latest since := if_neg hlast
  have hnodup := nodup_keys_latest (before ++ (k, a) :: since)
  refine lookup_of_mem (hnodup.sublist ((List.drop_sublist _ _).map _)) ?_
  rw [latest_append, hlatest]
  have hlen : ((k, a) :: latest since).length ≤ n := by
    rw [List.length_cons, length_latest]
    exact hfew
  rw [List.drop_append_of_le_length]
  · exact List.mem_append_right _ List.mem_cons_self
  · rw [List.length_append]
    omega

end Lookup

end Core
