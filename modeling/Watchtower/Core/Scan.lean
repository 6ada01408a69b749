import Watchtower.Core.Shape

/-!
# Scans

A substitution on its way through a prefix of the text.

* `Regex.Reaches` — the scan arrives at the end of the prefix without a match that runs beyond it.
* **`Regex.Reaches.unique`** — what it has written by then does not depend on what follows.
* **`Regex.reaches_or_crosses`** — otherwise a match that is taken runs beyond it.
* **`Regex.Reaches.transfer`** — a scan that arrives before one continuation arrives before another
  when no match reaches into that.
-/

namespace Core

namespace Regex

variable {α : Type} [WordChars α] {r : Regex α} {repl : List α}

variable {r : Regex α} {repl : List α}

/-- The scan of a prefix arrives at its end, with `y` written so far and `p` before it: no match
runs into what follows. -/
inductive Reaches (r : Regex α) (repl tail : List α) : Option α → List α → Option α → List α → Prop
  | done (prev : Option α) : Reaches r repl tail prev [] prev []
  | keep {prev p : Option α} {c : α} {u y : List α}
      (h : first r prev (c :: u ++ tail) = none) (rest : Reaches r repl tail (some c) u p y) :
      Reaches r repl tail prev (c :: u) p (c :: y)
  | cut {prev p q : Option α} {c : α} {u v y : List α}
      (h : first r prev (c :: u ++ tail) = some (q, v ++ tail))
      (rest : Reaches r repl tail q v p y) : Reaches r repl tail prev (c :: u) p (repl ++ y)

/-- A scan goes on from where it has arrived. -/
lemma Reaches.subst {tail : List α} {prev p : Option α} {u y z : List α}
    (h : Reaches r repl tail prev u p y) (htail : Subst r repl p tail z) :
    Subst r repl prev (u ++ tail) (y ++ z) := by
  induction h with
  | done prev => exact htail
  | keep h rest ih => exact .keep h (ih htail)
  | cut h rest ih =>
      rw [List.append_assoc]
      exact .cut h (ih htail)

/-- **What has been written when a scan arrives does not depend on what follows.** -/
theorem Reaches.unique (hr : r.plain = true) {tail tail' : List α}
    (hhead : isWordAt tail.head? = isWordAt tail'.head?) {prev p : Option α} {u y : List α}
    (h : Reaches r repl tail prev u p y) : ∀ {p' : Option α} {y' : List α},
    Reaches r repl tail' prev u p' y' → p = p' ∧ y = y' := by
  -- a match within the prefix before one continuation is one before the other
  have hsame : ∀ {tl tl' : List α}, isWordAt tl.head? = isWordAt tl'.head? →
      ∀ {prev q : Option α} {u v : List α},
      first r prev (u ++ tl) = some (q, v ++ tl) → first r prev (u ++ tl') ≠ none := by
    intro tl tl' hh prev q u v hfirst hnone
    obtain ⟨l, hl⟩ := List.head?_eq_some_iff.mp hfirst
    have hends := inside_ends hr hh prev u
    rw [hl, List.filterMap_cons_some (inside_append q v tl),
      List.head?_eq_none_iff.mp hnone] at hends
    cases hends
  induction h with
  | done prev =>
      intro p' y' h'
      cases h'
      exact ⟨rfl, rfl⟩
  | keep h rest ih =>
      intro p' y' h'
      cases h' with
      | keep h' rest' =>
          obtain ⟨hp, hy⟩ := ih rest'
          exact ⟨hp, by rw [hy]⟩
      | cut h' rest' => exact absurd h (hsame hhead.symm h')
  | cut h rest ih =>
      intro p' y' h'
      cases h' with
      | keep h' rest' => exact absurd h' (hsame hhead h)
      | cut h' rest' =>
          obtain ⟨rfl, rfl⟩ := first_inside hr hhead h h'
          obtain ⟨hp, hy⟩ := ih rest'
          exact ⟨hp, by rw [hy]⟩

/-- What is before the end of a scan is the end of the prefix. -/
lemma Reaches.before (hr : r.plain = true) {tail : List α} {prev p : Option α} {u y : List α}
    (h : Reaches r repl tail prev u p y) : p = after prev u := by
  induction h with
  | done prev => rfl
  | keep h rest ih => exact ih
  | cut h rest ih =>
      obtain ⟨m, hm, hq, -⟩ := matches_of_first hr h
      rw [← List.append_assoc] at hm
      rw [ih, List.append_cancel_right hm, after_append, ← hq]

/-- What a scan has written ends as the prefix does, or as the inserted text. -/
lemma Reaches.last {tail : List α} {prev p : Option α} {u y : List α}
    (h : Reaches r repl tail prev u p y) {Q : Option α → Prop} (hp : Q p)
    (hrepl : ∀ o, Q (after o repl)) : Q (after prev y) := by
  induction h with
  | done prev => exact hp
  | keep h rest ih => exact ih hp
  | @cut prev p q c u v y h rest ih =>
      rw [after_append]
      rcases eq_or_ne y [] with rfl | hy
      · exact hrepl prev
      · rw [after_of_ne_nil hy _ q]
        exact ih hp

/-- How much longer a scan makes the text, when a match is not much shorter than what is
inserted. -/
lemma Reaches.length_le (hr : r.plain = true) {k l : ℕ} (hkl : k ≤ l)
    (hrepl : k * repl.length ≤ l * r.minLength) {tail : List α} {prev p : Option α} {u y : List α}
    (h : Reaches r repl tail prev u p y) : k * y.length ≤ l * u.length := by
  induction h with
  | done prev => simp
  | keep h rest ih =>
      rw [List.length_cons, List.length_cons, Nat.mul_succ, Nat.mul_succ]
      omega
  | @cut prev p q c u v y h rest ih =>
      obtain ⟨m, hm, -, hmatch⟩ := matches_of_first hr h
      have hlen := congrArg List.length hm
      simp only [List.length_append] at hlen
      have hu : (c :: u).length = m.length + v.length := by omega
      calc k * (repl ++ y).length = k * repl.length + k * y.length := by
            rw [List.length_append, Nat.mul_add]
        _ ≤ l * m.length + l * v.length :=
            Nat.add_le_add (Nat.le_trans hrepl (Nat.mul_le_mul_left l hmatch.minLength_le)) ih
        _ = l * (c :: u).length := by rw [hu, Nat.mul_add]

/-- **A scan arrives, or a match that is taken runs beyond the end of the prefix.** -/
theorem reaches_or_crosses (hr : r.plain = true) (hne : r.NonEmpty) (tail : List α) :
    ∀ (u : List α) (prev : Option α), (∃ p y, Reaches r repl tail prev u p y) ∨
      ∃ u₁ v p y e, u = u₁ ++ v ∧ v ≠ [] ∧ Reaches r repl (v ++ tail) prev u₁ p y ∧
        first r p (v ++ tail) = some e ∧ e.2.length < tail.length := by
  intro u
  induction hn : u.length using Nat.strongRecOn generalizing u with
  | ind n ih =>
      intro prev
      cases u with
      | nil => exact .inl ⟨prev, [], .done prev⟩
      | cons c u =>
          cases hfirst : first r prev (c :: u ++ tail) with
          | none =>
              rcases ih u.length (by rw [← hn]; exact Nat.lt_succ_self _) u rfl (some c) with
                ⟨p, y, h⟩ | ⟨u₁, v, p, y, e, rfl, hv, h, he, hlt⟩
              · exact .inl ⟨p, c :: y, .keep hfirst h⟩
              · rw [← List.cons_append, List.append_assoc] at hfirst
                exact .inr ⟨c :: u₁, v, p, c :: y, e, rfl, hv, .keep hfirst h, he, hlt⟩
          | some e =>
              by_cases hlt : e.2.length < tail.length
              · exact .inr ⟨[], c :: u, prev, [], e, rfl, List.cons_ne_nil c u, .done prev, hfirst,
                  hlt⟩
              obtain ⟨m, hm, -, hmatch⟩ := matches_of_first hr hfirst
              obtain ⟨v, hv⟩ : tail <:+ e.2 := List.suffix_of_suffix_length_le
                (List.suffix_append (c :: u) tail) ⟨m, hm.symm⟩ (Nat.le_of_not_lt hlt)
              have hu : c :: u = m ++ v := by
                rw [← hv, ← List.append_assoc] at hm
                exact List.append_cancel_right hm
              obtain ⟨d, m, rfl⟩ := List.exists_cons_of_ne_nil (hne _ _ _ hmatch)
              rw [List.cons_append] at hu
              obtain ⟨rfl, rfl⟩ := List.cons_eq_cons.mp hu
              have he : e = (e.1, v ++ tail) := Prod.ext rfl hv.symm
              rw [he] at hfirst
              have hshort : v.length < n := by
                rw [← hn, List.length_cons, List.length_append]
                omega
              rcases ih v.length hshort v rfl e.1 with
                ⟨p, y, h⟩ | ⟨u₁, v, p, y, e', rfl, hne', h, he', hlt'⟩
              · exact .inl ⟨p, repl ++ y, .cut hfirst h⟩
              · rw [List.append_assoc u₁] at hfirst
                refine .inr ⟨c :: (m ++ u₁), v, p, repl ++ y, e', by simp, hne', .cut ?_ h, he',
                  hlt'⟩
                rw [← hfirst]
                simp

/-- The match that is taken before one continuation is taken before another, when none reaches into
that. -/
lemma first_transfer (hr : r.plain = true) {tail tail' : List α}
    (hhead : isWordAt tail.head? = isWordAt tail'.head?) {prev q : Option α} {u v : List α}
    (hin : ∀ e ∈ ends r prev (u ++ tail'), tail'.length ≤ e.2.length)
    (h : first r prev (u ++ tail) = some (q, v ++ tail)) :
    first r prev (u ++ tail') = some (q, v ++ tail') := by
  obtain ⟨l, hl⟩ := List.head?_eq_some_iff.mp h
  have hends := inside_ends hr hhead prev u
  rw [hl, List.filterMap_cons_some (inside_append q v tail)] at hends
  cases hl' : ends r prev (u ++ tail') with
  | nil =>
      rw [hl'] at hends
      cases hends
  | cons e l' =>
      have hmem : e ∈ ends r prev (u ++ tail') := by rw [hl']; exact List.mem_cons_self
      obtain ⟨m, hm, -, -⟩ := (mem_ends_iff hr).mp hmem
      have hinside : inside tail' e = some (e.1, e.2.take (e.2.length - tail'.length)) :=
        if_pos (hin e hmem)
      rw [hl', List.filterMap_cons_some hinside] at hends
      obtain ⟨hend, -⟩ := List.cons_eq_cons.mp hends
      rw [first, hl', List.head?_cons, eq_append_of_inside hm hinside, ← hend]

/-- There is no match before one continuation when there is none before another and none reaches
into the first. -/
lemma first_eq_none_transfer (hr : r.plain = true) {tail tail' : List α}
    (hhead : isWordAt tail.head? = isWordAt tail'.head?) {prev : Option α} {u : List α}
    (hin : ∀ e ∈ ends r prev (u ++ tail'), tail'.length ≤ e.2.length)
    (h : first r prev (u ++ tail) = none) : first r prev (u ++ tail') = none := by
  have hends := inside_ends hr hhead prev u
  rw [List.head?_eq_none_iff.mp h] at hends
  cases hl' : ends r prev (u ++ tail') with
  | nil => rw [first, hl', List.head?_nil]
  | cons e l' =>
      have hinside : inside tail' e = some (e.1, e.2.take (e.2.length - tail'.length)) :=
        if_pos (hin e (by rw [hl']; exact List.mem_cons_self))
      rw [hl', List.filterMap_cons_some hinside] at hends
      cases hends

/-- **A scan that arrives before one continuation arrives before another**, when no match reaches
into that.  The two begin with the same text. -/
theorem Reaches.transfer (hr : r.plain = true) {w tail tail' : List α}
    (hhead : isWordAt tail.head? = isWordAt tail'.head?)
    (hin : ∀ prev v m rest, v ≠ [] → v ++ (w ++ tail') = m ++ rest → Matches r prev m rest.head? →
      m.length ≤ (v ++ w).length)
    {prev p : Option α} {u y : List α} (h : Reaches r repl (w ++ tail) prev u p y) :
    Reaches r repl (w ++ tail') prev u p y := by
  have hends : ∀ prev c u, ∀ e ∈ ends r prev (c :: u ++ w ++ tail'), tail'.length ≤ e.2.length := by
    intro prev c u e he
    obtain ⟨m, hm, -, hmatch⟩ := (mem_ends_iff hr).mp he
    rw [List.append_assoc] at hm
    have hle := hin prev (c :: u) m e.2 (List.cons_ne_nil c u) hm hmatch
    have hlen := congrArg List.length hm
    simp only [List.length_append] at hle hlen
    omega
  induction h with
  | done prev => exact .done prev
  | @keep prev p c u y h rest ih =>
      refine .keep ?_ ih
      rw [← List.append_assoc] at h ⊢
      exact first_eq_none_transfer hr hhead (hends prev c u) h
  | @cut prev p q c u v y h rest ih =>
      refine .cut ?_ ih
      rw [← List.append_assoc, ← List.append_assoc v] at h ⊢
      exact first_transfer hr hhead (hends prev c u) h

/-! ## The match that is taken -/

/-- The first match of a sequence, when the first match of its first part can be continued. -/
lemma first_seq {t : Regex α} {prev : Option α} {s : List α} {d e : Option α × List α}
    (hr : first r prev s = some d) (ht : first t d.1 d.2 = some e) :
    first (.seq r t) prev s = some e := by
  obtain ⟨l, hl⟩ := List.head?_eq_some_iff.mp hr
  obtain ⟨l', hl'⟩ := List.head?_eq_some_iff.mp ht
  rw [first, ends, hl, List.flatMap_cons, hl']
  rfl

lemma first_alt {t : Regex α} {prev : Option α} {s : List α} {e : Option α × List α}
    (hr : first r prev s = some e) : first (.alt r t) prev s = some e := by
  obtain ⟨l, hl⟩ := List.head?_eq_some_iff.mp hr
  rw [first, ends, hl]
  rfl

lemma first_edge {prev : Option α} {s : List α} (h : isEdge prev s.head? = true) :
    first .edge prev s = some (prev, s) := by
  rw [first, ends, if_pos h, List.head?_cons]

lemma first_set {p : α → Bool} {prev : Option α} {c : α} {s : List α} (h : p c = true) :
    first (.set p) prev (c :: s) = some (some c, s) := by
  rw [first, ends, if_pos h, List.head?_cons]

/-- A repetition takes all there is. -/
lemma first_rep {p : α → Bool} {u s : List α} (hu : ∀ c ∈ u, p c = true)
    (hs : ∀ c ∈ s.head?, p c = false) : ∀ {n : ℕ} {prev : Option α}, n ≤ u.length →
    first (.rep p n) prev (u ++ s) = some (after prev u, s) := by
  induction u with
  | nil =>
      intro n prev hn
      obtain rfl := Nat.le_zero.mp hn
      cases s with
      | nil => rfl
      | cons d s =>
          have hd : p d = false := hs d rfl
          rw [first, ends, List.nil_append, repEnds, if_neg (by rw [hd]; decide), List.head?_cons]
          rfl
  | cons c u ih =>
      intro n prev hn
      have hc : p c = true := hu c List.mem_cons_self
      have hrest : ∀ {n : ℕ} {prev : Option α}, n ≤ u.length →
          first (.rep p n) prev (u ++ s) = some (after prev u, s) :=
        ih fun d hd => hu d (List.mem_cons_of_mem c hd)
      rw [first, ends, List.cons_append]
      cases n with
      | zero =>
          have hlong : first (.rep p 0) (some c) (u ++ s) = some (after (some c) u, s) :=
            hrest (Nat.zero_le _)
          obtain ⟨l, hl⟩ := List.head?_eq_some_iff.mp hlong
          rw [ends] at hl
          rw [repEnds, if_pos hc, hl]
          rfl
      | succ n =>
          rw [repEnds, if_pos hc]
          exact hrest (Nat.le_of_succ_le_succ hn)

/-! ## Where a scan cuts, and where it cannot -/

lemma Subst.cut_of_first (hr : r.plain = true) (hne : r.NonEmpty) {prev p : Option α}
    {s s' y : List α} (h : first r prev s = some (p, s')) (rest : Subst r repl p s' y) :
    Subst r repl prev s (repl ++ y) := by
  cases s with
  | nil => exact absurd (length_lt_of_first hr hne h) (Nat.not_lt_zero _)
  | cons c s => exact .cut h rest

/-- What is before a text whose first character begins no match does not matter. -/
lemma Subst.of_not_begins (hr : r.plain = true) (hne : r.NonEmpty) {prev prev' : Option α}
    {s y : List α} (hs : ∀ c ∈ s.head?, r.begins c = false) (h : Subst r repl prev s y) :
    Subst r repl prev' s y := by
  cases h with
  | nil => exact .nil prev'
  | @keep _ c s y h rest =>
      refine .keep ((first_eq_none_iff hr).mpr fun hstarts => ?_) rest
      have hnot := hs c rfl
      rw [hstarts.begins hne] at hnot
      cases hnot
  | @cut _ p c s s' y h rest =>
      have hnot := hs c rfl
      rw [((starts_iff hr).mpr (by rw [h]; rfl)).begins hne] at hnot
      cases hnot

/-- It stays, too. -/
lemma Subst.head_of_not_begins (hr : r.plain = true) (hne : r.NonEmpty) {prev : Option α}
    {s y : List α} (hs : ∀ c ∈ s.head?, r.begins c = false) (h : Subst r repl prev s y) :
    y.head? = s.head? := by
  cases h with
  | nil => rfl
  | keep h rest => rfl
  | @cut _ p c s s' y h rest =>
      have hnot := hs c rfl
      rw [((starts_iff hr).mpr (by rw [h]; rfl)).begins hne] at hnot
      cases hnot

end Regex

end Core
