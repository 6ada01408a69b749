import Watchtower.Core.Regex

/-!
# Substitution of matches

`sub` replaces every match of an expression, from left to right, by a fixed text.

* `Regex.sub` — the function; `Regex.Subst` — its graph, with **`Regex.subst_sub`**.
* **`Regex.sub_of_not_occurs`** — a text without a match stays as it is.
* **`Regex.Subst.not_occurs`** — when a substitution leaves no match of an expression behind.
-/

namespace Core

namespace Regex

variable {α : Type} [WordChars α]

/-- `re.sub` from a position.  The counter bounds the number of steps; every step reads at least one
character when the expression matches no empty text. -/
def subFrom (r : Regex α) (repl : List α) : ℕ → Option α → List α → List α
  | 0, _, s => s
  | _ + 1, _, [] => []
  | n + 1, prev, c :: s =>
      match first r prev (c :: s) with
      | some (p, rest) => repl ++ subFrom r repl n p rest
      | none => c :: subFrom r repl n (some c) s

/-- `re.sub(repl, s)`. -/
def sub (r : Regex α) (repl s : List α) : List α := subFrom r repl s.length none s

/-- What a substitution does, step by step. -/
inductive Subst (r : Regex α) (repl : List α) : Option α → List α → List α → Prop
  | nil (prev : Option α) : Subst r repl prev [] []
  | keep {prev : Option α} {c : α} {s y : List α} (h : first r prev (c :: s) = none)
      (rest : Subst r repl (some c) s y) : Subst r repl prev (c :: s) (c :: y)
  | cut {prev p : Option α} {c : α} {s s' y : List α} (h : first r prev (c :: s) = some (p, s'))
      (rest : Subst r repl p s' y) : Subst r repl prev (c :: s) (repl ++ y)

/-- The expression matches no empty text. -/
def NonEmpty (r : Regex α) : Prop := ∀ prev m next, Matches r prev m next → m ≠ []

section Graph

variable {r : Regex α} {repl : List α}

lemma length_lt_of_first (hr : r.plain = true) (hne : r.NonEmpty) {prev : Option α} {s : List α}
    {e : Option α × List α} (h : first r prev s = some e) : e.2.length < s.length := by
  obtain ⟨m, rfl, -, hm⟩ := matches_of_first hr h
  have hpos := List.length_pos_iff.mpr (hne prev m _ hm)
  rw [List.length_append]
  omega

lemma subst_subFrom (hr : r.plain = true) (hne : r.NonEmpty) : ∀ (n : ℕ) (prev : Option α)
    (s : List α), s.length ≤ n → Subst r repl prev s (subFrom r repl n prev s) := by
  intro n
  induction n with
  | zero =>
      intro prev s hs
      obtain rfl := List.length_eq_zero_iff.mp (Nat.le_zero.mp hs)
      exact .nil prev
  | succ n ih =>
      intro prev s hs
      cases s with
      | nil => exact .nil prev
      | cons c s =>
          rw [subFrom]
          cases h : first r prev (c :: s) with
          | none => exact .keep h (ih (some c) s (Nat.le_of_succ_le_succ hs))
          | some e =>
              have hlt := length_lt_of_first hr hne h
              exact .cut h (ih e.1 e.2 (by simp only [List.length_cons] at hs hlt; omega))

/-- **The function follows its graph.** -/
theorem subst_sub (hr : r.plain = true) (hne : r.NonEmpty) (s : List α) :
    Subst r repl none s (sub r repl s) := subst_subFrom hr hne s.length none s (Nat.le_refl _)

/-- A substitution has one result. -/
lemma Subst.unique {prev : Option α} {s y : List α} (h : Subst r repl prev s y) :
    ∀ {y' : List α}, Subst r repl prev s y' → y = y' := by
  induction h with
  | nil prev =>
      intro y' h'
      cases h'
      rfl
  | keep h rest ih =>
      intro y' h'
      cases h' with
      | keep h' rest' => rw [ih rest']
      | cut h' rest' =>
          rw [h] at h'
          cases h'
  | cut h rest ih =>
      intro y' h'
      cases h' with
      | keep h' rest' =>
          rw [h] at h'
          cases h'
      | cut h' rest' =>
          rw [h] at h'
          cases h'
          rw [ih rest']

/-- A substitution writes what it inserts and what was there. -/
lemma Subst.mem {prev : Option α} {s y : List α} (h : Subst r repl prev s y) (hr : r.plain = true)
    {c : α} (hc : c ∈ y) : c ∈ repl ∨ c ∈ s := by
  induction h with
  | nil prev => cases hc
  | keep hfirst rest ih =>
      rcases List.mem_cons.mp hc with rfl | hc
      · exact .inr List.mem_cons_self
      · exact (ih hc).imp id (List.mem_cons_of_mem _)
  | cut hfirst rest ih =>
      obtain ⟨m, hm, -, -⟩ := matches_of_first hr hfirst
      rcases List.mem_append.mp hc with hc | hc
      · exact .inl hc
      · refine (ih hc).imp id fun hmem => ?_
        rw [hm]
        exact List.mem_append_right m hmem

/-- What is not of a class that the inserted text goes beyond is left. -/
lemma Subst.forall_of_forall {prev : Option α} {s y : List α} (h : Subst r repl prev s y)
    {p : α → Prop} (hrepl : ∃ c ∈ repl, ¬ p c) (hy : ∀ c ∈ y, p c) : ∀ c ∈ s, p c := by
  induction h with
  | nil prev => exact hy
  | keep hfirst rest ih =>
      rw [List.forall_mem_cons] at hy ⊢
      exact ⟨hy.1, ih hy.2⟩
  | cut hfirst rest ih =>
      obtain ⟨c, hc, hnot⟩ := hrepl
      exact absurd (hy c (List.mem_append_left _ hc)) hnot

/-- **A text without a match stays as it is.** -/
theorem sub_of_not_occurs (hr : r.plain = true) (hne : r.NonEmpty) {s : List α}
    (h : ¬ Occurs r none s) : sub r repl s = s := by
  have hkeep : ∀ (s : List α) (prev : Option α), ¬ Occurs r prev s → Subst r repl prev s s := by
    intro s
    induction s with
    | nil => exact fun prev _ => .nil prev
    | cons c s ih =>
        intro prev hs
        rw [occurs_cons, not_or] at hs
        exact .keep ((first_eq_none_iff hr).mpr hs.1) (ih (some c) hs.2)
  exact (subst_sub hr hne s).unique (hkeep s none h)

end Graph

/-! ## What a substitution leaves behind -/

section Behind

variable {p q : Regex α} {repl : List α}

/-- Before the text, `prev'` makes no edge that `prev` does not make, unless no match of `q` begins
with its first character anyway. -/
def Compat (q : Regex α) (prev prev' : Option α) (s : List α) : Prop :=
  ∀ c, s.head? = some c → isEdge prev' (some c) = true →
    isEdge prev (some c) = true ∨ ∀ before rest, ¬ Starts q before (c :: rest)

lemma Compat.refl (prev : Option α) (s : List α) : Compat q prev prev s :=
  fun _ _ hedge => Or.inl hedge

lemma occurs_append {prev : Option α} {u z : List α} :
    Occurs q prev (u ++ z) ↔
      (∃ b c s, u = b ++ c :: s ∧ Starts q (after prev b) (c :: s ++ z)) ∨
        Occurs q (after prev u) z := by
  induction u generalizing prev with
  | nil => simp
  | cons c u ih =>
      rw [List.cons_append, occurs_cons, ih]
      constructor
      · rintro (h | ⟨b, d, s, rfl, h⟩ | h)
        · exact Or.inl ⟨[], c, u, rfl, h⟩
        · exact Or.inl ⟨c :: b, d, s, rfl, h⟩
        · exact Or.inr h
      · rintro (⟨b, d, s, hu, h⟩ | h)
        · rcases append_eq_cons_cases hu with ⟨rfl, hd⟩ | ⟨b, rfl, rfl⟩
          · rw [hd] at h
            exact Or.inl h
          · exact Or.inr (Or.inl ⟨b, d, s, rfl, h⟩)
        · exact Or.inr (Or.inr h)

/-- **A substitution leaves no match of `q` behind** when it leaves none at the positions it passes
over, none begins within the inserted text, the edges behind an insertion were there before, and
what begins in the result begins in the text. -/
theorem Subst.not_occurs (hp : p.plain = true) (hq : q.NonEmpty)
    (hcarry : ∀ {prev prev' : Option α} {x y : List α}, Subst p repl prev x y →
      Compat q prev prev' x → Starts q prev' y → Starts q prev x)
    (hinserted : ∀ prev b c s, repl = b ++ c :: s → ∀ z, ¬ Starts q (after prev b) (c :: s ++ z))
    (hbehind : ∀ prev s e, first p prev s = some e →
      ∀ prev', Compat q e.1 (after prev' repl) e.2)
    {prev : Option α} {x y : List α} (h : Subst p repl prev x y) :
    (∀ b c s, x = b ++ c :: s → first p (after prev b) (c :: s) = none →
      ¬ Starts q (after prev b) (c :: s)) →
    ∀ prev', Compat q prev prev' x → ¬ Occurs q prev' y := by
  induction h with
  | nil prev =>
      intro _ prev' _ hoccurs
      obtain ⟨m, rest, hm, hmatch⟩ := occurs_nil.mp hoccurs
      exact hq prev' m _ hmatch (List.append_eq_nil_iff.mp hm.symm).1
  | @keep prev c s y hfirst rest ih =>
      intro hfree prev' hcompat hoccurs
      rcases occurs_cons.mp hoccurs with hstarts | hlater
      · exact hfree [] c s rfl hfirst (hcarry (.keep hfirst rest) hcompat hstarts)
      · refine ih (fun b d t hs hnone => ?_) (some c) (Compat.refl _ _) hlater
        exact hfree (c :: b) d t (by rw [hs]; rfl) hnone
  | @cut prev p' c s s' y hfirst rest ih =>
      intro hfree prev' hcompat hoccurs
      rcases occurs_append.mp hoccurs with ⟨b, d, t, hrepl, hstarts⟩ | hlater
      · exact hinserted prev' b d t hrepl y hstarts
      · refine ih (fun b d t hs hnone => ?_) _ (hbehind prev (c :: s) (p', s') hfirst prev') hlater
        obtain ⟨m, hm, hp', -⟩ := matches_of_first hp hfirst
        have hbefore : after prev (m ++ b) = after p' b := by rw [after_append, ← hp']
        rw [← hbefore] at hnone ⊢
        exact hfree (m ++ b) d t (by rw [hm, hs, List.append_assoc]) hnone

/-- What is left of the text before an insertion is part of the text, and is followed by the same
character or, in place of the inserted text, by a match of `p`. -/
lemma Subst.kept {o : α} {repl' : List α} (hrepl : repl = o :: repl') {m : List α} :
    ∀ {prev : Option α} {x a : List α}, o ∉ m → Subst p repl prev x (m ++ a) →
      ∃ a', x = m ++ a' ∧ (a'.head? = a.head? ∨
        (a.head? = some o ∧ (first p (after prev m) a').isSome = true)) := by
  induction m with
  | nil =>
      intro prev x a _ h
      refine ⟨x, rfl, ?_⟩
      rw [List.nil_append] at h
      cases h with
      | nil => exact Or.inl rfl
      | keep hfirst rest => exact Or.inl rfl
      | cut hfirst rest =>
          rw [hrepl]
          exact Or.inr ⟨rfl, by rw [after_nil, hfirst]; rfl⟩
  | cons c m ih =>
      intro prev x a ho h
      rw [List.cons_append] at h
      generalize hy : c :: (m ++ a) = y at h
      cases h with
      | nil => cases hy
      | keep hfirst rest =>
          cases hy
          obtain ⟨a', rfl, hhead⟩ := ih (List.not_mem_of_not_mem_cons ho) rest
          exact ⟨a', rfl, hhead⟩
      | cut hfirst rest =>
          rw [hrepl] at hy
          have hco : c = o := (List.cons_eq_cons.mp hy).1
          exact absurd (hco ▸ List.mem_cons_self) ho

/-- **A match that avoids the inserted text was there before.**  `o` begins the inserted text and is
no word character, and where a match of `p` follows a word character there is an edge. -/
theorem Subst.starts {o : α} {repl' : List α} (hrepl : repl = o :: repl')
    (ho : isWordAt (some o) = false) (hp : p.plain = true) (hpne : p.NonEmpty)
    (hstart : ∀ prev m next, Matches p prev m next → isWordAt prev = true →
      isEdge prev m.head? = true)
    {prev prev' : Option α} {x m a : List α} (h : Subst p repl prev x (m ++ a))
    (hcompat : Compat q prev prev' x) (hne : m ≠ []) (hom : o ∉ m)
    (hm : Matches q prev' m a.head?) : Starts q prev x := by
  obtain ⟨a', rfl, hhead⟩ := h.kept hrepl hom
  obtain ⟨c, m, rfl⟩ := List.exists_cons_of_ne_nil hne
  refine ⟨c :: m, a', rfl, hm.mono ?_ ?_⟩
  · intro hedge
    rcases hcompat c rfl hedge with hkept | hnever
    · exact hkept
    · exact absurd ⟨c :: m, a, rfl, hm⟩ (hnever prev' (m ++ a))
  · intro hedge
    rcases hhead with hsame | ⟨hinserted, hfirst⟩
    · rw [hsame]
      exact hedge
    · -- the inserted text makes an edge after a word character, and so did the match
      have hword : isWordAt (after prev (c :: m)) = true := by
        rw [hinserted] at hedge
        simpa [isEdge, ho] using hedge
      obtain ⟨e, he⟩ := Option.isSome_iff_exists.mp hfirst
      obtain ⟨w, rfl, -, hw⟩ := matches_of_first hp he
      have hedge' := hstart _ w _ hw hword
      have hwne := hpne _ w _ hw
      obtain ⟨d, w, rfl⟩ := List.exists_cons_of_ne_nil hwne
      exact hedge'

end Behind

end Regex

end Core
