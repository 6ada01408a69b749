import Watchtower.Core.Substitute

/-!
# What an expression says about its matches

Bounds on the matches of an expression that can be read off the expression itself, and computed for
a given one.

* `Regex.nullable`, `Regex.minLength` — whether a match may be empty, and how long it is at least.
* `Regex.begins`, `Regex.chars` — the characters a match may begin with, and those it may hold.
* `Regex.ahead` — whether a match depends on the character behind it; **`Matches.of_not_ahead`**.
* `Regex.Greedy` — the match that is taken is not followed by a character of a class.
-/

namespace Core

namespace Regex

variable {α : Type}

/-- There may be an empty match. -/
def nullable : Regex α → Bool
  | eps => true
  | set _ => false
  | rep _ n => n == 0
  | edge => true
  | seq r t => nullable r && nullable t
  | alt r t => nullable r || nullable t
  | notAhead _ => true

/-- No match is shorter. -/
def minLength : Regex α → ℕ
  | eps => 0
  | set _ => 1
  | rep _ n => n
  | edge => 0
  | seq r t => minLength r + minLength t
  | alt r t => min (minLength r) (minLength t)
  | notAhead _ => 0

/-- A match may begin with the character. -/
def begins : Regex α → α → Bool
  | eps, _ => false
  | set p, c => p c
  | rep p _, c => p c
  | edge, _ => false
  | seq r t, c => begins r c || (nullable r && begins t c)
  | alt r t, c => begins r c || begins t c
  | notAhead _, _ => false

/-- A match may hold the character. -/
def chars : Regex α → α → Bool
  | eps, _ => false
  | set p, c => p c
  | rep p _, c => p c
  | edge, _ => false
  | seq r t, c => chars r c || chars t c
  | alt r t, c => chars r c || chars t c
  | notAhead _, _ => false

/-- A match may depend on the character behind it. -/
def ahead : Regex α → Bool
  | eps => false
  | set _ => false
  | rep _ _ => false
  | edge => true
  | seq r t => (ahead r && nullable t) || ahead t
  | alt r t => ahead r || ahead t
  | notAhead _ => true

attribute [local simp] nullable minLength begins chars ahead

variable [WordChars α] {r : Regex α}

namespace Matches

lemma nullable {prev next : Option α} (h : Matches r prev [] next) : r.nullable = true := by
  induction r generalizing prev next with
  | eps => rfl
  | set p =>
      obtain ⟨c, hc, -⟩ := h
      cases hc
  | rep p n => simpa using h.1
  | edge => rfl
  | seq r t ihr iht =>
      obtain ⟨m₁, m₂, hm, h₁, h₂⟩ := h
      obtain ⟨rfl, rfl⟩ := List.append_eq_nil_iff.mp hm.symm
      simp [ihr h₁, iht h₂]
  | alt r t ihr iht =>
      rcases h with h | h
      · simp [ihr h]
      · simp [iht h]
  | notAhead r ih => rfl

lemma minLength_le {prev next : Option α} {m : List α} (h : Matches r prev m next) :
    r.minLength ≤ m.length := by
  induction r generalizing prev m next with
  | eps => exact Nat.zero_le _
  | set p =>
      obtain ⟨c, rfl, -⟩ := h
      exact Nat.le_refl 1
  | rep p n => exact h.1
  | edge => exact Nat.zero_le _
  | seq r t ihr iht =>
      obtain ⟨m₁, m₂, rfl, h₁, h₂⟩ := h
      rw [List.length_append]
      exact Nat.add_le_add (ihr h₁) (iht h₂)
  | alt r t ihr iht =>
      rcases h with h | h
      · exact Nat.le_trans (Nat.min_le_left _ _) (ihr h)
      · exact Nat.le_trans (Nat.min_le_right _ _) (iht h)
  | notAhead r ih => exact Nat.zero_le _

lemma begins {prev next : Option α} {c : α} {m : List α} (h : Matches r prev (c :: m) next) :
    r.begins c = true := by
  induction r generalizing prev m next with
  | eps => cases h
  | set p =>
      obtain ⟨d, hd, hp⟩ := h
      cases hd
      exact hp
  | rep p n => exact h.2 c List.mem_cons_self
  | edge => cases h.1
  | seq r t ihr iht =>
      obtain ⟨m₁, m₂, hm, h₁, h₂⟩ := h
      rcases append_eq_cons_cases hm with ⟨rfl, rfl⟩ | ⟨m₁', rfl, -⟩
      · simp [h₁.nullable, iht h₂]
      · simp [ihr h₁]
  | alt r t ihr iht =>
      rcases h with h | h
      · simp [ihr h]
      · simp [iht h]
  | notAhead r ih => cases h

lemma chars {prev next : Option α} {m : List α} (h : Matches r prev m next) {c : α} (hc : c ∈ m) :
    r.chars c = true := by
  induction r generalizing prev m next with
  | eps =>
      rw [show m = [] from h] at hc
      cases hc
  | set p =>
      obtain ⟨d, rfl, hp⟩ := h
      rwa [List.mem_singleton.mp hc]
  | rep p n => exact h.2 c hc
  | edge =>
      rw [h.1] at hc
      cases hc
  | seq r t ihr iht =>
      obtain ⟨m₁, m₂, rfl, h₁, h₂⟩ := h
      rcases List.mem_append.mp hc with hc | hc
      · simp [ihr h₁ hc]
      · simp [iht h₂ hc]
  | alt r t ihr iht =>
      rcases h with h | h
      · simp [ihr h hc]
      · simp [iht h hc]
  | notAhead r ih => cases h

lemma not_mem {prev next : Option α} {m : List α} (h : Matches r prev m next) {c : α}
    (hc : r.chars c = false) : c ∉ m := by
  intro hmem
  rw [h.chars hmem] at hc
  cases hc

/-- **The character behind a match matters only where the expression looks ahead.** -/
theorem of_not_ahead (hr : r.ahead = false) {prev next next' : Option α} {m : List α}
    (h : Matches r prev m next) : Matches r prev m next' := by
  induction r generalizing prev m next next' with
  | eps => exact h
  | set p => exact h
  | rep p n => exact h
  | edge => cases hr
  | seq r t ihr iht =>
      obtain ⟨m₁, m₂, rfl, h₁, h₂⟩ := h
      simp only [Regex.ahead, Bool.or_eq_false_iff, Bool.and_eq_false_iff] at hr
      refine ⟨m₁, m₂, rfl, ?_, iht hr.2 h₂⟩
      cases m₂ with
      | nil => exact ihr (hr.1.resolve_right (by simp [h₂.nullable])) h₁
      | cons c m₂ => exact h₁
  | alt r t ihr iht =>
      simp only [Regex.ahead, Bool.or_eq_false_iff] at hr
      rcases h with h | h
      · exact .inl (ihr hr.1 h)
      · exact .inr (iht hr.2 h)
  | notAhead r ih => cases h

end Matches

/-- What occurs in a text occurs in a longer one. -/
lemma Occurs.append_of_not_ahead (hr : r.ahead = false) {prev : Option α} {s : List α}
    (h : Occurs r prev s) (t : List α) : Occurs r prev (s ++ t) := by
  obtain ⟨b, rest, rfl, m, rest, rfl, hm⟩ := h
  exact ⟨b, m ++ (rest ++ t), by simp only [List.append_assoc], m, rest ++ t, rfl,
    hm.of_not_ahead hr⟩

lemma Starts.begins (hne : r.NonEmpty) {prev : Option α} {c : α} {s : List α}
    (h : Starts r prev (c :: s)) : r.begins c = true := by
  obtain ⟨m, rest, hm, hmatch⟩ := h
  obtain ⟨d, m, rfl⟩ := List.exists_cons_of_ne_nil (hne _ _ _ hmatch)
  obtain ⟨rfl, -⟩ := List.cons_eq_cons.mp hm
  exact hmatch.begins

lemma nonEmpty_of_minLength (h : 0 < r.minLength) : r.NonEmpty := by
  rintro prev m next hm rfl
  exact absurd hm.minLength_le (Nat.not_le_of_gt h)

/-! ## Greedy expressions -/

/-- No character of the class follows the match that is taken. -/
def Greedy (r : Regex α) (p : α → Bool) : Prop :=
  ∀ prev s e, first r prev s = some e → ∀ c, e.2.head? = some c → p c = false

omit [WordChars α] in
lemma head_repEnds {p : α → Bool} {n : ℕ} {prev : Option α} {s : List α} {e : Option α × List α}
    (h : (repEnds p n prev s).head? = some e) {c : α} (hc : e.2.head? = some c) : p c = false := by
  induction s generalizing n prev with
  | nil =>
      cases n with
      | zero =>
          cases h
          cases hc
      | succ n => cases h
  | cons d s ih =>
      cases n with
      | zero =>
          simp only [repEnds] at h
          split_ifs at h with hd
          · rw [List.head?_append] at h
            cases hrest : (repEnds p 0 (some d) s).head? with
            | none =>
                -- a repetition that may be empty has an end
                rw [List.head?_eq_none_iff] at hrest
                cases s with
                | nil => cases hrest
                | cons x s =>
                    simp only [repEnds] at hrest
                    split_ifs at hrest
                    simp at hrest
            | some e' =>
                rw [hrest] at h
                cases h
                exact ih hrest
          · cases h
            cases hc
            simpa using hd
      | succ n =>
          simp only [repEnds] at h
          split_ifs at h
          · exact ih h
          · cases h

lemma greedy_rep (p : α → Bool) (n : ℕ) : Greedy (rep p n) p :=
  fun _ _ _ h _ hc => head_repEnds h hc

/-- The last part of a sequence decides. -/
lemma Greedy.seq {t : Regex α} {p : α → Bool} (h : t.Greedy p) (r : Regex α) :
    Greedy (.seq r t) p := by
  intro prev s e he c hc
  obtain ⟨d, -, hd⟩ : ∃ d ∈ ends r prev s, first t d.1 d.2 = some e := by
    rw [first, ends] at he
    generalize ends r prev s = starts at he ⊢
    induction starts with
    | nil => cases he
    | cons d starts ih =>
        rw [List.flatMap_cons, List.head?_append] at he
        cases hfirst : (ends t d.1 d.2).head? with
        | none =>
            rw [hfirst] at he
            obtain ⟨x, hx, hxe⟩ := ih he
            exact ⟨x, List.mem_cons_of_mem _ hx, hxe⟩
        | some e' =>
            rw [hfirst] at he
            exact ⟨d, List.mem_cons_self, hfirst.trans he⟩
  exact h _ _ _ hd c hc

/-- Nothing comes after the last part. -/
lemma Greedy.seq_eps {p : α → Bool} (h : r.Greedy p) : Greedy (.seq r .eps) p := by
  intro prev s e he
  have hsame : ends (.seq r .eps) prev s = ends r prev s := by
    simp only [ends, Prod.eta, List.flatMap_singleton']
  rw [first, hsame] at he
  exact h prev s e he

end Regex

end Core
