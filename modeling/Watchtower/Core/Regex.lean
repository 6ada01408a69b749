import Mathlib.Data.List.Basic
import Mathlib.Data.Option.Basic

/-!
# Backtracking regular expressions

Regular expressions over an arbitrary alphabet, matched the way backtracking engines do: the ends
of all matches at a position, in the order in which they are tried.  Repetition is greedy and of
one character class; the context of a position is the character before it.

* `Regex.ends`, `Regex.first` — all matches at a position, and the one that is taken.
* `Regex.Matches` — a match as a relation between a text and the characters around it;
  **`Regex.mem_ends_iff`** — the two agree.
* `Regex.search`, `Regex.Occurs` — a match somewhere, with **`Regex.search_iff`**.
* **`Regex.Matches.mono`** — a match depends on its surroundings through the word edges only.
* **`Regex.inside_ends`** — the matches that end within a prefix do not depend on what follows.
-/

namespace Core

/-- An alphabet with a class of word characters. -/
class WordChars (α : Type) where
  isWord : α → Bool

/-- Regular expressions. -/
inductive Regex (α : Type) where
  | eps
  /-- One character of a class. -/
  | set (p : α → Bool)
  /-- Characters of a class, as many as possible but no fewer than `min`. -/
  | rep (p : α → Bool) (min : ℕ)
  /-- `\b`. -/
  | edge
  | seq (r s : Regex α)
  | alt (r s : Regex α)
  /-- `(?!...)`. -/
  | notAhead (r : Regex α)

namespace Regex

variable {α : Type}

/-- The one expression, or nothing. -/
def opt (r : Regex α) : Regex α := .alt r .eps

/-- One expression after the other. -/
def concat : List (Regex α) → Regex α
  | [] => .eps
  | r :: rs => .seq r (concat rs)

/-- One expression or the other. -/
def oneOf : Regex α → List (Regex α) → Regex α
  | r, [] => r
  | r, s :: rs => .alt r (oneOf s rs)

/-- A number of characters of a class. -/
def exactly (p : α → Bool) (n : ℕ) : Regex α := concat (List.replicate n (.set p))

/-! ## Positions -/

/-- The character before a position, when a text has been read from another one. -/
def after : Option α → List α → Option α
  | prev, [] => prev
  | _, c :: m => after (some c) m

@[simp] lemma after_nil (prev : Option α) : after prev [] = prev := rfl

@[simp] lemma after_cons (prev : Option α) (c : α) (m : List α) :
    after prev (c :: m) = after (some c) m := rfl

@[simp] lemma after_append (prev : Option α) (m₁ m₂ : List α) :
    after prev (m₁ ++ m₂) = after (after prev m₁) m₂ := by
  induction m₁ generalizing prev with
  | nil => rfl
  | cons c m₁ ih => exact ih (some c)

/-- What was before does not matter once a character has been read. -/
lemma after_of_ne_nil {m : List α} (h : m ≠ []) (prev prev' : Option α) :
    after prev m = after prev' m := by
  cases m with
  | nil => exact absurd rfl h
  | cons c m => rfl

lemma exists_after {m : List α} (h : m ≠ []) (prev : Option α) :
    ∃ l ∈ m, after prev m = some l := by
  induction m generalizing prev with
  | nil => exact absurd rfl h
  | cons c m ih =>
      rcases eq_or_ne m [] with rfl | hm
      · exact ⟨c, by simp, rfl⟩
      · obtain ⟨l, hl, hafter⟩ := ih hm (some c)
        exact ⟨l, List.mem_cons_of_mem _ hl, hafter⟩

section Edge

variable [WordChars α]

/-- There is a word character, and it is one. -/
def isWordAt (o : Option α) : Bool := o.any WordChars.isWord

/-- A position between a word character and something else. -/
def isEdge (prev next : Option α) : Bool := isWordAt prev != isWordAt next

end Edge

/-! ## Matching -/

/-- The ends of a greedy repetition, the longest first. -/
def repEnds (p : α → Bool) : ℕ → Option α → List α → List (Option α × List α)
  | 0, prev, [] => [(prev, [])]
  | _ + 1, _, [] => []
  | 0, prev, c :: s =>
      if p c then repEnds p 0 (some c) s ++ [(prev, c :: s)] else [(prev, c :: s)]
  | n + 1, _, c :: s => if p c then repEnds p n (some c) s else []

variable [WordChars α]

/-- The ends of all matches at a position, in the order in which they are tried: the character
before the end, and the text after it. -/
def ends : Regex α → Option α → List α → List (Option α × List α)
  | eps, prev, s => [(prev, s)]
  | set p, _, s =>
      match s with
      | [] => []
      | c :: s => if p c then [(some c, s)] else []
  | rep p n, prev, s => repEnds p n prev s
  | edge, prev, s => if isEdge prev s.head? then [(prev, s)] else []
  | seq r t, prev, s => (ends r prev s).flatMap fun e => ends t e.1 e.2
  | alt r t, prev, s => ends r prev s ++ ends t prev s
  | notAhead r, prev, s => if (ends r prev s).isEmpty then [(prev, s)] else []

/-- The match that is taken at a position. -/
def first (r : Regex α) (prev : Option α) (s : List α) : Option (Option α × List α) :=
  (ends r prev s).head?

/-- A match somewhere in the text. -/
def search (r : Regex α) : Option α → List α → Bool
  | prev, [] => (first r prev []).isSome
  | prev, c :: s => (first r prev (c :: s)).isSome || search r (some c) s

omit [WordChars α] in
lemma suffix_of_mem_repEnds {p : α → Bool} : ∀ {s : List α} {n : ℕ} {prev : Option α}
    {e : Option α × List α}, e ∈ repEnds p n prev s → e.2 <:+ s := by
  intro s
  induction s with
  | nil =>
      intro n prev e he
      cases n with
      | zero =>
          obtain rfl := List.mem_singleton.mp he
          exact List.suffix_rfl
      | succ n => cases he
  | cons c s ih =>
      intro n prev e he
      cases n with
      | zero =>
          simp only [repEnds] at he
          split_ifs at he with hc
          · rcases List.mem_append.mp he with he | he
            · exact (ih he).trans (List.suffix_cons c s)
            · obtain rfl := List.mem_singleton.mp he
              exact List.suffix_rfl
          · obtain rfl := List.mem_singleton.mp he
            exact List.suffix_rfl
      | succ n =>
          simp only [repEnds] at he
          split_ifs at he with hc
          · exact (ih he).trans (List.suffix_cons c s)
          · cases he

/-- What is left at an end is a rest of the text. -/
lemma suffix_of_mem_ends (r : Regex α) : ∀ {prev : Option α} {s : List α} {e : Option α × List α},
    e ∈ ends r prev s → e.2 <:+ s := by
  induction r with
  | eps =>
      intro prev s e he
      obtain rfl := List.mem_singleton.mp he
      exact List.suffix_rfl
  | set p =>
      intro prev s e he
      cases s with
      | nil => cases he
      | cons c s =>
          simp only [ends] at he
          split_ifs at he
          · rw [List.mem_singleton.mp he]
            exact List.suffix_cons c s
          · cases he
  | rep p n => exact fun he => suffix_of_mem_repEnds he
  | edge =>
      intro prev s e he
      simp only [ends] at he
      split_ifs at he
      · obtain rfl := List.mem_singleton.mp he
        exact List.suffix_rfl
      · cases he
  | seq r t ihr iht =>
      intro prev s e he
      obtain ⟨d, hd, he⟩ := List.mem_flatMap.mp he
      exact (iht he).trans (ihr hd)
  | alt r t ihr iht =>
      intro prev s e he
      rcases List.mem_append.mp he with he | he
      · exact ihr he
      · exact iht he
  | notAhead r ih =>
      intro prev s e he
      simp only [ends] at he
      split_ifs at he
      · obtain rfl := List.mem_singleton.mp he
        exact List.suffix_rfl
      · cases he

/-- A search that succeeds comes upon a position with a match. -/
lemma exists_ends_of_search {r : Regex α} : ∀ {s : List α} {prev : Option α},
    search r prev s = true → ∃ p t, t <:+ s ∧ ends r p t ≠ [] := by
  intro s
  induction s with
  | nil =>
      intro prev h
      rw [search, first, List.isSome_head?] at h
      exact ⟨prev, [], List.suffix_rfl, h⟩
  | cons c s ih =>
      intro prev h
      rw [search, Bool.or_eq_true, first, List.isSome_head?] at h
      rcases h with h | h
      · exact ⟨prev, c :: s, List.suffix_rfl, h⟩
      · obtain ⟨p, t, ht, hne⟩ := ih h
        exact ⟨p, t, ht.trans (List.suffix_cons c s), hne⟩

/-! ## Matches as a relation -/

/-- The text is a match, between the character before it and the one after it.  Lookahead is not a
matter of one character and has no place here. -/
def Matches : Regex α → Option α → List α → Option α → Prop
  | eps, _, m, _ => m = []
  | set p, _, m, _ => ∃ c, m = [c] ∧ p c = true
  | rep p n, _, m, _ => n ≤ m.length ∧ ∀ c ∈ m, p c = true
  | edge, prev, m, next => m = [] ∧ isEdge prev next = true
  | seq r t, prev, m, next => ∃ m₁ m₂, m = m₁ ++ m₂ ∧
      Matches r prev m₁ (m₂.head?.or next) ∧ Matches t (after prev m₁) m₂ next
  | alt r t, prev, m, next => Matches r prev m next ∨ Matches t prev m next
  | notAhead _, _, _, _ => False

omit [WordChars α] in
/-- There is no lookahead in the expression. -/
def plain : Regex α → Bool
  | seq r t => plain r && plain t
  | alt r t => plain r && plain t
  | notAhead _ => false
  | _ => true

omit [WordChars α] in
lemma mem_repEnds_iff {p : α → Bool} {n : ℕ} {prev : Option α} {s : List α}
    {e : Option α × List α} :
    e ∈ repEnds p n prev s ↔
      ∃ m, s = m ++ e.2 ∧ e.1 = after prev m ∧ n ≤ m.length ∧ ∀ c ∈ m, p c = true := by
  induction s generalizing n prev with
  | nil =>
      cases n with
      | zero =>
          simp only [repEnds, List.mem_singleton]
          constructor
          · rintro rfl
            exact ⟨[], rfl, rfl, Nat.le_refl _, by simp⟩
          · rintro ⟨m, hm, he, -, -⟩
            obtain ⟨rfl, hnil⟩ := List.append_eq_nil_iff.mp hm.symm
            exact Prod.ext he hnil
      | succ n =>
          simp only [repEnds, List.not_mem_nil, false_iff]
          rintro ⟨m, hm, -, hlen, -⟩
          obtain ⟨rfl, -⟩ := List.append_eq_nil_iff.mp hm.symm
          simp at hlen
  | cons c s ih =>
      have hhere : e = (prev, c :: s) ↔ ∃ m : List α, m = [] ∧ c :: s = m ++ e.2 ∧
          e.1 = after prev m := by
        constructor
        · rintro rfl
          exact ⟨[], rfl, rfl, rfl⟩
        · rintro ⟨m, rfl, hs, he⟩
          exact Prod.ext he hs.symm
      cases n with
      | zero =>
          simp only [repEnds]
          split_ifs with hc
          · rw [List.mem_append, List.mem_singleton, hhere, ih]
            constructor
            · rintro (⟨m, rfl, he, -, hm⟩ | ⟨m, rfl, hs, he⟩)
              · exact ⟨c :: m, rfl, he, Nat.zero_le _, by simpa [hc] using hm⟩
              · exact ⟨[], hs, he, Nat.le_refl _, by simp⟩
            · rintro ⟨m, hs, he, -, hm⟩
              cases m with
              | nil => exact Or.inr ⟨[], rfl, hs, he⟩
              | cons d m =>
                  obtain ⟨rfl, htail⟩ := List.cons_eq_cons.mp hs
                  exact Or.inl ⟨m, htail, he, Nat.zero_le _, fun x hx => hm x (by simp [hx])⟩
          · rw [List.mem_singleton, hhere]
            constructor
            · rintro ⟨m, rfl, hs, he⟩
              exact ⟨[], hs, he, Nat.le_refl _, by simp⟩
            · rintro ⟨m, hs, he, -, hm⟩
              cases m with
              | nil => exact ⟨[], rfl, hs, he⟩
              | cons d m =>
                  obtain ⟨rfl, -⟩ := List.cons_eq_cons.mp hs
                  exact absurd (hm _ (by simp)) hc
      | succ n =>
          simp only [repEnds]
          split_ifs with hc
          · rw [ih]
            constructor
            · rintro ⟨m, rfl, he, hlen, hm⟩
              exact ⟨c :: m, rfl, he, Nat.succ_le_succ hlen, by simpa [hc] using hm⟩
            · rintro ⟨m, hs, he, hlen, hm⟩
              cases m with
              | nil => simp at hlen
              | cons d m =>
                  obtain ⟨rfl, htail⟩ := List.cons_eq_cons.mp hs
                  exact ⟨m, htail, he, Nat.le_of_succ_le_succ hlen, fun x hx => hm x (by simp [hx])⟩
          · simp only [List.not_mem_nil, false_iff]
            rintro ⟨m, hs, -, hlen, hm⟩
            cases m with
            | nil => simp at hlen
            | cons d m =>
                obtain ⟨rfl, -⟩ := List.cons_eq_cons.mp hs
                exact absurd (hm _ (by simp)) hc

/-- **The ends that are listed are those of the matches.** -/
theorem mem_ends_iff {r : Regex α} (hr : r.plain = true) {prev : Option α} {s : List α}
    {e : Option α × List α} :
    e ∈ ends r prev s ↔
      ∃ m, s = m ++ e.2 ∧ e.1 = after prev m ∧ Matches r prev m e.2.head? := by
  induction r generalizing prev s e with
  | eps =>
      simp only [ends, Matches, List.mem_singleton]
      constructor
      · rintro rfl
        exact ⟨[], rfl, rfl, rfl⟩
      · rintro ⟨m, hs, he, rfl⟩
        exact Prod.ext he hs.symm
  | set p =>
      cases s with
      | nil =>
          simp only [ends, Matches, List.not_mem_nil, false_iff]
          rintro ⟨m, hs, -, c, rfl, -⟩
          cases hs
      | cons c s =>
          simp only [ends, Matches]
          split_ifs with hc
          · rw [List.mem_singleton]
            constructor
            · rintro rfl
              exact ⟨[c], rfl, rfl, c, rfl, hc⟩
            · rintro ⟨m, hs, he, d, rfl, -⟩
              obtain ⟨rfl, htail⟩ := List.cons_eq_cons.mp hs
              exact Prod.ext he htail.symm
          · simp only [List.not_mem_nil, false_iff]
            rintro ⟨m, hs, -, d, rfl, hd⟩
            obtain ⟨rfl, -⟩ := List.cons_eq_cons.mp hs
            exact hc hd
  | rep p n => exact mem_repEnds_iff
  | edge =>
      simp only [ends, Matches]
      split_ifs with hedge
      · rw [List.mem_singleton]
        constructor
        · rintro rfl
          exact ⟨[], rfl, rfl, rfl, hedge⟩
        · rintro ⟨m, hs, he, rfl, -⟩
          exact Prod.ext he hs.symm
      · simp only [List.not_mem_nil, false_iff]
        rintro ⟨m, rfl, -, rfl, he⟩
        exact hedge he
  | seq r t ihr iht =>
      simp only [plain, Bool.and_eq_true] at hr
      simp only [ends, Matches, List.mem_flatMap]
      constructor
      · rintro ⟨d, hd, he⟩
        obtain ⟨m₁, rfl, hd₁, hm₁⟩ := (ihr hr.1).mp hd
        obtain ⟨m₂, hd₂, he₁, hm₂⟩ := (iht hr.2).mp he
        refine ⟨m₁ ++ m₂, by rw [hd₂, List.append_assoc], by rw [he₁, hd₁, after_append], m₁, m₂, rfl,
          ?_, by rwa [← hd₁]⟩
        rw [hd₂, List.head?_append] at hm₁
        exact hm₁
      · rintro ⟨m, rfl, he, m₁, m₂, rfl, hm₁, hm₂⟩
        refine ⟨(after prev m₁, m₂ ++ e.2), (ihr hr.1).mpr ⟨m₁, by rw [List.append_assoc], rfl, ?_⟩,
          (iht hr.2).mpr ⟨m₂, rfl, by rw [he, after_append], hm₂⟩⟩
        rw [List.head?_append]
        exact hm₁
  | alt r t ihr iht =>
      simp only [plain, Bool.and_eq_true] at hr
      simp only [ends, Matches, List.mem_append, ihr hr.1, iht hr.2]
      constructor
      · rintro (⟨m, hs, he, hm⟩ | ⟨m, hs, he, hm⟩)
        · exact ⟨m, hs, he, Or.inl hm⟩
        · exact ⟨m, hs, he, Or.inr hm⟩
      · rintro ⟨m, hs, he, hm | hm⟩
        · exact Or.inl ⟨m, hs, he, hm⟩
        · exact Or.inr ⟨m, hs, he, hm⟩
  | notAhead r ih => cases hr

/-! ## A match somewhere -/

/-- A match begins at the position. -/
def Starts (r : Regex α) (prev : Option α) (s : List α) : Prop :=
  ∃ m rest, s = m ++ rest ∧ Matches r prev m rest.head?

/-- A match begins somewhere in the text. -/
def Occurs (r : Regex α) (prev : Option α) (s : List α) : Prop :=
  ∃ b rest, s = b ++ rest ∧ Starts r (after prev b) rest

lemma starts_iff {r : Regex α} (hr : r.plain = true) {prev : Option α} {s : List α} :
    Starts r prev s ↔ (first r prev s).isSome = true := by
  rw [first, List.isSome_head?]
  constructor
  · rintro ⟨m, rest, rfl, hm⟩
    exact List.ne_nil_of_mem ((mem_ends_iff (e := (after prev m, rest)) hr).mpr ⟨m, rfl, rfl, hm⟩)
  · intro h
    obtain ⟨e, he⟩ := List.exists_mem_of_ne_nil _ h
    obtain ⟨m, hs, -, hm⟩ := (mem_ends_iff hr).mp he
    exact ⟨m, e.2, hs, hm⟩

lemma first_eq_none_iff {r : Regex α} (hr : r.plain = true) {prev : Option α} {s : List α} :
    first r prev s = none ↔ ¬ Starts r prev s := by
  rw [starts_iff hr, Bool.not_eq_true, Option.isSome_eq_false_iff, Option.isNone_iff_eq_none]

/-- The match that is taken is one. -/
lemma matches_of_first {r : Regex α} (hr : r.plain = true) {prev : Option α} {s : List α}
    {e : Option α × List α} (h : first r prev s = some e) :
    ∃ m, s = m ++ e.2 ∧ e.1 = after prev m ∧ Matches r prev m e.2.head? :=
  (mem_ends_iff hr).mp (List.mem_of_mem_head? h)

omit [WordChars α] in
lemma append_eq_cons_cases {b rest s : List α} {c : α} (h : c :: s = b ++ rest) :
    (b = [] ∧ rest = c :: s) ∨ ∃ b', b = c :: b' ∧ s = b' ++ rest := by
  cases b with
  | nil => exact Or.inl ⟨rfl, h.symm⟩
  | cons d b =>
      obtain ⟨rfl, hs⟩ := List.cons_eq_cons.mp h
      exact Or.inr ⟨b, rfl, hs⟩

lemma occurs_nil {r : Regex α} {prev : Option α} : Occurs r prev [] ↔ Starts r prev [] := by
  constructor
  · rintro ⟨b, rest, hs, h⟩
    obtain ⟨rfl, rfl⟩ := List.append_eq_nil_iff.mp hs.symm
    exact h
  · exact fun h => ⟨[], [], rfl, h⟩

lemma occurs_cons {r : Regex α} {prev : Option α} {c : α} {s : List α} :
    Occurs r prev (c :: s) ↔ Starts r prev (c :: s) ∨ Occurs r (some c) s := by
  constructor
  · rintro ⟨b, rest, hs, h⟩
    rcases append_eq_cons_cases hs with ⟨rfl, rfl⟩ | ⟨b, rfl, rfl⟩
    · exact Or.inl h
    · exact Or.inr ⟨b, rest, rfl, h⟩
  · rintro (h | ⟨b, rest, rfl, h⟩)
    · exact ⟨[], c :: s, rfl, h⟩
    · exact ⟨c :: b, rest, rfl, h⟩

/-- **The search finds a match exactly when there is one.** -/
theorem search_iff {r : Regex α} (hr : r.plain = true) {prev : Option α} {s : List α} :
    search r prev s = true ↔ Occurs r prev s := by
  induction s generalizing prev with
  | nil => rw [search, occurs_nil, starts_iff hr]
  | cons c s ih => rw [search, Bool.or_eq_true, occurs_cons, starts_iff hr, ih]

/-! ## The surroundings of a match -/

/-- **The surroundings matter through the edges only.**  A match stays one when an edge at either
of its ends stays one. -/
theorem Matches.mono {r : Regex α} {prev prev' : Option α} {m : List α} {next next' : Option α}
    (h : Matches r prev m next)
    (hstart : isEdge prev (m.head?.or next) = true → isEdge prev' (m.head?.or next') = true)
    (hend : isEdge (after prev m) next = true → isEdge (after prev' m) next' = true) :
    Matches r prev' m next' := by
  induction r generalizing prev prev' m next next' with
  | eps => exact h
  | set p => exact h
  | rep p n => exact h
  | edge =>
      obtain ⟨rfl, hedge⟩ := h
      exact ⟨rfl, hstart hedge⟩
  | seq r t ihr iht =>
      obtain ⟨m₁, m₂, rfl, h₁, h₂⟩ := h
      refine ⟨m₁, m₂, rfl, ihr h₁ ?_ ?_, iht h₂ ?_ ?_⟩
      · rw [List.head?_append, Option.or_assoc, Option.or_assoc] at hstart
        exact hstart
      · cases m₁ with
        | nil => simpa using hstart
        | cons c m₁ =>
            cases m₂ with
            | nil => simpa using hend
            | cons d m₂ => exact id
      · cases m₁ with
        | nil => simpa using hstart
        | cons c m₁ =>
            cases m₂ with
            | nil => simpa using hend
            | cons d m₂ => exact id
      · simpa using hend
  | alt r t ihr iht =>
      rcases h with h | h
      · exact Or.inl (ihr h hstart hend)
      · exact Or.inr (iht h hstart hend)
  | notAhead r ih => cases h

/-! ## Matches that end within a prefix -/

section Inside

omit [WordChars α] in
/-- The end, if it is not beyond the beginning of `tail`, without the `tail` that follows it. -/
def inside (tail : List α) (e : Option α × List α) : Option (Option α × List α) :=
  if tail.length ≤ e.2.length then some (e.1, e.2.take (e.2.length - tail.length)) else none

omit [WordChars α] in
lemma inside_append (prev : Option α) (u tail : List α) :
    inside tail (prev, u ++ tail) = some (prev, u) := by
  simp [inside]

omit [WordChars α] in
lemma inside_self (prev : Option α) (tail : List α) : inside tail (prev, tail) = some (prev, []) :=
  inside_append prev [] tail

omit [WordChars α] in
lemma inside_of_lt {prev : Option α} {s tail : List α} (h : s.length < tail.length) :
    inside tail (prev, s) = none := if_neg (Nat.not_le.mpr h)

omit [WordChars α] in
/-- An end within the prefix leaves a part of the prefix and the tail. -/
lemma eq_append_of_inside {u tail m : List α} {e d : Option α × List α}
    (hs : u ++ tail = m ++ e.2) (h : inside tail e = some d) : e = (d.1, d.2 ++ tail) := by
  have hle : tail.length ≤ e.2.length := by
    unfold inside at h
    split_ifs at h with hle
    exact hle
  obtain ⟨v, hv⟩ : ∃ v, e.2 = v ++ tail := by
    rcases List.append_eq_append_iff.mp hs with ⟨v, -, hv⟩ | ⟨v, -, hv⟩
    · have hlen := congrArg List.length hv
      rw [List.length_append] at hlen
      obtain rfl : v = [] := List.length_eq_zero_iff.mp (by omega)
      exact ⟨[], hv.symm⟩
    · exact ⟨v, hv⟩
  have heq : e = (e.1, v ++ tail) := Prod.ext rfl hv
  rw [heq, inside_append] at h
  cases h
  exact heq

/-- What an end comes from is at least as long as what it leaves. -/
lemma length_le_of_mem_ends {r : Regex α} (hr : r.plain = true) {prev : Option α} {s : List α}
    {e : Option α × List α} (he : e ∈ ends r prev s) : e.2.length ≤ s.length := by
  obtain ⟨m, rfl, -, -⟩ := (mem_ends_iff hr).mp he
  simp

omit [WordChars α] in
lemma filterMap_inside_of_lt {tail s : List α} (h : s.length < tail.length)
    {l : List (Option α × List α)} (hl : ∀ e ∈ l, e.2.length ≤ s.length) :
    l.filterMap (inside tail) = [] := by
  rw [List.filterMap_eq_nil_iff]
  exact fun e he => if_neg (Nat.not_le.mpr (Nat.lt_of_le_of_lt (hl e he) h))

omit [WordChars α] in
/-- Ends beyond the prefix drop out of a sequence. -/
lemma filterMap_flatMap_inside {tail : List α} {f : Option α × List α → List (Option α × List α)}
    {g : Option α × List α → List (Option α × List α)} {l : List (Option α × List α)}
    (hsome : ∀ e ∈ l, ∀ d, inside tail e = some d → (f e).filterMap (inside tail) = g d)
    (hnone : ∀ e ∈ l, inside tail e = none → (f e).filterMap (inside tail) = []) :
    (l.flatMap f).filterMap (inside tail) = (l.filterMap (inside tail)).flatMap g := by
  induction l with
  | nil => rfl
  | cons e l ih =>
      have hrest := ih (fun x hx => hsome x (List.mem_cons_of_mem _ hx))
        (fun x hx => hnone x (List.mem_cons_of_mem _ hx))
      rw [List.flatMap_cons, List.filterMap_append, hrest]
      cases he : inside tail e with
      | none => rw [hnone e List.mem_cons_self he, List.filterMap_cons_none he, List.nil_append]
      | some d =>
          rw [hsome e List.mem_cons_self d he, List.filterMap_cons_some he, List.flatMap_cons]

omit [WordChars α] in
lemma mem_repEnds_length {p : α → Bool} {n : ℕ} {prev : Option α} {s : List α}
    {e : Option α × List α} (he : e ∈ repEnds p n prev s) : e.2.length ≤ s.length := by
  obtain ⟨m, rfl, -, -⟩ := mem_repEnds_iff.mp he
  simp

omit [WordChars α] in
/-- A repetition that must not leave the empty prefix. -/
lemma inside_repEnds_nil (p : α → Bool) (n : ℕ) (prev : Option α) (tail : List α) :
    (repEnds p n prev tail).filterMap (inside tail) = if n = 0 then [(prev, [])] else [] := by
  cases tail with
  | nil =>
      cases n with
      | zero => rfl
      | succ n => rfl
  | cons c s =>
      have hlater : ∀ k, (repEnds p k (some c) s).filterMap (inside (c :: s)) = [] := fun k =>
        filterMap_inside_of_lt (by simp) fun e he => mem_repEnds_length he
      cases n with
      | zero =>
          rw [if_pos rfl]
          simp only [repEnds]
          split_ifs
          · rw [List.filterMap_append, hlater, List.nil_append,
              List.filterMap_cons_some (inside_self _ _), List.filterMap_nil]
          · rw [List.filterMap_cons_some (inside_self _ _), List.filterMap_nil]
      | succ n =>
          rw [if_neg (Nat.succ_ne_zero n)]
          simp only [repEnds]
          by_cases hc : p c = true
          · rw [if_pos hc, hlater]
          · rw [if_neg hc, List.filterMap_nil]

omit [WordChars α] in
lemma inside_repEnds (p : α → Bool) (u tail tail' : List α) : ∀ (n : ℕ) (prev : Option α),
    (repEnds p n prev (u ++ tail)).filterMap (inside tail)
      = (repEnds p n prev (u ++ tail')).filterMap (inside tail') := by
  induction u with
  | nil =>
      intro n prev
      rw [List.nil_append, List.nil_append, inside_repEnds_nil, inside_repEnds_nil]
  | cons c u ih =>
      intro n prev
      have hhere : ∀ t : List α, ([(prev, c :: (u ++ t))] : List (Option α × List α)).filterMap
          (inside t) = [(prev, c :: u)] := fun t => by
        rw [← List.cons_append, List.filterMap_cons_some (inside_append prev (c :: u) t),
          List.filterMap_nil]
      cases n with
      | zero =>
          simp only [List.cons_append, repEnds]
          split_ifs
          · rw [List.filterMap_append, List.filterMap_append, hhere, hhere, ih]
          · rw [hhere, hhere]
      | succ n =>
          simp only [List.cons_append, repEnds]
          split_ifs
          · exact ih n (some c)
          · rfl

/-- **The matches that end within a prefix do not depend on what follows it**, but for whether it
begins with a word character, and neither does their order. -/
theorem inside_ends {r : Regex α} (hr : r.plain = true) {tail tail' : List α}
    (hhead : isWordAt tail.head? = isWordAt tail'.head?) : ∀ (prev : Option α) (u : List α),
    (ends r prev (u ++ tail)).filterMap (inside tail)
      = (ends r prev (u ++ tail')).filterMap (inside tail') := by
  induction r with
  | eps =>
      intro prev u
      simp only [ends, List.filterMap_cons_some (inside_append prev u _), List.filterMap_nil]
  | set p =>
      intro prev u
      cases u with
      | nil =>
          have hbeyond : ∀ t : List α, (ends (set p) prev t).filterMap (inside t) = [] := by
            intro t
            cases t with
            | nil => rfl
            | cons c t =>
                simp only [ends]
                split_ifs
                · rw [List.filterMap_cons_none (inside_of_lt (by simp)), List.filterMap_nil]
                · rfl
          rw [List.nil_append, List.nil_append, hbeyond, hbeyond]
      | cons c u =>
          simp only [List.cons_append, ends]
          split_ifs
          · simp only [List.filterMap_cons_some (inside_append (some c) u _), List.filterMap_nil]
          · rfl
  | rep p n => exact fun prev u => inside_repEnds p u tail tail' n prev
  | edge =>
      intro prev u
      have hsame : isEdge prev (u ++ tail).head? = isEdge prev (u ++ tail').head? := by
        cases u with
        | nil =>
            rw [List.nil_append, List.nil_append, isEdge, isEdge, hhead]
        | cons c u => rfl
      simp only [ends, hsame]
      split_ifs
      · simp only [List.filterMap_cons_some (inside_append prev u _), List.filterMap_nil]
      · rfl
  | seq r t ihr iht =>
      simp only [plain, Bool.and_eq_true] at hr
      intro prev u
      have hseq : ∀ tl : List α, (ends (seq r t) prev (u ++ tl)).filterMap (inside tl)
          = ((ends r prev (u ++ tl)).filterMap (inside tl)).flatMap
              fun d => (ends t d.1 (d.2 ++ tl)).filterMap (inside tl) := by
        intro tl
        refine filterMap_flatMap_inside ?_ ?_
        · intro e he d hd
          obtain ⟨m, hs, -, -⟩ := (mem_ends_iff hr.1).mp he
          rw [eq_append_of_inside hs hd]
        · rintro ⟨p, s⟩ he hd
          unfold inside at hd
          split_ifs at hd with hle
          exact filterMap_inside_of_lt (Nat.not_le.mp hle)
            fun e he => length_le_of_mem_ends hr.2 he
      rw [hseq, hseq, ihr hr.1]
      congr 1
      funext d
      exact iht hr.2 d.1 d.2
  | alt r t ihr iht =>
      simp only [plain, Bool.and_eq_true] at hr
      intro prev u
      simp only [ends, List.filterMap_append, ihr hr.1, iht hr.2]
  | notAhead r ih => cases hr

/-- The match that is taken is the same when, before either of two continuations, it ends within
the prefix or there is none. -/
theorem first_inside {r : Regex α} (hr : r.plain = true) {tail tail' : List α}
    (hhead : isWordAt tail.head? = isWordAt tail'.head?) {prev p p' : Option α} {u v v' : List α}
    (h : first r prev (u ++ tail) = some (p, v ++ tail))
    (h' : first r prev (u ++ tail') = some (p', v' ++ tail')) : p = p' ∧ v = v' := by
  have hfirst : ∀ {q : Option α} {w t : List α}, first r prev (u ++ t) = some (q, w ++ t) →
      ((ends r prev (u ++ t)).filterMap (inside t)).head? = some (q, w) := by
    intro q w t ht
    obtain ⟨l, hl⟩ := List.head?_eq_some_iff.mp ht
    rw [hl, List.filterMap_cons_some (inside_append q w t)]
    rfl
  have heq := inside_ends hr hhead prev u
  have hsome := (hfirst h).symm.trans ((congrArg List.head? heq).trans (hfirst h'))
  cases hsome
  exact ⟨rfl, rfl⟩

end Inside

end Regex

end Core
