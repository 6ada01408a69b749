import Watchtower.Core.Regex

/-!
# Folding of blanks

A text in which every run of blanks has been folded into one, over any alphabet and any class of
blanks that are no word characters.

* `Expands` — the folded text and the one it comes from.
* `Regex.BlankFree` — an expression that reads blanks by the run only.
* **`Regex.Matches.expand`** — such an expression matches the text from which a match was folded.
* **`Regex.Occurs.of_expands`** — folding brings about no match of such an expression.
-/

namespace Core

variable {α : Type}

/-- The second text is the first one with a run of blanks in place of every blank. -/
inductive Expands (blank : α → Bool) : List α → List α → Prop
  | nil : Expands blank [] []
  | keep {c : α} {s t : List α} (hc : blank c = false) (rest : Expands blank s t) :
      Expands blank (c :: s) (c :: t)
  | run {c : α} {s run t : List α} (hc : blank c = true) (hne : run ≠ [])
      (hrun : ∀ d ∈ run, blank d = true) (rest : Expands blank s t) :
      Expands blank (c :: s) (run ++ t)

namespace Expands

variable {blank : α → Bool}

/-- A text in two parts comes from two parts. -/
lemma exists_append {s₁ s₂ t : List α} (h : Expands blank (s₁ ++ s₂) t) :
    ∃ t₁ t₂, t = t₁ ++ t₂ ∧ Expands blank s₁ t₁ ∧ Expands blank s₂ t₂ := by
  induction s₁ generalizing t with
  | nil => exact ⟨[], t, rfl, .nil, h⟩
  | cons c s₁ ih =>
      cases h with
      | keep hc rest =>
          obtain ⟨t₁, t₂, rfl, h₁, h₂⟩ := ih rest
          exact ⟨c :: t₁, t₂, rfl, .keep hc h₁, h₂⟩
      | run hc hne hrun rest =>
          obtain ⟨t₁, t₂, rfl, h₁, h₂⟩ := ih rest
          exact ⟨_, t₂, (List.append_assoc _ _ _).symm, .run hc hne hrun h₁, h₂⟩

/-- What is no blank stays. -/
lemma mem {s t : List α} (h : Expands blank s t) {c : α} (hc : c ∈ s) (hkept : blank c = false) :
    c ∈ t := by
  induction h with
  | nil => cases hc
  | keep hd rest ih =>
      rcases List.mem_cons.mp hc with rfl | hc
      · exact List.mem_cons_self
      · exact List.mem_cons_of_mem _ (ih hc)
  | run hd hne hrun rest ih =>
      rcases List.mem_cons.mp hc with rfl | hc
      · rw [hd] at hkept
        cases hkept
      · exact List.mem_append_right _ (ih hc)

lemma length_le {s t : List α} (h : Expands blank s t) : s.length ≤ t.length := by
  induction h with
  | nil => exact Nat.le_refl _
  | keep hc rest ih => exact Nat.succ_le_succ ih
  | run hc hne hrun rest ih =>
      have hpos := List.length_pos_iff.mpr hne
      rw [List.length_cons, List.length_append]
      omega

/-- What holds of all blanks and of everything in the folded text holds of what it comes from. -/
lemma forall_mem {s t : List α} (h : Expands blank s t) {p : α → Bool}
    (hblank : (∀ c, blank c = true → p c = true) ∨ ∀ c, blank c = true → p c = false)
    (hp : ∀ c ∈ s, p c = true) : ∀ c ∈ t, p c = true := by
  induction h with
  | nil => exact hp
  | @keep c s t hc rest ih =>
      intro d hd
      rcases List.mem_cons.mp hd with rfl | hd
      · exact hp _ List.mem_cons_self
      · exact ih (fun x hx => hp x (List.mem_cons_of_mem _ hx)) d hd
  | @run c s run t hc hne hrun rest ih =>
      have hall := hblank.resolve_right fun hnone => by
        have hfalse := hnone c hc
        rw [hp c List.mem_cons_self] at hfalse
        cases hfalse
      intro d hd
      rcases List.mem_append.mp hd with hd | hd
      · exact hall d (hrun d hd)
      · exact ih (fun x hx => hp x (List.mem_cons_of_mem _ hx)) d hd

lemma append {s₁ s₂ t₁ t₂ : List α} (h₁ : Expands blank s₁ t₁) (h₂ : Expands blank s₂ t₂) :
    Expands blank (s₁ ++ s₂) (t₁ ++ t₂) := by
  induction h₁ with
  | nil => exact h₂
  | keep hc rest ih => exact .keep hc ih
  | run hc hne hrun rest ih =>
      rw [List.append_assoc]
      exact .run hc hne hrun ih

/-- A word comes from itself. -/
lemma eq_of_word {w t : List α} (h : Expands blank w t) (hw : ∀ c ∈ w, blank c = false) : t = w := by
  induction h with
  | nil => rfl
  | keep hc rest ih => rw [ih fun c hc => hw c (List.mem_cons_of_mem _ hc)]
  | run hc hne hrun rest ih =>
      rw [hw _ List.mem_cons_self] at hc
      cases hc

lemma blank_head {c d : α} {s t : List α} (h : Expands blank (c :: s) (d :: t))
    (hd : blank d = true) : blank c = true := by
  generalize ht : d :: t = u at h
  cases h with
  | keep hc rest =>
      obtain ⟨rfl, -⟩ := List.cons_eq_cons.mp ht
      exact hd
  | run hc hne hrun rest => exact hc

lemma eq_nil {s : List α} (h : Expands blank s []) : s = [] :=
  List.eq_nil_of_length_eq_zero (Nat.le_zero.mp h.length_le)

/-- A character that is no blank divides both texts. -/
lemma exists_keep {s t₁ t₂ : List α} {c : α} (hc : blank c = false)
    (h : Expands blank s (t₁ ++ c :: t₂)) :
    ∃ s₁ s₂, s = s₁ ++ c :: s₂ ∧ Expands blank s₁ t₁ ∧ Expands blank s₂ t₂ := by
  generalize ht : t₁ ++ c :: t₂ = t at h
  induction h generalizing t₁ with
  | nil => simp at ht
  | @keep d s t hd rest ih =>
      cases t₁ with
      | nil =>
          obtain ⟨rfl, rfl⟩ := List.cons_eq_cons.mp ht
          exact ⟨[], s, rfl, .nil, rest⟩
      | cons e t₁ =>
          obtain ⟨rfl, ht'⟩ := List.cons_eq_cons.mp ht
          obtain ⟨s₁, s₂, rfl, h₁, h₂⟩ := ih ht'
          exact ⟨e :: s₁, s₂, rfl, .keep hd h₁, h₂⟩
  | @run d s run t hd hne hrun rest ih =>
      rcases List.append_eq_append_iff.mp ht with ⟨rest', rfl, hrest⟩ | ⟨t₁', rfl, hrest⟩
      · cases rest' with
        | nil =>
            obtain ⟨s₁, s₂, rfl, h₁, h₂⟩ := ih (show [] ++ c :: t₂ = t from hrest)
            have hfirst := Expands.run hd hne hrun h₁
            rw [List.append_nil, List.append_nil] at hfirst
            exact ⟨d :: s₁, s₂, rfl, hfirst, h₂⟩
        | cons e rest' =>
            -- the character would be one of the run
            obtain ⟨rfl, -⟩ := List.cons_eq_cons.mp hrest
            rw [hrun c (by simp)] at hc
            cases hc
      · obtain ⟨s₁, s₂, rfl, h₁, h₂⟩ := ih hrest.symm
        exact ⟨d :: s₁, s₂, rfl, .run hd hne hrun h₁, h₂⟩

/-- A word at the beginning is in both texts. -/
lemma exists_word {s w t : List α} (hw : ∀ c ∈ w, blank c = false) (h : Expands blank s (w ++ t)) :
    ∃ s', s = w ++ s' ∧ Expands blank s' t := by
  induction w generalizing s with
  | nil => exact ⟨s, rfl, h⟩
  | cons c w ih =>
      rw [List.forall_mem_cons] at hw
      have hfirst : Expands blank s ([] ++ c :: (w ++ t)) := h
      obtain ⟨s₁, s₂, rfl, h₁, h₂⟩ := exists_keep hw.1 hfirst
      obtain rfl := h₁.eq_nil
      obtain ⟨s', rfl, hs'⟩ := ih hw.2 h₂
      exact ⟨s', rfl, hs'⟩

end Expands

namespace Regex

variable [WordChars α] {blank : α → Bool}

/-- The expression reads blanks by the run only, so that the length of a run does not matter. -/
def BlankFree (blank : α → Bool) : Regex α → Prop
  | eps => True
  | set p => ∀ c, blank c = true → p c = false
  | rep p _ => (∀ c, blank c = true → p c = true) ∨ ∀ c, blank c = true → p c = false
  | edge => True
  | seq r t => BlankFree blank r ∧ BlankFree blank t
  | alt r t => BlankFree blank r ∧ BlankFree blank t
  | notAhead _ => False

/-- Blanks are no word characters, so a run of them is to an edge what one of them is. -/
lemma isWordAt_after (hblank : ∀ c, blank c = true → WordChars.isWord c = false) {s t : List α}
    (h : Expands blank s t) {prev prev' : Option α} (hprev : isWordAt prev = isWordAt prev') :
    isWordAt (after prev s) = isWordAt (after prev' t) := by
  induction h generalizing prev prev' with
  | nil => exact hprev
  | keep hc rest ih => exact ih rfl
  | @run c s run t hc hne hrun rest ih =>
      rw [after_append]
      refine ih ?_
      obtain ⟨d, hd, hafter⟩ := exists_after hne prev'
      rw [hafter]
      show WordChars.isWord c = WordChars.isWord d
      rw [hblank c hc, hblank d (hrun d hd)]

lemma isWordAt_head (hblank : ∀ c, blank c = true → WordChars.isWord c = false) {s t : List α}
    (h : Expands blank s t) {next next' : Option α} (hnext : isWordAt next = isWordAt next') :
    isWordAt (s.head?.or next) = isWordAt (t.head?.or next') := by
  cases h with
  | nil => exact hnext
  | keep hc rest => rfl
  | @run c s run t hc hne hrun rest =>
      obtain ⟨d, run, rfl⟩ := List.exists_cons_of_ne_nil hne
      show WordChars.isWord c = WordChars.isWord d
      rw [hblank c hc, hblank d (hrun d List.mem_cons_self)]

/-- **An expression that reads blanks by the run matches what a match was folded from.** -/
theorem Matches.expand (hblank : ∀ c, blank c = true → WordChars.isWord c = false) {r : Regex α}
    (hr : r.BlankFree blank) {prev prev' next next' : Option α} {m m' : List α}
    (h : Matches r prev m next) (hm : Expands blank m m')
    (hprev : isWordAt prev = isWordAt prev') (hnext : isWordAt next = isWordAt next') :
    Matches r prev' m' next' := by
  induction r generalizing prev prev' next next' m m' with
  | eps =>
      obtain rfl : m = [] := h
      cases hm
      exact rfl
  | set p =>
      obtain ⟨c, rfl, hc⟩ := h
      cases hm with
      | keep hkept rest =>
          cases rest
          exact ⟨c, rfl, hc⟩
      | run hrun hne hall rest =>
          rw [hr c hrun] at hc
          cases hc
  | rep p n => exact ⟨Nat.le_trans h.1 hm.length_le, hm.forall_mem hr h.2⟩
  | edge =>
      obtain ⟨rfl, hedge⟩ := h
      cases hm
      refine ⟨rfl, ?_⟩
      rwa [isEdge, ← hprev, ← hnext]
  | seq r t ihr iht =>
      obtain ⟨m₁, m₂, rfl, h₁, h₂⟩ := h
      obtain ⟨m₁', m₂', rfl, hm₁, hm₂⟩ := hm.exists_append
      exact ⟨m₁', m₂', rfl, ihr hr.1 h₁ hm₁ hprev (isWordAt_head hblank hm₂ hnext),
        iht hr.2 h₂ hm₂ (isWordAt_after hblank hm₁ hprev) hnext⟩
  | alt r t ihr iht =>
      rcases h with h | h
      · exact .inl (ihr hr.1 h hm hprev hnext)
      · exact .inr (iht hr.2 h hm hprev hnext)
  | notAhead r ih => cases h

/-- **Folding brings about no match**: what occurs in the folded text occurs in the one it comes
from, whatever blanks there are around it. -/
theorem Occurs.of_expands (hblank : ∀ c, blank c = true → WordChars.isWord c = false) {r : Regex α}
    (hr : r.BlankFree blank) {s t lead trail : List α} (h : Occurs r none s)
    (hst : Expands blank s t) (hlead : ∀ c ∈ lead, blank c = true)
    (htrail : ∀ c ∈ trail, blank c = true) : Occurs r none (lead ++ (t ++ trail)) := by
  have hafter : isWordAt (none : Option α) = isWordAt (after none lead) := by
    rcases eq_or_ne lead [] with rfl | hne
    · rfl
    · obtain ⟨c, hc, hlast⟩ := exists_after hne none
      rw [hlast]
      exact (hblank c (hlead c hc)).symm
  have hend : isWordAt (none : Option α) = isWordAt trail.head? := by
    cases trail with
    | nil => rfl
    | cons c trail => exact (hblank c (htrail c List.mem_cons_self)).symm
  obtain ⟨b, rest, rfl, m, rest, rfl, hm⟩ := h
  obtain ⟨b', t₂, rfl, hb, ht₂⟩ := hst.exists_append
  obtain ⟨m', rest', rfl, hm', hrest⟩ := ht₂.exists_append
  refine ⟨lead ++ b', m' ++ (rest' ++ trail), by simp only [List.append_assoc], m', rest' ++ trail,
    rfl, hm.expand hblank hr hm' ?_ ?_⟩
  · rw [after_append]
    exact isWordAt_after hblank hb hafter
  · have hhead := isWordAt_head hblank hrest hend
    rwa [Option.or_none, ← List.head?_append] at hhead

end Regex

end Core
