import Watchtower.Core.Folding
import Watchtower.Notifier.Sanitize

/-!
# Folded text

What `" ".join(text.split())` makes of a text.

* `Tidy` — words with one blank between any two of them.
* **`tidy_foldSpace`**, **`Tidy.foldSpace_eq`** — folded text is tidy, and folding leaves tidy text
  as it is.
* **`exists_expands`**, **`Tidy.foldSpace_of_expands`** — a text is its folded one with more white
  space, and that is the only tidy text it comes from.
-/

namespace Watchtower

open Core Py

/-- Words with one blank between any two of them. -/
inductive Tidy : PyStr → Prop
  | nil : Tidy []
  | cons {c : PyChar} {s : PyStr} (hc : isSpace c = false) (rest : Tidy s) : Tidy (c :: s)
  | gap {c : PyChar} {s : PyStr} (hc : isSpace c = false) (hne : s ≠ []) (rest : Tidy s) :
      Tidy (c :: ofChar ' ' :: s)

/-! ## Folding step by step -/

lemma foldSpace_space {c : PyChar} (h : isSpace c = true) (s : PyStr) :
    foldSpace (c :: s) = foldSpace s := by
  rw [foldSpace, splitWords, if_pos h, foldSpace]

lemma splitWords_ne_nil {c : PyChar} (h : isSpace c = false) (s : PyStr) :
    splitWords (c :: s) ≠ [] := by
  rw [splitWords, if_neg (by rw [h]; decide)]
  split
  · split_ifs
    · exact List.cons_ne_nil _ _
    · exact List.cons_ne_nil _ _
  · exact List.cons_ne_nil _ _

lemma ne_nil_of_mem_splitWords {s w : PyStr} (h : w ∈ splitWords s) : w ≠ [] := by
  induction s with
  | nil => cases h
  | cons c s ih =>
      rw [splitWords] at h
      split_ifs at h
      · exact ih h
      · split at h
        · rename_i hws
          rw [hws] at ih
          split_ifs at h
          · rcases List.mem_cons.mp h with rfl | h
            · exact List.cons_ne_nil _ _
            · exact ih h
          · rcases List.mem_cons.mp h with rfl | h
            · exact List.cons_ne_nil _ _
            · exact ih (List.mem_cons_of_mem _ h)
        · rcases List.mem_cons.mp h with rfl | h
          · exact List.cons_ne_nil _ _
          · exact ih h

lemma foldSpace_eq_nil_iff {s : PyStr} : foldSpace s = [] ↔ splitWords s = [] := by
  constructor
  · intro h
    by_contra hne
    obtain ⟨w, ws, hws⟩ := List.exists_cons_of_ne_nil hne
    have hw : w ≠ [] := ne_nil_of_mem_splitWords (s := s) (by rw [hws]; exact List.mem_cons_self)
    rw [foldSpace, hws] at h
    cases ws with
    | nil => exact hw (by simpa using h)
    | cons w' ws =>
        rw [List.intercalate_cons_cons, List.append_assoc] at h
        exact hw (List.append_eq_nil_iff.mp h).1
  · intro h
    rw [foldSpace, h]
    rfl

lemma foldSpace_single {c : PyChar} (hc : isSpace c = false) : foldSpace [c] = [c] := by
  rw [foldSpace, splitWords, if_neg (by rw [hc]; decide)]
  rfl

lemma foldSpace_word {c d : PyChar} (hc : isSpace c = false) (hd : isSpace d = false) (s : PyStr) :
    foldSpace (c :: d :: s) = c :: foldSpace (d :: s) := by
  obtain ⟨w, ws, hws⟩ := List.exists_cons_of_ne_nil (splitWords_ne_nil hd s)
  have hsplit : splitWords (c :: d :: s) = (c :: w) :: ws := by
    rw [splitWords, if_neg (by rw [hc]; decide), hws]
    simp only [List.head?_cons, hd, Bool.false_eq_true, if_false]
  rw [foldSpace, foldSpace, hsplit, hws]
  cases ws with
  | nil => rfl
  | cons w' ws => rw [List.intercalate_cons_cons, List.intercalate_cons_cons, List.cons_append,
      List.cons_append]

lemma foldSpace_gap {c d : PyChar} (hc : isSpace c = false) (hd : isSpace d = true) (s : PyStr) :
    foldSpace (c :: d :: s)
      = c :: if foldSpace (d :: s) = [] then [] else ofChar ' ' :: foldSpace (d :: s) := by
  rcases eq_or_ne (splitWords (d :: s)) [] with hnone | hsome
  · rw [if_pos (foldSpace_eq_nil_iff.mpr hnone), foldSpace, splitWords,
      if_neg (by rw [hc]; decide), hnone]
    rfl
  · rw [if_neg (fun hnil => hsome (foldSpace_eq_nil_iff.mp hnil))]
    obtain ⟨w, ws, hws⟩ := List.exists_cons_of_ne_nil hsome
    have hsplit : splitWords (c :: d :: s) = [c] :: w :: ws := by
      rw [splitWords, if_neg (by rw [hc]; decide), hws]
      simp only [List.head?_cons, hd, if_true]
    rw [foldSpace, foldSpace, hsplit, hws, List.intercalate_cons_cons]
    rfl

/-! ## Tidy text -/

lemma Tidy.isSpace_head {c : PyChar} {s : PyStr} (h : Tidy (c :: s)) : isSpace c = false := by
  cases h with
  | cons hc rest => exact hc
  | gap hc hne rest => exact hc

/-- Folded text is tidy. -/
lemma tidy_foldSpace (s : PyStr) : Tidy (foldSpace s) := by
  induction s with
  | nil => exact .nil
  | cons c s ih =>
      cases hc : isSpace c with
      | true =>
          rw [foldSpace_space hc]
          exact ih
      | false =>
          cases s with
          | nil =>
              rw [foldSpace_single hc]
              exact .cons hc .nil
          | cons d s =>
              cases hd : isSpace d with
              | true =>
                  rw [foldSpace_gap hc hd]
                  split_ifs with hnil
                  · exact .cons hc .nil
                  · exact .gap hc hnil ih
              | false =>
                  rw [foldSpace_word hc hd]
                  exact .cons hc ih

/-- Folding leaves tidy text as it is. -/
lemma Tidy.foldSpace_eq {s : PyStr} (h : Tidy s) : foldSpace s = s := by
  induction h with
  | nil => rfl
  | @cons c s hc rest ih =>
      cases s with
      | nil => exact foldSpace_single hc
      | cons d s => rw [foldSpace_word hc rest.isSpace_head, ih]
  | @gap c s hc hne rest ih =>
      rw [foldSpace_gap hc (by decide), foldSpace_space (by decide), ih, if_neg hne]

/-- Text that is cut stays tidy when a visible character is put at its end. -/
lemma Tidy.take_append {s : PyStr} (h : Tidy s) {e : PyChar} (he : isSpace e = false) (n : ℕ) :
    Tidy (s.take n ++ [e]) := by
  induction h generalizing n with
  | nil =>
      rw [List.take_nil]
      exact .cons he .nil
  | cons hc rest ih =>
      cases n with
      | zero => exact .cons he .nil
      | succ n => exact .cons hc (ih n)
  | gap hc hne rest ih =>
      match n with
      | 0 => exact .cons he .nil
      | 1 => exact .cons hc (.cons he .nil)
      | n + 2 => exact .gap hc (by simp) (ih n)

/-- **The text is the folded one**, with runs of white space in place of the blanks and around
it. -/
theorem exists_expands (s : PyStr) : ∃ lead body trail, s = lead ++ (body ++ trail) ∧
    Expands isSpace (foldSpace s) body ∧ (∀ c ∈ lead, isSpace c = true) ∧
    ∀ c ∈ trail, isSpace c = true := by
  induction s with
  | nil => exact ⟨[], [], [], rfl, .nil, by simp, by simp⟩
  | cons c s ih =>
      obtain ⟨lead, body, trail, hs, hbody, hlead, htrail⟩ := ih
      cases hc : isSpace c with
      | true =>
          rw [foldSpace_space hc]
          exact ⟨c :: lead, body, trail, by rw [hs, List.cons_append], hbody,
            List.forall_mem_cons.mpr ⟨hc, hlead⟩, htrail⟩
      | false =>
          cases s with
          | nil =>
              rw [foldSpace_single hc]
              exact ⟨[], [c], [], rfl, .keep hc .nil, by simp, by simp⟩
          | cons d s =>
              cases hd : isSpace d with
              | false =>
                  have hnil : lead = [] := by
                    cases lead with
                    | nil => rfl
                    | cons x lead =>
                        obtain ⟨rfl, -⟩ := List.cons_eq_cons.mp hs
                        rw [hlead d List.mem_cons_self] at hd
                        cases hd
                  rw [foldSpace_word hc hd]
                  refine ⟨[], c :: body, trail, ?_, .keep hc hbody, by simp, htrail⟩
                  rw [hs, hnil]
                  rfl
              | true =>
                  rw [foldSpace_gap hc hd]
                  split_ifs with hnil
                  · -- nothing but white space is left
                    rw [hnil] at hbody
                    cases hbody
                    refine ⟨[], [c], lead ++ trail, by rw [hs]; rfl, .keep hc .nil, by simp, ?_⟩
                    exact List.forall_mem_append.mpr ⟨hlead, htrail⟩
                  · have hne : lead ≠ [] := by
                      rintro rfl
                      obtain ⟨e, t, ht⟩ := List.exists_cons_of_ne_nil hnil
                      have hword : isSpace e = false := (ht ▸ tidy_foldSpace (d :: s)).isSpace_head
                      rw [ht] at hbody
                      cases hbody with
                      | keep he rest =>
                          obtain ⟨rfl, -⟩ := List.cons_eq_cons.mp hs
                          rw [hword] at hd
                          cases hd
                      | run he hrun hall rest =>
                          rw [hword] at he
                          cases he
                    refine ⟨[], c :: (lead ++ body), trail, ?_,
                      .keep hc (.run (by decide) hne hlead hbody), by simp, htrail⟩
                    rw [hs, List.nil_append, List.cons_append, List.append_assoc]

lemma foldSpace_eq_nil {s : PyStr} : foldSpace s = [] ↔ ∀ c ∈ s, isSpace c = true := by
  constructor
  · intro h
    obtain ⟨lead, body, trail, rfl, hbody, hlead, htrail⟩ := exists_expands s
    rw [h] at hbody
    cases hbody
    exact List.forall_mem_append.mpr ⟨hlead, htrail⟩
  · intro h
    induction s with
    | nil => rfl
    | cons c s ih =>
        rw [List.forall_mem_cons] at h
        rw [foldSpace_space h.1, ih h.2]

lemma Tidy.mem {s : PyStr} (h : Tidy s) {c : PyChar} (hc : c ∈ s) :
    isSpace c = false ∨ c = ofChar ' ' := by
  induction h with
  | nil => cases hc
  | cons hd rest ih =>
      rcases List.mem_cons.mp hc with rfl | hc
      · exact .inl hd
      · exact ih hc
  | gap hd hne rest ih =>
      rcases List.mem_cons.mp hc with rfl | hc
      · exact .inl hd
      · rcases List.mem_cons.mp hc with rfl | hc
        · exact .inr rfl
        · exact ih hc

/-- Folding writes blanks and what was there. -/
lemma mem_foldSpace {s : PyStr} {c : PyChar} (h : c ∈ foldSpace s) : c = ofChar ' ' ∨ c ∈ s := by
  rcases (tidy_foldSpace s).mem h with hkept | hblank
  · obtain ⟨lead, body, trail, rfl, hbody, -, -⟩ := exists_expands s
    exact .inr (List.mem_append_right _ (List.mem_append_left _ (hbody.mem h hkept)))
  · exact .inl hblank

/-- A visible character stays, behind what the folding makes of the text before it, which is no
longer for that, and shorter if that begins with white space. -/
lemma exists_foldSpace (u v : PyStr) : ∃ l m, l.length ≤ u.length ∧
    (∀ d ∈ u.head?, isSpace d = true → l.length < u.length) ∧
    ∀ c, isSpace c = false → foldSpace (u ++ c :: v) = l ++ c :: m := by
  induction u with
  | nil =>
      cases v with
      | nil => exact ⟨[], [], Nat.le_refl _, by simp, fun c hc => foldSpace_single hc⟩
      | cons d v =>
          cases hd : isSpace d with
          | false =>
              exact ⟨[], foldSpace (d :: v), Nat.le_refl _, by simp, fun c hc =>
                foldSpace_word hc hd v⟩
          | true => exact ⟨[], _, Nat.le_refl _, by simp, fun c hc => foldSpace_gap hc hd v⟩
  | cons x u ih =>
      obtain ⟨l, m, hle, hlt, hfold⟩ := ih
      cases hx : isSpace x with
      | true =>
          refine ⟨l, m, hle.trans (Nat.le_succ _), fun _ _ _ => Nat.lt_succ_of_le hle,
            fun c hc => ?_⟩
          rw [List.cons_append, foldSpace_space hx, hfold c hc]
      | false =>
          have hhead : ∀ n : ℕ, ∀ d ∈ (x :: u).head?, isSpace d = true → n < (x :: u).length := by
            intro n d hd hspace
            rw [← Option.some.inj hd, hx] at hspace
            cases hspace
          cases u with
          | nil =>
              refine ⟨x :: l, m, Nat.succ_le_succ hle, hhead _, fun c hc => ?_⟩
              rw [List.singleton_append, foldSpace_word hx hc, List.cons_append, ← hfold c hc]
              rfl
          | cons y u =>
              cases hy : isSpace y with
              | false =>
                  refine ⟨x :: l, m, Nat.succ_le_succ hle, hhead _, fun c hc => ?_⟩
                  rw [List.cons_append, List.cons_append, foldSpace_word hx hy, List.cons_append,
                    ← hfold c hc, List.cons_append]
              | true =>
                  have hshort := hlt y rfl hy
                  refine ⟨x :: ofChar ' ' :: l, m, Nat.succ_le_succ hshort, hhead _, fun c hc => ?_⟩
                  have hrest := hfold c hc
                  rw [List.cons_append] at hrest
                  rw [List.cons_append, List.cons_append, foldSpace_gap hx hy, hrest,
                    if_neg (by simp)]
                  rfl

/-! ## Back from folded text -/

lemma foldSpace_blank_append {lead : PyStr} (h : ∀ c ∈ lead, isSpace c = true) (s : PyStr) :
    foldSpace (lead ++ s) = foldSpace s := by
  induction lead with
  | nil => rfl
  | cons c lead ih =>
      rw [List.forall_mem_cons] at h
      rw [List.cons_append, foldSpace_space h.1, ih h.2]

/-- What a tidy text comes from is folded into it. -/
lemma Tidy.foldSpace_of_expands {s t : PyStr} (hs : Tidy s) (h : Expands isSpace s t) :
    foldSpace t = s := by
  induction hs generalizing t with
  | nil =>
      cases h
      rfl
  | @cons c s hc rest ih =>
      cases h with
      | @keep _ _ t _ hexpands =>
          cases s with
          | nil =>
              cases hexpands
              exact foldSpace_single hc
          | cons d s =>
              have hfold := ih hexpands
              cases hexpands with
              | keep hd _ => rw [foldSpace_word hc hd, hfold]
              | run hd _ _ _ =>
                  rw [rest.isSpace_head] at hd
                  cases hd
      | run hrun _ _ _ =>
          rw [hc] at hrun
          cases hrun
  | @gap c s hc hne rest ih =>
      cases h with
      | @keep _ _ t _ hexpands =>
          cases hexpands with
          | keep hblank _ => exact absurd hblank (by decide)
          | @run _ _ run t _ hsome hrun hexpands =>
              obtain ⟨d, run, rfl⟩ := List.exists_cons_of_ne_nil hsome
              have hfold : foldSpace (d :: run ++ t) = s :=
                (foldSpace_blank_append hrun t).trans (ih hexpands)
              rw [List.cons_append] at hfold ⊢
              rw [foldSpace_gap hc (hrun d List.mem_cons_self), hfold, if_neg hne]
      | run hrun _ _ _ =>
          rw [hc] at hrun
          cases hrun

/-- Two blanks do not stand side by side. -/
lemma Tidy.not_double {s : PyStr} (h : Tidy s) {u v : PyStr} {c d : PyChar} (hs : s = u ++ c :: d :: v)
    (hc : isSpace c = true) : isSpace d = false := by
  induction h generalizing u with
  | nil => simp at hs
  | cons hx rest ih =>
      cases u with
      | nil =>
          obtain ⟨rfl, -⟩ := List.cons_eq_cons.mp hs
          rw [hx] at hc
          cases hc
      | cons y u => exact ih (List.cons_eq_cons.mp hs).2
  | gap hx hne rest ih =>
      match u with
      | [] =>
          obtain ⟨rfl, -⟩ := List.cons_eq_cons.mp hs
          rw [hx] at hc
          cases hc
      | [y] =>
          obtain ⟨-, hs⟩ := List.cons_eq_cons.mp hs
          obtain ⟨-, rfl⟩ := List.cons_eq_cons.mp hs
          exact rest.isSpace_head
      | y :: z :: u => exact ih (List.cons_eq_cons.mp (List.cons_eq_cons.mp hs).2).2

/-- The beginning of tidy text, up to a visible character. -/
lemma Tidy.of_append {s t : PyStr} {e : PyChar} (h : Tidy (s ++ e :: t)) (he : isSpace e = false) :
    Tidy (s ++ [e]) := by
  simpa using h.take_append he s.length

/-- A visible character is not in the white space before a text. -/
lemma exists_of_lead {lead s u v : PyStr} {c : PyChar} (hlead : ∀ d ∈ lead, isSpace d = true)
    (hc : isSpace c = false) (h : lead ++ s = u ++ c :: v) :
    ∃ u', u = lead ++ u' ∧ s = u' ++ c :: v := by
  rcases List.append_eq_append_iff.mp h with ⟨u', rfl, hs⟩ | ⟨w, rfl, hw⟩
  · exact ⟨u', rfl, hs⟩
  · cases w with
    | nil => exact ⟨[], by simp, hw.symm⟩
    | cons d w =>
        obtain ⟨rfl, -⟩ := List.cons_eq_cons.mp hw
        rw [hlead c (by simp)] at hc
        cases hc

/-- Nor is it in the white space after one. -/
lemma exists_of_trail {s trail u v : PyStr} {c : PyChar} (htrail : ∀ d ∈ trail, isSpace d = true)
    (hc : isSpace c = false) (h : s ++ trail = u ++ c :: v) :
    ∃ v', s = u ++ c :: v' ∧ v = v' ++ trail := by
  rcases List.append_eq_append_iff.mp h with ⟨w, rfl, hw⟩ | ⟨w, rfl, hw⟩
  · rw [htrail c (by rw [hw]; simp)] at hc
    cases hc
  · cases w with
    | nil =>
        rw [htrail c (by rw [← (show c :: v = trail from hw)]; exact List.mem_cons_self)] at hc
        cases hc
    | cons d w =>
        obtain ⟨rfl, rfl⟩ := List.cons_eq_cons.mp hw
        exact ⟨w, rfl, rfl⟩

lemma Tidy.suffix {u v : PyStr} {c : PyChar} (h : Tidy (u ++ c :: v)) (hc : isSpace c = false) :
    Tidy (c :: v) := by
  generalize hs : u ++ c :: v = s at h
  induction h generalizing u with
  | nil => simp at hs
  | cons hx rest ih =>
      cases u with
      | nil =>
          rw [show c :: v = _ from hs]
          exact .cons hx rest
      | cons y u => exact ih (List.cons_eq_cons.mp hs).2
  | gap hx hne rest ih =>
      match u with
      | [] =>
          rw [show c :: v = _ from hs]
          exact .gap hx hne rest
      | [y] =>
          obtain ⟨rfl, -⟩ := List.cons_eq_cons.mp (List.cons_eq_cons.mp hs).2
          exact absurd hc (by decide)
      | y :: z :: u => exact ih (List.cons_eq_cons.mp (List.cons_eq_cons.mp hs).2).2

end Watchtower
