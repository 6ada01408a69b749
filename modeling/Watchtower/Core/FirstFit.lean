import Mathlib.Data.List.Nodup

/-!
# First-fit pairing

The nested loop that pairs up two lists: for each left item in turn, every right item is tried in
turn, and a pair is taken when neither identifier has been taken before.

* `firstFit` — the loop, with the two sets of identifiers it carries along.
* **`sound_firstFit`** — the pairs are related items of the two lists, and no identifier is in two of
  them.
* **`firstFit_nil`** — without related items nothing is paired.
* **`firstFit_concat_left`**, **`firstFit_concat_right`** — when all related pairs involve the
  last item of one list, the whole rescan is one search: that item is paired with its first
  partner, and with nothing else.
-/

namespace Core

section FirstFit

variable {α β κ μ : Type*} [DecidableEq κ] [DecidableEq μ]
variable (keyL : α → κ) (keyR : β → μ) (rel : α → β → Bool)

/-- The pairs taken so far and the identifiers in use. -/
structure Pairing (α β κ μ : Type*) where
  pairs : List (α × β)
  usedL : List κ
  usedR : List μ

/-- The body of the nested loop. -/
def Pairing.tryPair (p : Pairing α β κ μ) (a : α) (b : β) : Pairing α β κ μ :=
  if keyL a ∉ p.usedL ∧ keyR b ∉ p.usedR ∧ rel a b then
    { pairs := p.pairs ++ [(a, b)], usedL := keyL a :: p.usedL, usedR := keyR b :: p.usedR }
  else p

/-- The inner loop. -/
def Pairing.scan (p : Pairing α β κ μ) (a : α) (bs : List β) : Pairing α β κ μ :=
  bs.foldl (fun p b => p.tryPair keyL keyR rel a b) p

/-- The nested loop. -/
def Pairing.scanAll (p : Pairing α β κ μ) (as : List α) (bs : List β) : Pairing α β κ μ :=
  as.foldl (fun p a => p.scan keyL keyR rel a bs) p

/-- Nothing taken yet. -/
def Pairing.empty : Pairing α β κ μ := { pairs := [], usedL := [], usedR := [] }

/-- The pairs the nested loop takes. -/
def firstFit (as : List α) (bs : List β) : List (α × β) :=
  (Pairing.scanAll keyL keyR rel .empty as bs).pairs

variable {keyL keyR rel}

namespace Pairing

variable (p : Pairing α β κ μ)

lemma tryPair_skip {a : α} {b : β} (h : keyL a ∈ p.usedL ∨ keyR b ∈ p.usedR ∨ rel a b = false) :
    p.tryPair keyL keyR rel a b = p := by
  rw [tryPair, if_neg]
  rintro ⟨hl, hr, hrel⟩
  rcases h with h | h | h
  · exact hl h
  · exact hr h
  · rw [h] at hrel
    cases hrel

/-- An inner loop in which no pair can be taken changes nothing. -/
lemma scan_skip {a : α} {bs : List β}
    (h : ∀ b ∈ bs, keyL a ∈ p.usedL ∨ keyR b ∈ p.usedR ∨ rel a b = false) :
    p.scan keyL keyR rel a bs = p := by
  induction bs with
  | nil => rfl
  | cons b bs ih =>
      have hb := p.tryPair_skip (h b List.mem_cons_self)
      rw [scan, List.foldl_cons, hb]
      exact ih fun c hc => h c (List.mem_cons_of_mem _ hc)

/-- The same for the nested loop. -/
lemma scanAll_skip {as : List α} {bs : List β}
    (h : ∀ a ∈ as, ∀ b ∈ bs, keyL a ∈ p.usedL ∨ keyR b ∈ p.usedR ∨ rel a b = false) :
    p.scanAll keyL keyR rel as bs = p := by
  induction as with
  | nil => rfl
  | cons a as ih =>
      have ha := p.scan_skip (h a List.mem_cons_self)
      rw [scanAll, List.foldl_cons, ha]
      exact ih fun c hc => h c (List.mem_cons_of_mem _ hc)

lemma scan_append (a : α) (bs cs : List β) :
    p.scan keyL keyR rel a (bs ++ cs) = (p.scan keyL keyR rel a bs).scan keyL keyR rel a cs := by
  simp only [scan, List.foldl_append]

lemma scanAll_append (as cs : List α) (bs : List β) :
    p.scanAll keyL keyR rel (as ++ cs) bs
      = (p.scanAll keyL keyR rel as bs).scanAll keyL keyR rel cs bs := by
  simp only [scanAll, List.foldl_append]

lemma empty_tryPair {a : α} {b : β} (h : rel a b = true) :
    empty.tryPair keyL keyR rel a b
      = { pairs := [(a, b)], usedL := [keyL a], usedR := [keyR b] } := by
  simp [tryPair, empty, h]

end Pairing

/-! ## What is paired -/

variable (keyL keyR rel)

/-- Pairs of related items, with no identifier taken twice. -/
structure SoundPairs (as : List α) (bs : List β) (pairs : List (α × β)) : Prop where
  mem : ∀ x ∈ pairs, x.1 ∈ as ∧ x.2 ∈ bs ∧ rel x.1 x.2 = true
  nodup_left : (pairs.map fun x => keyL x.1).Nodup
  nodup_right : (pairs.map fun x => keyR x.2).Nodup

/-- The same of the loop's state: an identifier is in use when it has been taken. -/
structure Pairing.Sound (as : List α) (bs : List β) (p : Pairing α β κ μ) : Prop where
  pairs : SoundPairs keyL keyR rel as bs p.pairs
  usedL : ∀ x ∈ p.pairs, keyL x.1 ∈ p.usedL
  usedR : ∀ x ∈ p.pairs, keyR x.2 ∈ p.usedR

variable {keyL keyR rel}

namespace Pairing

variable {as : List α} {bs : List β} {p : Pairing α β κ μ}

omit [DecidableEq κ] [DecidableEq μ] in
lemma sound_empty : (empty : Pairing α β κ μ).Sound keyL keyR rel as bs where
  pairs := ⟨by simp [empty], List.nodup_nil, List.nodup_nil⟩
  usedL := by simp [empty]
  usedR := by simp [empty]

lemma Sound.tryPair {a : α} {b : β} (h : p.Sound keyL keyR rel as bs) (ha : a ∈ as) (hb : b ∈ bs) :
    (p.tryPair keyL keyR rel a b).Sound keyL keyR rel as bs := by
  unfold Pairing.tryPair
  split_ifs with htake
  · obtain ⟨hl, hr, hrel⟩ := htake
    have hmem : ∀ {P : α × β → Prop}, (∀ x ∈ p.pairs, P x) → P (a, b) →
        ∀ x ∈ p.pairs ++ [(a, b)], P x :=
      fun hold hnew => List.forall_mem_append.mpr ⟨hold, List.forall_mem_singleton.mpr hnew⟩
    refine ⟨⟨hmem h.pairs.mem ⟨ha, hb, hrel⟩, ?_, ?_⟩, ?_, ?_⟩
    · rw [List.map_append, List.map_singleton, ← List.concat_eq_append, List.nodup_concat]
      refine ⟨fun hused => ?_, h.pairs.nodup_left⟩
      obtain ⟨x, hx, hkey⟩ := List.mem_map.mp hused
      exact hl (hkey ▸ h.usedL x hx)
    · rw [List.map_append, List.map_singleton, ← List.concat_eq_append, List.nodup_concat]
      refine ⟨fun hused => ?_, h.pairs.nodup_right⟩
      obtain ⟨x, hx, hkey⟩ := List.mem_map.mp hused
      exact hr (hkey ▸ h.usedR x hx)
    · exact hmem (fun x hx => List.mem_cons_of_mem _ (h.usedL x hx)) List.mem_cons_self
    · exact hmem (fun x hx => List.mem_cons_of_mem _ (h.usedR x hx)) List.mem_cons_self
  · exact h

lemma Sound.scan {a : α} {cs : List β} (h : p.Sound keyL keyR rel as bs) (ha : a ∈ as)
    (hcs : ∀ c ∈ cs, c ∈ bs) : (p.scan keyL keyR rel a cs).Sound keyL keyR rel as bs := by
  induction cs generalizing p with
  | nil => exact h
  | cons c cs ih =>
      exact ih (h.tryPair ha (hcs c List.mem_cons_self)) fun d hd => hcs d (List.mem_cons_of_mem _ hd)

lemma Sound.scanAll {ds : List α} (h : p.Sound keyL keyR rel as bs) (hds : ∀ d ∈ ds, d ∈ as) :
    (p.scanAll keyL keyR rel ds bs).Sound keyL keyR rel as bs := by
  induction ds generalizing p with
  | nil => exact h
  | cons d ds ih =>
      exact ih (h.scan (hds d List.mem_cons_self) fun _ hc => hc)
        fun e he => hds e (List.mem_cons_of_mem _ he)

end Pairing

/-- **What the nested loop takes**: related items of the two lists, no identifier twice. -/
theorem sound_firstFit (as : List α) (bs : List β) :
    SoundPairs keyL keyR rel as bs (firstFit keyL keyR rel as bs) :=
  (Pairing.sound_empty.scanAll fun _ hd => hd).pairs

/-! ## Searches -/

/-- **Without related items nothing is paired.** -/
theorem firstFit_nil {as : List α} {bs : List β} (h : ∀ a ∈ as, ∀ b ∈ bs, rel a b = false) :
    firstFit keyL keyR rel as bs = [] := by
  rw [firstFit, Pairing.scanAll_skip]
  · rfl
  · exact fun a ha b hb => Or.inr (Or.inr (h a ha b hb))

/-- One left item takes its first partner, and then no other: its own identifier is in use. -/
lemma scan_pairs (a : α) (bs : List β) :
    (Pairing.empty.scan keyL keyR rel a bs).pairs
      = ((bs.find? (rel a)).map fun b => (a, b)).toList := by
  induction bs with
  | nil => rfl
  | cons b bs ih =>
      rw [Pairing.scan, List.foldl_cons]
      cases hrel : rel a b with
      | false =>
          rw [Pairing.tryPair_skip _ (Or.inr (Or.inr hrel)),
            List.find?_cons_of_neg (by simp [hrel])]
          exact ih
      | true =>
          rw [Pairing.empty_tryPair hrel, List.find?_cons_of_pos hrel]
          show (Pairing.scan keyL keyR rel _ a bs).pairs = [(a, b)]
          rw [Pairing.scan_skip]
          exact fun c _ => Or.inl List.mem_cons_self

/-- **When all related pairs involve the last left item, the rescan is one search to the right.** -/
theorem firstFit_concat_left {as : List α} {a : α} {bs : List β}
    (h : ∀ c ∈ as, ∀ b ∈ bs, rel c b = false) :
    firstFit keyL keyR rel (as ++ [a]) bs = ((bs.find? (rel a)).map fun b => (a, b)).toList := by
  have hskip : Pairing.empty.scanAll keyL keyR rel as bs = .empty :=
    Pairing.scanAll_skip _ fun c hc b hb => Or.inr (Or.inr (h c hc b hb))
  rw [firstFit, Pairing.scanAll_append, hskip]
  exact scan_pairs a bs

/-- **When all related pairs involve the last right item, the rescan is one search to the left.** -/
theorem firstFit_concat_right {as : List α} {bs : List β} {b : β}
    (h : ∀ a ∈ as, ∀ c ∈ bs, rel a c = false) :
    firstFit keyL keyR rel as (bs ++ [b])
      = ((as.find? fun a => rel a b).map fun a => (a, b)).toList := by
  induction as with
  | nil => rfl
  | cons a as ih =>
      have hskip : Pairing.empty.scan keyL keyR rel a bs = .empty :=
        Pairing.scan_skip _ fun c hc => Or.inr (Or.inr (h a List.mem_cons_self c hc))
      have hscan : Pairing.empty.scan keyL keyR rel a (bs ++ [b])
          = Pairing.empty.tryPair keyL keyR rel a b := by
        rw [Pairing.scan_append, hskip]
        rfl
      rw [firstFit, Pairing.scanAll, List.foldl_cons, hscan]
      cases hrel : rel a b with
      | false =>
          rw [Pairing.tryPair_skip _ (Or.inr (Or.inr hrel)),
            List.find?_cons_of_neg (by simp [hrel])]
          exact ih fun c hc => h c (List.mem_cons_of_mem _ hc)
      | true =>
          rw [Pairing.empty_tryPair hrel, List.find?_cons, hrel]
          show (Pairing.scanAll keyL keyR rel _ as (bs ++ [b])).pairs = [(a, b)]
          rw [Pairing.scanAll_skip]
          intro c hc d hd
          rcases List.mem_append.mp hd with hd | hd
          · exact Or.inr (Or.inr (h c (List.mem_cons_of_mem _ hc) d hd))
          · -- the identifier of the last right item is in use by now
            rw [List.mem_singleton.mp hd]
            exact Or.inr (Or.inl List.mem_cons_self)

end FirstFit

end Core
