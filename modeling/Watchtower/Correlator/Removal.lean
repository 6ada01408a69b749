import Mathlib.Data.List.Perm.Subperm
import Watchtower.Correlator.Buffer

/-!
# Taking a pair out by value

`deque.remove` takes the first element that is equal.  A finding that was delivered twice is in the
deque twice, and then it is the older copy that goes.

* `HasCopy` — an older finding in the deque is equal.
* **`Ordered.exists_removed`** — what a removal takes out.
* `Lingers` — after the removal of a pair something is left that belongs together;
  **`unmatched_removePair_iff`** — nothing is left exactly when this is not so.
* **`not_hasCopy_api`**, **`not_hasCopy_code`** — copies with the same timestamp are paired before.
* `removePairs` — the removals of one pass; **`ids_removePairs_perm`** — what becomes of the ids;
  **`mem_removePairs_iff`** — a pair of copies stays.
-/

namespace Watchtower

open Core Py

variable [UnicodeData]

namespace Buffer

/-! ## Copies -/

/-- An older finding of the deque, not expired, is equal. -/
def HasCopy (window now : ℚ) (q : List Held) (x : Held) : Prop :=
  ∃ y ∈ q, y.fresh window now = true ∧ y.arrival < x.arrival ∧ y.finding.eq x.finding = true

/-- The API finding or the code finding of a pair is not taken out with it, its copy is, and the one
that stays is in scope with another one that does. -/
inductive Lingers (window now : ℚ) (b : Buffer) (a c : Held) : Prop
  | both (api : HasCopy window now b.api a) (code : HasCopy window now b.code c)
  | api (copy : HasCopy window now b.api a) (y : Held) (mem : y ∈ b.code)
      (fresh : y.fresh window now = true) (other : y ≠ c) (scope : inScope window a y = true)
  | code (copy : HasCopy window now b.code c) (x : Held) (mem : x ∈ b.api)
      (fresh : x.fresh window now = true) (other : x ≠ a) (scope : inScope window x c = true)

/-- `deque.remove(a)` takes `e` out of the deque: `a` itself, or a copy when there is one. -/
structure Removes (q : List Held) (a e : Held) : Prop where
  mem : e ∈ q
  itself_or_copy : e = a ∨ (e.arrival < a.arrival ∧ e.finding.eq a.finding = true)
  ne_of_copy : (∃ y ∈ q, y.arrival < a.arrival ∧ y.finding.eq a.finding = true) → e ≠ a
  perm : q.Perm (e :: q.eraseP fun y => y.same a)
  mem_iff : ∀ x, x ∈ q.eraseP (fun y => y.same a) ↔ x ∈ q ∧ x ≠ e

/-- It is `a` itself exactly when there is no copy. -/
lemma Removes.eq_iff {q : List Held} {a e : Held} (h : Removes q a e) :
    e = a ↔ ¬ ∃ y ∈ q, y.arrival < a.arrival ∧ y.finding.eq a.finding = true := by
  constructor
  · exact fun hea hcopy => h.ne_of_copy hcopy hea
  · intro hnone
    refine h.itself_or_copy.resolve_right fun hcopy => hnone ⟨e, h.mem, hcopy⟩

/-- **What a removal takes out.** -/
lemma Ordered.exists_removed {maxlen arrivals : ℕ} {q : List Held} (h : Ordered maxlen arrivals q)
    {a : Held} (ha : a ∈ q) : ∃ e, Removes q a e := by
  have hself : a.same a = true := by simp [Held.same]
  obtain ⟨e, before, after, hskip, hsame, hq, herase⟩ :=
    List.exists_of_eraseP (p := fun y => y.same a) ha hself
  have hsorted := h.sorted
  rw [hq] at hsorted
  obtain ⟨-, hafter, hbefore⟩ := List.pairwise_append.mp hsorted
  have hlater : ∀ y ∈ after, e.arrival < y.arrival := (List.pairwise_cons.mp hafter).1
  have hearlier : ∀ y ∈ before, y.arrival < e.arrival := fun y hy => hbefore y hy e (by simp)
  have hcases : e = a ∨ e.arrival < a.arrival := by
    rw [hq, List.mem_append, List.mem_cons] at ha
    rcases ha with hmem | rfl | hmem
    · exact absurd hself (hskip a hmem)
    · exact Or.inl rfl
    · exact Or.inr (hlater a hmem)
  refine ⟨e, by simp [hq], hcases.imp_right fun hlt => ⟨hlt, ?_⟩, ?_, ?_, fun x => ?_⟩
  · simp only [Held.same, Bool.or_eq_true, decide_eq_true_eq] at hsame
    exact hsame.resolve_left hlt.ne
  · rintro ⟨y, hy, hlt, heq⟩ rfl
    -- an older copy would have come first
    rw [hq, List.mem_append, List.mem_cons] at hy
    rcases hy with hmem | rfl | hmem
    · exact hskip y hmem (by simp [Held.same, heq])
    · exact lt_irrefl _ hlt
    · exact absurd (hlater y hmem) hlt.le.not_gt
  · rw [herase]
    conv_lhs => rw [hq]
    exact List.perm_middle
  · rw [herase, hq]
    simp only [List.mem_append, List.mem_cons]
    constructor
    · rintro (hx | hx)
      · exact ⟨Or.inl hx, fun hxe => absurd (hearlier x hx) (by rw [hxe]; exact lt_irrefl _)⟩
      · exact ⟨Or.inr (Or.inr hx), fun hxe => absurd (hlater x hx) (by rw [hxe]; exact lt_irrefl _)⟩
    · rintro ⟨hx | rfl | hx, hne⟩
      · exact Or.inl hx
      · exact absurd rfl hne
      · exact Or.inr hx

variable {cfg : CorrelatorSettings} {b : Buffer} {new : Held}

/-! ## The pair of an arrival -/

section Pair

variable {now : ℚ} {a c : Held}

/-- In the deques of the pass a copy is just an older finding that is equal. -/
lemma hasCopy_iff (h : Orderly cfg new.arrival b) {x : Held} :
    (HasCopy cfg.correlationWindowSecs now (b.add cfg new).api x ↔
        ∃ y ∈ ((b.add cfg new).findMatches cfg now).2.api, y.arrival < x.arrival ∧
          y.finding.eq x.finding = true) ∧
      (HasCopy cfg.correlationWindowSecs now (b.add cfg new).code x ↔
        ∃ y ∈ ((b.add cfg new).findMatches cfg now).2.code, y.arrival < x.arrival ∧
          y.finding.eq x.finding = true) := by
  simp only [HasCopy, (h.add new).mem_findMatches_iff.1, (h.add new).mem_findMatches_iff.2, and_assoc,
    and_self]

/-- **When a pair is taken out**: what belongs together after that involves one that has stayed in
place of its copy. -/
theorem unmatched_removePair_iff (h : Orderly cfg new.arrival b)
    (hunmatched : b.Unmatched cfg.correlationWindowSecs)
    (hpartner : PartnerOf cfg.correlationWindowSecs now b new a c) :
    (((b.add cfg new).findMatches cfg now).2.removePair a c).Unmatched cfg.correlationWindowSecs ↔
      ¬ Lingers cfg.correlationWindowSecs now (b.add cfg new) a c := by
  have horderly := (h.add new).findMatches now
  obtain ⟨ha, hc⟩ := mem_pass_of_partnerOf h hpartner
  obtain ⟨e, he⟩ := horderly.api.exists_removed ha
  obtain ⟨e', he'⟩ := horderly.code.exists_removed hc
  have hcopy : HasCopy cfg.correlationWindowSecs now (b.add cfg new).api a → e ≠ a :=
    fun h' => he.ne_of_copy ((hasCopy_iff h).1.mp h')
  have hcopy' : HasCopy cfg.correlationWindowSecs now (b.add cfg new).code c → e' ≠ c :=
    fun h' => he'.ne_of_copy ((hasCopy_iff h).2.mp h')
  simp only [Unmatched, removePair, he.mem_iff, he'.mem_iff]
  constructor
  · intro hnone hlingers
    have hclash : ∀ {x y : Held}, x ∈ ((b.add cfg new).findMatches cfg now).2.api → x ≠ e →
        y ∈ ((b.add cfg new).findMatches cfg now).2.code → y ≠ e' →
          inScope cfg.correlationWindowSecs x y ≠ true :=
      fun hx hxe hy hye => by simp [hnone _ ⟨hx, hxe⟩ _ ⟨hy, hye⟩]
    cases hlingers with
    | both hapi hcode =>
        exact hclash ha (hcopy hapi).symm hc (hcopy' hcode).symm hpartner.inScope
    | api hapi y hy hfresh hother hscope =>
        have hy := (h.add new).mem_findMatches_iff.2.mpr ⟨hy, hfresh⟩
        by_cases hye : y = e'
        · exact hclash ha (hcopy hapi).symm hc (fun hce => hother (hye.trans hce.symm))
            hpartner.inScope
        · exact hclash ha (hcopy hapi).symm hy hye hscope
    | code hcode x hx hfresh hother hscope =>
        have hx := (h.add new).mem_findMatches_iff.1.mpr ⟨hx, hfresh⟩
        by_cases hxe : x = e
        · exact hclash ha (fun hae => hother (hxe.trans hae.symm)) hc (hcopy' hcode).symm
            hpartner.inScope
        · exact hclash hx hxe hc (hcopy' hcode).symm hscope
  · rintro hnone x ⟨hx, hxe⟩ y ⟨hy, hye⟩
    by_contra hscope
    rw [Bool.not_eq_false] at hscope
    -- a member of the pair that is left has a copy
    have hapi : x = a → HasCopy cfg.correlationWindowSecs now (b.add cfg new).api a := by
      rintro rfl
      obtain ⟨hlt, heq⟩ := he.itself_or_copy.resolve_left (fun hea => hxe hea.symm)
      exact (hasCopy_iff h).1.mpr ⟨e, he.mem, hlt, heq⟩
    have hcode : y = c → HasCopy cfg.correlationWindowSecs now (b.add cfg new).code c := by
      rintro rfl
      obtain ⟨hlt, heq⟩ := he'.itself_or_copy.resolve_left (fun hec => hye hec.symm)
      exact (hasCopy_iff h).2.mpr ⟨e', he'.mem, hlt, heq⟩
    obtain ⟨hxmem, hxfresh⟩ := (h.add new).mem_findMatches_iff.1.mp hx
    obtain ⟨hymem, hyfresh⟩ := (h.add new).mem_findMatches_iff.2.mp hy
    have hpair : x = a ∨ y = c := by
      have hsource := horderly.api_source x hx
      have hsource' := horderly.code_source y hy
      rcases involves_new h hunmatched hx hy hscope with rfl | rfl
      · cases hpartner with
        | api c _ _ _ => exact Or.inl rfl
        | code a hnew _ _ => rw [hnew] at hsource; cases hsource
      · cases hpartner with
        | api c hnew _ _ => rw [hnew] at hsource'; cases hsource'
        | code a _ _ _ => exact Or.inr rfl
    rcases hpair with hxa | hyc
    · by_cases hyc : y = c
      · exact hnone (.both (hapi hxa) (hcode hyc))
      · exact hnone (.api (hapi hxa) y hymem hyfresh hyc (hxa ▸ hscope))
    · by_cases hxa : x = a
      · exact hnone (.both (hapi hxa) (hcode hyc))
      · exact hnone (.code (hcode hyc) x hxmem hxfresh hxa (hyc ▸ hscope))

/-- **An older API finding that is equal, with the same timestamp, would have been in the pair.** -/
theorem not_hasCopy_api (hunmatched : b.Unmatched cfg.correlationWindowSecs)
    (hpartner : PartnerOf cfg.correlationWindowSecs now b new a c)
    (hstamp : ∀ y ∈ (b.add cfg new).api, y.finding.eq a.finding = true →
      y.finding.timestamp = a.finding.timestamp) :
    ¬ HasCopy cfg.correlationWindowSecs now (b.add cfg new).api a := by
  rintro ⟨y, hy, hfresh, hlt, heq⟩
  have hscope : inScope cfg.correlationWindowSecs y c = true := by
    rw [inScope, findingsShareScope_congr_left heq (hstamp y hy heq)]
    exact hpartner.inScope
  cases hpartner with
  | api c _ _ hpartner =>
      rcases mem_add.1 hy with hold | ⟨rfl, -⟩
      · rw [hunmatched y hold c hpartner.mem] at hscope
        cases hscope
      · exact lt_irrefl _ hlt
  | code a hsource _ hpartner =>
      rcases mem_add.1 hy with hold | ⟨-, hsource'⟩
      · exact absurd (hpartner.earliest y hold hfresh hscope) hlt.not_ge
      · rw [hsource] at hsource'
        cases hsource'

/-- **An older code finding that is equal, with the same timestamp, would have been in the pair.** -/
theorem not_hasCopy_code (hunmatched : b.Unmatched cfg.correlationWindowSecs)
    (hpartner : PartnerOf cfg.correlationWindowSecs now b new a c)
    (hstamp : ∀ y ∈ (b.add cfg new).code, y.finding.eq c.finding = true →
      y.finding.timestamp = c.finding.timestamp) :
    ¬ HasCopy cfg.correlationWindowSecs now (b.add cfg new).code c := by
  rintro ⟨y, hy, hfresh, hlt, heq⟩
  have hscope : inScope cfg.correlationWindowSecs a y = true := by
    rw [inScope, findingsShareScope_congr_right heq (hstamp y hy heq)]
    exact hpartner.inScope
  cases hpartner with
  | api c hsource _ hpartner =>
      rcases mem_add.2 hy with hold | ⟨-, hsource'⟩
      · exact absurd (hpartner.earliest y hold hfresh hscope) hlt.not_ge
      · rw [hsource] at hsource'
        cases hsource'
  | code a _ _ hpartner =>
      rcases mem_add.2 hy with hold | ⟨rfl, -⟩
      · rw [hunmatched a hpartner.mem y hold] at hscope
        cases hscope
      · exact lt_irrefl _ hlt

end Pair

/-! ## The pairs of a pass -/

/-- The ids in a deque. -/
def ids (q : List Held) : List PyStr := q.map fun x => x.finding.id.val

/-- `deque.remove`, for one finding after the other. -/
def removeAll (q : List Held) (as : List Held) : List Held :=
  as.foldl (fun q a => q.eraseP fun y => y.same a) q

/-- The removals of a pass, one after the other. -/
def removePairs (b : Buffer) (pairs : List (Held × Held)) : Buffer :=
  pairs.foldl (fun b p => b.removePair p.1 p.2) b

lemma removePairs_eq (pairs : List (Held × Held)) (b : Buffer) :
    b.removePairs pairs = { api := removeAll b.api (pairs.map Prod.fst)
                            code := removeAll b.code (pairs.map Prod.snd) } := by
  induction pairs generalizing b with
  | nil => rfl
  | cons p pairs ih => exact ih (b.removePair p.1 p.2)

lemma removeAll_sublist (as q : List Held) : (removeAll q as).Sublist q := by
  induction as generalizing q with
  | nil => exact List.Sublist.refl _
  | cons a as ih => exact (ih _).trans List.eraseP_sublist

lemma removePairs_sublist (pairs : List (Held × Held)) (b : Buffer) :
    (b.removePairs pairs).api.Sublist b.api ∧ (b.removePairs pairs).code.Sublist b.code := by
  rw [removePairs_eq]
  exact ⟨removeAll_sublist _ _, removeAll_sublist _ _⟩

/-- A removal takes one id out of a deque, and leaves every finding with another one. -/
lemma Removes.ids {q : List Held} {a e : Held} (h : Removes q a e) :
    (ids q).Perm (a.finding.id.val :: ids (q.eraseP fun y => y.same a)) ∧
      ∀ x ∈ q, x.finding.id.val ≠ a.finding.id.val → x ∈ q.eraseP fun y => y.same a := by
  have hid : e.finding.id.val = a.finding.id.val := by
    rcases h.itself_or_copy with rfl | ⟨-, heq⟩
    · rfl
    · rw [id_of_eq heq]
  refine ⟨?_, fun x hx hne => (h.mem_iff x).mpr ⟨hx, fun hxe => hne (hxe ▸ hid)⟩⟩
  have hperm := h.perm.map fun x : Held => x.finding.id.val
  rwa [List.map_cons, hid] at hperm

/-- Findings of a deque, with different ids, are to be removed from it. -/
structure ToRemove (maxlen arrivals : ℕ) (q as : List Held) : Prop where
  ordered : Ordered maxlen arrivals q
  mem : ∀ a ∈ as, a ∈ q
  nodup : (ids as).Nodup

section RemoveAll

variable {maxlen arrivals : ℕ} {q as : List Held} {a x : Held}

/-- After the first removal the others are still to be removed. -/
lemma ToRemove.tail (h : ToRemove maxlen arrivals q (a :: as)) :
    ToRemove maxlen arrivals (q.eraseP fun y => y.same a) as where
  ordered := h.ordered.sublist List.eraseP_sublist
  mem := by
    obtain ⟨ha, has⟩ := List.forall_mem_cons.mp h.mem
    obtain ⟨e, he⟩ := h.ordered.exists_removed ha
    intro b hb
    refine he.ids.2 b (has b hb) fun hba => (List.nodup_cons.mp h.nodup).1 ?_
    exact List.mem_map.mpr ⟨b, hb, hba⟩
  nodup := (List.nodup_cons.mp h.nodup).2

/-- A finding stays when those that are removed have other ids. -/
lemma ToRemove.mem_removeAll (h : ToRemove maxlen arrivals q as) (hx : x ∈ q)
    (hid : x.finding.id.val ∉ ids as) : x ∈ removeAll q as := by
  induction as generalizing q with
  | nil => exact hx
  | cons a as ih =>
      obtain ⟨e, he⟩ := h.ordered.exists_removed (h.mem a List.mem_cons_self)
      rw [ids, List.map_cons, List.mem_cons, not_or] at hid
      exact ih h.tail (he.ids.2 x hx hid.1) hid.2

/-- **A finding that is removed stays exactly when it has a copy**, which goes in its place. -/
theorem ToRemove.mem_removeAll_iff (h : ToRemove maxlen arrivals q as) (hx : x ∈ as) :
    x ∈ removeAll q as ↔ ∃ y ∈ q, y.arrival < x.arrival ∧ y.finding.eq x.finding = true := by
  induction as generalizing q with
  | nil => cases hx
  | cons a as ih =>
      obtain ⟨e, he⟩ := h.ordered.exists_removed (h.mem a List.mem_cons_self)
      have hfirst := (List.nodup_cons.mp h.nodup).1
      rcases List.mem_cons.mp hx with rfl | hx
      · -- the other removals leave its id alone
        have hrest : x ∈ removeAll q (x :: as) ↔ x ∈ q.eraseP fun y => y.same x :=
          ⟨fun hmem => (removeAll_sublist as _).subset hmem, fun hmem =>
            h.tail.mem_removeAll hmem hfirst⟩
        rw [hrest, he.mem_iff, and_iff_right (h.mem x List.mem_cons_self), ← not_iff_not, ← he.eq_iff,
          not_not, eq_comm]
      · have hne : x.finding.id.val ≠ a.finding.id.val :=
          fun hid => hfirst (List.mem_map.mpr ⟨x, hx, hid⟩)
        refine (ih h.tail hx).trans ⟨?_, ?_⟩
        · rintro ⟨y, hy, hcopy⟩
          exact ⟨y, List.eraseP_subset hy, hcopy⟩
        · rintro ⟨y, hy, hlt, heq⟩
          exact ⟨y, he.ids.2 y hy (by rwa [id_of_eq heq]), hlt, heq⟩

/-- The ids in a deque are those that are removed and those that are left. -/
lemma ToRemove.ids_perm (h : ToRemove maxlen arrivals q as) :
    (ids q).Perm (ids as ++ ids (removeAll q as)) := by
  induction as generalizing q with
  | nil => exact List.Perm.refl _
  | cons a as ih =>
      obtain ⟨e, he⟩ := h.ordered.exists_removed (h.mem a List.mem_cons_self)
      exact he.ids.1.trans ((ih h.tail).cons _)

end RemoveAll

section Pairs

variable {arrivals : ℕ} {pairs : List (Held × Held)} {rel : Held → Held → Bool}

/-- Pairs among what is held, with no id in two of them, are to be removed. -/
lemma Orderly.toRemove (h : Orderly cfg arrivals b)
    (hpairs : SoundPairs (fun x : Held => x.finding.id.val) (fun x : Held => x.finding.id.val) rel
      b.api b.code pairs) :
    ToRemove cfg.bufferMaxSize arrivals b.api (pairs.map Prod.fst) ∧
      ToRemove cfg.bufferMaxSize arrivals b.code (pairs.map Prod.snd) := by
  refine ⟨⟨h.api, ?_, ?_⟩, ⟨h.code, ?_, ?_⟩⟩
  · intro a ha
    obtain ⟨p, hp, rfl⟩ := List.mem_map.mp ha
    exact (hpairs.mem p hp).1
  · rw [ids, List.map_map]
    exact hpairs.nodup_left
  · intro c hc
    obtain ⟨p, hp, rfl⟩ := List.mem_map.mp hc
    exact (hpairs.mem p hp).2.1
  · rw [ids, List.map_map]
    exact hpairs.nodup_right

/-- **The ids after a pass are those before it without those of the pairs.** -/
theorem ids_removePairs_perm (h : Orderly cfg arrivals b)
    (hpairs : SoundPairs (fun x : Held => x.finding.id.val) (fun x : Held => x.finding.id.val) rel
      b.api b.code pairs) :
    (ids b.held).Perm ((pairs.flatMap fun p => [p.1.finding.id.val, p.2.finding.id.val]) ++
      ids (b.removePairs pairs).held) := by
  obtain ⟨hapi, hcode⟩ := h.toRemove hpairs
  have happend : ∀ p q : List Held, ids (p ++ q) = ids p ++ ids q := fun p q => List.map_append
  have hflat : (pairs.flatMap fun p => [p.1.finding.id.val, p.2.finding.id.val]).Perm
      (ids (pairs.map Prod.fst) ++ ids (pairs.map Prod.snd)) := by
    have hsplit := List.flatMap_append_perm pairs (fun p => [p.1.finding.id.val])
      (fun p => [p.2.finding.id.val])
    rw [← List.map_eq_flatMap, ← List.map_eq_flatMap] at hsplit
    simp only [ids, List.map_map]
    exact hsplit.symm
  rw [removePairs_eq, Buffer.held, Buffer.held, happend, happend]
  refine (hapi.ids_perm.append hcode.ids_perm).trans ?_
  refine List.Perm.trans ?_ (hflat.symm.append_right _)
  simp only [List.append_assoc]
  exact (List.perm_append_comm_assoc _ _ _).append_left _

/-- **A pair stays in the buffer exactly when both of its findings have copies.** -/
theorem mem_removePairs_iff (h : Orderly cfg arrivals b)
    (hpairs : SoundPairs (fun x : Held => x.finding.id.val) (fun x : Held => x.finding.id.val) rel
      b.api b.code pairs) {a c : Held} (hp : (a, c) ∈ pairs) :
    (a ∈ (b.removePairs pairs).api ∧ c ∈ (b.removePairs pairs).code) ↔
      (∃ y ∈ b.api, y.arrival < a.arrival ∧ y.finding.eq a.finding = true) ∧
        ∃ y ∈ b.code, y.arrival < c.arrival ∧ y.finding.eq c.finding = true := by
  obtain ⟨hapi, hcode⟩ := h.toRemove hpairs
  rw [removePairs_eq, hapi.mem_removeAll_iff (List.mem_map.mpr ⟨(a, c), hp, rfl⟩),
    hcode.mem_removeAll_iff (List.mem_map.mpr ⟨(a, c), hp, rfl⟩)]

end Pairs

end Buffer

end Watchtower
