import Mathlib.Data.List.DropRight
import Mathlib.Data.List.Count
import Mathlib.Data.Fintype.Basic
import Mathlib.Algebra.Ring.Nat

/-!
# Python strings

A Python `str` is a sequence of code points, lone surrogates included: `json.loads` and
`os.environ` both produce them, and they are what makes a strict UTF-8 encoding fail.  Lean's
`String` cannot hold one, so strings are lists of code points here.

* `py` — a literal; `decimal` — `str` of a natural number.
* `strip`, `partition`, `replace` — the methods, over an explicit character class.
* `UnicodeData` — the part of the Unicode character database that `str.lower`, `str.upper` and
  `int` consult.  Its tables change from one Python release to the next, so the development is
  carried out over any table that obeys the laws recorded as fields.  `asciiData` is the table
  that knows ASCII only.
* `lower` — full lower-casing, with the rule for a final capital sigma.
* **`encodable_lower`**, **`count_lower`** — lower-casing neither creates nor destroys a surrogate
  or an ASCII separator.
* `isUuid` — the texts `uuid.UUID` accepts.
-/

namespace Py

/-- A code point, surrogates included. -/
abbrev PyChar := Fin 0x110000

/-- Code points can be written as numerals. -/
instance neZero_codePoints : NeZero 0x110000 := ⟨by decide⟩

/-- A Python string. -/
abbrev PyStr := List PyChar

/-- A Lean character as a code point. -/
def ofChar (c : Char) : PyChar := ⟨c.toNat % 0x110000, by omega⟩

/-- A string literal. -/
def py (s : String) : PyStr := s.toList.map ofChar

lemma toNat_lt (c : Char) : c.toNat < 0x110000 := by
  rcases c.valid with h | h
  · exact h.trans (by decide)
  · exact h.2

lemma ofChar_injective : Function.Injective ofChar := by
  intro c d h
  have hval := congrArg Fin.val h
  simp only [ofChar, Nat.mod_eq_of_lt (toNat_lt c), Nat.mod_eq_of_lt (toNat_lt d)] at hval
  exact Char.toNat_inj.mp hval

/-- Literals are equal when their texts are. -/
@[simp] lemma py_inj {s t : String} : py s = py t ↔ s = t := by
  constructor
  · intro h
    exact String.toList_injective (ofChar_injective.list_map h)
  · rintro rfl
    rfl

/-- Different literals, told apart without decoding them. -/
lemma nodup_literals (texts : List (List Char)) (h : texts.Nodup) :
    (texts.map fun l => py (String.ofList l)).Nodup :=
  h.map fun _ _ heq => String.ofList_injective (py_inj.mp heq)

/-! ## Character classes -/

/-- `str.isascii`, per character. -/
def isAscii (c : PyChar) : Bool := decide (c.val < 128)

/-- A surrogate code point, which no UTF-8 text contains. -/
def isSurrogate (c : PyChar) : Bool := decide (0xD800 ≤ c.val ∧ c.val ≤ 0xDFFF)

/-- An ASCII decimal digit. -/
def isDigit (c : PyChar) : Bool := decide (48 ≤ c.val ∧ c.val ≤ 57)

/-- `str.isspace`, per character: the white space that `str.strip()` and `str.split()` remove. -/
def isSpace (c : PyChar) : Bool :=
  decide ((9 ≤ c.val ∧ c.val ≤ 13) ∨ (28 ≤ c.val ∧ c.val ≤ 32) ∨ c.val = 0x85 ∨ c.val = 0xA0 ∨
    c.val = 0x1680 ∨ (0x2000 ≤ c.val ∧ c.val ≤ 0x200A) ∨ c.val = 0x2028 ∨ c.val = 0x2029 ∨
    c.val = 0x202F ∨ c.val = 0x205F ∨ c.val = 0x3000)

/-- `s.encode()` succeeds: UTF-8 is strict about surrogates. -/
def encodable (s : PyStr) : Bool := s.all fun c => !isSurrogate c

@[simp] lemma encodable_nil : encodable [] = true := rfl

@[simp] lemma encodable_cons (c : PyChar) (s : PyStr) :
    encodable (c :: s) = (!isSurrogate c && encodable s) := rfl

@[simp] lemma encodable_append (s t : PyStr) :
    encodable (s ++ t) = (encodable s && encodable t) := by
  simp [encodable]

/-! ## Methods -/

/-- `s.strip(chars)` for the characters of a class. -/
def stripBy (p : PyChar → Bool) (s : PyStr) : PyStr := (s.dropWhile p).rdropWhile p

/-- `s.strip()`. -/
def strip (s : PyStr) : PyStr := stripBy isSpace s

/-- `s.rstrip(c)` for one character. -/
def rstripChar (c : PyChar) (s : PyStr) : PyStr := s.rdropWhile (· == c)

/-- `s.partition(c)`: what precedes the first `c`, whether there is one, and what follows. -/
def partition (c : PyChar) : PyStr → PyStr × Bool × PyStr
  | [] => ([], false, [])
  | d :: s =>
      if d = c then ([], true, s)
      else
        let (before, found, after) := partition c s
        (d :: before, found, after)

/-- `s.rpartition(c)`: the split is at the last `c`; without one everything is the tail. -/
def rpartition (c : PyChar) (s : PyStr) : PyStr × Bool × PyStr :=
  let (after, found, before) := partition c s.reverse
  if found then (before.reverse, true, after.reverse) else ([], false, s)

lemma partition_of_not_mem {c : PyChar} {s : PyStr} (h : c ∉ s) :
    partition c s = (s, false, []) := by
  induction s with
  | nil => rfl
  | cons d s ih =>
      rw [List.mem_cons, not_or] at h
      rw [partition, if_neg (Ne.symm h.1), ih h.2]

lemma partition_append {c : PyChar} {s : PyStr} (h : c ∉ s) (t : PyStr) :
    partition c (s ++ c :: t) = (s, true, t) := by
  induction s with
  | nil => rw [List.nil_append, partition, if_pos rfl]
  | cons d s ih =>
      rw [List.mem_cons, not_or] at h
      rw [List.cons_append, partition, if_neg (Ne.symm h.1), ih h.2]

/-- The two forms a partition takes. -/
lemma partition_cases (c : PyChar) (s : PyStr) :
    (c ∉ s ∧ partition c s = (s, false, [])) ∨
      ∃ before after, c ∉ before ∧ s = before ++ c :: after ∧
        partition c s = (before, true, after) := by
  by_cases h : c ∈ s
  · obtain ⟨before, after, rfl, hbefore⟩ := List.eq_append_cons_of_mem h
    exact Or.inr ⟨before, after, hbefore, rfl, partition_append hbefore after⟩
  · exact Or.inl ⟨h, partition_of_not_mem h⟩

/-- What precedes the first `c` holds none. -/
lemma not_mem_partition (c : PyChar) (s : PyStr) : c ∉ (partition c s).1 := by
  rcases partition_cases c s with ⟨hno, hpart⟩ | ⟨before, after, hno, -, hpart⟩
  · rwa [hpart]
  · rwa [hpart]

/-- What precedes the first `c` is part of the text. -/
lemma mem_of_mem_partition {c d : PyChar} {s : PyStr} (h : d ∈ (partition c s).1) : d ∈ s := by
  rcases partition_cases c s with ⟨-, hpart⟩ | ⟨before, after, -, hs, hpart⟩
  · rwa [hpart] at h
  · rw [hpart] at h
    rw [hs]
    exact List.mem_append_left _ h

/-- A character that is not stripped protects what stands before it. -/
lemma rstripChar_append_cons {c d : PyChar} (h : d ≠ c) (s t : PyStr) :
    rstripChar c (s ++ d :: t) = s ++ d :: rstripChar c t := by
  induction t using List.reverseRecOn with
  | nil => simp [rstripChar, h]
  | append_singleton t e ih =>
      rw [← List.cons_append, ← List.append_assoc]
      simp only [rstripChar, List.rdropWhile_concat] at ih ⊢
      split_ifs with he
      · exact ih
      · simp

lemma rstripChar_of_ne {c d : PyChar} (h : d ≠ c) (s : PyStr) :
    rstripChar c (s ++ [d]) = s ++ [d] := by
  rw [rstripChar_append_cons h]
  rfl

/-- What is left after stripping is what has a character outside the class. -/
lemma stripBy_ne_nil_iff {p : PyChar → Bool} {s : PyStr} :
    stripBy p s ≠ [] ↔ ∃ c ∈ s, p c = false := by
  rw [stripBy, ne_eq, List.rdropWhile_eq_nil_iff]
  constructor
  · intro h
    by_contra hnone
    refine h fun c hc => ?_
    by_contra hp
    exact hnone ⟨c, (List.dropWhile_sublist p).mem hc, by simpa using hp⟩
  · rintro ⟨c, hc, hp⟩ hall
    rw [← List.takeWhile_append_dropWhile (p := p) (l := s), List.mem_append] at hc
    rcases hc with hc | hc
    · exact absurd (List.mem_takeWhile_imp hc) (by simp [hp])
    · exact absurd (hall c hc) (by simp [hp])

lemma strip_ne_nil_iff {s : PyStr} : strip s ≠ [] ↔ ∃ c ∈ s, isSpace c = false :=
  stripBy_ne_nil_iff

/-- A literal that starts with a visible character.  It is taken apart by unification, which is
cheap, rather than by evaluating the whole text. -/
lemma strip_literal_ne_nil (c : Char) (l : List Char) (h : isSpace (ofChar c) = false) :
    strip (py (String.ofList (c :: l))) ≠ [] := by
  rw [py, String.toList_ofList, List.map_cons]
  exact strip_ne_nil_iff.mpr ⟨ofChar c, List.mem_cons_self, h⟩

/-- A text that goes on from a text with something in it is not blank. -/
lemma strip_append_ne_nil {s : PyStr} (h : strip s ≠ []) (t : PyStr) : strip (s ++ t) ≠ [] := by
  obtain ⟨c, hc, hspace⟩ := strip_ne_nil_iff.mp h
  exact strip_ne_nil_iff.mpr ⟨c, List.mem_append_left t hc, hspace⟩

/-- `s.replace(pat, rep)` for a non-empty pattern, leftmost matches first.  The counter is how
much of the last match is still to be skipped. -/
def replaceFrom (pat rep : PyStr) : ℕ → PyStr → PyStr
  | _, [] => []
  | k + 1, _ :: s => replaceFrom pat rep k s
  | 0, c :: s =>
      if pat.isPrefixOf (c :: s) then rep ++ replaceFrom pat rep (pat.length - 1) s
      else c :: replaceFrom pat rep 0 s

/-- `s.replace(pat, rep)`. -/
def replace (pat rep s : PyStr) : PyStr := replaceFrom pat rep 0 s

/-- `sep.join(parts)` for a one-character separator. -/
def joinChar (sep : PyChar) (parts : List PyStr) : PyStr := [sep].intercalate parts

/-! ## Decimal numerals -/

/-- `str(n)`. -/
def decimal (n : ℕ) : PyStr := (Nat.toDigits 10 n).map ofChar

lemma ofChar_val_of_isDigit {c : Char} (h : c.isDigit) : (ofChar c).val = c.toNat := by
  simp only [Char.isDigit, Bool.and_eq_true, decide_eq_true_eq] at h
  have hle : c.toNat ≤ 57 := h.2
  exact Nat.mod_eq_of_lt (by omega)

lemma isDigit_ofChar {c : Char} (h : c.isDigit) : isDigit (ofChar c) = true := by
  have hval := ofChar_val_of_isDigit h
  simp only [Char.isDigit, Bool.and_eq_true, decide_eq_true_eq] at h
  have hlo : 48 ≤ c.toNat := h.1
  have hhi : c.toNat ≤ 57 := h.2
  simp only [isDigit, hval, decide_eq_true_eq]
  exact ⟨hlo, hhi⟩

/-- Every character of a numeral is a digit. -/
lemma isDigit_of_mem_decimal {n : ℕ} {c : PyChar} (h : c ∈ decimal n) : isDigit c = true := by
  obtain ⟨d, hd, rfl⟩ := List.mem_map.mp h
  exact isDigit_ofChar (Nat.isDigit_of_mem_toDigits (by omega) (by omega) hd)

lemma decimal_ne_nil (n : ℕ) : decimal n ≠ [] := by
  simp [decimal, Nat.toDigits_ne_nil]

/-- A numeral determines its number. -/
theorem decimal_injective : Function.Injective decimal := by
  intro m n h
  have hinj : ∀ c ∈ Nat.toDigits 10 m, ∀ d ∈ Nat.toDigits 10 n,
      ofChar c = ofChar d → c = d := by
    intro c hc d hd hcd
    have hc' := ofChar_val_of_isDigit (Nat.isDigit_of_mem_toDigits (by omega) (by omega) hc)
    have hd' := ofChar_val_of_isDigit (Nat.isDigit_of_mem_toDigits (by omega) (by omega) hd)
    have hval := congrArg Fin.val hcd
    rw [hc', hd'] at hval
    exact Char.toNat_inj.mp hval
  have hdigits : Nat.toDigits 10 m = Nat.toDigits 10 n := by
    refine List.ext_getElem (by simpa [decimal] using congrArg List.length h) ?_
    intro i hi hi'
    refine hinj _ (List.getElem_mem hi) _ (List.getElem_mem hi') ?_
    have hget := congrArg (fun l : PyStr => l[i]?) h
    simpa [decimal, List.getElem?_eq_getElem hi, List.getElem?_eq_getElem hi'] using hget
  have := congrArg (fun l => Nat.ofDigitChars 10 l 0) hdigits
  simpa [Nat.ofDigitChars_ten_toDigits] using this

lemma length_decimal_le {n k : ℕ} (hk : 0 < k) (h : n < 10 ^ k) : (decimal n).length ≤ k := by
  simpa [decimal] using (Nat.length_toDigits_le_iff (by omega) hk).mpr h

/-! ## Unicode tables -/

lemma lowered_lt {c : PyChar} (h : 65 ≤ c.val ∧ c.val ≤ 90) : c.val + 32 < 0x110000 := by
  omega

/-- ASCII lower-casing. -/
def asciiLower (c : PyChar) : PyChar :=
  if h : 65 ≤ c.val ∧ c.val ≤ 90 then ⟨c.val + 32, lowered_lt h⟩ else c

/-- ASCII upper-casing. -/
def asciiUpper (c : PyChar) : PyChar :=
  if h : 97 ≤ c.val ∧ c.val ≤ 122 then ⟨c.val - 32, by omega⟩ else c

/-- The value of an ASCII decimal digit. -/
def asciiDecimal (c : PyChar) : Option ℕ := if isDigit c then some (c.val - 48) else none

/-- What the Unicode character database tells `str.lower`, `str.upper` and `int`: full case
mappings, the two properties the final-sigma rule reads, and decimal digit values.  The laws hold
in every version of the database. -/
class UnicodeData where
  lowerFull : PyChar → PyStr
  upperFull : PyChar → PyStr
  cased : PyChar → Bool
  caseIgnorable : PyChar → Bool
  decimalValue : PyChar → Option ℕ
  lower_ascii : ∀ c, isAscii c → lowerFull c = [asciiLower c]
  upper_ascii : ∀ c, isAscii c → upperFull c = [asciiUpper c]
  decimal_ascii : ∀ c, isAscii c → decimalValue c = asciiDecimal c
  /-- A character outside ASCII may lower to an ASCII letter (the Kelvin sign does), never to
  any other ASCII character. -/
  lower_other : ∀ c, ¬ isAscii c → ∀ d ∈ lowerFull c, isAscii d → 97 ≤ d.val ∧ d.val ≤ 122
  lower_surrogate : ∀ c, isSurrogate c → lowerFull c = [c]
  lower_scalar : ∀ c, ¬ isSurrogate c → ∀ d ∈ lowerFull c, ¬ isSurrogate d

/-- The table that maps ASCII and leaves every other character alone. -/
@[reducible] def asciiData : UnicodeData where
  lowerFull c := [asciiLower c]
  upperFull c := [asciiUpper c]
  cased c := decide ((65 ≤ c.val ∧ c.val ≤ 90) ∨ (97 ≤ c.val ∧ c.val ≤ 122))
  caseIgnorable _ := false
  decimalValue := asciiDecimal
  lower_ascii _ _ := rfl
  upper_ascii _ _ := rfl
  decimal_ascii _ _ := rfl
  lower_other c hc d hd ha := by
    have hc' : ¬ c.val < 128 := by simpa [isAscii] using hc
    rw [List.mem_singleton.mp hd, asciiLower, dif_neg (by omega)] at ha
    exact absurd ha hc
  lower_surrogate c hc := by
    have hc' : 0xD800 ≤ c.val ∧ c.val ≤ 0xDFFF := by simpa [isSurrogate] using hc
    rw [asciiLower, dif_neg (by omega)]
  lower_scalar c hc d hd := by
    rw [List.mem_singleton.mp hd]
    by_cases hu : 65 ≤ c.val ∧ c.val ≤ 90
    · rw [asciiLower, dif_pos hu]
      simp only [isSurrogate, decide_eq_true_eq]
      omega
    · rwa [asciiLower, dif_neg hu]

open UnicodeData

variable [UnicodeData]

/-! ## Lower-casing -/

/-- The capital sigma, the one character whose lower case depends on its neighbours. -/
def capitalSigma : PyChar := 0x3A3

/-- The last sigma of a word lowers to the final form: there is a cased character before it and
none after it, case-ignorable characters aside. -/
def sigmaFor (before after : PyStr) : PyChar :=
  let isCasedNext (s : PyStr) := ((s.dropWhile caseIgnorable).head?.map cased).getD false
  if isCasedNext before && !isCasedNext after then 0x3C2 else 0x3C3

/-- Lower-casing with the characters already passed, nearest first. -/
def lowerFrom (before : PyStr) : PyStr → PyStr
  | [] => []
  | c :: s =>
      (if c = capitalSigma then [sigmaFor before s] else lowerFull c)
        ++ lowerFrom (c :: before) s

/-- `s.lower()`. -/
def lower (s : PyStr) : PyStr := lowerFrom [] s

/-- `s.upper()`. -/
def upper (s : PyStr) : PyStr := s.flatMap upperFull

lemma sigmaFor_cases (before after : PyStr) :
    sigmaFor before after = 0x3C2 ∨ sigmaFor before after = 0x3C3 := by
  simp only [sigmaFor]
  split
  · exact Or.inl rfl
  · exact Or.inr rfl

/-- One character of the input, as `lowerFrom` maps it. -/
lemma encodable_lowerFull (c : PyChar) : encodable (lowerFull c) = !isSurrogate c := by
  cases hc : isSurrogate c with
  | true => rw [lower_surrogate c hc]; simp [hc]
  | false =>
      have h := lower_scalar c (by simp [hc])
      simpa [encodable] using h

lemma encodable_lowerFrom (s : PyStr) :
    ∀ before, encodable (lowerFrom before s) = encodable s := by
  induction s with
  | nil => intro before; rfl
  | cons c s ih =>
      intro before
      simp only [lowerFrom, encodable_append, encodable_cons, ih]
      split_ifs with hc
      · subst hc
        rcases sigmaFor_cases before s with h | h <;> rw [h] <;> rfl
      · rw [encodable_lowerFull]

/-- **Lower-casing keeps a string encodable, and keeps an unencodable one unencodable.** -/
theorem encodable_lower (s : PyStr) : encodable (lower s) = encodable s :=
  encodable_lowerFrom s []

/-- An ASCII character that is not a letter. -/
def Separator (p : PyChar) : Prop :=
  p.val < 128 ∧ ¬ (65 ≤ p.val ∧ p.val ≤ 90) ∧ ¬ (97 ≤ p.val ∧ p.val ≤ 122)

instance (p : PyChar) : Decidable (Separator p) := inferInstanceAs (Decidable (_ ∧ _ ∧ _))

omit [UnicodeData] in
lemma asciiLower_eq_iff {p c : PyChar} (hp : Separator p) : asciiLower c = p ↔ c = p := by
  obtain ⟨_, hup, hlo⟩ := hp
  by_cases hc : 65 ≤ c.val ∧ c.val ≤ 90
  · rw [asciiLower, dif_pos hc]
    constructor
    · intro h
      have hval : c.val + 32 = p.val := congrArg Fin.val h
      omega
    · intro h
      subst h
      exact absurd hc hup
  · rw [asciiLower, dif_neg hc]

lemma count_lowerFull {p : PyChar} (hp : Separator p) (c : PyChar) :
    (lowerFull c).count p = if c = p then 1 else 0 := by
  by_cases hc : isAscii c
  · rw [lower_ascii c hc, List.count_singleton]
    simp only [beq_iff_eq, asciiLower_eq_iff hp]
  · have hcp : c ≠ p := by
      intro h
      subst h
      exact hc (by simpa [isAscii] using hp.1)
    rw [if_neg hcp, List.count_eq_zero]
    intro hmem
    exact hp.2.2 (lower_other c hc p hmem (by simpa [isAscii] using hp.1))

lemma count_lowerFrom {p : PyChar} (hp : Separator p) (s : PyStr) :
    ∀ before, (lowerFrom before s).count p = s.count p := by
  induction s with
  | nil => intro before; rfl
  | cons c s ih =>
      intro before
      simp only [lowerFrom, List.count_append, List.count_cons, ih, beq_iff_eq]
      have hsigma : capitalSigma ≠ p := by
        intro h
        subst h
        exact absurd hp.1 (by decide)
      split_ifs with hc hcp hcp
      · exact absurd (hc.symm.trans hcp) hsigma
      · have hzero : [sigmaFor before s].count p = 0 := by
          rw [List.count_eq_zero, List.mem_singleton]
          intro h
          have hlt := hp.1
          rcases sigmaFor_cases before s with h' | h' <;> rw [h, h'] at hlt <;>
            exact absurd hlt (by decide)
        rw [hzero]
        omega
      · rw [count_lowerFull hp, if_pos hcp]
        omega
      · rw [count_lowerFull hp, if_neg hcp]
        omega

/-- **Lower-casing keeps every ASCII separator, counted.** -/
theorem count_lower {p : PyChar} (hp : Separator p) (s : PyStr) :
    (lower s).count p = s.count p :=
  count_lowerFrom hp s []

/-- ASCII text is mapped character by character, whatever surrounds it. -/
lemma lowerFrom_append (s t : PyStr) (h : ∀ c ∈ s, isAscii c = true) :
    ∀ before, lowerFrom before (s ++ t)
      = s.map asciiLower ++ lowerFrom (s.reverse ++ before) t := by
  induction s with
  | nil => intro before; rfl
  | cons c s ih =>
      intro before
      have hc : isAscii c = true := h c (by simp)
      have hsigma : c ≠ capitalSigma := by
        intro hcs
        subst hcs
        exact absurd hc (by decide)
      rw [List.cons_append, lowerFrom, if_neg hsigma, lower_ascii c hc,
        ih (fun d hd => h d (by simp [hd]))]
      simp

/-- On ASCII text lower-casing is the ASCII map. -/
theorem lower_of_ascii {s : PyStr} (h : ∀ c ∈ s, isAscii c = true) :
    lower s = s.map asciiLower := by
  have happend := lowerFrom_append s [] h []
  rwa [List.append_nil, lowerFrom, List.append_nil] at happend

lemma not_upper_of_mem_lowerFrom (s : PyStr) :
    ∀ before, ∀ c ∈ lowerFrom before s, ¬ (65 ≤ c.val ∧ c.val ≤ 90) := by
  induction s with
  | nil => intro before c hc; cases hc
  | cons d s ih =>
      intro before c hc
      rw [lowerFrom, List.mem_append] at hc
      rcases hc with hc | hc
      · split_ifs at hc with hsigma
        · rw [List.mem_singleton.mp hc]
          rcases sigmaFor_cases before s with h | h <;> rw [h] <;> decide
        · by_cases hd : isAscii d
          · rw [lower_ascii d hd, List.mem_singleton] at hc
            subst hc
            unfold asciiLower
            split_ifs with hup
            · simp only
              omega
            · exact hup
          · by_cases hascii : isAscii c
            · have hlow := lower_other d hd c hc hascii
              omega
            · simp only [isAscii, decide_eq_true_eq] at hascii
              omega
      · exact ih _ c hc

/-- Lower-cased text holds no capital ASCII letter. -/
lemma not_upper_of_mem_lower {s : PyStr} {c : PyChar} (h : c ∈ lower s) :
    ¬ (65 ≤ c.val ∧ c.val ≤ 90) :=
  not_upper_of_mem_lowerFrom s [] c h

omit [UnicodeData] in
lemma map_asciiLower_eq_self {s : PyStr} (h : ∀ c ∈ s, ¬ (65 ≤ c.val ∧ c.val ≤ 90)) :
    s.map asciiLower = s := by
  conv_rhs => rw [← List.map_id s]
  refine List.map_congr_left fun c hc => ?_
  rw [asciiLower, dif_neg (h c hc)]
  rfl

/-- A string of digits and separators is its own lower case. -/
theorem lower_of_separators {s : PyStr} (h : ∀ c ∈ s, Separator c) : lower s = s := by
  rw [lower_of_ascii (fun c hc => by simpa [isAscii] using (h c hc).1)]
  exact map_asciiLower_eq_self fun c hc => (h c hc).2.1

omit [UnicodeData] in
lemma separator_of_isDigit {c : PyChar} (h : isDigit c = true) : Separator c := by
  simp only [isDigit, decide_eq_true_eq] at h
  simp only [Separator]
  omega

/-- A numeral is its own lower case. -/
lemma lower_decimal (n : ℕ) : lower (decimal n) = decimal n :=
  lower_of_separators fun _ hc => separator_of_isDigit (isDigit_of_mem_decimal hc)

/-! ## UUID texts -/

/-- White space and decimal digits of any script as ASCII, the first step of `int(s, base)`.
Any other character becomes a question mark, which no numeral contains. -/
def toAsciiNumeral (s : PyStr) : PyStr :=
  if s.all isAscii then s
  else s.map fun c =>
    if isAscii c then c
    else if isSpace c then 32
    else match decimalValue c with
      | some d => ⟨(48 + d) % 0x110000, by omega⟩
      | none => 63

/-- The white space `int` skips around a numeral. -/
def isNumeralSpace (c : PyChar) : Bool := decide (c.val = 32 ∨ (9 ≤ c.val ∧ c.val ≤ 13))

/-- A hexadecimal digit. -/
def isHexDigit (c : PyChar) : Bool :=
  isDigit c || decide ((65 ≤ c.val ∧ c.val ≤ 70) ∨ (97 ≤ c.val ∧ c.val ≤ 102))

/-- Hexadecimal digits with single underscores between them.  The flag says that the character
before was a digit. -/
def hexDigitsFrom : Bool → PyStr → Bool
  | afterDigit, [] => afterDigit
  | afterDigit, c :: s =>
      if c = 95 then afterDigit && hexDigitsFrom false s
      else isHexDigit c && hexDigitsFrom true s

/-- `int(s, 16)` succeeds. -/
def isBase16 (s : PyStr) : Bool :=
  let t := stripBy isNumeralSpace (toAsciiNumeral s)
  let t := match t with
    | 43 :: rest => rest
    | 45 :: rest => rest
    | _ => t
  match t with
  | 48 :: 120 :: 95 :: rest => hexDigitsFrom false rest
  | 48 :: 120 :: rest => hexDigitsFrom false rest
  | 48 :: 88 :: 95 :: rest => hexDigitsFrom false rest
  | 48 :: 88 :: rest => hexDigitsFrom false rest
  | _ => hexDigitsFrom false t

/-- `uuid.UUID(s)` succeeds: thirty-two characters that `int` reads in base 16, once the URN
prefixes, braces and hyphens are taken out. -/
def isUuid (s : PyStr) : Bool :=
  let hex := replace (py "uuid:") [] (replace (py "urn:") [] s)
  let hex := replace (py "-") [] (stripBy (fun c => c == 123 || c == 125) hex)
  decide (hex.length = 32) && isBase16 hex

end Py
