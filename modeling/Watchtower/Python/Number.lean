import Watchtower.Python.Str
import Mathlib.Data.Int.Log
import Mathlib.Data.Rat.Floor
import Mathlib.Algebra.Order.Floor.Ring
import Mathlib.Algebra.Order.Group.Unbundled.Abs
import Mathlib.Tactic.NormNum
import Mathlib.Tactic.Linarith
import Mathlib.Tactic.Positivity
import Mathlib.Tactic.FieldSimp

/-!
# Python numbers

Floats are rationals within the finite range of a double, plus the infinities and NaN.  What an
operation on them returns is a double again.

* `PyFloat`, `PyNum` — floats, and the numbers that survive an `isfinite` check.
* `roundEven`, `roundTo`, `roundFloat` — `round` with ties to the even neighbour, with the order facts
  (`roundEven_mono`, `roundTo_le`, `le_roundTo`) that bound a rounded score.
* `roundDouble` — the double that the exact result of an operation is rounded to;
  **`roundDouble_mono`** — it keeps the order; **`roundDouble_roundDouble`** — a double is not rounded
  again.
* `Rounding` — an arithmetic with these two laws: `Rounding.exact` and `Rounding.double`.
* `PyNum.toFloat`, `PyNum.sub` — `float(x)`, and a difference of integers and floats.
* `fixed0` — the text of `f"{x:.0f}"`, and its length.
-/

namespace Py

/-! ## Floats -/

/-- The largest finite double, an integer. -/
def maxFloat : ℕ := 2 ^ 1024 - 2 ^ 971

/-- The number of decimal digits of `maxFloat`. -/
def maxFloatDigits : ℕ := 309

lemma one_le_maxFloat : 1 ≤ maxFloat := by decide +kernel

lemma maxFloat_lt : maxFloat < 10 ^ maxFloatDigits := by decide +kernel

/-- A finite float. -/
abbrev FiniteFloat := { q : ℚ // |q| ≤ maxFloat }

/-- A rational between zero and one is a finite float. -/
def unitFloat (q : ℚ) (h : 0 ≤ q ∧ q ≤ 1) : FiniteFloat :=
  ⟨q, by rw [abs_of_nonneg h.1]; exact h.2.trans (by exact_mod_cast one_le_maxFloat)⟩

/-- A Python float. -/
inductive PyFloat
  | finite (q : FiniteFloat)
  | inf (negative : Bool)
  | nan
  deriving DecidableEq

/-- `float(n)` raises `OverflowError`: the integer rounds past the largest double. -/
def floatOverflows (n : ℤ) : Bool := decide (2 ^ 1024 - 2 ^ 970 ≤ n.natAbs)

/-- A number that is neither infinite nor NaN. -/
inductive PyNum
  | int (n : ℤ)
  | float (q : FiniteFloat)
  deriving DecidableEq

/-- The exact value of a number. -/
def PyNum.value : PyNum → ℚ
  | .int n => n
  | .float q => q.val

/-- `float(x)` raises `OverflowError`. -/
def PyNum.overflows : PyNum → Bool
  | .int n => floatOverflows n
  | .float _ => false

@[simp] lemma PyNum.value_int (n : ℤ) : (PyNum.int n).value = n := rfl

@[simp] lemma PyNum.value_float (q : FiniteFloat) : (PyNum.float q).value = q.val := rfl

/-! ## Rounding -/

/-- `round(q)`: the nearest integer, the even one when two are equally near. -/
def roundEven (q : ℚ) : ℤ :=
  if Int.fract q < 1 / 2 then ⌊q⌋
  else if 1 / 2 < Int.fract q then ⌊q⌋ + 1
  else if Even ⌊q⌋ then ⌊q⌋ else ⌊q⌋ + 1

/-- `round(q, digits)`. -/
def roundTo (digits : ℕ) (q : ℚ) : ℚ := roundEven (q * 10 ^ digits) / 10 ^ digits

/-- Rounding moves to one of the two neighbouring integers. -/
lemma roundEven_cases (q : ℚ) : roundEven q = ⌊q⌋ ∨ roundEven q = ⌊q⌋ + 1 := by
  unfold roundEven
  split_ifs
  · exact Or.inl rfl
  · exact Or.inr rfl
  · exact Or.inl rfl
  · exact Or.inr rfl

@[simp] lemma roundEven_intCast (n : ℤ) : roundEven (n : ℚ) = n := by
  simp [roundEven]

/-- Rounding is monotone. -/
theorem roundEven_mono {p q : ℚ} (h : p ≤ q) : roundEven p ≤ roundEven q := by
  have hfloor : ⌊p⌋ ≤ ⌊q⌋ := Int.floor_le_floor h
  rcases hfloor.lt_or_eq with hlt | heq
  · -- a whole integer lies between them
    rcases roundEven_cases p with hp | hp <;> rcases roundEven_cases q with hq | hq <;> omega
  · -- same integer part, so the fractional parts are ordered
    have hfract : Int.fract p ≤ Int.fract q := by
      simp only [Int.fract, heq]
      linarith
    unfold roundEven
    rw [heq]
    split_ifs <;> first | omega | linarith

/-- Rounding has no preference among the signs. -/
lemma roundEven_neg (q : ℚ) : roundEven (-q) = -roundEven q := by
  by_cases hint : Int.fract q = 0
  · have hq : q = (⌊q⌋ : ℚ) := by
      have h := Int.floor_add_fract q
      rw [hint, add_zero] at h
      exact h.symm
    rw [hq, ← Int.cast_neg, roundEven_intCast, roundEven_intCast]
  · have hfract : Int.fract (-q) = 1 - Int.fract q := Int.fract_neg hint
    have hfloor : ⌊-q⌋ = -⌊q⌋ - 1 := by
      have h := Int.floor_add_fract (-q)
      have h' := Int.floor_add_fract q
      have hsum : (⌊-q⌋ : ℚ) = -⌊q⌋ - 1 := by rw [hfract] at h; linarith
      exact_mod_cast hsum
    have heven : Even (-⌊q⌋ - 1) ↔ ¬ Even ⌊q⌋ := by
      rw [Int.even_sub, even_neg]
      simp
    unfold roundEven
    rw [hfract, hfloor]
    simp only [heven]
    split_ifs <;> first | omega | linarith

theorem roundTo_mono {digits : ℕ} {p q : ℚ} (h : p ≤ q) : roundTo digits p ≤ roundTo digits q := by
  have hpow : (0 : ℚ) < 10 ^ digits := by positivity
  have hround := roundEven_mono (mul_le_mul_of_nonneg_right h hpow.le)
  exact div_le_div_of_nonneg_right (by exact_mod_cast hround) hpow.le

/-- An integer multiple of the last digit bounds the rounded value from below when it bounds the
value. -/
lemma le_roundTo {digits : ℕ} {n : ℤ} {q : ℚ} (h : (n : ℚ) / 10 ^ digits ≤ q) :
    (n : ℚ) / 10 ^ digits ≤ roundTo digits q := by
  have hpos : (0 : ℚ) < 10 ^ digits := by positivity
  have hle : (n : ℚ) ≤ q * 10 ^ digits := (div_le_iff₀ hpos).mp h
  have hround := roundEven_mono hle
  rw [roundEven_intCast] at hround
  exact div_le_div_of_nonneg_right (by exact_mod_cast hround) hpos.le

/-- A number that is not negative is not rounded below zero. -/
lemma roundTo_nonneg {digits : ℕ} {q : ℚ} (h : 0 ≤ q) : 0 ≤ roundTo digits q := by
  have hround : ((0 : ℤ) : ℚ) / 10 ^ digits ≤ roundTo digits q := le_roundTo (by simpa using h)
  simpa using hround

/-- The same from above. -/
lemma roundTo_le {digits : ℕ} {n : ℤ} {q : ℚ} (h : q ≤ (n : ℚ) / 10 ^ digits) :
    roundTo digits q ≤ (n : ℚ) / 10 ^ digits := by
  have hpos : (0 : ℚ) < 10 ^ digits := by positivity
  have hle : q * 10 ^ digits ≤ (n : ℚ) := (le_div_iff₀ hpos).mp h
  have hround := roundEven_mono hle
  rw [roundEven_intCast] at hround
  exact div_le_div_of_nonneg_right (by exact_mod_cast hround) hpos.le

/-- A finite float stays within their range. -/
lemma abs_roundTo_le (digits : ℕ) (q : FiniteFloat) : |roundTo digits q.val| ≤ maxFloat := by
  have hpow : (10 : ℚ) ^ digits ≠ 0 := by positivity
  have hscale : ∀ n : ℤ, ((n * 10 ^ digits : ℤ) : ℚ) / 10 ^ digits = n := by
    intro n
    push_cast
    field_simp
  have hlow : ((-maxFloat * 10 ^ digits : ℤ) : ℚ) / 10 ^ digits ≤ q.val := by
    rw [hscale]
    exact_mod_cast (abs_le.mp q.property).1
  have hhigh : q.val ≤ ((maxFloat * 10 ^ digits : ℤ) : ℚ) / 10 ^ digits := by
    rw [hscale]
    exact_mod_cast (abs_le.mp q.property).2
  have hlow' := le_roundTo hlow
  have hhigh' := roundTo_le hhigh
  rw [hscale] at hlow' hhigh'
  exact abs_le.mpr ⟨by exact_mod_cast hlow', by exact_mod_cast hhigh'⟩

/-! ## Operations on floats -/

/-- The exponent of the doubles of the size of `q`. -/
def exponent (q : ℚ) : ℤ := max (Int.log 2 |q|) (-1022)

/-- The double nearest to a number within their range, the one with the even last bit when two are
equally near. -/
def roundDouble (q : ℚ) : ℚ :=
  if q = 0 then 0
  else
    let ulp : ℚ := 2 ^ (exponent q - 52)
    roundEven (q / ulp) * ulp

section Round

variable {p q : ℚ}

lemma roundDouble_of_pos (h : 0 < q) :
    roundDouble q = roundEven (q / 2 ^ (exponent q - 52)) * 2 ^ (exponent q - 52) := by
  rw [roundDouble, if_neg h.ne']

lemma ulp_pos (e : ℤ) : (0 : ℚ) < 2 ^ (e - 52) := zpow_pos (by norm_num) _

/-- A power of two in the unit of an exponent. -/
lemma pow_mul_ulp (m : ℕ) (e : ℤ) : (((2 : ℤ) ^ m : ℤ) : ℚ) * 2 ^ (e - 52) = 2 ^ (m + e - 52) := by
  rw [Int.cast_pow, Int.cast_ofNat, ← zpow_natCast, ← zpow_add₀ (by norm_num)]
  congr 1
  ring

/-- A multiple of the unit bounds the rounded number from above when it bounds the number. -/
lemma roundEven_div_mul_le {ulp : ℚ} (hulp : 0 < ulp) {n : ℤ} (h : q ≤ n * ulp) :
    roundEven (q / ulp) * ulp ≤ n * ulp := by
  have hround := roundEven_mono ((div_le_iff₀ hulp).mpr h)
  rw [roundEven_intCast] at hround
  exact mul_le_mul_of_nonneg_right (by exact_mod_cast hround) hulp.le

/-- The same from below. -/
lemma le_roundEven_div_mul {ulp : ℚ} (hulp : 0 < ulp) {n : ℤ} (h : n * ulp ≤ q) :
    n * ulp ≤ roundEven (q / ulp) * ulp := by
  have hround := roundEven_mono ((le_div_iff₀ hulp).mpr h)
  rw [roundEven_intCast] at hround
  exact mul_le_mul_of_nonneg_right (by exact_mod_cast hround) hulp.le

lemma roundDouble_nonneg (h : 0 ≤ q) : 0 ≤ roundDouble q := by
  rcases h.lt_or_eq with hpos | rfl
  · rw [roundDouble_of_pos hpos]
    have hround := le_roundEven_div_mul (n := 0) (ulp_pos (exponent q)) (by simpa using h)
    simpa using hround
  · rw [roundDouble, if_pos rfl]

/-- A positive number is less than twice the power of two of its exponent. -/
lemma lt_zpow_exponent (h : 0 < q) : q < 2 ^ (exponent q + 1) := by
  have hlog := Int.lt_zpow_succ_log_self (b := 2) (by norm_num) q
  refine hlog.trans_le (zpow_le_zpow_right₀ (by norm_num) ?_)
  rw [exponent, abs_of_pos h]
  omega

/-- It is at least that power, unless it is smaller than all normal doubles. -/
lemma zpow_exponent_le (h : 0 < q) (hnormal : -1022 < exponent q) : 2 ^ exponent q ≤ q := by
  have hlog := Int.zpow_log_le_self (b := 2) (by norm_num) h
  have hsame : exponent q = Int.log 2 q := by
    rw [exponent, abs_of_pos h] at hnormal ⊢
    omega
  rw [hsame]
  exact_mod_cast hlog

/-- **Rounding keeps the order of numbers that are not negative.** -/
theorem roundDouble_mono (hp : 0 ≤ p) (h : p ≤ q) : roundDouble p ≤ roundDouble q := by
  rcases hp.lt_or_eq with hpos | rfl
  · have hpos' : 0 < q := hpos.trans_le h
    have hexp : exponent p ≤ exponent q := by
      have hlog : Int.log 2 p ≤ Int.log 2 q := Int.log_mono_right hpos h
      simp only [exponent, abs_of_pos hpos, abs_of_pos hpos']
      omega
    rw [roundDouble_of_pos hpos, roundDouble_of_pos hpos']
    rcases hexp.lt_or_eq with hlt | heq
    · -- a power of two lies between them
      have hhigh := roundEven_div_mul_le (n := 2 ^ 53) (q := p) (ulp_pos (exponent p)) <| by
        rw [pow_mul_ulp]
        refine (lt_zpow_exponent hpos).le.trans (zpow_le_zpow_right₀ (by norm_num) ?_)
        push_cast
        omega
      have hlow := le_roundEven_div_mul (n := 2 ^ 52) (q := q) (ulp_pos (exponent q)) <| by
        rw [pow_mul_ulp]
        have hnormal : -1022 < exponent q := lt_of_le_of_lt (le_max_right _ _) hlt
        refine le_trans (zpow_le_zpow_right₀ (by norm_num) ?_) (zpow_exponent_le hpos' hnormal)
        push_cast
        omega
      rw [pow_mul_ulp] at hhigh hlow
      refine hhigh.trans (le_trans (zpow_le_zpow_right₀ (by norm_num) ?_) hlow)
      push_cast
      omega
    · rw [heq]
      have hround := roundEven_mono (div_le_div_of_nonneg_right h (ulp_pos (exponent q)).le)
      exact mul_le_mul_of_nonneg_right (by exact_mod_cast hround) (ulp_pos _).le
  · rw [roundDouble, if_pos rfl]
    exact roundDouble_nonneg h

/-- A number that is a multiple of the unit of its exponent is a double. -/
lemma roundDouble_eq_self (h : 0 < q) {n : ℤ} (hn : n * 2 ^ (exponent q - 52) = q) :
    roundDouble q = q := by
  have hdiv : q / 2 ^ (exponent q - 52) = n := (div_eq_iff (ulp_pos _).ne').mpr hn.symm
  rw [roundDouble_of_pos h, hdiv, roundEven_intCast, hn]

/-- **A double is not rounded again.** -/
theorem roundDouble_roundDouble (h : 0 ≤ q) : roundDouble (roundDouble q) = roundDouble q := by
  rcases h.lt_or_eq with hpos | rfl
  · rcases (roundDouble_nonneg h).lt_or_eq with hround | hzero
    · obtain ⟨n, hn⟩ : ∃ n : ℤ, roundDouble q = n * 2 ^ (exponent q - 52) :=
        ⟨_, roundDouble_of_pos hpos⟩
      have htop : roundDouble q ≤ 2 ^ (exponent q + 1) := by
        have hbound := roundEven_div_mul_le (n := 2 ^ 53) (q := q) (ulp_pos (exponent q)) <| by
          rw [pow_mul_ulp]
          refine (lt_zpow_exponent hpos).le.trans (zpow_le_zpow_right₀ (by norm_num) ?_)
          push_cast
          omega
        rw [pow_mul_ulp, ← roundDouble_of_pos hpos] at hbound
        refine hbound.trans (zpow_le_zpow_right₀ (by norm_num) ?_)
        push_cast
        omega
      rcases le_or_gt (exponent (roundDouble q)) (exponent q) with hexp | hexp
      · -- the unit of the result is no larger
        refine roundDouble_eq_self hround
          (n := n * 2 ^ (exponent q - exponent (roundDouble q)).toNat) ?_
        rw [Int.cast_mul, mul_assoc, pow_mul_ulp]
        conv_rhs => rw [hn]
        congr 2
        omega
      · -- the number has been rounded up to the next power of two
        have hlow := zpow_exponent_le hround (lt_of_le_of_lt (le_max_right _ _) hexp)
        have hpow : (2 : ℚ) ^ (exponent q + 1) ≤ 2 ^ exponent (roundDouble q) :=
          zpow_le_zpow_right₀ (by norm_num) (by omega)
        refine roundDouble_eq_self hround (n := 2 ^ 52) ?_
        rw [pow_mul_ulp]
        conv_rhs => rw [le_antisymm (htop.trans hpow) hlow]
        congr 1
        push_cast
        omega
    · rw [← hzero]
      decide +kernel
  · decide +kernel

lemma roundDouble_le_one (hlow : 0 ≤ q) (hhigh : q ≤ 1) : roundDouble q ≤ 1 := by
  have hone : roundDouble 1 = 1 := by decide +kernel
  exact hone ▸ roundDouble_mono hlow hhigh

lemma roundDouble_le_hundred (hlow : 0 ≤ q) (hhigh : q ≤ 100) : roundDouble q ≤ 100 := by
  have hhundred : roundDouble 100 = 100 := by decide +kernel
  exact hhundred ▸ roundDouble_mono hlow hhigh

lemma exponent_neg (q : ℚ) : exponent (-q) = exponent q := by rw [exponent, exponent, abs_neg]

lemma roundDouble_neg (q : ℚ) : roundDouble (-q) = -roundDouble q := by
  simp only [roundDouble, neg_eq_zero, exponent_neg, neg_div, roundEven_neg, Int.cast_neg, neg_mul]
  split_ifs
  · rw [neg_zero]
  · rfl

lemma roundDouble_maxFloat : roundDouble (maxFloat : ℕ) = (maxFloat : ℕ) := by decide +kernel

/-- It stays within the range of finite doubles. -/
lemma abs_roundDouble_le (h : |q| ≤ maxFloat) : |roundDouble q| ≤ maxFloat := by
  have hle : ∀ p : ℚ, 0 ≤ p → p ≤ maxFloat → |roundDouble p| ≤ maxFloat := by
    intro p hp hle
    rw [abs_of_nonneg (roundDouble_nonneg hp)]
    exact (roundDouble_mono hp hle).trans_eq roundDouble_maxFloat
  rcases le_total 0 q with hq | hq
  · exact hle q hq ((le_abs_self q).trans h)
  · rw [← neg_neg q, roundDouble_neg, abs_neg]
    exact hle (-q) (neg_nonneg.mpr hq) ((neg_le_abs q).trans h)

end Round

/-- `round(q, digits)` of a float: the double nearest to the rounded decimal. -/
def roundFloat (digits : ℕ) (q : FiniteFloat) : FiniteFloat :=
  ⟨roundDouble (roundTo digits q.val), abs_roundDouble_le (abs_roundTo_le digits q)⟩

def inUnit (q : ℚ) : Bool := decide (0 ≤ q ∧ q ≤ 1)

/-- The double that a literal between zero and one stands for. -/
def unitDouble (q : ℚ) (h : inUnit q = true := by with_unfolding_all exact Eq.refl true) :
    { q : FiniteFloat // 0 ≤ q.val ∧ q.val ≤ 1 } :=
  have hunit : 0 ≤ q ∧ q ≤ 1 := of_decide_eq_true h
  have hround := And.intro (roundDouble_nonneg hunit.1) (roundDouble_le_one hunit.1 hunit.2)
  ⟨unitFloat (roundDouble q) hround, hround⟩

/-! ## Arithmetic -/

/-- What becomes of the exact result of an operation, and of a literal: the order is kept, and what has
been rounded is not rounded again. -/
structure Rounding where
  round : ℚ → ℚ
  mono : ∀ {p q : ℚ}, 0 ≤ p → p ≤ q → round p ≤ round q
  idem : ∀ {q : ℚ}, 0 ≤ q → round (round q) = round q
  zero : round 0 = 0
  one : round 1 = 1

/-- Exact arithmetic. -/
def Rounding.exact : Rounding where
  round q := q
  mono := fun _ h => h
  idem := fun _ => rfl
  zero := rfl
  one := rfl

/-- The arithmetic of floats. -/
def Rounding.double : Rounding where
  round := roundDouble
  mono := roundDouble_mono
  idem := roundDouble_roundDouble
  zero := by decide +kernel
  one := by decide +kernel

lemma Rounding.nonneg (r : Rounding) {q : ℚ} (h : 0 ≤ q) : 0 ≤ r.round q :=
  r.zero ▸ r.mono le_rfl h

lemma Rounding.le_one (r : Rounding) {q : ℚ} (hlow : 0 ≤ q) (hhigh : q ≤ 1) : r.round q ≤ 1 :=
  r.one ▸ r.mono hlow hhigh

/-- `float(x)`, for a number that does not overflow. -/
def PyNum.toFloat (r : Rounding) : PyNum → ℚ
  | .int n => r.round n
  | .float q => q.val

/-- `x - y`, for two numbers of one sign that do not overflow.  Integers are subtracted exactly. -/
def PyNum.sub (r : Rounding) : PyNum → PyNum → ℚ
  | .int m, .int n => m - n
  | x, y => r.round (x.toFloat r - y.toFloat r)

/-! ## Fixed-point texts -/

/-- `str(n)` of an integer. -/
def decimalInt (n : ℤ) : PyStr :=
  if 0 ≤ n then decimal n.natAbs else py "-" ++ decimal n.natAbs

/-- `f"{x:.0f}"`.  A negative number that rounds to zero keeps its sign. -/
def fixed0 : PyFloat → PyStr
  | .finite q =>
      if q.val < 0 then py "-" ++ decimal (roundEven q.val).natAbs
      else decimal (roundEven q.val).natAbs
  | .inf true => py "-inf"
  | .inf false => py "inf"
  | .nan => py "nan"

lemma natAbs_roundEven_le (q : FiniteFloat) : (roundEven q.val).natAbs ≤ maxFloat := by
  have hlow : ((-maxFloat : ℤ) : ℚ) ≤ q.val := by exact_mod_cast (abs_le.mp q.property).1
  have hhigh : q.val ≤ ((maxFloat : ℤ) : ℚ) := by exact_mod_cast (abs_le.mp q.property).2
  have hlow' := roundEven_mono hlow
  have hhigh' := roundEven_mono hhigh
  rw [roundEven_intCast] at hlow' hhigh'
  omega

/-- A formatted float is short. -/
theorem length_fixed0_le (x : PyFloat) : (fixed0 x).length ≤ maxFloatDigits + 1 := by
  cases x with
  | finite q =>
      have hlen := length_decimal_le (by decide)
        (lt_of_le_of_lt (natAbs_roundEven_le q) maxFloat_lt)
      simp only [fixed0]
      split_ifs
      · rw [List.length_append]
        have : (py "-").length = 1 := by decide
        omega
      · omega
  | inf negative => cases negative <;> decide
  | nan => decide

end Py
