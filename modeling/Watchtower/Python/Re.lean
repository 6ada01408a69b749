import Watchtower.Core.Regex
import Watchtower.Python.Str

/-!
# The `re` module

Regular expressions over Python strings: what `\s` and `\b` are made of, and literals with and
without `re.IGNORECASE`.

* `WordData` — which characters are alphanumeric.  Like the case tables, this changes from one
  Python release to the next; the laws are what the development relies on.
* `foldCase` — what `re.IGNORECASE` compares.  Besides the ASCII letters it identifies the long s,
  the Kelvin sign and the dotted and dotless i with their ASCII counterparts.
* `lit`, `litCaseless`, `compound` — literals.
-/

namespace Py

open Core

/-- `str.isalnum`, per character, with the laws that are relied on. -/
class WordData where
  isAlnum : PyChar → Bool
  isAlnum_ascii : ∀ c : PyChar, c.val < 128 →
    isAlnum c = decide ((48 ≤ c.val ∧ c.val ≤ 57) ∨ (65 ≤ c.val ∧ c.val ≤ 90) ∨
      (97 ≤ c.val ∧ c.val ≤ 122))
  isAlnum_space : ∀ c, isSpace c = true → isAlnum c = false
  /-- The ellipsis is punctuation. -/
  isAlnum_ellipsis : isAlnum (ofChar '…') = false

/-- `\w`. -/
def isWordChar [WordData] (c : PyChar) : Bool := WordData.isAlnum c || c == ofChar '_'

instance [WordData] : WordChars PyChar := ⟨isWordChar⟩

/-- The letters and digits of ASCII. -/
def isAsciiAlnum (c : PyChar) : Bool :=
  decide ((48 ≤ c.val ∧ c.val ≤ 57) ∨ (65 ≤ c.val ∧ c.val ≤ 90) ∨ (97 ≤ c.val ∧ c.val ≤ 122))

/-- ASCII, and the letters of Latin-1. -/
@[reducible] def latinWords : WordData where
  isAlnum c := isAsciiAlnum c || decide (0xC0 ≤ c.val ∧ c.val ≤ 0xFF ∧ c.val ≠ 0xD7 ∧ c.val ≠ 0xF7)
  isAlnum_ascii c h := by
    have hlatin : ¬ (0xC0 ≤ c.val ∧ c.val ≤ 0xFF ∧ c.val ≠ 0xD7 ∧ c.val ≠ 0xF7) := by omega
    simp only [isAsciiAlnum, decide_eq_false hlatin, Bool.or_false]
  isAlnum_space c h := by
    simp only [isSpace, isAsciiAlnum, decide_eq_true_eq, Bool.or_eq_false_iff,
      decide_eq_false_iff_not] at h ⊢
    omega
  isAlnum_ellipsis := by decide

/-! ## Literals -/

/-- What `re.IGNORECASE` compares characters by, as far as ASCII is concerned. -/
def foldCase (c : PyChar) : PyChar :=
  if h : 65 ≤ c.val ∧ c.val ≤ 90 then ⟨c.val + 32, lowered_lt h⟩
  else if c.val = 0x212A then ofChar 'k'
  else if c.val = 0x17F then ofChar 's'
  else if c.val = 0x130 ∨ c.val = 0x131 then ofChar 'i'
  else c

/-- A class under `re.IGNORECASE`, given in lower case. -/
def caseless (p : PyChar → Bool) (c : PyChar) : Bool := p (foldCase c)

/-- A character of a text. -/
def among (s : PyStr) (c : PyChar) : Bool := s.contains c

/-- A literal. -/
def lit (s : PyStr) : Regex PyChar := .concat (s.map fun c => .set fun d => d == c)

lemma plain_lit (s : PyStr) : (lit s).plain = true := by
  induction s with
  | nil => rfl
  | cons c s ih => exact ih

/-- A literal matches itself. -/
lemma matches_lit_iff [WordData] {s : PyStr} {prev next : Option PyChar} {m : PyStr} :
    (lit s).Matches prev m next ↔ m = s := by
  induction s generalizing prev m with
  | nil => exact Iff.rfl
  | cons c s ih =>
      constructor
      · rintro ⟨m₁, m₂, rfl, ⟨d, rfl, hd⟩, hm₂⟩
        rw [beq_iff_eq.mp hd, ih.mp hm₂]
        rfl
      · rintro rfl
        exact ⟨[c], s, rfl, ⟨c, rfl, beq_self_eq_true c⟩, ih.mpr rfl⟩

/-- A literal in lower case, under `re.IGNORECASE`. -/
def litCaseless (s : PyStr) : Regex PyChar :=
  .concat (s.map fun c => .set (caseless fun d => d == c))

/-- Two words with at most one `_` or `-` between them, in lower case, under
`re.IGNORECASE`. -/
def compound (first second : String) : Regex PyChar :=
  .concat [litCaseless (py first), .opt (.set (among (py "_-"))), litCaseless (py second)]

end Py
