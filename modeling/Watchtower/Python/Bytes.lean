import Watchtower.Python.Str

/-!
# Bytes and lines

* `encode` — `str.encode("utf-8")`, for a text without lone surrogates.
* `decode` — `bytes.decode("utf-8", errors="ignore")`.  A byte that begins no well-formed sequence
  is left out; **`encodable_decode`** — what comes out can be encoded again.
* `splitLines` — `str.splitlines(keepends=True)`.
-/

namespace Py

abbrev Byte := Fin 256

abbrev Bytes := List Byte

/-! ## UTF-8 -/

/-- The sequence of a character. -/
def encodeChar (c : PyChar) : Bytes :=
  let byte (n : ℕ) : Byte := ⟨n % 256, by omega⟩
  if c.val < 0x80 then [byte c.val]
  else if c.val < 0x800 then [byte (0xC0 + c.val / 0x40), byte (0x80 + c.val % 0x40)]
  else if c.val < 0x10000 then
    [byte (0xE0 + c.val / 0x1000), byte (0x80 + c.val / 0x40 % 0x40), byte (0x80 + c.val % 0x40)]
  else
    [byte (0xF0 + c.val / 0x40000), byte (0x80 + c.val / 0x1000 % 0x40),
      byte (0x80 + c.val / 0x40 % 0x40), byte (0x80 + c.val % 0x40)]

/-- `s.encode("utf-8")`. -/
def encode (s : PyStr) : Bytes := s.flatMap encodeChar

/-- The six bits of a continuation byte. -/
def continuation (b : Byte) : Option ℕ :=
  if 0x80 ≤ b.val ∧ b.val ≤ 0xBF then some (b.val - 0x80) else none

/-- A code point that is not a surrogate and not below the range of its sequence. -/
def scalar (minimum n : ℕ) : Option PyChar :=
  if h : n < 0x110000 then
    if minimum ≤ n ∧ ¬ (0xD800 ≤ n ∧ n ≤ 0xDFFF) then some ⟨n, h⟩ else none
  else none

/-- The well-formed sequence a text begins with: its character, and how many bytes follow the first
one. -/
def decodeChar : Bytes → Option (PyChar × ℕ)
  | [] => none
  | a :: s =>
      if a.val < 0x80 then (scalar 0 a.val).map fun c => (c, 0)
      else if a.val < 0xC0 then none
      else
        match (s.take 3).map continuation with
        | some x :: rest =>
            if a.val < 0xE0 then (scalar 0x80 ((a.val - 0xC0) * 0x40 + x)).map fun c => (c, 1)
            else
              match rest with
              | some y :: rest =>
                  if a.val < 0xF0 then
                    (scalar 0x800 ((a.val - 0xE0) * 0x1000 + x * 0x40 + y)).map fun c => (c, 2)
                  else
                    match rest with
                    | some z :: _ =>
                        (scalar 0x10000
                          ((a.val - 0xF0) * 0x40000 + x * 0x1000 + y * 0x40 + z)).map
                            fun c => (c, 3)
                    | _ => none
              | _ => none
        | _ => none

/-- Decoding, with the number of bytes still to be passed over. -/
def decodeFrom : ℕ → Bytes → PyStr
  | _, [] => []
  | k + 1, _ :: s => decodeFrom k s
  | 0, b :: s =>
      match decodeChar (b :: s) with
      | some (c, n) => c :: decodeFrom n s
      | none => decodeFrom 0 s

/-- `b.decode("utf-8", errors="ignore")`. -/
def decode (b : Bytes) : PyStr := decodeFrom 0 b

lemma not_surrogate_of_scalar {minimum n : ℕ} {c : PyChar} (h : scalar minimum n = some c) :
    isSurrogate c = false := by
  unfold scalar at h
  split_ifs at h with hlt hrange
  cases h
  simpa [isSurrogate] using hrange.2

lemma not_surrogate_of_decodeChar {s : Bytes} {c : PyChar} {n : ℕ}
    (h : decodeChar s = some (c, n)) : isSurrogate c = false := by
  have hmap : ∀ {m k i : ℕ}, (scalar m k).map (fun c => (c, i)) = some (c, n) →
      isSurrogate c = false := by
    intro m k i hscalar
    obtain ⟨d, hd, heq⟩ := Option.map_eq_some_iff.mp hscalar
    cases heq
    exact not_surrogate_of_scalar hd
  unfold decodeChar at h
  repeat' split at h
  all_goals first
    | exact hmap h
    | cases h

lemma encodable_decodeFrom (s : Bytes) : ∀ k, encodable (decodeFrom k s) = true := by
  induction s with
  | nil =>
      intro k
      cases k <;> rfl
  | cons b s ih =>
      intro k
      cases k with
      | succ k => exact ih k
      | zero =>
          rw [decodeFrom]
          cases h : decodeChar (b :: s) with
          | none => exact ih 0
          | some e =>
              rw [encodable_cons, ih, not_surrogate_of_decodeChar (c := e.1) (n := e.2) h]
              rfl

/-- **What was decoded can be encoded.** -/
theorem encodable_decode (b : Bytes) : encodable (decode b) = true := encodable_decodeFrom b 0

/-! ## Lines -/

/-- The characters `str.splitlines` breaks lines at. -/
def isLineBreak (c : PyChar) : Bool :=
  decide ((10 ≤ c.val ∧ c.val ≤ 13) ∨ (28 ≤ c.val ∧ c.val ≤ 30) ∨ c.val = 0x85 ∨ c.val = 0x2028 ∨
    c.val = 0x2029)

/-- `s.splitlines(keepends=True)`. -/
def splitLines : PyStr → List PyStr
  | [] => []
  | 13 :: 10 :: s => [13, 10] :: splitLines s
  | c :: s =>
      if isLineBreak c then [c] :: splitLines s
      else
        match splitLines s with
        | [] => [[c]]
        | line :: lines => (c :: line) :: lines

/-- The lines together are the text. -/
theorem flatten_splitLines (s : PyStr) : (splitLines s).flatten = s := by
  induction s using splitLines.induct with
  | case1 => rfl
  | case2 s ih => simp [splitLines, ih]
  | case3 c s hcr hbreak ih => simp [splitLines, hbreak, ih]
  | case4 c s hcr hbreak hlines ih => simp_all [splitLines]
  | case5 c s hcr hbreak line lines hlines ih => simp_all [splitLines]

end Py
