import Watchtower.Python.Str

/-!
# IP addresses as texts

Two readings of a host that looks like an address.  The `ipaddress` module accepts four decimal
octets without leading zeros; the operating system also takes one to three numbers, and octal ones.

* `ipAddress` — `ipaddress.ip_address`.
* `inetAton` — the system's reading of a text of digits and dots.
* `IpAddress.prohibited` — the ranges a probe must not reach, as the module classifies them.
* `isLiteral`, `systemAddress` — the hosts a client does not look up, and where they lead.
* **`inetAton_of_parseIPv4`** — where the module reads an IPv4 address, the system reads the same one.
* **`literal_agrees`** — the same of a literal host that was normalised first.
-/

namespace Py

/-! ## Numerals -/

/-- The value of a hexadecimal digit. -/
def digitValue (c : PyChar) : ℕ :=
  if c.val ≤ 57 then c.val - 48 else if c.val ≤ 70 then c.val - 55 else c.val - 87

/-- `int(s, base)` for a text of digits. -/
def numeral (base : ℕ) (s : PyStr) : ℕ := s.foldl (fun n c => n * base + digitValue c) 0

/-- `'%x' % n`. -/
def hexText (n : ℕ) : PyStr := (Nat.toDigits 16 n).map ofChar

def dot : PyChar := 46

def colon : PyChar := 58

def percent : PyChar := 37

/-! ## The `ipaddress` module -/

/-- An address.  The scope of an IPv6 address plays no role in its classification. -/
inductive IpAddress
  | v4 (n : ℕ)
  | v6 (n : ℕ)
  deriving DecidableEq

/-- `IPv4Address._parse_octet`. -/
def parseOctet (s : PyStr) : Option ℕ :=
  if s ≠ [] ∧ s.all isDigit ∧ s.length ≤ 3 ∧ (s = [48] ∨ s.head? ≠ some 48) ∧ numeral 10 s ≤ 255 then
    some (numeral 10 s)
  else none

/-- `IPv4Address._ip_int_from_string`. -/
def parseIPv4 (s : PyStr) : Option ℕ :=
  match s.splitOn dot with
  | [a, b, c, d] => do
      let a ← parseOctet a
      let b ← parseOctet b
      let c ← parseOctet c
      let d ← parseOctet d
      return ((a * 256 + b) * 256 + c) * 256 + d
  | _ => none

/-- `IPv6Address._parse_hextet`. -/
def parseHextet (s : PyStr) : Option ℕ :=
  if s ≠ [] ∧ s.all isHexDigit ∧ s.length ≤ 4 then some (numeral 16 s) else none

/-- The number that a list of hextets makes up. -/
def joinHextets (hextets : List ℕ) : ℕ := hextets.foldl (fun n h => n * 65536 + h) 0

/-- The parts between the colons, with an IPv4 suffix turned into two hextets. -/
def ipv6Parts (s : PyStr) : Option (List PyStr) :=
  let parts := s.splitOn colon
  let last := parts.getLastD []
  if parts.length < 3 then none
  else if dot ∈ last then
    (parseIPv4 last).map fun n => parts.dropLast ++ [hexText (n / 65536), hexText (n % 65536)]
  else some parts

/-- `parts_hi` and `parts_lo`: how many parts stand before and after the run of zeros. -/
def hextetRuns (parts : List PyStr) : Option (ℕ × ℕ) :=
  let inner := parts.tail.dropLast
  let leading := parts.head? == some []
  let trailing := parts.getLast? == some []
  match inner.count [] with
  | 0 => if parts.length = 8 ∧ !leading ∧ !trailing then some (8, 0) else none
  | 1 =>
      let skip := inner.idxOf [] + 1
      let hi := if leading then skip - 1 else skip
      let lo := if trailing then parts.length - skip - 2 else parts.length - skip - 1
      -- an empty first or last part is only permitted next to the run
      if (leading ∧ hi ≠ 0) ∨ (trailing ∧ lo ≠ 0) ∨ 8 ≤ hi + lo then none else some (hi, lo)
  | _ => none

/-- `IPv6Address._ip_int_from_string`. -/
def parseIPv6 (s : PyStr) : Option ℕ := do
  let parts ← ipv6Parts s
  if 9 < parts.length then none
  else
    let (hi, lo) ← hextetRuns parts
    let upper ← (parts.take hi).mapM parseHextet
    let lower ← (parts.drop (parts.length - lo)).mapM parseHextet
    return joinHextets (upper ++ List.replicate (8 - (hi + lo)) 0 ++ lower)

/-- `IPv6Address(s)`: the scope is what follows the first percent sign. -/
def parseScopedIPv6 (s : PyStr) : Option ℕ :=
  let (address, found, zone) := partition percent s
  if found ∧ (zone = [] ∨ percent ∈ zone) then none else parseIPv6 address

/-- `ipaddress.ip_address(s)`, where `None` stands for the `ValueError`. -/
def ipAddress (s : PyStr) : Option IpAddress :=
  if 47 ∈ s then none
  else
    match parseIPv4 s with
    | some n => some (.v4 n)
    | none => (parseScopedIPv6 s).map .v6

/-! ## Address ranges -/

/-- The first address of a range and the length of its prefix. -/
structure Network where
  base : ℕ
  prefixLength : ℕ

/-- The address with the given octets. -/
def quad (a b c d : ℕ) : ℕ := ((a * 256 + b) * 256 + c) * 256 + d

def Network.contains (width : ℕ) (net : Network) (n : ℕ) : Bool :=
  n / 2 ^ (width - net.prefixLength) == net.base / 2 ^ (width - net.prefixLength)

def contains4 (net : Network) (n : ℕ) : Bool := net.contains 32 n

/-- For a range given by the leading 48 bits of its first address. -/
def contains6 (net : Network) (n : ℕ) : Bool :=
  Network.contains 128 ⟨net.base * 2 ^ 80, net.prefixLength⟩ n

/-- `_IPv4Constants._private_networks`. -/
def privateNetworks4 : List Network :=
  [⟨quad 0 0 0 0, 8⟩, ⟨quad 10 0 0 0, 8⟩, ⟨quad 127 0 0 0, 8⟩, ⟨quad 169 254 0 0, 16⟩,
    ⟨quad 172 16 0 0, 12⟩, ⟨quad 192 0 0 0, 24⟩, ⟨quad 192 0 0 170, 31⟩, ⟨quad 192 0 2 0, 24⟩,
    ⟨quad 192 168 0 0, 16⟩, ⟨quad 198 18 0 0, 15⟩, ⟨quad 198 51 100 0, 24⟩,
    ⟨quad 203 0 113 0, 24⟩, ⟨quad 240 0 0 0, 4⟩, ⟨quad 255 255 255 255, 32⟩]

/-- `_IPv4Constants._private_networks_exceptions`. -/
def privateExceptions4 : List Network := [⟨quad 192 0 0 9, 32⟩, ⟨quad 192 0 0 10, 32⟩]

/-- `_IPv6Constants._private_networks`, but for the loopback, the unspecified and the mapped
addresses, which lie outside the leading 48 bits. -/
def privateNetworks6 : List Network :=
  [⟨0x0064ff9b0001, 48⟩, ⟨0x010000000000, 64⟩, ⟨0x200100000000, 23⟩, ⟨0x20010db80000, 32⟩,
    ⟨0x200200000000, 16⟩, ⟨0xfc0000000000, 7⟩, ⟨0xfe8000000000, 10⟩]

/-- `_IPv6Constants._private_networks_exceptions`, but for the two single addresses. -/
def privateExceptions6 : List Network :=
  [⟨0x200100030000, 32⟩, ⟨0x200100040112, 48⟩, ⟨0x200100200000, 28⟩, ⟨0x200100300000, 28⟩]

/-- `_IPv6Constants._reserved_networks`. -/
def reservedNetworks6 : List Network :=
  [⟨0, 8⟩, ⟨0x010000000000, 8⟩, ⟨0x020000000000, 7⟩, ⟨0x040000000000, 6⟩, ⟨0x080000000000, 5⟩,
    ⟨0x100000000000, 4⟩, ⟨0x400000000000, 3⟩, ⟨0x600000000000, 3⟩, ⟨0x800000000000, 3⟩,
    ⟨0xa00000000000, 3⟩, ⟨0xc00000000000, 3⟩, ⟨0xe00000000000, 4⟩, ⟨0xf00000000000, 5⟩,
    ⟨0xf80000000000, 6⟩, ⟨0xfe0000000000, 9⟩]

namespace IpAddress

/-- An IPv4-mapped IPv6 address is classified as the address it maps, except by `is_loopback`; this
is the behaviour since 3.11.11. -/
def unmapped : IpAddress → IpAddress
  | .v4 n => .v4 n
  | .v6 n => if n / 2 ^ 32 = 0xffff then .v4 (n % 2 ^ 32) else .v6 n

def isLoopback : IpAddress → Bool
  | .v4 n => contains4 ⟨quad 127 0 0 0, 8⟩ n
  | .v6 n => n == 1

def isPrivate (a : IpAddress) : Bool :=
  match a.unmapped with
  | .v4 n => privateNetworks4.any (contains4 · n) && !privateExceptions4.any (contains4 · n)
  | .v6 n =>
      (n == 0 || n == 1 || privateNetworks6.any (contains6 · n)) &&
        !(n == 0x20010001 * 2 ^ 96 + 1 || n == 0x20010001 * 2 ^ 96 + 2 ||
          privateExceptions6.any (contains6 · n))

def isLinkLocal (a : IpAddress) : Bool :=
  match a.unmapped with
  | .v4 n => contains4 ⟨quad 169 254 0 0, 16⟩ n
  | .v6 n => contains6 ⟨0xfe8000000000, 10⟩ n

def isMulticast (a : IpAddress) : Bool :=
  match a.unmapped with
  | .v4 n => contains4 ⟨quad 224 0 0 0, 4⟩ n
  | .v6 n => contains6 ⟨0xff0000000000, 8⟩ n

def isUnspecified (a : IpAddress) : Bool :=
  match a.unmapped with
  | .v4 n => n == 0
  | .v6 n => n == 0

def isReserved (a : IpAddress) : Bool :=
  match a.unmapped with
  | .v4 n => contains4 ⟨quad 240 0 0 0, 4⟩ n
  | .v6 n => reservedNetworks6.any (contains6 · n)

/-- An address in one of the ranges, loopback aside. -/
def isInternal (a : IpAddress) : Bool :=
  a.isPrivate || a.isReserved || a.isLinkLocal || a.isMulticast || a.isUnspecified

/-- An address a probe must not connect to. -/
def prohibited (a : IpAddress) : Bool := a.isInternal || a.isLoopback

end IpAddress

/-! ## The system's reading -/

/-- One number of the dotted form: octal after a leading zero. -/
def inetPart (s : PyStr) : Option ℕ :=
  if s = [] ∨ s.all isDigit = false then none
  else if s.head? = some 48 then
    if s.all fun c => decide (c.val < 56) then some (numeral 8 s) else none
  else some (numeral 10 s)

/-- `inet_aton`, for a text of digits and dots: the last number fills the remaining octets. -/
def inetAton (s : PyStr) : Option ℕ := do
  let numbers ← (s.splitOn dot).mapM inetPart
  match numbers with
  | [a] => if a < 2 ^ 32 then some a else none
  | [a, b] => if a < 256 ∧ b < 2 ^ 24 then some (a * 2 ^ 24 + b) else none
  | [a, b, c] => if a < 256 ∧ b < 256 ∧ c < 2 ^ 16 then some ((a * 256 + b) * 2 ^ 16 + c) else none
  | [a, b, c, d] => if a < 256 ∧ b < 256 ∧ c < 256 ∧ d < 256 then some (quad a b c d) else none
  | _ => none

/-! ## The two readings compared -/

lemma parseOctet_eq_some {s : PyStr} {n : ℕ} (h : parseOctet s = some n) :
    s ≠ [] ∧ s.all isDigit = true ∧ (s = [48] ∨ s.head? ≠ some 48) ∧ numeral 10 s = n ∧ n ≤ 255 := by
  unfold parseOctet at h
  split_ifs at h with hcond
  obtain ⟨hne, hdigits, -, hzero, hle⟩ := hcond
  cases h
  exact ⟨hne, hdigits, hzero, rfl, hle⟩

lemma parseIPv4_eq_some {s : PyStr} {n : ℕ} (h : parseIPv4 s = some n) :
    ∃ a b c d x y z w, s.splitOn dot = [a, b, c, d] ∧ parseOctet a = some x ∧
      parseOctet b = some y ∧ parseOctet c = some z ∧ parseOctet d = some w ∧ n = quad x y z w := by
  unfold parseIPv4 at h
  split at h
  · next a b c d hsplit =>
      simp only [Option.bind_eq_bind, Option.bind_eq_some_iff, Option.pure_def,
        Option.some.injEq] at h
      obtain ⟨x, hx, y, hy, z, hz, w, hw, rfl⟩ := h
      exact ⟨a, b, c, d, x, y, z, w, hsplit, hx, hy, hz, hw, rfl⟩
  · cases h

/-- Where an octet is accepted, the system reads the same number. -/
lemma inetPart_of_parseOctet {s : PyStr} {n : ℕ} (h : parseOctet s = some n) :
    inetPart s = some n ∧ n < 256 := by
  obtain ⟨hne, hdigits, hzero, rfl, hle⟩ := parseOctet_eq_some h
  refine ⟨?_, by omega⟩
  rw [inetPart, if_neg (by simp [hne, hdigits])]
  rcases hzero with rfl | hhead
  · rfl
  · rw [if_neg hhead]

/-- **Where `ipaddress` reads an IPv4 address, the system reads the same one.** -/
theorem inetAton_of_parseIPv4 {s : PyStr} {n : ℕ} (h : parseIPv4 s = some n) :
    inetAton s = some n := by
  obtain ⟨a, b, c, d, x, y, z, w, hsplit, ha, hb, hc, hd, rfl⟩ := parseIPv4_eq_some h
  obtain ⟨ha', hx⟩ := inetPart_of_parseOctet ha
  obtain ⟨hb', hy⟩ := inetPart_of_parseOctet hb
  obtain ⟨hc', hz⟩ := inetPart_of_parseOctet hc
  obtain ⟨hd', hw⟩ := inetPart_of_parseOctet hd
  simp [inetAton, hsplit, ha', hb', hc', hd', hx, hy, hz, hw]

/-- What every parsed part is known to be, once all of them are parsed. -/
lemma forall_of_mapM_eq_some {f : PyStr → Option ℕ} {P : PyStr → Prop}
    (hf : ∀ p x, f p = some x → P p) {parts : List PyStr} {numbers : List ℕ}
    (h : parts.mapM f = some numbers) : ∀ p ∈ parts, P p := by
  induction parts generalizing numbers with
  | nil => simp
  | cons p parts ih =>
      simp only [List.mapM_cons, Option.bind_eq_bind, Option.bind_eq_some_iff, Option.pure_def,
        Option.some.injEq] at h
      obtain ⟨x, hx, xs, hxs, -⟩ := h
      intro q hq
      rcases List.mem_cons.mp hq with rfl | hq
      · exact hf q x hx
      · exact ih hxs q hq

/-- A text that ends with the separator ends with an empty part. -/
lemma splitOn_concat_self (c : PyChar) (s : PyStr) : (s ++ [c]).splitOn c = s.splitOn c ++ [[]] :=
  List.splitOn_append_cons_self s []

/-- Any other last character stays at the end of the last part. -/
lemma splitOn_concat_of_ne {c d : PyChar} (h : d ≠ c) (s : PyStr) :
    ∃ init x, (s ++ [d]).splitOn c = init ++ [x ++ [d]] := by
  induction s with
  | nil => exact ⟨[], [], List.splitOn_eq_singleton (by simpa using h.symm)⟩
  | cons e s ih =>
      obtain ⟨init, x, hsplit⟩ := ih
      rw [List.cons_append, List.splitOn_cons_eq_if_modifyHead, hsplit]
      by_cases he : e = c
      · exact ⟨[] :: init, x, by simp [he]⟩
      · cases init with
        | nil => exact ⟨[], e :: x, by simp [he]⟩
        | cons p init => exact ⟨(e :: p) :: init, x, by simp [he]⟩

/-- What is not a separator stands in one of the parts. -/
lemma mem_part_of_mem {c d : PyChar} {s : PyStr} (hd : d ∈ s) (hne : d ≠ c) :
    ∃ p ∈ s.splitOn c, d ∈ p := by
  have hjoin : [c].intercalate (s.splitOn c) = s := List.intercalate_splitOn c
  rw [← hjoin] at hd
  generalize s.splitOn c = parts at hd
  induction parts with
  | nil => simp at hd
  | cons p parts ih =>
      cases parts with
      | nil => exact ⟨p, by simp, by simpa using hd⟩
      | cons q parts =>
          rw [List.intercalate_cons_cons, List.append_assoc, List.mem_append, List.mem_append,
            List.mem_singleton] at hd
          rcases hd with hd | rfl | hd
          · exact ⟨p, by simp, hd⟩
          · exact absurd rfl hne
          · obtain ⟨r, hr, hdr⟩ := ih hd
            exact ⟨r, List.mem_cons_of_mem _ hr, hdr⟩

/-- An IPv4 address consists of digits and dots. -/
lemma isDigit_or_dot_of_parseIPv4 {s : PyStr} {n : ℕ} (h : parseIPv4 s = some n) {c : PyChar}
    (hc : c ∈ s) : isDigit c = true ∨ c = dot := by
  obtain ⟨a, b, c', d, x, y, z, w, hsplit, ha, hb, hc', hd, -⟩ := parseIPv4_eq_some h
  by_cases hdot : c = dot
  · exact Or.inr hdot
  · obtain ⟨p, hp, hcp⟩ := mem_part_of_mem hc hdot
    have hdigits : p.all isDigit = true := by
      rw [hsplit] at hp
      simp only [List.mem_cons, List.not_mem_nil, or_false] at hp
      rcases hp with rfl | rfl | rfl | rfl
      · exact (parseOctet_eq_some ha).2.1
      · exact (parseOctet_eq_some hb).2.1
      · exact (parseOctet_eq_some hc').2.1
      · exact (parseOctet_eq_some hd).2.1
    exact Or.inl (List.all_eq_true.mp hdigits c hcp)

/-- So does what the system reads as one. -/
lemma isDigit_or_dot_of_inetAton {s : PyStr} {n : ℕ} (h : inetAton s = some n) {c : PyChar}
    (hc : c ∈ s) : isDigit c = true ∨ c = dot := by
  obtain ⟨numbers, hnumbers, -⟩ := Option.bind_eq_some_iff.mp h
  have hparts : ∀ p ∈ s.splitOn dot, p.all isDigit = true := by
    refine forall_of_mapM_eq_some (fun p x hx => ?_) hnumbers
    unfold inetPart at hx
    split_ifs at hx with hbad
    all_goals simpa using fun h => hbad (Or.inr h)
  by_cases hdot : c = dot
  · exact Or.inr hdot
  · obtain ⟨p, hp, hcp⟩ := mem_part_of_mem hc hdot
    exact Or.inl (List.all_eq_true.mp (hparts p hp) c hcp)

/-- An IPv4 address does not end with a dot. -/
lemma parseIPv4_concat_dot (s : PyStr) : parseIPv4 (s ++ [dot]) = none := by
  by_contra h
  obtain ⟨n, hn⟩ := Option.ne_none_iff_exists'.mp h
  obtain ⟨a, b, c, d, x, y, z, w, hsplit, -, -, -, hd, -⟩ := parseIPv4_eq_some hn
  rw [splitOn_concat_self] at hsplit
  have hlast := congrArg List.getLast? hsplit
  simp only [List.getLast?_append, List.getLast?_singleton, Option.some_or, List.getLast?_cons_cons,
    Option.some.injEq] at hlast
  exact (parseOctet_eq_some hd).1 hlast.symm

/-- The system does not read a text that ends with a dot either. -/
lemma inetAton_concat_dot (s : PyStr) : inetAton (s ++ [dot]) = none := by
  have hnil : inetPart [] = none := rfl
  simp [inetAton, splitOn_concat_self, List.mapM_append, hnil]

/-! ## The shape of an IPv6 address -/

lemma hex_of_mapM_parseHextet {parts : List PyStr} {hextets : List ℕ}
    (h : parts.mapM parseHextet = some hextets) : ∀ p ∈ parts, p.all isHexDigit = true := by
  refine forall_of_mapM_eq_some (fun p x hx => ?_) h
  unfold parseHextet at hx
  split_ifs at hx with hcond
  exact hcond.2.1

/-- The parts that belong to neither side of the run are empty. -/
lemma getElem?_of_hextetRuns {parts : List PyStr} {hi lo : ℕ}
    (h : hextetRuns parts = some (hi, lo)) {i : ℕ} (hlow : hi ≤ i) (hhigh : i < parts.length - lo) :
    parts[i]? = some [] := by
  simp only [hextetRuns] at h
  split at h
  · split_ifs at h with hlen
    cases h
    omega
  · next hcount =>
      have hmem : [] ∈ parts.tail.dropLast := List.count_pos_iff.mp (by omega)
      have hskip := List.idxOf_lt_length_of_mem hmem
      have hrun : parts[parts.tail.dropLast.idxOf [] + 1]? = some [] := by
        have hget := List.getElem_idxOf hskip
        rw [List.getElem_dropLast, List.getElem_tail] at hget
        rw [List.length_dropLast, List.length_tail] at hskip
        rw [List.getElem?_eq_getElem (by omega), hget]
      rw [List.length_dropLast, List.length_tail] at hskip
      have hfirst : (parts.head? == some []) = true → parts[0]? = some [] := by
        rw [List.head?_eq_getElem?, beq_iff_eq]
        exact id
      have hlast : (parts.getLast? == some []) = true → parts[parts.length - 1]? = some [] := by
        rw [List.getLast?_eq_getElem?, beq_iff_eq]
        exact id
      clear hmem
      generalize parts.tail.dropLast.idxOf [] = k at h hskip hrun
      -- the run, the first part where it opens the text, the last where it closes it
      have hcases : i = k + 1 ∨ (i = 0 ∧ (parts.head? == some []) = true) ∨
          (i = parts.length - 1 ∧ (parts.getLast? == some []) = true) := by
        split_ifs at h <;> cases h <;> grind
      rcases hcases with rfl | ⟨rfl, hi⟩ | ⟨rfl, hi⟩
      · exact hrun
      · exact hfirst hi
      · exact hlast hi
  · cases h

/-- Every part of an address is hexadecimal. -/
lemma hex_parts_of_parseIPv6 {s : PyStr} {n : ℕ} (h : parseIPv6 s = some n) :
    ∃ parts, ipv6Parts s = some parts ∧ ∀ p ∈ parts, p.all isHexDigit = true := by
  simp only [parseIPv6, Option.bind_eq_bind, Option.bind_eq_some_iff] at h
  obtain ⟨parts, hparts, h⟩ := h
  refine ⟨parts, hparts, fun p hp => ?_⟩
  split_ifs at h with hlong
  obtain ⟨⟨hi, lo⟩, hruns, h⟩ := Option.bind_eq_some_iff.mp h
  obtain ⟨upper, hupper, h⟩ := Option.bind_eq_some_iff.mp h
  obtain ⟨lower, hlower, -⟩ := Option.bind_eq_some_iff.mp h
  obtain ⟨i, hlen, rfl⟩ := List.getElem_of_mem hp
  rcases lt_or_ge i hi with hlow | hlow
  · refine hex_of_mapM_parseHextet hupper _ ?_
    exact List.mem_take_iff_getElem.mpr ⟨i, by omega, rfl⟩
  · rcases lt_or_ge i (parts.length - lo) with hhigh | hhigh
    · have hnil := getElem?_of_hextetRuns hruns hlow hhigh
      rw [List.getElem?_eq_getElem hlen, Option.some.injEq] at hnil
      rw [hnil]
      rfl
    · refine hex_of_mapM_parseHextet hlower _ ?_
      refine List.mem_drop_iff_getElem.mpr ⟨i - (parts.length - lo), by omega, ?_⟩
      congr 1
      omega

lemma colon_mem_of_parts {s : PyStr} (h : 2 ≤ (s.splitOn colon).length) : colon ∈ s := by
  by_contra hnot
  rw [List.splitOn_eq_singleton hnot] at h
  simp at h

lemma mem_dropLast_or_getLastD {p : PyStr} {parts : List PyStr} (h : p ∈ parts) :
    p ∈ parts.dropLast ∨ p = parts.getLastD [] := by
  induction parts using List.reverseRecOn with
  | nil => cases h
  | append_singleton init last _ =>
      simpa using h

/-- An IPv6 address has a colon and consists of ASCII characters. -/
lemma chars_of_parseIPv6 {s : PyStr} {n : ℕ} (h : parseIPv6 s = some n) :
    colon ∈ s ∧ ∀ c ∈ s, isAscii c = true := by
  obtain ⟨parts, hparts, hhex⟩ := hex_parts_of_parseIPv6 h
  have hascii_hex : ∀ c, isHexDigit c = true → isAscii c = true := by
    intro c hc
    simp only [isHexDigit, isDigit, isAscii, Bool.or_eq_true, decide_eq_true_eq] at hc ⊢
    omega
  simp only [ipv6Parts] at hparts
  split_ifs at hparts with hshort hdot
  · -- the last part is an IPv4 address
    obtain ⟨v4, hv4, rfl⟩ := Option.map_eq_some_iff.mp hparts
    refine ⟨colon_mem_of_parts (by omega), fun c hc => ?_⟩
    by_cases hcolon : c = colon
    · subst hcolon
      decide
    · obtain ⟨p, hp, hcp⟩ := mem_part_of_mem hc hcolon
      rcases mem_dropLast_or_getLastD hp with hinit | rfl
      · exact hascii_hex c (List.all_eq_true.mp (hhex p (List.mem_append_left _ hinit)) c hcp)
      · rcases isDigit_or_dot_of_parseIPv4 hv4 hcp with hdigit | rfl
        · exact hascii_hex c (by simp [isHexDigit, hdigit])
        · decide
  · cases hparts
    refine ⟨colon_mem_of_parts (by omega), fun c hc => ?_⟩
    by_cases hcolon : c = colon
    · subst hcolon
      decide
    · obtain ⟨p, hp, hcp⟩ := mem_part_of_mem hc hcolon
      exact hascii_hex c (List.all_eq_true.mp (hhex p hp) c hcp)

/-- An IPv4 address has no colon. -/
lemma parseIPv4_of_colon {s : PyStr} (h : colon ∈ s) : parseIPv4 s = none := by
  by_contra hne
  obtain ⟨n, hn⟩ := Option.ne_none_iff_exists'.mp hne
  rcases isDigit_or_dot_of_parseIPv4 hn h with hdigit | hdot
  · exact absurd hdigit (by decide)
  · exact absurd hdot (by decide)

/-! ## Address literals in a host -/

/-- A host that a client takes for an address and does not look up. -/
def isLiteral (host : PyStr) : Bool :=
  host.all (fun c => isDigit c || c == dot) || host.contains colon

/-- The address the system connects to for a literal host.  A zone after the percent sign is the name
of a network interface of this machine. -/
def systemAddress (isInterface : PyStr → Bool) (host : PyStr) : Option IpAddress :=
  if colon ∈ host then
    let (address, found, zone) := partition percent host
    if found ∧ isInterface zone = false then none else (parseIPv6 address).map .v6
  else (inetAton host).map .v4

/-- The system reads no text that ends with a dot, and no colon, as an address. -/
lemma systemAddress_concat_dot (isInterface : PyStr → Bool) {s : PyStr} (h : colon ∉ s) :
    systemAddress isInterface (s ++ [dot]) = none := by
  have hcolon : colon ∉ s ++ [dot] := by
    rw [List.mem_append, List.mem_singleton]
    rintro (hs | hd)
    · exact h hs
    · exact absurd hd (by decide)
  rw [systemAddress, if_neg hcolon, inetAton_concat_dot, Option.map_none]

/-- Without a colon the module can only read an IPv4 address. -/
lemma ipAddress_of_inetAton {s : PyStr} {a : IpAddress} {n : ℕ} (hcolon : colon ∉ s)
    (ha : ipAddress s = some a) (hn : inetAton s = some n) : a = .v4 n := by
  rw [ipAddress] at ha
  split_ifs at ha
  split at ha
  · next m hm =>
      rw [inetAton_of_parseIPv4 hm, Option.some.injEq] at hn
      rw [← hn]
      exact (Option.some.inj ha).symm
  · obtain ⟨m, hm, -⟩ := Option.map_eq_some_iff.mp ha
    simp only [parseScopedIPv6] at hm
    split_ifs at hm
    exact absurd (mem_of_mem_partition (chars_of_parseIPv6 hm).1) hcolon

/-- No IPv6 address ends with a dot. -/
lemma parseIPv6_concat_dot (s : PyStr) : parseIPv6 (s ++ [dot]) = none := by
  obtain ⟨init, x, hsplit⟩ := splitOn_concat_of_ne (c := colon) (d := dot) (by decide) s
  have hparts : ipv6Parts (s ++ [dot]) = none := by
    simp only [ipv6Parts, hsplit]
    split_ifs with hshort hdot
    · rfl
    · simp [parseIPv4_concat_dot]
    · simp at hdot
  rw [parseIPv6, hparts]
  rfl

lemma rstripChar_of_parseIPv6 {s : PyStr} {n : ℕ} (h : parseIPv6 s = some n) :
    rstripChar dot s = s := by
  rcases List.eq_nil_or_concat' s with rfl | ⟨init, last, rfl⟩
  · rfl
  · by_cases hlast : last = dot
    · subst hlast
      rw [parseIPv6_concat_dot] at h
      cases h
    · exact rstripChar_of_ne hlast init

lemma ipAddress_of_colon {s : PyStr} (h : colon ∈ s) :
    ipAddress s = if 47 ∈ s then none else (parseScopedIPv6 s).map .v6 := by
  rw [ipAddress, parseIPv4_of_colon h]

variable [UnicodeData]

/-- A dotted host is read from its own characters: nothing is lowered, and a trailing dot makes the
system refuse it. -/
lemma dotted_agrees {isInterface : PyStr → Bool} {host : PyStr} {a b : IpAddress}
    (hcolon : colon ∉ host) (hdigits : ∀ c ∈ host, isDigit c = true ∨ c = dot)
    (ha : ipAddress (rstripChar dot (lower host)) = some a)
    (hb : systemAddress isInterface host = some b) : a = b := by
  have hlower : lower host = host := by
    refine lower_of_separators fun c hc => ?_
    rcases hdigits c hc with hdigit | rfl
    · exact separator_of_isDigit hdigit
    · decide
  rw [hlower] at ha
  rcases List.eq_nil_or_concat' host with rfl | ⟨init, last, rfl⟩
  · simp [systemAddress, inetAton, inetPart, hcolon] at hb
  · by_cases hlast : last = dot
    · subst hlast
      rw [systemAddress_concat_dot isInterface fun h => hcolon (List.mem_append_left _ h)] at hb
      cases hb
    · rw [rstripChar_of_ne hlast] at ha
      rw [systemAddress, if_neg hcolon] at hb
      obtain ⟨n, hn, rfl⟩ := Option.map_eq_some_iff.mp hb
      exact ipAddress_of_inetAton hcolon ha hn

/-- An IPv6 host is read from the part before its zone, which the normalisation leaves alone. -/
lemma colon_agrees {isInterface : PyStr → Bool} {host : PyStr} {a b : IpAddress}
    (hcolon : colon ∈ host)
    (hlow : ∀ c ∈ (partition percent host).1, ¬ (65 ≤ c.val ∧ c.val ≤ 90))
    (ha : ipAddress (rstripChar dot (lower host)) = some a)
    (hb : systemAddress isInterface host = some b) : a = b := by
  rw [systemAddress, if_pos hcolon] at hb
  simp only at hb
  split_ifs at hb with hzone
  obtain ⟨n, hn, rfl⟩ := Option.map_eq_some_iff.mp hb
  obtain ⟨hmem, hascii⟩ := chars_of_parseIPv6 hn
  rcases partition_cases percent host with ⟨hno, hpart⟩ | ⟨address, zone, hno, hs, hpart⟩
  · rw [hpart] at hn hmem hascii hlow
    rw [lower_of_ascii hascii, map_asciiLower_eq_self hlow, rstripChar_of_parseIPv6 hn,
      ipAddress_of_colon hmem, parseScopedIPv6, hpart] at ha
    simp only [Bool.false_eq_true, false_and, if_false, hn] at ha
    split_ifs at ha
    exact (Option.some.inj ha).symm
  · rw [hpart] at hn hmem hascii hlow
    obtain ⟨zone', hlower⟩ : ∃ zone', lower host = address ++ percent :: zone' := by
      refine ⟨lowerFrom (percent :: address.reverse) zone, ?_⟩
      rw [hs, lower, lowerFrom_append address _ hascii, map_asciiLower_eq_self hlow,
        List.append_nil, lowerFrom, if_neg (by decide),
        UnicodeData.lower_ascii percent (by decide)]
      rfl
    rw [hlower, rstripChar_append_cons (by decide),
      ipAddress_of_colon (List.mem_append_left _ hmem), parseScopedIPv6, partition_append hno] at ha
    simp only [true_and, hn] at ha
    split_ifs at ha with hslash hbad
    · cases ha
    · exact (Option.some.inj ha).symm

/-- **Where the validator reads an address in a literal host, the system reads the same one.** -/
theorem literal_agrees {isInterface : PyStr → Bool} {host : PyStr} {a b : IpAddress}
    (hliteral : isLiteral host = true)
    (hlow : ∀ c ∈ (partition percent host).1, ¬ (65 ≤ c.val ∧ c.val ≤ 90))
    (ha : ipAddress (rstripChar dot (lower host)) = some a)
    (hb : systemAddress isInterface host = some b) : a = b := by
  by_cases hcolon : colon ∈ host
  · exact colon_agrees hcolon hlow ha hb
  · have hdigits : ∀ c ∈ host, isDigit c = true ∨ c = dot := by
      simpa [isLiteral, hcolon] using hliteral
    exact dotted_agrees hcolon hdigits ha hb

end Py
