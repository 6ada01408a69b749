import Watchtower.Python.IpAddress
import Watchtower.Python.Value

/-!
# URLs

`urllib.parse.urlsplit` and the attributes of its result.

* `urlsplit` — scheme, network location, path, query and fragment; the checks of brackets and of
  characters that compatibility normalisation turns into delimiters are the ones that raise.
* `SplitResult.hostname`, `SplitResult.port`, `SplitResult.username`, `SplitResult.password`.
* **`not_upper_of_hostname`** — a host name comes lower-cased, but for the zone of an address.
-/

namespace Py

/-- Compatibility normalisation, `unicodedata.normalize('NFKC', s)`. -/
class Normalization where
  nfkc : PyStr → PyStr

/-- ASCII text is its own normal form; this is the normalisation that leaves all other text alone
too. -/
@[reducible] def asciiNormalization : Normalization := ⟨id⟩

/-- The result of `urlsplit`. -/
structure SplitResult where
  scheme : PyStr
  netloc : PyStr
  path : PyStr
  query : PyStr
  fragment : PyStr
  deriving DecidableEq

/-! ## Splitting -/

/-- `_WHATWG_C0_CONTROL_OR_SPACE` is stripped from the front; tabs and line breaks are removed
everywhere. -/
def cleanUrl (url : PyStr) : PyStr :=
  (url.dropWhile fun c => decide (c.val ≤ 32)).filter fun c => !decide (c.val ∈ [9, 10, 13])

/-- An ASCII letter. -/
def isLetter (c : PyChar) : Bool := decide ((65 ≤ c.val ∧ c.val ≤ 90) ∨ (97 ≤ c.val ∧ c.val ≤ 122))

/-- `scheme_chars`. -/
def isSchemeChar (c : PyChar) : Bool := isLetter c || isDigit c || decide (c.val ∈ [43, 45, 46])

/-- The scheme, lower-cased, and what follows its colon. -/
def splitScheme (url : PyStr) : PyStr × PyStr :=
  let (before, found, after) := partition colon url
  if found && (before.head?.map isLetter).getD false && before.all isSchemeChar then
    (before.map asciiLower, after)
  else ([], url)

/-- `_splitnetloc`: up to the first of `/`, `?` and `#`. -/
def splitNetloc (url : PyStr) : PyStr × PyStr :=
  match url with
  | 47 :: 47 :: rest => rest.span fun c => !decide (c.val ∈ [47, 63, 35])
  | _ => ([], url)

/-- `_check_bracketed_host`: an IPv6 address, or `v`, hexadecimal digits, a dot and something
more. -/
def isBracketedHost (s : PyStr) : Bool :=
  match s with
  | 118 :: rest =>
      let (digits, found, tail) := partition dot rest
      found && !digits.isEmpty && digits.all isHexDigit && !tail.isEmpty && !tail.contains 10
  | _ =>
      match ipAddress s with
      | some (.v6 _) => true
      | _ => false

/-- `_check_bracketed_netloc`: nothing before the bracket, and nothing but a port after it. -/
def isBracketedNetloc (netloc : PyStr) : Bool :=
  let (_, _, hostAndPort) := rpartition 64 netloc
  let (before, open?, bracketed) := partition 91 hostAndPort
  if open? then
    let (host, _, port) := partition 93 bracketed
    before.isEmpty && (port.isEmpty || port.head? == some colon) && isBracketedHost host
  else
    let (host, _, _) := partition colon hostAndPort
    isBracketedHost host

variable [Normalization]

/-- `_checknetloc` returns: normalisation brings in none of the delimiters. -/
def isNormalNetloc (netloc : PyStr) : Bool :=
  netloc.all isAscii ||
    (let n := netloc.filter fun c => !decide (c.val ∈ [64, 58, 35, 63])
     n == Normalization.nfkc n ||
       !(Normalization.nfkc n).any fun c => decide (c.val ∈ [47, 63, 35, 64, 58]))

/-- `urlsplit(url)`. -/
def urlsplit (url : PyStr) : Except PyExc SplitResult :=
  let (scheme, rest) := splitScheme (cleanUrl url)
  let (netloc, rest) := splitNetloc rest
  if netloc.contains 91 != netloc.contains 93 then .error (.valueError "Invalid IPv6 URL")
  else if netloc.contains 91 && !isBracketedNetloc netloc then
    .error (.valueError "Invalid IPv6 URL")
  else
    let (rest, _, fragment) := partition 35 rest
    let (path, _, query) := partition 63 rest
    if isNormalNetloc netloc then .ok { scheme, netloc, path, query, fragment }
    else .error (.valueErrorRepr "netloc contains invalid characters under NFKC normalization"
      (.str netloc))

/-! ## The parts of the network location -/

namespace SplitResult

omit [Normalization]

/-- `_hostinfo`: the host and the text of the port. -/
def hostinfo (r : SplitResult) : PyStr × PyStr :=
  let (_, _, hostinfo) := rpartition 64 r.netloc
  let (_, open?, bracketed) := partition 91 hostinfo
  if open? then
    let (host, _, port) := partition 93 bracketed
    (host, (partition colon port).2.2)
  else
    let (host, _, port) := partition colon hostinfo
    (host, port)

/-- `_userinfo`. -/
def userinfo (r : SplitResult) : Option PyStr × Option PyStr :=
  let (userinfo, found, _) := rpartition 64 r.netloc
  if found then
    let (username, havePassword, password) := partition colon userinfo
    (some username, if havePassword then some password else none)
  else (none, none)

def username (r : SplitResult) : Option PyStr := r.userinfo.1

def password (r : SplitResult) : Option PyStr := r.userinfo.2

/-- `port`: `None` when there is no text after the colon. -/
def port (r : SplitResult) : Except PyExc (Option ℕ) :=
  let text := r.hostinfo.2
  if text = [] then .ok none
  else if text.all isDigit then
    if numeral 10 text ≤ 65535 then .ok (some (numeral 10 text))
    else .error (.valueError "Port out of range 0-65535")
  else .error (.valueErrorRepr "Port could not be cast to integer value as " (.str text))

variable [UnicodeData]

/-- `hostname`: lower-cased but for the zone of a scoped address. -/
def hostname (r : SplitResult) : Option PyStr :=
  let host := r.hostinfo.1
  if host = [] then none
  else
    let (address, found, zone) := partition percent host
    some (lower address ++ if found then percent :: zone else [])

/-- **Before the zone, a host name holds no capital ASCII letter.** -/
theorem not_upper_of_hostname {r : SplitResult} {host : PyStr} (h : r.hostname = some host) :
    ∀ c ∈ (partition percent host).1, ¬ (65 ≤ c.val ∧ c.val ≤ 90) := by
  have hkept : ∀ s, percent ∉ s → percent ∉ lower s := by
    intro s hs
    rwa [← List.count_eq_zero, count_lower (by decide), List.count_eq_zero]
  rcases partition_cases percent r.hostinfo.1 with ⟨hno, hpart⟩ | ⟨address, zone, hno, -, hpart⟩
  · simp only [hostname, hpart, Bool.false_eq_true, if_false, List.append_nil] at h
    split_ifs at h with hempty
    cases h
    rw [partition_of_not_mem (hkept _ hno)]
    exact fun c hc => not_upper_of_mem_lower hc
  · simp only [hostname, hpart, if_true] at h
    split_ifs at h with hempty
    cases h
    rw [partition_append (hkept _ hno)]
    exact fun c hc => not_upper_of_mem_lower hc

end SplitResult

end Py
