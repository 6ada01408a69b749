import Watchtower.Core.Substitute
import Watchtower.Python.Re

/-!
# Sanitized text

`_sanitize` prepares every free text of a notification: control characters go, five patterns are
redacted one after the other, white space is folded and the rest is cut.

* `credentialPattern`, `bearerPattern`, `privateKeyPattern`, `tokenPattern`, `longPattern` — the
  five `_SECRET_PATTERNS`.
* `normalize` — everything but the cut.
* `sanitize` — `_sanitize`.
-/

namespace Watchtower

open Core Py

/-! ## Patterns -/

/-- `_CONTROL_CHARACTERS`. -/
def isControl (c : PyChar) : Bool :=
  decide (c.val ≤ 8 ∨ c.val = 0x0B ∨ c.val = 0x0C ∨ (0x0E ≤ c.val ∧ c.val ≤ 0x1F) ∨ c.val = 0x7F)

/-- `[^\s,;]`. -/
def isValueChar (c : PyChar) : Bool := !(isSpace c || among (py ",;") c)

/-- `[A-Za-z0-9._~+/=-]`, in lower case. -/
def isBearerChar (c : PyChar) : Bool := isAsciiAlnum c || among (py "._~+/=-") c

/-- `[A-Z0-9 ]`. -/
def isHeaderChar (c : PyChar) : Bool :=
  decide ((65 ≤ c.val ∧ c.val ≤ 90) ∨ (48 ≤ c.val ∧ c.val ≤ 57) ∨ c.val = 32)

/-- `[A-Za-z0-9_-]`. -/
def isKeyChar (c : PyChar) : Bool := isAsciiAlnum c || among (py "_-") c

/-- `[A-Za-z0-9+/=_-]`. -/
def isLongChar (c : PyChar) : Bool := isAsciiAlnum c || among (py "+/=_-") c

/-- The names of credentials. -/
def credentialName : Regex PyChar :=
  .oneOf (litCaseless (py "authorization"))
    [compound "api" "key", compound "access" "token", compound "auth" "token",
      litCaseless (py "password"), litCaseless (py "passwd"), litCaseless (py "secret")]

/-- `bearer\s+`. -/
def bearerWord : Regex PyChar := .seq (litCaseless (py "bearer")) (.rep isSpace 1)

/-- The name of a credential and what stands between it and its value. -/
def credentialHead : Regex PyChar :=
  .concat [.edge, credentialName, .edge, .rep isSpace 0, .set (among (py ":=")), .rep isSpace 0]

/-- The value of a credential. -/
def credentialValue : Regex PyChar := .seq (.opt bearerWord) (.rep isValueChar 1)

/-- A credential with its name. -/
def credentialPattern : Regex PyChar := .seq credentialHead credentialValue

/-- A bearer token. -/
def bearerPattern : Regex PyChar :=
  .concat [.edge, bearerWord, .rep (caseless isBearerChar) 12]

/-- The header of a private key. -/
def privateKeyPattern : Regex PyChar :=
  .concat [lit (py "-----BEGIN "), .rep isHeaderChar 0, lit (py "PRIVATE KEY-----")]

/-- The tokens of two providers. -/
def tokenPattern : Regex PyChar :=
  .concat
    [.edge,
      .alt
        (.concat [lit (py "gh"), .set (among (py "pousr")), lit (py "_"), .rep isAsciiAlnum 20])
        (.concat [lit (py "sk-"), .rep isKeyChar 20]),
      .edge]

/-- Any long run of letters, digits and a few signs. -/
def longPattern : Regex PyChar := .concat [.edge, .rep isLongChar 40, .edge]

/-- `_SECRET_PATTERNS`. -/
def secretPatterns : List (Regex PyChar) :=
  [credentialPattern, bearerPattern, privateKeyPattern, tokenPattern, longPattern]

/-! ## Folding -/

/-- `str.split()`: the words between white space. -/
def splitWords : PyStr → List PyStr
  | [] => []
  | c :: s =>
      if isSpace c then splitWords s
      else
        match s.head?, splitWords s with
        | some d, w :: ws => if isSpace d then [c] :: w :: ws else (c :: w) :: ws
        | _, ws => [c] :: ws

/-- `" ".join(text.split())`. -/
def foldSpace (s : PyStr) : PyStr := [ofChar ' '].intercalate (splitWords s)

/-! ## `_sanitize` -/

/-- The argument of `_sanitize`.  Of an object that is not a string, what `str` makes of it
matters. -/
inductive SanitizeArg
  | none
  | text (s : PyStr)
  | object (str : PyStr)

/-- What replaces a secret. -/
def redacted : PyStr := py "[REDACTED]"

variable [WordData]

/-- The loop over the patterns. -/
def redact (s : PyStr) : PyStr :=
  secretPatterns.foldl (fun text pattern => pattern.sub redacted text) s

/-- The text before the cut. -/
def normalize (s : PyStr) : PyStr := foldSpace (redact (s.filter fun c => !isControl c))

/-- `text[:max_len]`, with an ellipsis when something is cut off. -/
def cut (maxLen : ℕ) (text : PyStr) : PyStr :=
  text.take maxLen ++ if maxLen < text.length then py "…" else []

/-- `_sanitize`. -/
def sanitize (value : SanitizeArg) (maxLen : ℕ) : PyStr :=
  match value with
  | .none => py "N/A"
  | .text [] => py "N/A"
  | .text s => cut maxLen (normalize s)
  | .object s => cut maxLen (normalize s)

end Watchtower
