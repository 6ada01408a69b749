import Watchtower.Python.Re
import Watchtower.Schema.Report

/-!
# Security patterns

`SECURITY_PATTERNS`, the expressions the regex scanner tries on every line, each with what is
reported on a match.
-/

namespace Watchtower

open Core Py

/-- One entry of `SECURITY_PATTERNS`. -/
structure SecurityPattern where
  pattern : Regex PyChar
  type : FindingType
  severity : Severity
  title : PyStr
  confidence : { q : FiniteFloat // 0 ≤ q.val ∧ q.val ≤ 1 }

/-! ## Parts -/

/-- `\s*`. -/
def spaces : Regex PyChar := .rep isSpace 0

/-- `["\']`. -/
def quote : Regex PyChar := .set (among (py "\"'"))

/-- `.`. -/
def isInline (c : PyChar) : Bool := c != ofChar '\n'

/-- `.*`. -/
def anything : Regex PyChar := .rep isInline 0

/-- Anything but a closing parenthesis. -/
def isArgument (c : PyChar) : Bool := c != ofChar ')'

/-- A name, `=` or `:`, and a quoted value. -/
def quotedValue (name value : Regex PyChar) : Regex PyChar :=
  .concat [name, spaces, .set (among (py "=:")), spaces, quote, value, quote]

/-- A format string with a placeholder before a keyword of SQL. -/
def formattedQuery (keyword : String) : Regex PyChar :=
  .concat [litCaseless (py "f"), quote, anything, lit (py "\x7b"), anything, lit (py "\x7d"),
    anything, litCaseless (py keyword)]

/-- An attribute set to all fields. -/
def allFields (field : String) : Regex PyChar :=
  .concat [lit (py field), spaces, lit (py "="), spaces, quote, lit (py "__all__"), quote]

/-! ## The patterns -/

def apiKeyPattern : Regex PyChar :=
  quotedValue
    (.oneOf (compound "api" "key")
      [litCaseless (py "apikey"), compound "secret" "key", compound "private" "key"])
    (.rep (caseless fun c => isAsciiAlnum c || among (py "+/=_-") c) 16)

def passwordPattern : Regex PyChar :=
  quotedValue
    (.oneOf (litCaseless (py "password")) [litCaseless (py "passwd"), litCaseless (py "pwd")])
    (.rep (fun c => !among (py "\"'") c) 4)

def authTokenPattern : Regex PyChar :=
  quotedValue
    (.oneOf (litCaseless (py "access_token"))
      [litCaseless (py "auth_token"), litCaseless (py "bearer")])
    (.rep (caseless fun c => isAsciiAlnum c || among (py "._-") c) 20)

def keyMaterialPattern : Regex PyChar :=
  .concat
    [lit (py "-----BEGIN "),
      .opt (.oneOf (lit (py "RSA ")) [lit (py "EC "), lit (py "OPENSSH "), lit (py "PGP ")]),
      lit (py "PRIVATE KEY-----")]

def githubTokenPattern : Regex PyChar :=
  .concat
    [.oneOf (lit (py "ghp")) [lit (py "gho"), lit (py "ghu"), lit (py "ghs"), lit (py "ghr")],
      lit (py "_"), .exactly isAsciiAlnum 36]

def openaiKeyPattern : Regex PyChar := .seq (lit (py "sk-")) (.exactly isAsciiAlnum 48)

def formattedSqlPattern : Regex PyChar :=
  .oneOf
    (.concat
      [.oneOf (litCaseless (py "execute"))
          [litCaseless (py "cursor.execute"), litCaseless (py "db.query"),
            litCaseless (py ".raw(")],
        spaces, lit (py "("), spaces, quote, anything, lit (py "%"), spaces, quote])
    [formattedQuery "select", formattedQuery "where"]

def concatenatedSqlPattern : Regex PyChar :=
  .concat
    [quote, spaces, litCaseless (py "select"), .rep isInline 1, litCaseless (py "from"),
      .rep isInline 1, litCaseless (py "where"), .rep isInline 1, quote, lit (py " +")]

def evalPattern : Regex PyChar :=
  .concat [.edge, .oneOf (lit (py "eval")) [lit (py "exec")], spaces, lit (py "(")]

def ssrfPattern : Regex PyChar :=
  .concat
    [.oneOf (litCaseless (py "requests.get"))
        [litCaseless (py "requests.post"), litCaseless (py "urllib.request"),
          litCaseless (py "httpx.get"), litCaseless (py "aiohttp.get")],
      spaces, lit (py "("), .rep isArgument 0, lit (py "+")]

def weakHashPattern : Regex PyChar :=
  .alt
    (.concat
      [.edge, .oneOf (litCaseless (py "md5")) [litCaseless (py "sha1")], spaces, lit (py "(")])
    (.concat
      [litCaseless (py "hashlib."), .oneOf (litCaseless (py "md5")) [litCaseless (py "sha1")],
        lit (py "(")])

def weakCipherPattern : Regex PyChar :=
  .oneOf (litCaseless (py "des.new")) [litCaseless (py "des.encrypt"), litCaseless (py "ecb")]

def massAssignmentPattern : Regex PyChar := .alt (allFields "__fields__") (allFields "fields")

def openRedirectPattern : Regex PyChar :=
  .concat
    [litCaseless (py "redirect"), spaces, lit (py "("), spaces, litCaseless (py "request."),
      .oneOf (litCaseless (py "get")) [litCaseless (py "post"), litCaseless (py "args")],
      lit (py "[")]

def missingAuthPattern [WordData] : Regex PyChar :=
  .concat
    [lit (py "@app.route("), .rep isArgument 1, lit (py ")"), spaces, lit (py "\ndef"),
      .rep isSpace 1, .rep isWordChar 1, lit (py "("), .rep isArgument 0, lit (py ")"), spaces,
      lit (py ":"), spaces, lit (py "\n"), .notAhead (.seq spaces (lit (py "@login_required")))]

def externalCallPattern : Regex PyChar :=
  .oneOf (lit (py ".transfer(")) [lit (py ".send("), lit (py ".call\x7b")]

/-- `SECURITY_PATTERNS`. -/
def securityPatterns [WordData] : List SecurityPattern :=
  [⟨apiKeyPattern, .hardcodedSecret, .critical, py "Hardcoded API/Secret Key detected",
      unitDouble 0.9⟩,
    ⟨passwordPattern, .hardcodedSecret, .critical, py "Hardcoded Password detected",
      unitDouble 0.85⟩,
    ⟨authTokenPattern, .hardcodedSecret, .critical, py "Hardcoded Auth Token detected",
      unitDouble 0.88⟩,
    ⟨keyMaterialPattern, .hardcodedSecret, .critical, py "Private Key material found in source",
      unitDouble 0.99⟩,
    ⟨githubTokenPattern, .hardcodedSecret, .critical, py "GitHub Personal Access Token detected",
      unitDouble 0.97⟩,
    ⟨openaiKeyPattern, .hardcodedSecret, .critical, py "OpenAI API Key detected",
      unitDouble 0.97⟩,
    ⟨formattedSqlPattern, .sqlInjectionRisk, .high,
      py "Potential SQL injection: f-string or % in query", unitDouble 0.75⟩,
    ⟨concatenatedSqlPattern, .sqlInjectionRisk, .high, py "SQL string concatenation detected",
      unitDouble 0.8⟩,
    ⟨evalPattern, .evalUsage, .high, py "eval()/exec() usage detected — potential code injection",
      unitDouble 0.8⟩,
    ⟨ssrfPattern, .ssrfRisk, .high, py "Potential SSRF: HTTP client called with concatenated URL",
      unitDouble 0.65⟩,
    ⟨weakHashPattern, .weakCrypto, .medium, py "Weak hash algorithm (MD5/SHA1) detected",
      unitDouble 0.88⟩,
    ⟨weakCipherPattern, .weakCrypto, .high, py "Weak encryption algorithm (DES/ECB) detected",
      unitDouble 0.85⟩,
    ⟨massAssignmentPattern, .massAssignment, .high,
      py "Mass assignment risk: __all__ field exposure", unitDouble 0.8⟩,
    ⟨openRedirectPattern, .openRedirect, .high,
      py "Potential open redirect via unvalidated user input", unitDouble 0.72⟩,
    ⟨missingAuthPattern, .missingAuthCheck, .medium,
      py "Route handler potentially missing auth decorator", unitDouble 0.55⟩,
    ⟨externalCallPattern, .reentrancyRisk, .critical,
      py "Solidity external call detected — verify CEI pattern", unitDouble 0.7⟩]

end Watchtower
