import MultisiteCrawler.Foundation.PythonErrors
import MultisiteCrawler.Foundation.PythonText

/-!
# URLs

`urlsplit`, `urlunsplit` and the parts of a network location, as
`urllib.parse` defines them on texts.  Which hosts may stand in brackets and
what the Unicode database says are parameters.
-/

namespace Foundation.PythonUrls

open Foundation.PythonErrors
open Foundation.PythonText

/-! ## Splitting -/

/-- What `urlsplit` asks of other modules. -/
structure UrlRules extends UnicodeRules where
  /-- The hosts which `_check_bracketed_host` accepts. -/
  isBracketedHost : List Char → Bool

/-- The components of a URL. -/
structure SplitResult where
  scheme : List Char
  netloc : List Char
  path : List Char
  query : List Char
  fragment : List Char
deriving DecidableEq

/-- `scheme_chars`. -/
def isSchemeChar (character : Char) : Bool :=
  isAsciiAlpha character || isAsciiDigit character ||
    ['+', '-', '.'].contains character

/-- What stands before and after the first occurrence of a character. -/
def partition (separator : Char) (text : List Char) :
    List Char × List Char :=
  (text.takeWhile (· != separator), (text.dropWhile (· != separator)).drop 1)

/-- What stands after the last occurrence of a character, or everything. -/
def afterLast (separator : Char) (text : List Char) : List Char :=
  text.rtakeWhile (· != separator)

/-- Drop leading control characters and spaces, and all tabs and newlines. -/
def cleanUrl (url : List Char) : List Char :=
  (url.dropWhile fun character => decide (character.toNat ≤ 32)).filter
    fun character => !(['\t', '\r', '\n'].contains character)

/-- Split off a scheme. -/
def splitScheme (url : List Char) : List Char × List Char :=
  let (before, after) := partition ':' url
  match before with
  | [] => ([], url)
  | first :: _ =>
      if url.contains ':' && isAsciiAlpha first && before.all isSchemeChar then
        (before.map lowerAscii, after)
      else ([], url)

/-- A character which ends a network location. -/
def endsNetloc (character : Char) : Bool :=
  ['/', '?', '#'].contains character

/-- Split off a network location. -/
def splitNetloc : List Char → List Char × List Char
  | '/' :: '/' :: url =>
      (url.takeWhile fun character => !endsNetloc character,
        url.dropWhile fun character => !endsNetloc character)
  | url => ([], url)

variable (rules : UrlRules)

/-- The brackets of a network location are paired around a host. -/
def checkBrackets (netloc : List Char) : Bool :=
  if netloc.contains '[' && netloc.contains ']' then
    rules.isBracketedHost (partition ']' (partition '[' netloc).2).1
  else !netloc.contains '[' && !netloc.contains ']'

/-- `_checknetloc`. -/
def checkNetloc (netloc : List Char) : Bool :=
  let text := netloc.filter fun character =>
    !(['@', ':', '#', '?'].contains character)
  netloc.all (fun character => decide (character.toNat < 128)) ||
    rules.nfkc text == text ||
    (rules.nfkc text).all fun character =>
      !(['/', '?', '#', '@', ':'].contains character)

/-- `urlsplit`. -/
def urlsplit (url : List Char) : Except PyError SplitResult :=
  let withScheme := splitScheme (cleanUrl url)
  let withNetloc := splitNetloc withScheme.2
  if checkBrackets rules withNetloc.1 && checkNetloc rules withNetloc.1 then
    let withFragment := partition '#' withNetloc.2
    let withQuery := partition '?' withFragment.1
    .ok
      { scheme := withScheme.1
        netloc := withNetloc.1
        path := withQuery.1
        query := withQuery.2
        fragment := withFragment.2 }
  else .error (.library .valueError)

variable {rules} in
theorem urlsplit_eq_error
    {url : List Char} {error : PyError}
    (raised : urlsplit rules url = .error error) :
    error = .library .valueError := by
  rw [urlsplit] at raised
  split_ifs at raised
  exact (Except.error.inj raised).symm

/-! ## Network locations -/

/-- Host and port as they are written. -/
def hostInfo (netloc : List Char) : List Char × List Char :=
  let hostinfo := afterLast '@' netloc
  if hostinfo.contains '[' then
    let (host, rest) := partition ']' (partition '[' hostinfo).2
    (host, (partition ':' rest).2)
  else partition ':' hostinfo

/-- `hostname`; a missing one is empty. -/
def hostname (netloc : List Char) : List Char :=
  let host := (hostInfo netloc).1
  rules.lower (host.takeWhile (· != '%')) ++ host.dropWhile (· != '%')

/-- `port`. -/
def port (netloc : List Char) : Except PyError (Option ℕ) :=
  let text := (hostInfo netloc).2
  if text.isEmpty then .ok none
  else if text.all isAsciiDigit && decide (Nat.ofDigitChars 10 text 0 ≤ 65535)
    then .ok (some (Nat.ofDigitChars 10 text 0))
  else .error (.library .valueError)

theorem port_eq_error
    {netloc : List Char} {error : PyError}
    (raised : port netloc = .error error) :
    error = .library .valueError := by
  rw [port] at raised
  split_ifs at raised
  exact (Except.error.inj raised).symm

/-! ## Joining -/

/-- `urlunsplit` of components with a network location. -/
def urlunsplit (parts : SplitResult) : List Char :=
  let path :=
    if parts.path.isEmpty || parts.path.head? == some '/' then parts.path
    else '/' :: parts.path
  let withScheme (url : List Char) :=
    if parts.scheme.isEmpty then url else parts.scheme ++ ':' :: url
  let withQuery (url : List Char) :=
    if parts.query.isEmpty then url else url ++ '?' :: parts.query
  let withFragment (url : List Char) :=
    if parts.fragment.isEmpty then url else url ++ '#' :: parts.fragment
  withFragment (withQuery (withScheme ('/' :: '/' :: parts.netloc ++ path)))

end Foundation.PythonUrls
