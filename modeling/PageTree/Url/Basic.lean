import PageTree.Number.Numeral
import PageTree.Text.Blank
import PageTree.Text.Case
import PageTree.Text.Percent
import PageTree.Text.Quoted

/-!
# Addresses

An address is split into its parts by position alone (`Url.Raw.ofText`), and the parts are then
brought into a normal form (`Url.ofRaw`): scheme and host in lower case, a port that the scheme
implies dropped, dot segments resolved, and characters that a part may not hold escaped.  Escapes
that are already there stay as they are.  How host names outside ASCII are written is a parameter
(`Url.HostNames`).
-/

namespace PageTree

/-- Why a text is no address. -/
inductive UrlFault where
  | tooLong
  | partTooLong (part : String)
  | control (c : Char) (position : Nat)
  | badPort (port : String)
  | badIPv4 (host : String)
  | badIPv6 (host : String)
  | badHost (host : String)
  | relativeAuthorityPath
  | doubleSlashPath
  | colonPath
  deriving DecidableEq, Repr

/-- The text of an address fault. -/
def UrlFault.message : UrlFault → String
  | tooLong => "URL too long"
  | partTooLong part => "URL component '" ++ part ++ "' too long"
  | control c i =>
    "Invalid non-printable ASCII character in URL, " ++ Text.quote (String.singleton c) ++
      " at position " ++ toString i ++ "."
  | badPort port => "Invalid port: " ++ Text.quote port
  | badIPv4 host => "Invalid IPv4 address: " ++ Text.quote host
  | badIPv6 host => "Invalid IPv6 address: " ++ Text.quote host
  | badHost host => "Invalid IDNA hostname: " ++ Text.quote host
  | relativeAuthorityPath => "For absolute URLs, path must be empty or begin with '/'"
  | doubleSlashPath => "Relative URLs cannot have a path starting with '//'"
  | colonPath => "Relative URLs cannot have a path starting with ':'"

/-- An address in normal form. -/
structure Url where
  scheme : String
  userinfo : String
  host : String
  port : Option Int
  path : String
  query : Option String
  fragment : Option String
  deriving DecidableEq

namespace Url

/-- The parts of an address as they are written. -/
structure Raw where
  scheme : List Char
  authority : List Char
  path : List Char
  query : Option (List Char)
  fragment : Option (List Char)

/-- Whether a character may stand in a scheme after its first letter. -/
def isSchemeChar (c : Char) : Bool :=
  c.isAlphanum || c == '+' || c == '.' || c == '-'

/-- Splits off a scheme: letters, digits and marks, or nothing, in front of the first colon. -/
def splitScheme (cs : List Char) : List Char × List Char :=
  match cs with
  | [] => ([], [])
  | c :: _ =>
    let scheme := if c.isAlpha then cs.takeWhile isSchemeChar else []
    match cs.drop scheme.length with
    | ':' :: rest => (scheme, rest)
    | _ => ([], cs)

/-- Splits off the part after a double slash, up to the path. -/
def splitAuthority : List Char → List Char × List Char
  | '/' :: '/' :: rest =>
    let p := fun c => c != '/' && c != '?' && c != '#'
    (rest.takeWhile p, rest.dropWhile p)
  | cs => ([], cs)

/-- Splits a text into the parts of an address. -/
def Raw.ofText (cs : List Char) : Raw :=
  let (body, fragment) := match Text.cut? '#' cs with
    | some (a, b) => (a, some b)
    | none => (cs, none)
  let (body, query) := match Text.cut? '?' body with
    | some (a, b) => (a, some b)
    | none => (body, none)
  let (scheme, body) := splitScheme body
  let (authority, path) := splitAuthority body
  { scheme, authority, path, query, fragment }

/-- Whether two hexadecimal digits follow. -/
def isEscapeTail : List Char → Bool
  | a :: b :: _ => (Text.hexValue? a).isSome && (Text.hexValue? b).isSome
  | _ => false

/-- Escapes the characters that are not safe, apart from escapes that are already there. -/
def escape (safe : Char → Bool) : List Char → List Char
  | [] => []
  | c :: cs =>
    if c = '%' then
      if isEscapeTail cs then '%' :: escape safe cs
      else Text.percentChar safe '%' ++ escape safe cs
    else Text.percentChar (fun c => Text.isUnreserved c || safe c) c ++ escape safe cs

/-- Whether a character is a visible ASCII character outside a list of exceptions. -/
def visibleExcept (except : List Char) (c : Char) : Bool :=
  0x20 < c.toNat && c.toNat < 0x7f && !except.contains c

/-- The characters that a fragment may hold. -/
def fragmentSafe : Char → Bool :=
  visibleExcept ['"', '<', '>', Char.ofNat 0x60]

/-- The characters that a query may hold. -/
def querySafe : Char → Bool :=
  visibleExcept ['"', '#', '<', '>']

/-- The characters that a path may hold. -/
def pathSafe : Char → Bool :=
  visibleExcept ['"', '#', '<', '>', '?', Char.ofNat 0x60, '\x7b', '\x7d']

/-- The characters that user information may hold. -/
def userinfoSafe : Char → Bool :=
  visibleExcept
    ['"', '#', '<', '>', '?', Char.ofNat 0x60, '\x7b', '\x7d', '/', ';', '=', '@', '[', '\\', ']',
      '^', '|']

/-- The characters that a host name may hold. -/
def hostSafe (c : Char) : Bool :=
  ['!', '$', '&', '\'', '(', ')', '*', '+', ',', ';', '=', '"', Char.ofNat 0x60, '\x7b', '\x7d',
    '%', '|', '\\'].contains c

mutual

/-- Whether a text is a digit followed by what `inGroup` accepts. -/
def startsGroup : Nat → List Char → Bool
  | _, [] => false
  | n, c :: cs => c.isDigit && inGroup n cs

/-- Whether a text is digits, then `n` times any one character and at least one digit. -/
def inGroup : Nat → List Char → Bool
  | n, [] => n == 0
  | n, c :: cs =>
    (c.isDigit && inGroup n cs) ||
      match n with
      | 0 => false
      | n + 1 => startsGroup n cs

end

/-- Whether a host looks like an IPv4 address. -/
def looksLikeIPv4 (cs : List Char) : Bool :=
  startsGroup 3 cs

/-- Whether a text is one number of an IPv4 address. -/
def isOctet (cs : List Char) : Bool :=
  !cs.isEmpty && cs.all Char.isDigit && cs.length ≤ 3 && (cs.length == 1 || cs.head? != some '0') &&
    Text.ofDigits 10 (cs.map fun c => c.toNat - 48) ≤ 255

/-- Whether a text is an IPv4 address. -/
def isIPv4 (cs : List Char) : Bool :=
  let parts := Text.splitWhere (· == '.') cs
  parts.length == 4 && parts.all isOctet

/-- Whether a text is one group of an IPv6 address. -/
def isHextet (cs : List Char) : Bool :=
  !cs.isEmpty && cs.all (fun c => (Text.hexValue? c).isSome) && cs.length ≤ 4

/-- The number of groups in a part of an IPv6 address.  At the end of the address, an IPv4 address
may stand for two of them. -/
def groupCount? (atEnd : Bool) (cs : List Char) : Option Nat :=
  if cs.isEmpty then some 0
  else
    let groups := Text.splitWhere (· == ':') cs
    if groups.all isHextet then some groups.length
    else if atEnd && groups.dropLast.all isHextet && groups.getLast?.any isIPv4 then
      some (groups.length + 1)
    else none

/-- The text in front of the first two colons in a row and the text behind them. -/
def cutGap? : List Char → Option (List Char × List Char)
  | ':' :: ':' :: cs => some ([], cs)
  | c :: cs => (cutGap? cs).map fun (a, b) => (c :: a, b)
  | [] => none

/-- Whether a text is eight groups of an IPv6 address, or fewer with a gap between them. -/
def isGrouped (cs : List Char) : Bool :=
  match cutGap? cs with
  | none => groupCount? true cs == some 8
  | some (a, b) => match groupCount? false a, groupCount? true b with
    | some m, some n => m + n ≤ 7
    | _, _ => false

/-- Whether a text is an IPv6 address, maybe with a zone behind it. -/
def isIPv6 (cs : List Char) : Bool :=
  match Text.cut? '%' cs with
  | some (groups, zone) => isGrouped groups && !zone.isEmpty && !zone.contains '%'
  | none => isGrouped cs

/-- How host names with other characters than those of ASCII are written, where they can be: with
characters that need no escape. -/
class HostNames where
  ascii? : List Char → Option (List Char)
  isUnreserved_of_ascii? : ∀ {cs name : List Char}, ascii? cs = some name →
    ∀ c ∈ name, Text.isUnreserved c = true

/-- The host in normal form. -/
def normalHost [HostNames] (cs : List Char) : Except UrlFault String :=
  if cs.isEmpty then .ok ""
  else if looksLikeIPv4 cs then
    if isIPv4 cs then .ok (String.ofList cs) else .error (.badIPv4 (String.ofList cs))
  else if cs.head? = some '[' && cs.getLast? = some ']' then
    let inner := (cs.drop 1).dropLast
    if isIPv6 inner then .ok (String.ofList inner) else .error (.badIPv6 (String.ofList cs))
  else if cs.all (fun c => c.toNat < 128) then
    .ok (String.ofList (escape hostSafe (cs.map Char.toLower)))
  else
    match HostNames.ascii? cs with
    | some name => .ok (String.ofList name)
    | none => .error (.badHost (String.ofList cs))

/-- The port that a scheme implies. -/
def impliedPort (scheme : String) : Option Int :=
  match scheme with
  | "ftp" => some 21
  | "http" => some 80
  | "https" => some 443
  | "ws" => some 80
  | "wss" => some 443
  | _ => none

/-- The port in normal form: nothing where the scheme implies it. -/
def normalPort (scheme : String) (cs : List Char) : Except UrlFault (Option Int) :=
  if cs.isEmpty then .ok none
  else
    match Numeral.readInt (String.ofList cs) with
    | .error _ => .error (.badPort (String.ofList cs))
    | .ok n => .ok (if impliedPort scheme = some n then none else some n)

/-- Adds a path segment to the segments before it, last first; dots are resolved. -/
def pushSegment (out : List (List Char)) (segment : List Char) : List (List Char) :=
  if segment = ['.'] then out
  else if segment = ['.', '.'] then
    -- nothing is above the first slash
    if out = [] || out = [[]] then out else out.drop 1
  else segment :: out

/-- Path segments joined by slashes. -/
def joinSegments : List (List Char) → List Char
  | [] => []
  | [s] => s
  | s :: rest => s ++ '/' :: joinSegments rest

/-- A path without dot segments. -/
def resolveDots (cs : List Char) : List Char :=
  let segments := Text.splitWhere (· == '/') cs
  if segments.any fun s => s = ['.'] || s = ['.', '.'] then
    joinSegments (segments.foldl pushSegment []).reverse
  else cs

/-- Splits an authority into user information, host and port. -/
def splitUserHostPort (cs : List Char) : List Char × List Char × List Char :=
  -- user information ends at the last sign, and an address in brackets has colons of its own
  let (userinfo, rest) := match Text.cut? '@' cs.reverse with
    | some (after, before) => (before.reverse, after.reverse)
    | none => ([], cs)
  let bracketed := if rest.head? = some '[' then (Text.cut? ']' rest.reverse) else none
  let (host, tail) := match bracketed with
    | some (after, before) => (before.reverse ++ [']'], after.reverse)
    | none => (rest.takeWhile (· != ':'), rest.dropWhile (· != ':'))
  (userinfo, host, if tail.head? = some ':' then tail.drop 1 else tail)

/-- Checks that a path fits what stands before it. -/
def checkPath (path : List Char) (hasScheme hasAuthority : Bool) : Except UrlFault Unit :=
  if hasAuthority && !path.isEmpty && path.head? ≠ some '/' then .error .relativeAuthorityPath
  else if !hasScheme && !hasAuthority && ['/', '/'].isPrefixOf path then .error .doubleSlashPath
  else if !hasScheme && !hasAuthority && path.head? = some ':' then .error .colonPath
  else .ok ()

/-- The address in normal form that the given parts make. -/
def ofRaw [HostNames] (raw : Raw) : Except UrlFault Url := do
  let (userinfo, host, port) := splitUserHostPort raw.authority
  let userinfo := String.ofList (escape userinfoSafe userinfo)
  let host ← normalHost host
  let port ← normalPort (String.ofList raw.scheme) port
  let hasScheme := !raw.scheme.isEmpty
  let hasAuthority := userinfo ≠ "" || host ≠ "" || port.isSome
  checkPath raw.path hasScheme hasAuthority
  let path := if hasScheme || hasAuthority then resolveDots raw.path else raw.path
  return {
    scheme := String.ofList (raw.scheme.map Char.toLower)
    userinfo
    host
    port
    path := String.ofList (escape pathSafe path)
    query := raw.query.map fun q => String.ofList (escape querySafe q)
    fragment := raw.fragment.map fun f => String.ofList (escape fragmentSafe f) }

/-- Whether a character is an ASCII control character. -/
def isControl (c : Char) : Bool :=
  c.toNat < 32 || c.toNat == 127

/-- The most characters that an address may have. -/
def maxLength : Nat := 65536

/-- The first character that satisfies `p`, with its position. -/
def findPosition? (p : Char → Bool) : List Char → Nat → Option (Char × Nat)
  | [], _ => none
  | c :: cs, i => if p c then some (c, i) else findPosition? p cs (i + 1)

/-- Reads an address. -/
def parse [HostNames] (s : String) : Except UrlFault Url :=
  let cs := s.toList
  if maxLength < cs.length then .error .tooLong
  else
    match findPosition? isControl cs 0 with
    | some (c, i) => .error (.control c i)
    | none => ofRaw (Raw.ofText cs)

/-- The authority of an address as text. -/
def authority (u : Url) : String :=
  (if u.userinfo = "" then "" else u.userinfo ++ "@") ++
    (if u.host.toList.contains ':' then "[" ++ u.host ++ "]" else u.host) ++
    (match u.port with
      | some p => ":" ++ toString p
      | none => "")

/-- An address as text. -/
def toText (u : Url) : String :=
  (if u.scheme = "" then "" else u.scheme ++ ":") ++
    (if u.authority = "" then "" else "//" ++ u.authority) ++ u.path ++
    (match u.query with
      | some q => "?" ++ q
      | none => "") ++
    (match u.fragment with
      | some f => "#" ++ f
      | none => "")

/-- The first part of an address with another query that is too long, if there is one. -/
def longPart? (u : Url) (query : String) : Option String :=
  ([("scheme", u.scheme), ("authority", u.authority), ("path", u.path), ("query", query),
    ("fragment", u.fragment.getD "")].find? fun (_, s) => maxLength < s.toList.length).map (·.1)

/-- An address with another query.  The parts are brought into normal form once more. -/
def withQuery [HostNames] (u : Url) (query : String) : Except UrlFault Url :=
  match u.longPart? query with
  | some part => .error (.partTooLong part)
  | none =>
    ofRaw {
      scheme := u.scheme.toList
      authority := u.authority.toList
      path := u.path.toList
      query := some query.toList
      fragment := u.fragment.map String.toList }

end Url

end PageTree
