import GrantConfig.Uri.Form
import GrantConfig.Uri.Host
import GrantConfig.Uri.Path

/-!
# Absolute URIs with a host

The parts of a URI and how a text is taken apart into them. Blanks and controls around the text
and line breaks and tabs within it are dropped. In the special schemes a backslash is a slash, any
number of slashes may precede the host, which must not be empty, and the path has at least one
slash. A port that is the default of its scheme is not kept. The text of a URI is canonical.
-/

namespace GrantConfig

/-- An absolute URI with a host. -/
structure Uri where
  scheme : String
  username : String
  password : Option String
  host : Uri.Host
  port : Option Nat
  path : String
  query : Option String
  fragment : Option String
deriving DecidableEq, Repr

namespace Uri

/-- The canonical text. -/
def text (u : Uri) : String :=
  let user :=
    if u.username.isEmpty && u.password.isNone then ""
    else u.username ++ u.password.elim "" (":" ++ ·) ++ "@"
  u.scheme ++ "://" ++ user ++ u.host.text ++ u.port.elim "" (fun p => ":" ++ toString p) ++
    u.path ++ u.query.elim "" ("?" ++ ·) ++ u.fragment.elim "" ("#" ++ ·)

/-- The decoded pairs of the query. -/
def queryPairs (u : Uri) : List (String × String) := Form.pairs (u.query.getD "").toList

/-- The URI with pairs put behind those of its query. -/
def appendPairs (u : Uri) (pairs : List (String × String)) : Uri :=
  { u with query := some (String.ofList (Form.append (u.query.getD "").toList pairs)) }

/-- How a scheme is parsed. -/
inductive SchemeKind where
  | file
  | special
  | other
deriving DecidableEq, Repr

/-- The kind of a scheme. -/
def schemeKind (scheme : String) : SchemeKind :=
  if scheme = "file" then .file
  else if ["http", "https", "ws", "wss", "ftp"].contains scheme then .special
  else .other

/-- The port that a scheme implies. -/
def defaultPort? (scheme : String) : Option Nat :=
  if scheme = "http" ∨ scheme = "ws" then some 80
  else if scheme = "https" ∨ scheme = "wss" then some 443
  else if scheme = "ftp" then some 21
  else none

/-- A text without what counts as blank around and within it. -/
def strip (cs : List Char) : List Char :=
  let isControl (c : Char) : Bool := c.toNat ≤ 0x20
  let body := ((cs.dropWhile isControl).reverse.dropWhile isControl).reverse
  body.filter fun c => !(c = '\t' || c = '\n' || c = '\r')

/-- The scheme before the first colon in lowercase, and what follows. -/
def cutScheme? (cs : List Char) : Option (String × List Char) :=
  let isSchemeChar (c : Char) : Bool :=
    c.isAlpha || c.isDigit || c = '+' || c = '-' || c = '.'
  match cs with
  | [] => none
  | first :: _ =>
    if first.isAlpha then
      match cs.dropWhile isSchemeChar with
      | ':' :: rest => some (String.ofList ((cs.takeWhile isSchemeChar).map Char.toLower), rest)
      | _ => none
    else none

/-- The user information before the last `@` of an authority, and what follows. -/
def cutUserInfo (authority : List Char) : Option (List Char) × List Char :=
  let after := (authority.reverse.takeWhile (· ≠ '@')).reverse
  if after.length = authority.length then (none, authority)
  else (some (authority.take (authority.length - after.length - 1)), after)

/-- The user name and the password of user information; an empty password is none. -/
def userInfo (cs : List Char) : String × Option String :=
  let encoded (part : List Char) : String := String.ofList (Percent.encode Percent.inUserInfo part)
  match Text.cutFirst ':' cs with
  | none => (encoded cs, none)
  | some (name, password) =>
    (encoded name, if password.isEmpty then none else some (encoded password))

/-- The host before the first colon outside brackets, and what follows. -/
def cutHost (inBrackets : Bool) : List Char → List Char × List Char
  | [] => ([], [])
  | c :: rest =>
    if c = ':' && !inBrackets then ([], c :: rest)
    else
      let (host, after) := cutHost (c = '[' || (inBrackets && c ≠ ']')) rest
      (c :: host, after)

/-- A port after its colon, and what follows its digits; no digits are no port. -/
def cutPort (scheme : String) (cs : List Char) : Except Fault (Option Nat × List Char) :=
  let digits := cs.takeWhile Char.isDigit
  let port := (Decimal.natural? 10 digits).getD 0
  if port > 65535 then .error .invalidPort
  else
    .ok (if digits.isEmpty || defaultPort? scheme = some port then none else some port,
      cs.dropWhile Char.isDigit)

/-- The query and the fragment at the end of a URI. -/
def cutQuery (special : Bool) (cs : List Char) : Option String × Option String :=
  let fragment (cs : List Char) : Option String :=
    match cs with
    | '#' :: rest => some (String.ofList (Percent.encode Percent.inFragment rest))
    | _ => none
  match cs with
  | '?' :: rest =>
    (some (String.ofList (Percent.encode (Percent.inQuery special) (rest.takeWhile (· ≠ '#')))),
      fragment (rest.dropWhile (· ≠ '#')))
  | _ => (none, fragment cs)

/-- Whether a character ends the authority. -/
def endsAuthority (special : Bool) (c : Char) : Bool :=
  c = '/' || c = '?' || c = '#' || (special && c = '\\')

/-- Whether a character stands between segments of a path. -/
def isSlash (special : Bool) (c : Char) : Bool := c = '/' || (special && c = '\\')

/-- Whether a character ends the path. -/
def endsPath (c : Char) : Bool := c = '?' || c = '#'

/-- The segments of a path, without the slash in front. -/
def pathSegments (special : Bool) (cs : List Char) : List String :=
  match cs with
  | [] => Path.segments (isSlash special) []
  | c :: rest => Path.segments (isSlash special) (if isSlash special c then rest else c :: rest)

/-- The URI of a scheme other than `file`, from its authority on. -/
def ofAuthority (scheme : String) (special : Bool) (cs : List Char) : Except Fault Uri := do
  let authority := cs.takeWhile fun c => !endsAuthority special c
  let rest := cs.dropWhile fun c => !endsAuthority special c
  let (user, hostPort) := cutUserInfo authority
  if user = some [] ∧ hostPort.isEmpty ∧ !rest.isEmpty then throw .emptyHost
  let (username, password) := userInfo (user.getD [])
  let (hostText, afterHost) := cutHost false hostPort
  if special ∧ hostText.isEmpty then throw .emptyHost
  let host ← if special then Host.ofDomain hostText else Host.ofOpaque hostText
  if hostText.isEmpty ∧ !afterHost.isEmpty then throw .emptyHost
  let (port, afterPort) ← cutPort scheme (afterHost.drop 1)
  if !afterPort.isEmpty ∧ (special ∨ afterPort.head? ≠ some '\\') then throw .invalidPort
  if hostText.isEmpty then
    throw (if username.isEmpty && password.isNone then .noHost else .emptyHost)
  let rest := afterPort ++ rest
  let pathText := rest.takeWhile fun c => !endsPath c
  let (query, fragment) := cutQuery special (rest.dropWhile fun c => !endsPath c)
  let path :=
    if !special && pathText.isEmpty then ""
    else Path.text (Path.resolve false [] (pathSegments special pathText)).1
  return { scheme, username, password, host, port, path, query, fragment }

/-- The URI of the `file` scheme, from the slashes before its host on. -/
def ofFile (cs : List Char) : Except Fault Uri := do
  match cs with
  | a :: b :: rest =>
    if !(isSlash true a && isSlash true b) then throw .noHost
    let hostText := rest.takeWhile fun c => !endsAuthority true c
    let rest := rest.dropWhile fun c => !endsAuthority true c
    if hostText.isEmpty || Path.isDrive [':', '|'] (String.ofList hostText) then throw .noHost
    let host ← Host.ofDomain hostText
    if host = .name "localhost" then throw .noHost
    let pathText := rest.takeWhile fun c => !endsPath c
    let (query, fragment) := cutQuery true (rest.dropWhile fun c => !endsPath c)
    let (segments, drive) := Path.resolve true [] (pathSegments true pathText)
    if drive then throw .noHost
    let kept := segments.dropWhile String.isEmpty
    return {
      scheme := "file", username := "", password := none, host, port := none
      path := if kept.isEmpty then "/" else Path.text kept
      query, fragment }
  | _ => throw .noHost

/-- The absolute URI with a host that a text writes. -/
def parse (s : String) : Except Fault Uri := do
  match cutScheme? (strip s.toList) with
  | none => throw .relative
  | some (scheme, rest) =>
    match schemeKind scheme with
    | .file => ofFile rest
    | .special => ofAuthority scheme true (rest.dropWhile (isSlash true))
    | .other =>
      match rest with
      | '/' :: '/' :: rest => ofAuthority scheme false rest
      | _ => throw .noHost

end Uri

end GrantConfig
