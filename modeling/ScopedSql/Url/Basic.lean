import ScopedSql.Decimal.Whole
import ScopedSql.Url.Host
import ScopedSql.Url.Path
import ScopedSql.Url.Percent

namespace ScopedSql

/-!
# Addresses of resources

An address has a scheme, and after two slashes an authority with credentials, a
host and a port; then come a path, a query after a question mark, and a fragment
after a hash, which is passed over.  The credentials end at the last `@` before
the first slash, question mark or hash.

The schemes of the web have rules of their own: a backslash counts as a slash,
the host is one of the internet and must not be empty, and the port that the
scheme implies is left out.  The address of a file has no credentials and no
port, and it need not have slashes before its path.
-/

/-- The parts of an address.  Credentials, path and query stand as they were written. -/
structure Url where
  scheme : List Char
  user : List Char
  password : Option (List Char)
  host : Option (List Char)
  port : Option Nat
  path : List Char
  query : Option (List Char)
  deriving DecidableEq, Repr

namespace Url

/-! ## Schemes -/

/-- The ports that the schemes of the web imply. -/
def webPorts : List (String × Nat) :=
  [("http", 80), ("https", 443), ("ws", 80), ("wss", 443), ("ftp", 21)]

/-- The port that a scheme implies; only the schemes of the web have one. -/
def impliedPort (scheme : List Char) : Option Nat :=
  webPorts.lookup (String.ofList scheme)

def isWeb (scheme : List Char) : Bool := (impliedPort scheme).isSome

/-- The characters of a scheme after its first letter. -/
def isSchemeChar (c : Char) : Bool :=
  c.isAlphanum || c = '+' || c = '-' || c = '.'

/-- Read a scheme, in small letters, and the colon after it. -/
def readScheme (cs : List Char) : Option (List Char × List Char) :=
  let name := cs.takeWhile isSchemeChar
  match cs.dropWhile isSchemeChar with
  | ':' :: rest =>
    if (name.head?.map Char.isAlpha).getD false then some (name.map Char.toLower, rest) else none
  | _ => none

/-! ## Authorities -/

def endsAuthority (web : Bool) (c : Char) : Bool :=
  c = '/' || c = '?' || c = '#' || (web && c = '\\')

/-- The user and the password of credentials; an empty password is none. -/
def splitCredentials (cs : List Char) : List Char × Option (List Char) :=
  match cs.dropWhile (fun c => c ≠ ':') with
  | _ :: first :: rest => (cs.takeWhile (fun c => c ≠ ':'), some (first :: rest))
  | _ => (cs.takeWhile (fun c => c ≠ ':'), none)

/-- The characters up to the colon before a port; a colon inside brackets is none. -/
def splitHost : Bool -> List Char -> List Char × List Char
  | _, [] => ([], [])
  | inside, c :: rest =>
    if c = ':' && !inside then ([], c :: rest)
    else
      let inside := if c = '[' then true else if c = ']' then false else inside
      let parts := splitHost inside rest
      (c :: parts.1, parts.2)

/-- Read the digits of a port; no digits, no port.  Only a backslash may follow them. -/
def readPort (cs : List Char) : Option (Option Nat × List Char) :=
  let digits := cs.takeWhile Char.isDigit
  let rest := cs.dropWhile Char.isDigit
  if !(rest.isEmpty || rest.head? = some '\\') then none
  else if digits.isEmpty then some (none, rest)
  else
    match Decimal.readNat 65535 digits with
    | .ok port => some (some port, rest)
    | .error _ => none

/-- The credentials, the host and the port. -/
structure Authority where
  user : List Char
  password : Option (List Char)
  host : Option (List Char)
  port : Option Nat

/-- Read host and port behind credentials, and what follows the port.
Credentials need a host behind them, and so does a port. -/
def readHostAndPort (web : Bool) (user : List Char) (password : Option (List Char))
    (cs : List Char) : Option (Authority × List Char) := do
  let (before, after) := splitHost false cs
  let host <- readHost web before
  if host.isEmpty && !(after.isEmpty && user.isEmpty && password.isNone) then none
  let (port, rest) <- readPort (after.drop 1)
  return ({ user, password, port, host := if host.isEmpty then none else some host }, rest)

/-- Read an authority, and what follows its port.  An `@` with nothing before
it needs a host behind it unless the address ends there. -/
def readAuthority (web last : Bool) (cs : List Char) : Option (Authority × List Char) :=
  match Text.splitAtLast? '@' cs with
  | none => readHostAndPort web [] none cs
  | some (credentials, rest) =>
    if credentials.isEmpty && rest.isEmpty && !last then none
    else
      let (user, password) := splitCredentials credentials
      readHostAndPort web user password rest

/-! ## Addresses -/

/-- The characters up to the query, and the query. -/
def splitQuery (cs : List Char) : List Char × Option (List Char) :=
  let plain := cs.takeWhile (fun c => c ≠ '#')
  (plain.takeWhile (fun c => c ≠ '?'),
    match plain.dropWhile (fun c => c ≠ '?') with
    | [] => none
    | _ :: query => some query)

/-- Characters with a slash for every backslash. -/
def withSlashes (cs : List Char) : List Char :=
  cs.map (fun c => if c = '\\' then '/' else c)

/-- A path as it was written, with its dots resolved.  A backslash is a slash on the web. -/
def readPath (web : Bool) (cs : List Char) : List Char :=
  match if web then withSlashes cs else cs with
  | [] => if web then ['/'] else []
  | '/' :: rest => resolve rest
  | rest => resolve rest

/-- Read what follows the slashes before an authority. -/
def readAfterSlashes (scheme cs : List Char) : Option Url := do
  let web := isWeb scheme
  let after := cs.dropWhile (fun c => !endsAuthority web c)
  let (authority, rest) <-
    readAuthority web after.isEmpty (cs.takeWhile (fun c => !endsAuthority web c))
  let (path, query) := splitQuery (rest ++ after)
  return { scheme, query, user := authority.user, password := authority.password
           host := authority.host, path := readPath web path
           port := if authority.port = impliedPort scheme then none else authority.port }

/-- Read an address without authority: a path from its first slash, or else one
that has no segments. -/
def readWithoutAuthority (scheme cs : List Char) : Url :=
  let (path, query) := splitQuery cs
  let path :=
    match path with
    | '/' :: rest => resolve rest
    | rest => rest
  { scheme, query, path, user := [], password := none, host := none, port := none }

def fileScheme : List Char := "file".toList

def ofFile (host query : Option (List Char)) (cs : List Char) : Url :=
  let walked := walkAll true cs
  { scheme := fileScheme, user := [], password := none, port := none, query
    host := if walked.onDrive then none else host
    path := '/' :: walked.joined.dropWhile (fun c => c = '/') }

/-- The local host is as good as none. -/
def localHost : List Char := "localhost".toList

/-- Read the address of a file.  A host stands behind two slashes, unless a drive
letter is there.  Without a host, all of the rest is path. -/
def readFile (cs : List Char) : Option Url := do
  let (place, query) := splitQuery cs
  match withSlashes place with
  | '/' :: '/' :: rest =>
    let before := rest.takeWhile (fun c => c ≠ '/')
    let after := rest.dropWhile (fun c => c ≠ '/')
    if isDriveLetter before then return ofFile none query rest
    else if before.isEmpty then return ofFile none query after
    else
      let host <- readHost true before
      if host = localHost then return ofFile none query after
      else return ofFile (some host) query (after.drop 1)
  | '/' :: rest => return ofFile none query rest
  | rest => return ofFile none query rest

/-- Characters that are passed over anywhere in an address. -/
def isPassedOver (c : Char) : Bool := c = '\t' || c = '\n' || c = '\r'

/-- Read an address.  Control characters and spaces at its ends do not count. -/
def read (text : String) : Option Url := do
  let bare := Text.strip (fun c => c.toNat ≤ 0x20) text.toList
  let (scheme, rest) <- readScheme (bare.filter (fun c => !isPassedOver c))
  if scheme = fileScheme then readFile rest
  else if isWeb scheme then
    readAfterSlashes scheme (rest.dropWhile (fun c => c = '/' || c = '\\'))
  else
    match rest with
    | '/' :: '/' :: rest => readAfterSlashes scheme rest
    | rest => return readWithoutAuthority scheme rest

/-- The pairs of a query, decoded.  A plus sign stands for a space. -/
def queryPairs (url : Url) : List (String × String) :=
  let decode (cs : List Char) := Percent.decodeLossy (cs.map (fun c => if c = '+' then ' ' else c))
  ((Text.splitOn '&' (url.query.getD [])).filter (fun pair => !pair.isEmpty)).map (fun pair =>
    (decode (pair.takeWhile (fun c => c ≠ '=')),
      decode ((pair.dropWhile (fun c => c ≠ '=')).drop 1)))

end Url
end ScopedSql
