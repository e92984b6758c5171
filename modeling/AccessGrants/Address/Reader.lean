import AccessGrants.Address.Host

/-!
Reading an address from its text. What counts as a part depends on the scheme:
an address of the web always has a host, and a backslash in it is a slash; the
address of a file has at most a host in front of its path; and any other
address has a user, a host and a service where two slashes announce them.
-/

namespace AccessGrants.Address

open Text

inductive Layout where
  | web
  | file
  | general
  deriving DecidableEq, Repr

def Layout.ofScheme (scheme : String) : Layout :=
  if scheme ∈ ["ftp", "http", "https", "ws", "wss"] then .web
  else if scheme = "file" then .file
  else .general

def Layout.isSlash (layout : Layout) (c : Char) : Bool :=
  c = '/' || (layout ≠ .general && c = '\\')

/-- A path ends before its query, and a query before the fragment. -/
def isPathEnd (c : Char) : Bool :=
  c = '?' || c = '#'

/-- Blanks and controls at both ends do not count, nor do line breaks and tabs
anywhere. -/
def significant (cs : List Char) : List Char :=
  let isEdge (c : Char) : Bool := c.toNat ≤ 32
  ((cs.dropWhile isEdge).reverse.dropWhile isEdge).reverse.filter fun c =>
    c ≠ '\t' && c ≠ '\n' && c ≠ '\r'

/-- The scheme begins with a letter and ends before the first colon. -/
def splitScheme? (cs : List Char) : Option (String × List Char) :=
  let (scheme, rest) := cs.span fun c => c.isAlphanum || c = '+' || c = '-' || c = '.'
  match rest with
  | ':' :: rest =>
    if scheme.head?.any Char.isAlpha then some (String.ofList (scheme.map Char.toLower), rest)
    else none
  | _ => none

/-- A letter with a colon or a bar, which the address of a file can have in the
place of a host. -/
def isDriveLetter : List Char → Bool
  | [letter, mark] => letter.isAlpha && (mark = ':' || mark = '|')
  | _ => false

/-- Separates the part that names the host, if there is one, from the path and
what follows it. -/
def splitAuthority (layout : Layout) (cs : List Char) : Option (List Char) × List Char :=
  let cut (cs : List Char) := cs.span fun c => !layout.isSlash c && !isPathEnd c
  let announced := (cs.take 2).length = 2 && (cs.take 2).all layout.isSlash
  match layout with
  | .web =>
    let (authority, rest) := cut (cs.dropWhile layout.isSlash)
    (some authority, rest)
  | .file =>
    let (authority, rest) := cut (cs.drop 2)
    if !announced then (none, cs)
    else if isDriveLetter authority then (none, cs.drop 2)
    else (some authority, rest)
  | .general =>
    if !announced then (none, cs)
    else
      let (authority, rest) := cut (cs.drop 2)
      (some authority, rest)

/-- What stands before the last at sign, if there is one, and what stands
behind it. -/
def splitUser (cs : List Char) : Option (List Char) × List Char :=
  let (host, user) := cs.reverse.span (· ≠ '@')
  match user with
  | [] => (none, cs)
  | _ :: user => (some user.reverse, host.reverse)

/-- The host ends before the first colon that is not in brackets. -/
def splitHost (inside : Bool) : List Char → List Char × List Char
  | [] => ([], [])
  | c :: rest =>
    if c = ':' && !inside then ([], c :: rest)
    else
      let (host, behind) := splitHost (c = '[' || (inside && c ≠ ']')) rest
      (c :: host, behind)

def readService (digits : List Char) : Except AddressError (Option UInt16) :=
  if digits.isEmpty then .ok none
  else
    match readDigits 65536 0 digits with
    | .ok n => .ok (some (UInt16.ofNat n))
    | .error _ => .error .badService

structure Authority where
  user : List Char
  password : List Char
  host : List Char
  service : Option UInt16

def Authority.none : Authority := ⟨[], [], [], .none⟩

/-- Reads that part. Only a host that is any text may be empty, and then it has
neither a user nor a service. -/
def readAuthority (isDomain : Bool) (cs : List Char) : Except AddressError Authority := do
  let (credentials, rest) := splitUser cs
  let (user, password) := (credentials.getD []).span (· ≠ ':')
  let (host, behind) := splitHost false rest
  if host.isEmpty && (isDomain || credentials.isSome || !behind.isEmpty) then throw .noHost
  checkHost isDomain host
  let service ← readService (behind.drop 1)
  return ⟨user, password.drop 1, host, service⟩

/-- The part that names a host of a file has no user and no service, and may be
empty. -/
def readFileHost (cs : List Char) : Except AddressError Authority := do
  if !cs.isEmpty then checkHost true cs
  return { Authority.none with host := cs }

/-- A segment that stands for the place where it is. -/
def isHere (segment : List Char) : Bool :=
  String.ofList (segment.map Char.toLower) ∈ [".", "%2e"]

/-- A segment that stands for the place above. -/
def isAbove (segment : List Char) : Bool :=
  String.ofList (segment.map Char.toLower) ∈ ["..", ".%2e", "%2e.", "%2e%2e"]

/-- Follows the segments of a path; `above` holds those so far, the last one
first. -/
def resolve (above : List (List Char)) : List (List Char) → List (List Char)
  | [] => above.reverse
  | segment :: rest =>
    let next :=
      if isAbove segment then above.drop 1 else if isHere segment then above else segment :: above
    if rest.isEmpty && (isAbove segment || isHere segment) then ([] :: next).reverse
    else resolve next rest

/-- The path without the slashes in front of it. A path that begins with no
slash and has no host before it is no way through places, and stays as it is. -/
def readPath (layout : Layout) (isRooted : Bool) (cs : List Char) : List Char :=
  let segments := parts '/' (cs.map fun c => if layout.isSlash c then '/' else c)
  if isRooted then (['/'].intercalate (resolve [] segments)).dropWhile (· = '/') else cs

def ofText (text : String) : Except AddressError Address := do
  let some (scheme, rest) := splitScheme? (significant text.toList) | throw .noScheme
  let layout := Layout.ofScheme scheme
  let (part, rest) := splitAuthority layout rest
  let authority ←
    match part with
    | none => pure Authority.none
    | some cs =>
      if layout = .file then readFileHost cs else readAuthority (layout = .web) cs
  let (path, behind) := rest.span (!isPathEnd ·)
  let isRooted := layout ≠ .general || part.isSome || path.head? = some '/'
  let query :=
    match behind with
    | '?' :: query => query.takeWhile (· ≠ '#')
    | _ => []
  return ⟨scheme, authority.user, authority.password, authority.host, authority.service,
    readPath layout isRooted path, query⟩

end AccessGrants.Address
