import TableQuery.Address.Form
import TableQuery.Address.Host
import TableQuery.Decimal.Reading
import TableQuery.Text.Blank

/-!
# Addresses with a scheme

An address has a scheme and a colon, and then, behind two slashes, perhaps a user with a password, a
host and a port, and then a path, parameters after a question mark and a fragment after a `#`.  The
schemes of the web need a host, and a backslash in them is a slash.

* `Url` — the parts of an address;
* `UrlFault` — why a text is no address;
* `Url.read` — an address read.
-/

namespace TableQuery.Address

/-- The parts of an address as they are written. -/
structure Url where
  user : List Char := []
  password : List Char := []
  host : List Char := []
  /-- The path without dots as names. -/
  path : List Char := []
  parameters : List Char := []
  deriving DecidableEq, Repr

/-- Why a text is no address. -/
inductive UrlFault where
  /-- There is no scheme. -/
  | noScheme
  /-- There is no host where there must be one. -/
  | emptyHost
  /-- The host in brackets is no numeric address. -/
  | badNumericHost
  /-- A character cannot stand in a host. -/
  | badHostCharacter
  /-- A character cannot stand in the host of an address of the web. -/
  | badDomain
  /-- The port is no number of sixteen bits. -/
  | badPort
  deriving DecidableEq, Repr

/-- The wording of a fault. -/
def UrlFault.message : UrlFault → String
  | .noScheme => "relative URL without a base"
  | .emptyHost => "empty host"
  | .badNumericHost => "invalid IPv6 address"
  | .badHostCharacter => "invalid domain character"
  | .badDomain => "invalid international domain name"
  | .badPort => "invalid port number"

/-! ## Schemes -/

/-- How the text behind a scheme is read. -/
inductive SchemeKind where
  /-- Any scheme. -/
  | general
  /-- A scheme of the web. -/
  | web
  /-- The scheme of files. -/
  | file
  deriving DecidableEq, Repr

/-- The kind of a scheme. -/
def SchemeKind.ofName (name : String) : SchemeKind :=
  let name := Text.lower name
  if ["http", "https", "ws", "wss", "ftp"].contains name then .web
  else if name = "file" then .file
  else .general

/-- A slash, or a backslash where it is one too. -/
def SchemeKind.isSlash (k : SchemeKind) (c : Char) : Bool :=
  c == '/' || (k != .general && c == '\\')

/-- A character of a scheme after its first one. -/
def isSchemeChar (c : Char) : Bool := c.isAlphanum || c == '+' || c == '-' || c == '.'

/-- The kind of the scheme and what follows its colon. -/
def cutScheme? (cs : List Char) : Option (SchemeKind × List Char) :=
  match Text.cutAt ':' cs with
  | some (first :: scheme, rest) =>
    if first.isAlpha && scheme.all isSchemeChar then
      some (.ofName (String.ofList (first :: scheme)), rest)
    else none
  | _ => none

/-! ## Hosts and ports -/

/-- A character that no host has. -/
def isForbidden (c : Char) : Bool :=
  "\x00\t\n\x0d #/:<>?@[\\]^|".toList.contains c

/-- A character that no host of the web has. -/
def isForbiddenInDomain (c : Char) : Bool :=
  c.toNat ≤ 0x20 || c.toNat == 0x7f || isForbidden c || c == '%'

/-- Checks a host. -/
def checkHost (k : SchemeKind) (host : List Char) : Except UrlFault Unit :=
  if host.head? = some '[' then
    if host.getLast? = some ']' && isLongAddress (host.drop 1).dropLast then .ok ()
    else .error .badNumericHost
  else if k = .general then
    if host.any isForbidden then .error .badHostCharacter else .ok ()
  else if (Text.replaced (decodedBytes host)).toList.any isForbiddenInDomain then
    .error .badDomain
  else .ok ()

/-- A host with what follows its colon: a colon inside brackets belongs to the host. -/
def cutPort : Bool → List Char → List Char × Option (List Char)
  | _, [] => ([], none)
  | bracketed, c :: rest =>
    if c = ':' ∧ bracketed = false then ([], some rest)
    else
      let inside := if c = '[' then true else if c = ']' then false else bracketed
      let (host, port) := cutPort inside rest
      (c :: host, port)

/-- What follows the digits of a port; only a backslash may do so. -/
def afterPort (port : List Char) : Except UrlFault (List Char) :=
  let rest := port.dropWhile Char.isDigit
  if 65535 < Decimal.digitsValue 0 (port.takeWhile Char.isDigit) then .error .badPort
  else if rest.head?.all (· == '\\') then .ok rest
  else .error .badPort

/-- Reads a user and a password, a host and a port, from the text behind two slashes up to its path.
What is left of it belongs to the path. -/
def readServer (k : SchemeKind) (server : List Char) (isLast : Bool) :
    Except UrlFault (Url × List Char) := do
  let (info, place) := (Text.cutAtLast '@' server).getD ([], server)
  if server = ['@'] ∧ isLast = false then .error .emptyHost
  let (user, password) := (Text.cutAt ':' info).getD (info, [])
  let (host, port) := cutPort false place
  if k = .web ∧ host = [] then .error .emptyHost
  checkHost k host
  if host = [] ∧ port.isSome then .error .emptyHost
  let rest ← afterPort (port.getD [])
  if host = [] ∧ user ++ password ≠ [] then .error .emptyHost
  .ok ({ user, password, host }, rest)

/-! ## Paths -/

/-- A text in which two points may be written with percent signs. -/
def pointsOf (name : List Char) : String :=
  ".".intercalate ((Text.lower (String.ofList name)).splitOn "%2e")

/-- A letter with a colon or a bar. -/
def isDrive : List Char → Bool
  | [letter, mark] => letter.isAlpha && (mark == ':' || mark == '|')
  | _ => false

/-- The names of a path, the last one first, with one more name; one point is no name, and two take
the last name away unless it is a drive. -/
def addName (names : List (List Char)) (name : List Char) (isLast : Bool) : List (List Char) :=
  let ended (names : List (List Char)) := if isLast then [] :: names else names
  match pointsOf name with
  | "." => ended names
  | ".." => ended (if names.head?.any isDrive then names else names.drop 1)
  | _ => name :: names

/-- The names of a path without points. -/
def withoutPoints (names : List (List Char)) : List (List Char) → List (List Char)
  | [] => names.reverse
  | [last] => (addName names last true).reverse
  | name :: rest => withoutPoints (addName names name false) rest

/-- A path without points as names, and without slashes in front. -/
def pathOf (k : SchemeKind) (cs : List Char) : List Char :=
  let slashed := (if k.isSlash (cs.headD 'a') then cs.drop 1 else cs).map fun c =>
    if k.isSlash c then '/' else c
  (List.intercalate ['/'] (withoutPoints [] (Text.pieces '/' slashed))).dropWhile (· = '/')

/-! ## Addresses -/

/-- Reads a path and parameters. -/
def Url.withRest (u : Url) (path : List Char → List Char) (cs : List Char) : Url :=
  let cs := cs.takeWhile (· ≠ '#')
  let (before, parameters) := (Text.cutAt '?' cs).getD (cs, [])
  { u with path := path before, parameters }

/-- Reads what stands behind two slashes. -/
def readBehindSlashes (k : SchemeKind) (cs : List Char) : Except UrlFault Url := do
  let ends (c : Char) : Bool := k.isSlash c || c == '?' || c == '#'
  let (server, rest) := cs.span fun c => !ends c
  let (u, left) ← readServer k server rest.isEmpty
  .ok (u.withRest (pathOf k) (left ++ rest))

/-- Reads what stands behind the scheme of files: no host has a user or a port. -/
def readFile (cs : List Char) : Except UrlFault Url := do
  let k := SchemeKind.file
  match cs with
  | a :: b :: rest =>
    if k.isSlash a && k.isSlash b then
      let (host, rest) := rest.span fun c => !(k.isSlash c || c == '?' || c == '#')
      if host.length ≠ 2 || !isDrive host then checkHost k host
      .ok (({} : Url).withRest (pathOf k) rest)
    else .ok (({} : Url).withRest (pathOf k) cs)
  | _ => .ok (({} : Url).withRest (pathOf k) cs)

/-- An address read.  Blanks and control characters around it do not count, nor do tabs and breaks
inside it. -/
def Url.read (text : String) : Except UrlFault Url :=
  let isEdge (c : Char) : Bool := c.toNat ≤ 0x20
  let trimmed := Text.dropEndWhile isEdge (text.toList.dropWhile isEdge)
  match cutScheme? (trimmed.filter fun c => c != '\t' && c != '\n' && c != '\x0d') with
  | none => .error .noScheme
  | some (.web, rest) => readBehindSlashes .web (rest.dropWhile SchemeKind.web.isSlash)
  | some (.file, rest) => readFile rest
  | some (.general, rest) =>
    match Text.after? ['/', '/'] rest with
    | some rest => readBehindSlashes .general rest
    | none =>
      if rest.head? = some '/' then .ok (({} : Url).withRest (pathOf .general) rest)
      else .ok (({} : Url).withRest id rest)

end TableQuery.Address
