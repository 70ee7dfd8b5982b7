import TableQuery.Address.Url
import TableQuery.Connection.Sqlite

/-!
# Connections to servers

The address of a database on a server is checked before anything is sent: it must have a scheme, its
parts must be texts, and some of its parameters must be numbers, or names, of the right kind.  A
parameter without a meaning is only mentioned in the log.

* `checkParameter` — one parameter;
* `Connection.checkPostgres` — the report about a wrong address, if it is wrong;
* `Connection.connectPostgres` — the attempt to connect, with what it logs.
-/

namespace TableQuery.Connection

/-! ## Parameters -/

/-- The value of digits after others, which must stay within the bound; the first digit or character
that is wrong is reported. -/
def checkDigits (high : Nat) : Nat → List Char → Except Fault Unit
  | _, [] => .ok ()
  | n, c :: rest =>
    if !c.isDigit then .error (.setting "invalid digit found in string")
    else
      let n := 10 * n + Decimal.digitValue c
      if n ≤ high then checkDigits high n rest
      else .error (.setting "number too large to fit in target type")

/-- The report about a text that is no natural number, or one above the bound. -/
def checkNumber (high : Nat) (value : String) : Except Fault Unit :=
  match value.toList with
  | [] => .error (.setting "cannot parse integer from empty string")
  | '+' :: c :: rest => checkDigits high 0 (c :: rest)
  | cs => checkDigits high 0 cs

/-- The ways to secure a connection. -/
def securityModes : List String :=
  ["disable", "allow", "prefer", "require", "verify-ca", "verify-full"]

/-- The parameters that may have any value. -/
def freeParameters : List String :=
  ["sslrootcert", "ssl-root-cert", "ssl-ca", "sslcert", "ssl-cert", "sslkey", "ssl-key", "host",
    "dbname", "user", "password", "application_name", "options"]

/-- The event of a parameter without a meaning. -/
def ignored (name value : String) : Event where
  level := .warn
  origin := .serverAddress
  message := "ignoring unrecognized connect parameter"
  fields := [("key", .plain name), ("value", .plain value)]
  span := none

/-- Checks one parameter. -/
def checkParameter (p : String × String) : Traced Event Fault Unit :=
  let (name, value) := p
  if name = "sslmode" ∨ name = "ssl-mode" then
    if securityModes.contains (Text.lower value) then pure ()
    else
      let report := "unknown value " ++ Text.quoted value ++ " for `ssl_mode`"
      .fail (.setting (Fault.settingDetail report))
  else if name = "port" then .ofExcept (checkNumber 65535 value)
  else if name = "statement-cache-capacity" then .ofExcept (checkNumber (UInt64.size - 1) value)
  else if name = "hostaddr" then
    if Address.isShortAddress value.toList || Address.isLongAddress value.toList then pure ()
    else .fail (.setting "invalid IP address syntax")
  else if freeParameters.contains name || Text.startsWith "options[" name then pure ()
  else .emit (ignored name value)

/-! ## Addresses -/

/-- Checks that a part of an address is a text. -/
def checkPart (part : List Char) : Except Fault Unit :=
  match Text.decoded (Address.decodedBytes part) with
  | .ok _ => .ok ()
  | .error fault => .error (.setting fault.message)

/-- Checks the parts of an address: a host must be a text only where it is a path. -/
def checkParts (u : Address.Url) : Except Fault Unit := do
  if (Address.decodedBytes u.host).head? = some '/'.toNat.toUInt8 then checkPart u.host
  checkPart u.user
  checkPart u.password
  checkPart u.path

/-- Checks an address. -/
def checkPostgres (url : String) : Traced Event Fault Unit :=
  match Address.Url.read url with
  | .error fault => .fail (.setting fault.message)
  | .ok u => do
    Traced.ofExcept (checkParts u)
    (Address.formPairs (String.ofList u.parameters)).forM checkParameter

/-- Connects to the database at the address in the settings, as far as its address goes. -/
def connectPostgres (s : DatabaseSettings) : Traced Event DataSourceError Unit :=
  let checked := checkPostgres s.url
  match checked.outcome with
  | .ok () => ⟨checked.trace, .ok ()⟩
  | .error f =>
    let failed := connectFailed .postgresSource "Failed to connect to PostgreSQL" s f
    ⟨checked.trace ++ [failed], .error f.toError⟩

/-- The report of a pool that is closed. -/
def closedPool : DataSourceError := Fault.poolClosed.toError

end TableQuery.Connection
