import TableQuery.Settings.Basic
import TableQuery.Text.Split

/-!
# Addresses of databases

An address may hold a password: after the scheme and `://` stand a user, a colon and the password,
up to the last `@` of the address.

* `sanitized` — an address with three stars in place of its password.
-/

namespace TableQuery

/-- The word between the scheme of an address and what follows. -/
def schemeMark : List Char := [':', '/', '/']

/-- The characters of an address with three stars in place of its password. -/
def sanitizedText (url : List Char) : List Char :=
  match Text.cutAround schemeMark url with
  | none => url
  | some (scheme, rest) =>
    match Text.cutAtLast '@' rest with
    | none => url
    | some (credentials, tail) =>
      match Text.cutAt ':' credentials with
      | none => url
      | some (user, _) => scheme ++ schemeMark ++ user ++ [':', '*', '*', '*', '@'] ++ tail

/-- An address with three stars in place of its password. -/
def sanitized (url : String) : String := String.ofList (sanitizedText url.toList)

/-- The address of the database without its password. -/
def DatabaseSettings.sanitizedUrl (s : DatabaseSettings) : String := sanitized s.url

end TableQuery
