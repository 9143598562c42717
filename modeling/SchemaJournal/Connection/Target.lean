import SchemaJournal.Connection.Url
import SchemaJournal.Database.Postgres
import SchemaJournal.Files.Tree
import SchemaJournal.Text.Numeral
import SchemaJournal.Text.Quoted
import SchemaJournal.Text.Utf8

/-!
# Targets

A target is the place where a server listens: a port of a host, or a socket in a directory of this machine. A URL names
it, and the fields of its query can change it. All parts of the URL that have a form are checked on the way, those
before the query first and then the fields in their order; fields that mean nothing are passed over.
-/

namespace SchemaJournal.Connection

open Database (DriverError)

/-- Where a server listens. A socket takes precedence over a host. -/
structure Target where
  host : String
  socket : Option String
  port : Nat
deriving DecidableEq, Repr

/-- Why a URL names no target. -/
inductive TargetError where
  | malformed (e : UrlError)
  | notText (fault : Text.Utf8Fault)
  | notNumber (fault : Text.NumeralFault)
  | notAddress
  | unknownSslMode (text : String)
deriving DecidableEq, Repr

namespace TargetError

/-- The wording of an error. -/
def message : TargetError → String
  | .malformed e => e.message
  | .notText fault => fault.message
  | .notNumber fault => fault.message
  | .notAddress => "invalid IP address syntax"
  | .unknownSslMode text =>
    (DriverError.configuration ("unknown value " ++ Text.quoted text ++ " for `ssl_mode`")).message

end TargetError

/-! ## Queries -/

/-- A part of a query without its escapes. -/
def fieldText (cs : List Char) : String :=
  Text.lossyText (Text.percentDecode (cs.map fun c => if c = '+' then ' ' else c))

/-- The fields of a query, each of which has a name and a value. -/
def queryFields (query : String) : List (String × String) :=
  ((splitOn '&' query.toList).filter (!·.isEmpty)).map fun part =>
    (fieldText (part.takeWhile (· != '=')), fieldText ((part.dropWhile (· != '=')).drop 1))

/-! ## Checks -/

/-- A part of a URL without its escapes, which has to be UTF-8. -/
def decoded (part : String) : Except TargetError String :=
  let bytes := Text.percentDecode part.toList
  match Text.utf8Fault? bytes with
  | some fault => .error (.notText fault)
  | none => .ok (Text.lossyText bytes)

/-- A number up to a limit. -/
def numeral (limit : Nat) (text : String) : Except TargetError Nat :=
  (Text.readNumeral limit text.toList).mapError .notNumber

/-- The names of the ways in which a connection is secured. -/
def sslModes : List String := ["disable", "allow", "prefer", "require", "verify-ca", "verify-full"]

/-- The number that a cache can hold at most. -/
def largestSize : Nat := 18446744073709551615

namespace Target

/-- Moves a target to a host or, if the text is a path from the root on, to a socket. -/
def moveTo (t : Target) (place : String) : Target :=
  if place.toList.head? = some '/' then { t with socket := some place } else { t with host := place }

/-- What a field of a query makes of a target. -/
def withField (t : Target) (name value : String) : Except TargetError Target :=
  match name with
  | "sslmode" | "ssl-mode" =>
    if sslModes.contains (String.ofList (value.toList.map Char.toLower)) then .ok t else .error (.unknownSslMode value)
  | "statement-cache-capacity" => do
    let _ ← numeral largestSize value
    return t
  | "host" => .ok (t.moveTo value)
  | "hostaddr" =>
    if Ipv4.isDotted value.toList || (Ipv6.ofText? value.toList).isSome then .ok { t with host := value }
    else .error .notAddress
  | "port" => do return { t with port := ← numeral 65535 value }
  | _ => .ok t

/-- The target that a URL names. -/
def ofUrl (u : Url) : Except TargetError Target := do
  let host := u.host.getD ""
  let start : Target := ⟨host, none, u.port.getD 5432⟩
  let start ← if (Text.percentDecode host.toList).head? = some 0x2F then do pure (start.moveTo (← decoded host))
    else pure start
  for part in [u.username, u.password, String.ofList (u.path.toList.dropWhile (· == '/'))] do
    let _ ← decoded part
  (queryFields (u.query.getD "")).foldlM (fun t (name, value) => t.withField name value) start

/-- The target that a text names. -/
def ofText (s : String) : Except DriverError Target :=
  ((Url.ofText s).mapError .malformed >>= ofUrl).mapError fun e => .configuration e.message

/-- Why a target is not reached where no server listens: a host may still answer, but a socket is not there. -/
def silence (t : Target) : DriverError :=
  match t.socket with
  | some _ => .communication FileError.notFound.message
  | none => .timedOut

end Target

end SchemaJournal.Connection
