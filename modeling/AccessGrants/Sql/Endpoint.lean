import AccessGrants.Address.Reader
import AccessGrants.Text.Quoted

/-!
Where a database is and who connects to it. An endpoint is given as an address;
the parameters in the query of the address go over its other parts, and of
several parameters for one thing the last one holds. Parameters that are not
known here have no bearing on the endpoint and are passed over.
-/

namespace AccessGrants.Sql

inductive Security where
  | disable
  | allow
  | prefer
  | require
  | verifyAuthority
  | verifyFull
  deriving DecidableEq, Repr

namespace Security

def all : List Security := [.disable, .allow, .prefer, .require, .verifyAuthority, .verifyFull]

def name : Security → String
  | .disable => "disable"
  | .allow => "allow"
  | .prefer => "prefer"
  | .require => "require"
  | .verifyAuthority => "verify-ca"
  | .verifyFull => "verify-full"

/-- Finds a name in any mix of ASCII cases. -/
def ofName? (name : String) : Option Security :=
  all.find? fun security => security.name == name.toLower

end Security

inductive Place where
  | host (name : String)
  | socket (directory : String)
  deriving DecidableEq, Repr

/-- A name that begins with a slash is a directory. -/
def Place.ofName (name : String) : Place :=
  if name.toList.head? = some '/' then .socket name else .host name

structure Endpoint where
  /-- The machine itself if nothing is given. -/
  place : Option Place
  /-- The number under which the place offers the service. -/
  service : Option UInt16
  user : Option String
  password : Option String
  database : Option String
  security : Security
  statementCapacity : UInt64
  deriving DecidableEq, Repr

inductive EndpointError where
  | address (error : AddressError)
  /-- A part of the address spells bytes that are not text. -/
  | notText (error : Text.Utf8Error)
  | unknownSecurity (name : String)
  | badNumber (error : Text.NumeralError)
  /-- A host that has to be given by its number is not. -/
  | badHostNumber
  deriving DecidableEq, Repr

def configurationPrefix : String := "error with configuration: "

/-- The complaint about an unknown security is introduced once more. -/
def EndpointError.message : EndpointError → String
  | .address error => error.message
  | .notText error => error.message
  | .unknownSecurity name =>
    configurationPrefix ++ "unknown value " ++ Text.quoted name ++ " for `ssl_mode`"
  | .badNumber error => error.message
  | .badHostNumber => "invalid IP address syntax"

namespace Endpoint

def standard : Endpoint := ⟨none, none, none, none, none, .prefer, 100⟩

def textOf? (part : List Char) : Except EndpointError (Option String) :=
  if part.isEmpty then .ok none
  else
    match Text.decodePercent part with
    | .ok text => .ok (some text)
    | .error error => .error (.notText error)

/-- A host that spells a slash at its front is a directory. -/
def placeOf? (host : List Char) : Except EndpointError (Option Place) :=
  if host.isEmpty then .ok none
  else if (Text.percentBytes host).head? = some 0x2F then
    (textOf? host).map fun text => text.map .socket
  else .ok (some (.host (String.ofList host)))

def numberOf (limit : Nat) (value : String) : Except EndpointError Nat :=
  match Text.readBelow limit value.toList with
  | .ok n => .ok n
  | .error error => .error (.badNumber error)

def isHostNumber (value : String) : Bool :=
  Address.isDottedQuad value.toList || Address.isIPv6 value.toList

def withParameter (endpoint : Endpoint) (name value : String) : Except EndpointError Endpoint :=
  match name with
  | "sslmode" | "ssl-mode" =>
    match Security.ofName? value with
    | some security => .ok { endpoint with security }
    | none => .error (.unknownSecurity value)
  | "statement-cache-capacity" =>
    (numberOf 18446744073709551616 value).map fun n =>
      { endpoint with statementCapacity := UInt64.ofNat n }
  | "host" => .ok { endpoint with place := some (.ofName value) }
  | "hostaddr" =>
    if isHostNumber value then .ok { endpoint with place := some (.host value) }
    else .error .badHostNumber
  | "port" =>
    (numberOf 65536 value).map fun n => { endpoint with service := some (UInt16.ofNat n) }
  | "dbname" => .ok { endpoint with database := some value }
  | "user" => .ok { endpoint with user := some value }
  | "password" => .ok { endpoint with password := some value }
  | _ => .ok endpoint

/-- The endpoint at an address. Of several faults the one that stands first in
the address is reported, except that the host comes before the user. -/
def ofAddress (address : Address) : Except EndpointError Endpoint := do
  let place ← placeOf? address.host
  let user ← textOf? address.user
  let password ← textOf? address.password
  let database ← textOf? address.path
  (Text.formFields address.query).foldlM (fun endpoint (name, value) =>
    endpoint.withParameter name value)
    { standard with place, service := address.service, user, password, database }

def ofText (text : String) : Except EndpointError Endpoint :=
  match Address.ofText text with
  | .ok address => ofAddress address
  | .error error => .error (.address error)

end Endpoint

end AccessGrants.Sql
