import Schemata.IpAddress

/-!
# Connection parameters

What a connection string says about reaching a server: where it is, who connects,
and how.  A parameter is given by a key and a text; `ConnInfo.assign` reads the text
and says which keys there are.  Hosts, addresses and ports add up, every other
parameter replaces what was there.
-/

namespace Schemata

/-- Where a server listens: a name or address for TCP, or the directory of a
Unix-domain socket. -/
inductive ServerHost where
  | tcp (name : String)
  | socket (path : String)
deriving DecidableEq, Repr

/-- A host that starts with a slash is the directory of a socket. -/
def ServerHost.ofText (text : List Char) : ServerHost :=
  if text.head? = some '/' then .socket (String.ofList text) else .tcp (String.ofList text)

inductive SslMode where
  | disable
  | prefer
  | require
deriving DecidableEq, Repr

/-- What kind of session is acceptable. -/
inductive SessionTarget where
  | any
  | readWrite
  | readOnly
deriving DecidableEq, Repr

structure ConnInfo where
  user : Option String := none
  /-- Bytes, since a password may be any. -/
  password : Option (List UInt8) := none
  database : Option String := none
  options : Option String := none
  applicationName : Option String := none
  sslMode : SslMode := .prefer
  hosts : List ServerHost := []
  addresses : List IpAddress := []
  ports : List UInt16 := []
  /-- In seconds. -/
  connectTimeout : Option UInt64 := none
  keepalives : Bool := true
  /-- In seconds. -/
  keepalivesIdle : UInt64 := 7200
  sessionTarget : SessionTarget := .any
deriving DecidableEq, Repr, Inhabited

namespace ConnInfo

/-- Why a connection string is refused. -/
inductive Defect where
  /-- Another character stands where an equals sign is needed, at the given byte. -/
  | expectedEquals (index : Nat) (found : Char)
  | unexpectedEnd
  | unterminatedQuote
  | unterminatedParameter
  | invalidValue (key : String)
  | unknownKey (key : String)
  | notUtf8 (defect : Text.Utf8.Defect)
deriving DecidableEq, Repr

def Defect.message : Defect → String
  | .expectedEquals index found =>
    "unexpected character at byte " ++ toString index ++ ": expected `=` but got `" ++
      String.singleton found ++ "`"
  | .unexpectedEnd => "unexpected EOF"
  | .unterminatedQuote => "unterminated quoted connection parameter value"
  | .unterminatedParameter => "unterminated parameter"
  | .invalidValue key => "invalid value for option `" ++ key ++ "`"
  | .unknownKey key => "unknown option `" ++ key ++ "`"
  | .notUtf8 defect => defect.message

/-- The port of a server that is given none. -/
def defaultPort : UInt16 := 5432

/-- A port; an empty text is the default one. -/
def port? (text : List Char) : Option UInt16 :=
  if text = [] then some defaultPort
  else (Text.Numeral.unsigned? Text.Numeral.max16 text).map UInt16.ofNat

/-- A duration in seconds, if it is more than zero; otherwise the parameter stays
as it was. -/
def seconds? (text : List Char) : Option (Option UInt64) :=
  (Text.Numeral.signed? Text.Numeral.maxSigned64 text).map fun n =>
    if n > 0 then some (UInt64.ofNat n.toNat) else none

def sslMode? : String → Option SslMode
  | "disable" => some .disable
  | "prefer" => some .prefer
  | "require" => some .require
  | _ => none

def sessionTarget? : String → Option SessionTarget
  | "any" => some .any
  | "read-write" => some .readWrite
  | "read-only" => some .readOnly
  | _ => none

/-- The connection parameters after `key` is given as `value`, if the value is one
that the key can have. -/
def update? (info : ConnInfo) (key : String) (value : List Char) : Option ConnInfo :=
  let text := String.ofList value
  match key with
  | "user" => some { info with user := some text }
  | "password" => some { info with password := some (Text.Utf8.encode value) }
  | "dbname" => some { info with database := some text }
  | "options" => some { info with options := some text }
  | "application_name" => some { info with applicationName := some text }
  | "sslmode" => (sslMode? text).map fun mode => { info with sslMode := mode }
  | "host" =>
    some { info with hosts := info.hosts ++ (value.splitOn ',').map ServerHost.ofText }
  | "hostaddr" =>
    ((value.splitOn ',').mapM IpAddress.parse?).map fun more =>
      { info with addresses := info.addresses ++ more }
  | "port" =>
    ((value.splitOn ',').mapM port?).map fun more => { info with ports := info.ports ++ more }
  | "connect_timeout" =>
    (seconds? value).map fun given => { info with connectTimeout := given <|> info.connectTimeout }
  | "keepalives" =>
    (Text.Numeral.unsigned? Text.Numeral.max64 value).map fun n => { info with keepalives := n ≠ 0 }
  | "keepalives_idle" =>
    (seconds? value).map fun given =>
      { info with keepalivesIdle := given.getD info.keepalivesIdle }
  | "target_session_attrs" =>
    (sessionTarget? text).map fun target => { info with sessionTarget := target }
  | "tcp_user_timeout" | "keepalives_interval" => (seconds? value).map fun _ => info
  | "keepalives_retries" => (Text.Numeral.unsigned? Text.Numeral.max32 value).map fun _ => info
  | "sslnegotiation" => if text ∈ ["postgres", "direct"] then some info else none
  | "channel_binding" => if text ∈ ["disable", "prefer", "require"] then some info else none
  | "load_balance_hosts" => if text ∈ ["disable", "random"] then some info else none
  | _ => none

/-- The keys of connection parameters.  The last six are checked and have no other effect
here: hosts are tried in the order given, and no channel binding is asked for. -/
def keys : List String :=
  ["user", "password", "dbname", "options", "application_name", "sslmode", "host",
    "hostaddr", "port", "connect_timeout", "keepalives", "keepalives_idle",
    "target_session_attrs", "tcp_user_timeout", "keepalives_interval",
    "keepalives_retries", "sslnegotiation", "channel_binding", "load_balance_hosts"]

/-- Gives a parameter a value. -/
def assign (info : ConnInfo) (key : String) (value : List Char) : Except Defect ConnInfo :=
  if key ∈ keys then
    match info.update? key value with
    | some info => .ok info
    | none => .error (.invalidValue key)
  else .error (.unknownKey key)

/-- Why connection parameters fit no server, which shows before any contact. -/
inductive Misfit where
  | noServer
  | countsDiffer (hosts addresses : Nat)
  | portCount
deriving DecidableEq, Repr

def Misfit.message : Misfit → String
  | .noServer => "both host and hostaddr are missing"
  | .countsDiffer hosts addresses =>
    "number of hosts (" ++ toString hosts ++ ") is different from number of hostaddrs (" ++
      toString addresses ++ ")"
  | .portCount => "invalid number of ports"

/-- How many servers there are to try. -/
def serverCount (info : ConnInfo) : Nat :=
  if info.hosts = [] then info.addresses.length else info.hosts.length

/-- There has to be a server; hosts and addresses, if both are given, belong together
one by one; and so do ports, unless one port or none is given for all. -/
def misfit? (info : ConnInfo) : Option Misfit :=
  if info.serverCount = 0 then some .noServer
  else if info.hosts ≠ [] ∧ info.addresses ≠ [] ∧
      info.hosts.length ≠ info.addresses.length then
    some (.countsDiffer info.hosts.length info.addresses.length)
  else if info.ports.length > 1 ∧ info.ports.length ≠ info.serverCount then some .portCount
  else none

end ConnInfo

end Schemata
