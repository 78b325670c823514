import Schemata.ConnInfo.Parse

/-!
# Settings

What the operator sets about the connection, each setting on its own and every one
optional: a whole connection string, and single parameters.  `Settings.connInfo`
lays the single parameters over the string.
-/

namespace Schemata

structure Settings where
  /-- A connection string of either form. -/
  url : Option String := none
  host : Option String := none
  port : Option UInt16 := none
  database : Option String := none
  user : Option String := none
  password : Option String := none
  connectTimeoutSecs : Option UInt64 := none
  applicationName : Option String := none
deriving DecidableEq, Repr, Inhabited

/-- Why there are no usable settings. -/
inductive SettingsError where
  | notFound
  | unreadable (reason : String)
  | malformed
  | invalid (reason : String)
deriving DecidableEq, Repr

def SettingsError.message : SettingsError → String
  | .notFound => "no .config/pgschema.styx in the current directory or any parent"
  | .unreadable reason => "could not read .config/pgschema.styx: " ++ reason
  | .malformed => "could not parse .config/pgschema.styx:"
  | .invalid reason => "invalid connection settings: " ++ reason

namespace Settings

/-- The application name of a session that is given none. -/
def defaultApplicationName : String := "pgschema"

/-- Lays the single settings over connection parameters.  A host and a port are added
to those already there, the others replace; the application name is always set. -/
def overlay (settings : Settings) (info : ConnInfo) : ConnInfo :=
  { info with
    hosts := info.hosts ++ (settings.host.map fun host => ServerHost.ofText host.toList).toList
    ports := info.ports ++ settings.port.toList
    database := settings.database <|> info.database
    user := settings.user <|> info.user
    password :=
      (settings.password.map fun password => Text.Utf8.encode password.toList) <|> info.password
    connectTimeout := settings.connectTimeoutSecs <|> info.connectTimeout
    applicationName := some (settings.applicationName.getD defaultApplicationName) }

/-- Fills in the local host and the role `postgres` where nothing names a host or a
user. -/
def fillDefaults (info : ConnInfo) : ConnInfo :=
  { info with
    hosts := if info.hosts = [] then [.tcp "localhost"] else info.hosts
    user := some (info.user.getD "postgres") }

/-- The connection parameters that the string among the settings gives. -/
def base (settings : Settings) : Except ConnInfo.Defect ConnInfo :=
  match settings.url with
  | none => .ok {}
  | some url => ConnInfo.parse url

/-- The connection parameters that the settings come to. -/
def connInfo (settings : Settings) : Except SettingsError ConnInfo :=
  match settings.base with
  | .ok info => .ok (fillDefaults (settings.overlay info))
  | .error defect => .error (.invalid defect.fault.message)

end Settings

end Schemata
