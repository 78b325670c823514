import Schemata.ConnInfo.KeyValue
import Schemata.ConnInfo.Url
import Schemata.Error

/-!
# Reading connection strings

A text that starts with a scheme of a connection URL is one, any other is a list of
keys and values.
-/

namespace Schemata.ConnInfo

def parse (text : String) : Except Defect ConnInfo :=
  match Url.afterScheme? text.toList with
  | some rest => Url.parse rest
  | none => KeyValue.parse text.toList

/-- A connection string that cannot be read, as a failure to connect. -/
def Defect.fault (defect : Defect) : Fault :=
  { message := "invalid connection string", causes := [defect.message] }

/-- Reads a connection string that a session is to be opened by. -/
def ofString (text : String) : Except Error ConnInfo :=
  (parse text).mapError fun defect => .connection defect.fault

end Schemata.ConnInfo
