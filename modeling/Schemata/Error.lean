import Schemata.Resource
import Schemata.Statement

/-!
# Errors

Why an operation on a schema failed.  Two of the four causes are found before any
contact with a server; the other two carry what the server side said.
-/

namespace Schemata

/-- A failure on the server side: what it was, and what lay beneath it, outermost
first. -/
structure Fault where
  message : String
  causes : List String := []
deriving DecidableEq, Repr

/-- The failure and everything beneath it, outermost first. -/
def Fault.chain (fault : Fault) : List String :=
  fault.message :: fault.causes

inductive Error where
  /-- No session could be opened. -/
  | connection (fault : Fault)
  /-- An attribute was given an empty value. -/
  | emptyValue (attr : Attr)
  /-- A rename needs the current name of the schema, and there is none. -/
  | noIdentity
  /-- A statement or a lookup failed. -/
  | execution (action : Action) (schema : String) (fault : Fault)
deriving DecidableEq, Repr

namespace Error

def message : Error → String
  | .connection fault => "error connecting to postgres: " ++ fault.message
  | .emptyValue attr => "error setting schema " ++ attr.text ++ " to an empty string"
  | .noIdentity => "schema has not been created or imported, nothing to rename"
  | .execution action schema fault =>
    "error trying to " ++ action.text ++ " " ++ Ident.quote schema ++ ": " ++ fault.message

/-- What lies beneath the error, outermost first. -/
def causes : Error → List String
  | .connection fault => fault.chain
  | .emptyValue _ => []
  | .noIdentity => []
  | .execution _ _ fault => fault.chain

def isExecution : Error → Bool
  | .execution .. => true
  | _ => false

end Error

end Schemata
