import Schemata.Session

/-!
# Scripted replies

A server that answers from prepared replies, one queue for each kind of call.  An
empty queue answers with success, and a lookup then finds nothing.
-/

namespace Schemata

/-- What is left of the prepared replies. -/
structure Script where
  connects : List (Except Fault Unit) := []
  executes : List (Except Fault Unit) := []
  lookups : List (Except Fault (Option Record)) := []

namespace Script

/-- More replies, to be used after those already prepared. -/
def append (script more : Script) : Script where
  connects := script.connects ++ more.connects
  executes := script.executes ++ more.executes
  lookups := script.lookups ++ more.lookups

def answer (script : Script) : (call : Call) → Answer Script call
  | .connect =>
    { reply := script.connects.headD (.ok ())
      state := { script with connects := script.connects.tail } }
  | .execute _ =>
    { reply := script.executes.headD (.ok ())
      state := { script with executes := script.executes.tail } }
  | .lookup _ =>
    { reply := script.lookups.headD (.ok none)
      state := { script with lookups := script.lookups.tail } }
  | .close => { reply := (), state := script }

end Script

/-- Answers calls from prepared replies. -/
def scriptedServer : Server Script where
  answer := Script.answer

end Schemata
