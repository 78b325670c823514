import Schemata.Error

/-!
# Differences between wanted and recorded

The changes that bring a schema to its wanted state, always in one order: the
rename first, then the owner.  An owner change addresses the schema by the name it
has once the rename has run.
-/

namespace Schemata

/-- One change to a schema. -/
inductive Change where
  | rename (source target : String)
  | changeOwner (schema target : String)
deriving DecidableEq, Repr

namespace Change

def toStatement : Change → Statement
  | .rename source target => .rename source target
  | .changeOwner schema target => .changeOwner schema target

/-- The SQL script of a list of changes: each statement ends in a semicolon and a
line break. -/
def script : List Change → String
  | [] => ""
  | change :: rest => change.toStatement.render ++ ";\n" ++ script rest

end Change

/-- What a difference is computed from: the answers that a host gives about one
schema.  Nothing makes the answers agree with each other. -/
structure ResourceView where
  id : Option String
  name : Option String
  /-- The old and the new name, when the name is to change. -/
  nameChange : Option (String × String)
  /-- The old and the new owner, when the owner is to change. -/
  ownerChange : Option (String × String)
deriving DecidableEq, Repr

def Resource.view (resource : Resource) : ResourceView where
  id := resource.id
  name := resource.get .name
  nameChange := resource.change .name
  ownerChange := resource.change .owner

namespace ResourceView

/-- The changes to the name, and the name that the schema has after them.  A rename
starts at the identity, because the recorded name may not have been read yet. -/
def renames (view : ResourceView) : Except Error (List Change × String) :=
  match view.nameChange with
  | none => .ok ([], (view.id <|> view.name).getD "")
  | some (recorded, target) =>
    let source := view.id.getD recorded
    if target = "" then .error (.emptyValue .name)
    else if source = "" then .error .noIdentity
    else if source = target then .ok ([], target)
    else .ok ([.rename source target], target)

/-- The changes to the owner of the schema with the given name. -/
def ownerChanges (view : ResourceView) (schema : String) : Except Error (List Change) :=
  match view.ownerChange with
  | none => .ok []
  | some (_, target) =>
    if target = "" then .error (.emptyValue .owner)
    else .ok [.changeOwner schema target]

/-- The changes that an update has to make.  Every check is done here, before
anything is sent. -/
def diff (view : ResourceView) : Except Error (List Change) := do
  let (renames, schema) ← view.renames
  let ownerChanges ← view.ownerChanges schema
  return renames ++ ownerChanges

end ResourceView

/-- The changes that bring a resource to its wanted state. -/
def Resource.diff (resource : Resource) : Except Error (List Change) :=
  resource.view.diff

end Schemata
