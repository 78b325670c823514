/-!
# Managed schemas

A schema has two attributes, its name and its owner.  A resource is the host's view
of one schema: its identity, the values that were last recorded from the catalog,
and the values that are wanted.  The identity is the schema's current name.
-/

namespace Schemata

/-- The attributes tracked for a schema. -/
inductive Attr where
  | name
  | owner
deriving DecidableEq, Repr

def Attr.text : Attr → String
  | .name => "name"
  | .owner => "owner"

/-- A schema as the catalog reports it. -/
structure Record where
  name : String
  owner : String
deriving DecidableEq, Repr

/-- A value for each attribute that has one. -/
structure Values where
  name : Option String := none
  owner : Option String := none
deriving DecidableEq, Repr, Inhabited

namespace Values

def get (values : Values) : Attr → Option String
  | .name => values.name
  | .owner => values.owner

def set (values : Values) (attr : Attr) (value : String) : Values :=
  match attr with
  | .name => { values with name := some value }
  | .owner => { values with owner := some value }

def ofRecord (record : Record) : Values :=
  { name := some record.name, owner := some record.owner }

end Values

/-- The host's view of one schema. -/
structure Resource where
  /-- The current name of the schema, absent while it does not exist. -/
  id : Option String := none
  recorded : Values := {}
  planned : Values := {}
deriving DecidableEq, Repr, Inhabited

namespace Resource

/-- A schema that does not exist yet, with the wanted name and owner. -/
def ofPlan (name : String) (owner : Option String) : Resource :=
  { planned := { name := some name, owner } }

/-- A schema recorded earlier. -/
def ofRecord (record : Record) : Resource :=
  { id := some record.name, recorded := .ofRecord record }

/-- A schema known by its identity only, to be filled in by a read. -/
def ofId (id : String) : Resource :=
  { id := some id }

/-- States the wanted value of an attribute. -/
def plan (resource : Resource) (attr : Attr) (value : String) : Resource :=
  { resource with planned := resource.planned.set attr value }

/-- Records an observed value of an attribute. -/
def set (resource : Resource) (attr : Attr) (value : String) : Resource :=
  { resource with recorded := resource.recorded.set attr value }

/-- Sets the identity, or clears it.  A schema without identity is gone, so clearing
forgets the recorded values too. -/
def setId (resource : Resource) : Option String → Resource
  | some id => { resource with id := some id }
  | none => { resource with id := none, recorded := {} }

/-- The value of an attribute: the wanted one if given, else the recorded one. -/
def get (resource : Resource) (attr : Attr) : Option String :=
  resource.planned.get attr <|> resource.recorded.get attr

/-- The recorded and the wanted value of an attribute, when they differ.  A value
that was never recorded counts as empty. -/
def change (resource : Resource) (attr : Attr) : Option (String × String) :=
  match resource.planned.get attr with
  | none => none
  | some wanted =>
    let recorded := (resource.recorded.get attr).getD ""
    if recorded = wanted then none else some (recorded, wanted)

/-- The recorded schema, if it exists and has been read. -/
def record (resource : Resource) : Option Record :=
  match resource.id, resource.recorded.name, resource.recorded.owner with
  | some _, some name, some owner => some { name, owner }
  | _, _, _ => none

/-- Takes over what the catalog reported. -/
def observe (resource : Resource) (record : Record) : Resource :=
  ((resource.set .name record.name).set .owner record.owner).setId (some record.name)

end Resource

end Schemata
