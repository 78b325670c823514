import Schemata.Statement

/-!
# Reading schema statements

The inverse of `Statement.render`, and of the script of several statements.  Only
what lies outside quoted identifiers has a meaning of its own, so a name can hold
whole statements and still is one name.
-/

namespace Schemata.Statement

/-- Reads the words of a clause and the quoted identifier after them.  Answers the
name and what follows. -/
def clause? (words : String) (text : List Char) : Option (String × List Char) := do
  let text ← words.toList.isPrefixOf? text
  let (name, rest) ← Ident.scan text
  return (String.ofList name, rest)

/-- Reads a clause that ends the text. -/
def lastClause? (words : String) (text : List Char) : Option String :=
  match clause? words text with
  | some (name, []) => some name
  | _ => none

/-- Reads a statement that creates a schema. -/
def readCreate? (text : List Char) : Option Statement := do
  let (name, rest) ← clause? "CREATE SCHEMA " text
  if rest = [] then return .create name none
  else return .create name (some (← lastClause? " AUTHORIZATION " rest))

/-- Reads a statement that renames a schema or changes its owner. -/
def readAlter? (text : List Char) : Option Statement := do
  let (name, rest) ← clause? "ALTER SCHEMA " text
  (lastClause? " RENAME TO " rest).map (.rename name) <|>
    (lastClause? " OWNER TO " rest).map (.changeOwner name)

/-- Reads a statement that drops a schema. -/
def readDrop? (text : List Char) : Option Statement := do
  let (name, rest) ← clause? "DROP SCHEMA " text
  if rest = [] then return .drop name .restrict
  else if rest = " CASCADE".toList then return .drop name .cascade
  else none

/-- The statement that a text is, if all of it is one. -/
def read? (text : List Char) : Option Statement :=
  readCreate? text <|> readAlter? text <|> readDrop? text

/-! ## Scripts -/

/-- Cuts a script behind each semicolon and line break outside quoted identifiers;
`isQuoted` tells whether the text starts inside one.  Answers the pieces without their
ends, and what is left over. -/
def cutScript : Bool → List Char → List (List Char) × List Char
  | _, [] => ([], [])
  | false, ';' :: '\n' :: rest =>
    let (pieces, left) := cutScript false rest
    ([] :: pieces, left)
  | isQuoted, c :: rest =>
    match cutScript (if c = '"' then !isQuoted else isQuoted) rest with
    | (piece :: pieces, left) => ((c :: piece) :: pieces, left)
    | ([], left) => ([], c :: left)

/-- The statements of a script, if nothing is left over. -/
def readScript? (script : String) : Option (List Statement) :=
  match cutScript false script.toList with
  | (pieces, []) => pieces.mapM read?
  | _ => none

end Schemata.Statement
