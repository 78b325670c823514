import Schemata.Text.Alphanumeric
import Schemata.Text.Blank
import Schemata.Text.Utf8

/-!
# Environment files

A file of lines `KEY=value` that sets variables which are not set already.  A value
may be quoted, a quoted value may span lines, and `$NAME` and `${NAME}` stand for
variables outside single quotes.  Reading stops at the first malformed line; what came
before it holds.
-/

namespace Schemata

/-- Variables with their values; of two entries the first counts. -/
abbrev Environment := List (String × String)

namespace EnvFile

open Text (isAlphanumeric isBlank trimStart trimEnd)

/-! ## Lines -/

/-- Where a logical line stands after some of its characters. -/
inductive LineState where
  | plain
  /-- After a blank, where a hash mark starts a comment. -/
  | afterBlank
  | escaped
  | single
  | singleEscaped
  | double
  | doubleEscaped
  | comment
deriving DecidableEq, Repr

def LineState.plainStep (c : Char) : LineState :=
  match c with
  | '\\' => .escaped
  | '"' => .double
  | '\'' => .single
  | _ => .plain

def LineState.step (state : LineState) (c : Char) : LineState :=
  match state with
  | .plain => if isBlank c ∧ c ≠ '\n' ∧ c ≠ '\r' then .afterBlank else plainStep c
  | .afterBlank => if c = '#' then .comment else plainStep c
  | .escaped => .plain
  | .single => if c = '\\' then .singleEscaped else if c = '\'' then .plain else .single
  | .singleEscaped => .single
  | .double => if c = '\\' then .doubleEscaped else if c = '"' then .plain else .double
  | .doubleEscaped => .double
  | .comment => .comment

/-- The part of a physical line in front of its comment, and the state at its end. -/
def scanLine (state : LineState) : List Char → List Char × LineState
  | [] => ([], state)
  | c :: rest =>
    match state.step c with
    | .comment => ([], .comment)
    | state =>
      let (kept, last) := scanLine state rest
      (c :: kept, last)

/-- The line feed, which ends a physical line. -/
def lineFeed : UInt8 := 10

/-- The physical lines of a file, each with its line feed. -/
def physicalLines : List UInt8 → List (List UInt8)
  | [] => []
  | byte :: rest =>
    if byte = lineFeed then [byte] :: physicalLines rest
    else match physicalLines rest with
      | [] => [[byte]]
      | line :: lines => (byte :: line) :: lines

def withoutLineBreak (line : List Char) : List Char :=
  if line.getLast? = some '\n' then
    let line := line.dropLast
    if line.getLast? = some '\r' then line.dropLast else line
  else line

/-- The logical lines of a file.  A line goes on while a quote is open; `none` stands
for a physical line that is no text, and for a file that ends inside a logical line.
`start` is what a line holds so far. -/
def logicalLines (start : List Char) (state : LineState) :
    List (List UInt8) → List (Option (List Char))
  | [] => if state = .plain then [] else [none]
  | bytes :: rest =>
    match Text.Utf8.decode bytes with
    | .error _ => [none]
    | .ok physical =>
      let line := start ++ physical
      if (trimStart line).head? = some '#' then some [] :: logicalLines [] .plain rest
      else
        match scanLine state physical with
        | (_, .plain) => some (withoutLineBreak line) :: logicalLines [] .plain rest
        | (kept, .comment) => some (start ++ kept) :: logicalLines [] .plain rest
        | (_, state) => logicalLines line state rest

/-! ## Values -/

/-- The variables that a value can refer to: the environment, which goes first, and
those of the file. -/
structure Scope where
  environment : Environment
  /-- Variables that the file itself sets; a later one of the same name counts. -/
  own : Environment := []

/-- What a reference stands for; nothing if there is no such variable. -/
def Scope.value (scope : Scope) (name : List Char) : List Char :=
  let name := String.ofList name
  ((scope.environment.lookup name <|> scope.own.lookup name).getD "").toList

/-- A reference that is being read. -/
inductive Reference where
  | none
  /-- After `$`, with the name so far. -/
  | bare (name : List Char)
  /-- After a dollar sign and an opening brace, with the name so far. -/
  | braced (name : List Char)
deriving DecidableEq, Repr

/-- Where a value stands after some of its characters. -/
structure ValueState where
  single : Bool := false
  double : Bool := false
  escaped : Bool := false
  /-- After a blank, only a comment can follow. -/
  ended : Bool := false
  reference : Reference := .none
deriving DecidableEq, Repr

/-- What an escaped character stands for. -/
def escapedChar? (c : Char) : Option Char :=
  if c ∈ ['\\', '\'', '"', '$', ' '] then some c
  else if c = 'n' then some '\n'
  else none

/-- The value that a text writes, read on from a state. -/
def value (scope : Scope) (state : ValueState) : List Char → Option (List Char)
  | [] =>
    match state.reference with
    | .braced _ => none
    | .bare name => if state.single || state.double then none else some (scope.value name)
    | .none => if state.single || state.double then none else some []
  | c :: rest =>
    if state.ended then
      if c = ' ' ∨ c = '\t' then value scope state rest
      else if c = '#' then some []
      else none
    else if state.escaped then do
      let c ← escapedChar? c
      return c :: (← value scope { state with escaped := false } rest)
    else if state.single then
      if c = '\'' then value scope { state with single := false } rest
      else (value scope state rest).map (c :: ·)
    else
      match state.reference with
      | .bare name =>
        if isAlphanumeric c then value scope { state with reference := .bare (name ++ [c]) } rest
        else if c = '\x7b' ∧ name = [] then
          value scope { state with reference := .braced [] } rest
        else if c = '$' then
          (value scope { state with reference := .bare [] } rest).map
            (scope.value name ++ ·)
        else
          (value scope { state with reference := .none } rest).map
            (scope.value name ++ c :: ·)
      | .braced name =>
        if c = '\x7d' then
          (value scope { state with reference := .none } rest).map
            (scope.value name ++ ·)
        else value scope { state with reference := .braced (name ++ [c]) } rest
      | .none =>
        if c = '$' then value scope { state with reference := .bare [] } rest
        else if c = '\\' then value scope { state with escaped := true } rest
        else if c = '"' then value scope { state with double := !state.double } rest
        else if state.double then (value scope state rest).map (c :: ·)
        else if c = '\'' then value scope { state with single := true } rest
        else if c = ' ' ∨ c = '\t' then value scope { state with ended := true } rest
        else (value scope state rest).map (c :: ·)

/-! ## Assignments -/

def isKeyStart (c : Char) : Bool :=
  c.isAlpha || c = '_'

def isKeyChar (c : Char) : Bool :=
  c.isAlphanum || c = '_' || c = '.'

/-- The key at the front of a text, and what follows it and its blanks. -/
def key? (text : List Char) : Option (List Char × List Char) :=
  if text.head?.any isKeyStart then
    some (text.takeWhile isKeyChar, trimStart (text.dropWhile isKeyChar))
  else none

/-- What follows an equals sign and its blanks. -/
def afterEquals? : List Char → Option (List Char)
  | '=' :: rest => some (trimStart rest)
  | _ => none

/-- The key of an assignment and the text of its value.  The word `export` may stand
before the key, or be one. -/
def assignment? (text : List Char) : Option (List Char × List Char) := do
  let (key, rest) ← key? text
  match afterEquals? rest with
  | some value => some (key, value)
  | none =>
    if key = "export".toList then
      let (key, rest) ← key? rest
      return (key, ← afterEquals? rest)
    else none

/-- What a logical line is. -/
inductive Line where
  | empty
  | malformed
  | assigns (key value : String)
deriving DecidableEq, Repr

def readLine (scope : Scope) (line : List Char) : Line :=
  let text := trimStart (trimEnd line)
  if text = [] ∨ text.head? = some '#' then .empty
  else
    match assignment? text with
    | none => .malformed
    | some (key, text) =>
      let value? :=
        if text = [] ∨ text.head? = some '#' then some [] else value scope {} text
      match value? with
      | some value => .assigns (String.ofList key) (String.ofList value)
      | none => .malformed

/-- Takes up lines until one is malformed. -/
def takeLines (scope : Scope) : List (Option (List Char)) → Environment
  | [] => scope.environment
  | none :: _ => scope.environment
  | some line :: rest =>
    match readLine scope line with
    | .malformed => scope.environment
    | .empty => takeLines scope rest
    | .assigns key value =>
      let environment :=
        if (scope.environment.lookup key).isSome then scope.environment
        else (key, value) :: scope.environment
      takeLines { environment, own := (key, value) :: scope.own } rest

/-- The environment after a file with the given bytes; a byte order mark at its start
does not count. -/
def apply (environment : Environment) (bytes : List UInt8) : Environment :=
  let bytes := if [0xEF, 0xBB, 0xBF].isPrefixOf bytes then bytes.drop 3 else bytes
  takeLines { environment } (logicalLines [] .plain (physicalLines bytes))

end EnvFile

end Schemata
