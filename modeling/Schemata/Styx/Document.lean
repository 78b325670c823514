import Schemata.Styx.Token

/-!
# Styx documents

A document is a list of entries, each a key with at most one value.  Entries end at
line breaks and commas.  The keys of an object in braces are all different.  At the top
of a document a bare key with dots is a path into nested objects, and on the lines of a
document entries that follow each other under one name give no path twice.
-/

namespace Schemata.Styx

/-- What tells keys apart. -/
inductive Label where
  | unit
  /-- The names from the top to the entry. -/
  | path (names : List String)
  | tag (name : String)
  /-- A tag on a unit. -/
  | taggedUnit (name : String)
  /-- A tag on a text. -/
  | taggedText (name text : String)
deriving DecidableEq, Repr

namespace Label

def tag? : Label → Option String
  | .unit => none
  | .path _ => none
  | .tag name => some name
  | .taggedUnit name => some name
  | .taggedText name _ => some name

/-- The names that lead to an entry on the lines of a document; a unit and a tag, whatever
it is on, are names of their own. -/
def segments (label : Label) : List String :=
  match label with
  | .path names => names
  | _ => ["@" ++ label.tag?.getD ""]

/-- Whether an entry stands more than one name below the top. -/
def isDeep : Label → Bool
  | .path names => 1 < names.length
  | _ => false

end Label

/-- What an entry is filed under. -/
structure Key where
  label : Label
  /-- The names from the top to the entry, as a reader of the document finds it.  A tag on
  a text does not count, and a unit or a tag alone has no name. -/
  path : List String
deriving DecidableEq, Repr

namespace Key

/-- The key that a path of names is, as it is read. -/
def ofNames (names : List String) : Key :=
  { label := .path names, path := names }

def unit : Key := { label := .unit, path := [] }

end Key

inductive Value where
  /-- A key without a value. -/
  | absent
  | unit
  | text (value : String)
  | object (entries : List (Key × Value))
  | sequence (items : List Value)
  | tagged (name : String) (payload : Value)

/-- A key, and its value. -/
abbrev Entry := Key × Value

def Value.isObject : Value → Bool
  | .object _ => true
  | _ => false

/-- Where entries stand. -/
inductive Level where
  /-- On the lines of a document. -/
  | lines
  /-- In the braces around all of a document. -/
  | outer
  /-- In the braces of a value. -/
  | inner
deriving DecidableEq, Repr

/-! ## Paths on the lines of a document -/

/-- A name on the path before, and the names met below it. -/
structure Frame where
  name : String
  children : List String := []
deriving DecidableEq, Repr

/-- The frames of a path that is met for the first time. -/
def Frame.ofPath : List String → List Frame
  | [] => []
  | [name] => [{ name }]
  | name :: child :: rest => { name, children := [child] } :: ofPath (child :: rest)

/-- Takes up the path of the next entry, after the frames of the path before, which hold
until a path starts with another name.  A path does not follow itself, nothing goes
below a plain value, and a name that was left under a frame is not met there again. -/
def Frame.enter (wasObject : Bool) : List Frame → List String → Except Defect (List Frame)
  | [], path => .ok (ofPath path)
  | frames, [] => .ok frames
  | frame :: frames, name :: rest =>
    if frame.name ≠ name then .ok (ofPath (name :: rest))
    else match rest with
      | [] => if frames = [] then .error .repeatedKey else .ok [frame]
      | child :: _ =>
        if frames.head?.any (·.name = child) then
          (enter wasObject frames rest).map (frame :: ·)
        else if (frames = [] ∧ !wasObject) ∨ child ∈ frame.children then .error .closedPath
        else .ok ({ frame with children := child :: frame.children } :: ofPath rest)

/-- Checks the paths on the lines of a document.  The value before was an object if
`wasObject` is true. -/
def checkPathsAfter (frames : List Frame) (wasObject : Bool) :
    List Entry → Except Defect Unit
  | [] => .ok ()
  | (key, value) :: rest => do
    checkPathsAfter (← Frame.enter wasObject frames key.label.segments) value.isObject rest

/-- Checks the paths on the lines of a document. -/
def checkPaths (entries : List Entry) : Except Defect Unit :=
  checkPathsAfter [] true entries

/-- Checks the keys of an object in braces. -/
def checkKeys (entries : List Entry) : Except Defect Unit :=
  if (entries.map (·.1.label)).Nodup then .ok () else .error .repeatedKey

/-! ## Keys -/

/-- Whether the next token touches the one before it and is one of those given. -/
def touchedBy (lexemes : List Lexeme) (tokens : List Token) : Bool :=
  lexemes.head?.any fun lexeme => lexeme.touches && tokens.contains lexeme.token

/-- Whether a tag before these tokens has a payload.  A here-document is the payload of
joined tags only. -/
def startsPayload (isJoined : Bool) (lexemes : List Lexeme) : Bool :=
  lexemes.head?.any fun lexeme => lexeme.touches &&
    match lexeme.token with
    | .openBrace | .openParen | .quoted _ | .raw _ | .unit | .tag .. => true
    | .heredoc _ => isJoined
    | _ => false

/-- The names that a bare key gives.  Inside values, dots do not divide it. -/
def Level.names? (level : Level) (text : List Char) : Option (List String) :=
  let names := if level = .inner then [text] else text.splitOn '.'
  if [] ∈ names then none else some (names.map String.ofList)

/-- A tag on a text as a key.  The text of a quoted one is taken as written between quotes
once more. -/
def Key.ofTagged? (name : String) : Token → Option Key
  | .quoted body =>
    match plainText? body with
    | some text =>
      if isQuotable text then
        some {
          label := .taggedText name (String.ofList text)
          path := [String.ofList (meaning text)] }
      else none
    | none => none
  | .raw text =>
    some { label := .taggedText name (String.ofList text), path := [String.ofList text] }
  | .unit => some { label := .taggedUnit name, path := [] }
  | _ => none

/-- Reads on after the first token of a key. -/
def key (level : Level) (token : Token) (rest : List Lexeme) :
    Except Defect (Key × List Lexeme) :=
  match token with
  | .bare text =>
    if touchedBy rest [.openBrace, .openParen, .arrow] then .error .unexpectedToken
    else match level.names? text with
      | some names => .ok (.ofNames names, rest)
      | none => .error .emptyPathSegment
  | .quoted body =>
    .ok ({ label := .path [String.ofList (identity body)]
           path := [String.ofList (meaning body)] }, rest)
  | .raw text => .ok (.ofNames [String.ofList text], rest)
  | .heredoc text =>
    if level = .inner then .ok (.ofNames [String.ofList text], rest)
    else .error .unexpectedToken
  | .unit => .ok (.unit, rest)
  | .tag name [] =>
    let name := String.ofList name
    if startsPayload false rest then
      match rest with
      | payload :: rest =>
        match Key.ofTagged? name payload.token with
        | some key => .ok (key, rest)
        | none => .error .unexpectedToken
      | [] => .error .unexpectedToken
    else .ok ({ label := .tag name, path := [] }, rest)
  | _ => .error .unexpectedToken

/-- Whether an entry ends where these tokens follow. -/
def endsEntry : List Lexeme → Bool
  | [] => true
  | lexeme :: _ => [.lineBreak, .comma, .closeBrace, .doc].contains lexeme.token

/-! ## Entries and values

All readers take the tokens and answer what they read and what follows.  Between two
calls of them at least one token is taken, so `fuel` tokens are read to their end. -/

mutual

/-- Reads entries up to the closing brace of an object, or up to the end of the
document.  A doc comment is waiting for its entry if `awaited` is true. -/
def entries (fuel : Nat) (level : Level) (awaited : Bool) (lexemes : List Lexeme) :
    Except Defect (List Entry × List Lexeme) :=
  match fuel, lexemes with
  | 0, _ => .error .unclosed
  | _, [] =>
    if level ≠ .lines then .error .unclosed
    else if awaited then .error .danglingDoc
    else .ok ([], [])
  | fuel + 1, lexeme :: rest =>
    match lexeme.token with
    | .lineBreak | .comma => entries fuel level awaited rest
    | .doc => entries fuel level true rest
    | .closeBrace =>
      if level = .lines then .error .unexpectedToken
      else if awaited then .error .danglingDoc
      else .ok ([], rest)
    | token => do
      let (key, rest) ← key level token rest
      let (value, rest) ← if endsEntry rest then .ok (.absent, rest) else value fuel rest
      if !endsEntry rest then .error .unexpectedToken
      let rest := match rest with
        | { token := .doc, .. } :: rest => rest
        | _ => rest
      let (more, rest) ← entries fuel level false rest
      return ((key, value) :: more, rest)

/-- Reads a value.  Attributes that follow each other make one object. -/
def value (fuel : Nat) (lexemes : List Lexeme) : Except Defect (Value × List Lexeme) :=
  match fuel, lexemes with
  | 0, _ => .error .unclosed
  | _, [] => .error .unexpectedToken
  | fuel + 1, lexeme :: rest =>
    match lexeme.token with
    | .bare text =>
      if touchedBy rest [.arrow] then
        (attributes fuel (lexeme :: rest)).map fun (entries, rest) => (.object entries, rest)
      else .ok (.text (String.ofList text), rest)
    | .quoted body => .ok (.text (String.ofList (meaning body)), rest)
    | .raw text | .heredoc text => .ok (.text (String.ofList text), rest)
    | .openBrace => do
      let (entries, rest) ← entries fuel .inner false rest
      checkKeys entries
      return (.object entries, rest)
    | .openParen => (items fuel rest).map fun (items, rest) => (.sequence items, rest)
    | .unit => .ok (.unit, rest)
    | .tag name joined =>
      let wrap (payload : Value) :=
        (name :: joined).foldr (fun name payload => .tagged (String.ofList name) payload) payload
      if startsPayload (joined ≠ []) rest then
        (value fuel rest).map fun (payload, rest) => (wrap payload, rest)
      else .ok (wrap .absent, rest)
    | _ => .error .unexpectedToken

/-- Reads the items of a sequence up to its closing parenthesis. -/
def items (fuel : Nat) (lexemes : List Lexeme) :
    Except Defect (List Value × List Lexeme) :=
  match fuel, lexemes with
  | 0, _ => .error .unclosed
  | _, [] => .error .unclosed
  | fuel + 1, lexeme :: rest =>
    match lexeme.token with
    | .lineBreak | .doc => items fuel rest
    | .closeParen => .ok ([], rest)
    | _ => do
      let (item, rest) ← value fuel (lexeme :: rest)
      let (more, rest) ← items fuel rest
      return (item :: more, rest)

/-- Reads attributes: a bare name, the arrow that touches it, and the value that
touches the arrow. -/
def attributes (fuel : Nat) (lexemes : List Lexeme) :
    Except Defect (List Entry × List Lexeme) :=
  match fuel, lexemes with
  | 0, _ => .error .unclosed
  | fuel + 1, { token := .bare name, .. } :: { token := .arrow, touches := true } :: rest =>
    if rest.head?.any (·.touches) then do
      let (value, rest) ← value fuel rest
      let (more, rest) ← attributes fuel rest
      return ((.ofNames [String.ofList name], value) :: more, rest)
    else .error .unexpectedToken
  | _, _ => .ok ([], lexemes)

end

/-- The name of the tag whose entries describe a document and are not part of it. -/
def schemaTag : String := "schema"

/-- The entries of a document: its lines, or one object around all of them, in which
paths may repeat. -/
def ofLexemes (lexemes : List Lexeme) : Except Defect (List Entry) := do
  let fuel := 2 * lexemes.length + 2
  let entries ← match lexemes.dropWhile fun lexeme =>
      [.lineBreak, .comma].contains lexeme.token with
    | { token := .openBrace, .. } :: rest => do
      let (entries, rest) ← entries fuel .outer false rest
      if !rest.all (·.token = .lineBreak) then .error .unexpectedToken
      checkKeys (entries.filter fun (key, _) => !key.label.isDeep)
      pure entries
    | lexemes => do
      let (entries, _) ← entries fuel .lines false lexemes
      checkPaths entries
      pure entries
  return entries.filter fun (key, _) => key.label.tag? ≠ some schemaTag

/-- Reads a document. -/
def parse (text : List Char) : Except Defect (List Entry) := do
  ofLexemes (← lexemes text.length false text)

end Schemata.Styx
