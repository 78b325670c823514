import Schemata.Text.Blank
import Schemata.Text.Numeral
import Schemata.Text.Percent

/-!
# Tokens of Styx documents

A Styx document is made of scalars, which are bare, quoted, raw or here-documents,
of tags, of the unit `@`, and of a few marks.  Blanks separate tokens and vanish;
whether one stood before a token is kept, because a bare scalar and a tag bind to what
touches them.
-/

namespace Schemata.Styx

/-- Why a text is no Styx document. -/
inductive Defect where
  | strayCarriageReturn
  | unterminatedText
  | badEscape
  | badHeredoc
  | badScalar
  | badTag
  | unexpectedToken
  | unclosed
  /-- A doc comment that documents nothing. -/
  | danglingDoc
  | emptyPathSegment
  | repeatedKey
  /-- A path that goes on below a plain value or comes back to what it left. -/
  | closedPath
deriving DecidableEq, Repr

inductive Token where
  | lineBreak
  | comma
  | openBrace
  | closeBrace
  | openParen
  | closeParen
  /-- The mark `>` between an attribute and its value. -/
  | arrow
  | bare (text : List Char)
  /-- A quoted scalar, by what is written between its quotes. -/
  | quoted (body : List Char)
  | raw (text : List Char)
  | heredoc (text : List Char)
  /-- The sign `@` alone. -/
  | unit
  /-- A tag, and the names of the tags that slashes join to it. -/
  | tag (name : List Char) (joined : List (List Char))
  | doc
deriving DecidableEq, Repr

/-- A token, and whether it touches the one before it. -/
structure Lexeme where
  token : Token
  touches : Bool
deriving DecidableEq, Repr

/-- The characters that a bare scalar consists of. -/
def isBare (c : Char) : Bool :=
  !Text.isBlank c && c ∉ ['\x7b', '\x7d', '(', ')', ',', '"', '>']

/-! ## Quoted scalars -/

/-- Cuts a text at the first quote that no backslash precedes. -/
def cutQuoted : List Char → Option (List Char × List Char)
  | [] => none
  | '"' :: rest => some ([], rest)
  | '\\' :: c :: rest => (cutQuoted rest).map fun (body, tail) => ('\\' :: c :: body, tail)
  | c :: rest => (cutQuoted rest).map fun (body, tail) => (c :: body, tail)

/-- The character of a code point, unless it is a surrogate or too large. -/
def scalar? (code : Nat) : Option Char :=
  if code < 0xD800 ∨ (0xDFFF < code ∧ code < 0x110000) then some (Char.ofNat code) else none

/-- The number that hexadecimal digits write. -/
def hexNumber? (digits : List Char) : Option Nat :=
  (digits.mapM Text.Percent.hexDigit?).map fun values =>
    values.foldl (fun number digit => 16 * number + digit) 0

def isHexDigit (c : Char) : Bool :=
  (Text.Percent.hexDigit? c).isSome

/-- What a part of a quoted scalar stands for. -/
inductive Piece where
  | char (c : Char)
  /-- An escape that gives no number: braces that are empty or hold more than 32 bits, or
  a group of just three digits. -/
  | void
  /-- An escape whose number is no character. -/
  | badScalar
deriving DecidableEq, Repr

def Piece.char? : Piece → Option Char
  | .char c => some c
  | _ => none

/-- The character with the number that hexadecimal digits write. -/
def Piece.ofCode (code : Nat) : Piece :=
  if Text.Numeral.max32 < code then .void
  else match scalar? code with
    | some c => .char c
    | none => .badScalar

/-- What an escape after its backslash stands for, and what follows it.  A code point is
written with any number of digits in braces, or with four digits. -/
def escape? : List Char → Option (Piece × List Char)
  | '\\' :: rest => some (.char '\\', rest)
  | '"' :: rest => some (.char '"', rest)
  | 'n' :: rest => some (.char '\n', rest)
  | 'r' :: rest => some (.char '\r', rest)
  | 't' :: rest => some (.char '\t', rest)
  | 'u' :: '\x7b' :: rest =>
    match rest.dropWhile (· ≠ '\x7d') with
    | [] => none
    | _ :: tail =>
      match rest.takeWhile (· ≠ '\x7d') with
      | [] => some (.void, tail)
      | digits => (hexNumber? digits).map fun code => (.ofCode code, tail)
  | 'u' :: rest =>
    let digits := (rest.take 4).takeWhile isHexDigit
    match digits.length with
    | 3 => some (.void, rest.drop 3)
    | 4 => (hexNumber? digits).map fun code => (.ofCode code, rest.drop 4)
    | _ => none
  | _ => none

/-- Cuts a text into what its parts stand for; none if an escape is malformed.  Each part
takes characters off the text, so a text of `fuel` characters is cut to its end. -/
def piecesWithin : Nat → List Char → Option (List Piece)
  | 0, _ => some []
  | _, [] => some []
  | fuel + 1, '\\' :: rest => do
    let (piece, tail) ← escape? rest
    return piece :: (← piecesWithin fuel tail)
  | fuel + 1, c :: rest => (piecesWithin fuel rest).map (.char c :: ·)

/-- What the parts of a text between quotes stand for. -/
def pieces? (body : List Char) : Option (List Piece) :=
  piecesWithin body.length body

/-- Whether a text may stand between quotes.  Only the first escape that stands for no
character counts: if it gives no number, what follows it need only be well-formed. -/
def isQuotable (body : List Char) : Bool :=
  match pieces? body with
  | some pieces => pieces.find? (·.char?.isNone) ≠ some .badScalar
  | none => false

/-- The text that a quoted scalar stands for. -/
def meaning (body : List Char) : List Char :=
  ((pieces? body).getD []).filterMap Piece.char?

/-- The text of a quoted scalar all of whose escapes stand for characters. -/
def plainText? (body : List Char) : Option (List Char) :=
  (pieces? body).bind fun pieces => pieces.mapM Piece.char?

/-- The text by which a quoted key is told apart from others.  A key with an escape that
stands for no character is told apart by how it is written. -/
def identity (body : List Char) : List Char :=
  (plainText? body).getD body

/-- Reads on after an opening quote. -/
def quotedScalar (text : List Char) : Except Defect (Token × List Char) :=
  match cutQuoted text with
  | none => .error .unterminatedText
  | some (body, tail) => if isQuotable body then .ok (.quoted body, tail) else .error .badEscape

/-! ## Raw scalars and here-documents -/

/-- Cuts a text at the first quote that is followed by the given number of hash marks. -/
def cutRaw (hashes : Nat) : List Char → Option (List Char × List Char)
  | [] => none
  | c :: rest =>
    if c = '"' ∧ rest.take hashes = List.replicate hashes '#' then some ([], rest.drop hashes)
    else (cutRaw hashes rest).map fun (body, tail) => (c :: body, tail)

/-- The greatest number of hash marks that close a raw scalar. -/
def maxHashes : Nat := 255

/-- Reads on after the `r` of a raw scalar: hash marks, a quote, and the text up to a quote
with as many hash marks.  Each hash mark over the greatest number that closes takes a
character off the end of the text. -/
def rawScalar (text : List Char) : Except Defect (Token × List Char) :=
  let hashes := (text.takeWhile (· = '#')).length
  match text.dropWhile (· = '#') with
  | '"' :: rest =>
    match cutRaw (min hashes maxHashes) rest with
    | some (body, tail) => .ok (.raw (body.take (body.length - (hashes - maxHashes))), tail)
    | none => .error .unterminatedText
  | _ => .error .badScalar

def isIndent (c : Char) : Bool :=
  c = ' ' || c = '\t'

/-- Drops up to `count` blanks at the front. -/
def outdent : Nat → List Char → List Char
  | 0, line => line
  | _, [] => []
  | count + 1, c :: rest => if isIndent c then outdent count rest else c :: rest

/-- Whether a line holds the delimiter alone.  Half of the line break may follow it. -/
def isClosing (delimiter line : List Char) : Bool :=
  let text := line.dropWhile isIndent
  text = delimiter || text = delimiter ++ ['\r']

/-- Cuts lines at the one that holds the delimiter alone.  Answers the lines before
it, the line itself, and the lines after it. -/
def cutHeredoc (delimiter : List Char) :
    List (List Char) → Option (List (List Char) × List Char × List (List Char))
  | [] => none
  | line :: rest =>
    if isClosing delimiter line then some ([], line, rest)
    else
      (cutHeredoc delimiter rest).map fun (body, closing, tail) => (line :: body, closing, tail)

def isDelimiter (c : Char) : Bool :=
  c.isUpper || c.isDigit || c = '_'

/-- The greatest length of a delimiter. -/
def maxDelimiterLength : Nat := 16

def isHint (c : Char) : Bool :=
  c.isLower || c.isDigit || c ∈ ['.', '_', '-']

/-- Drops the hint that may follow a delimiter after a comma, and names a language. -/
def withoutHint : List Char → List Char
  | ',' :: rest => if rest.head?.any Char.isLower then rest.dropWhile isHint else rest
  | text => text

/-- Drops one line break, either part of which may be missing. -/
def withoutLineBreak (text : List Char) : List Char :=
  let text := if text.head? = some '\r' then text.tail else text
  if text.head? = some '\n' then text.tail else text

/-- Reads on after `<<`: a delimiter that starts with an upper-case letter, perhaps a
hint, and the lines up to the delimiter, which say how far they are indented.  What
stands on the opening line after all this belongs to the first line. -/
def heredocScalar (text : List Char) : Except Defect (Token × List Char) :=
  let delimiter := text.takeWhile isDelimiter
  if delimiter.head?.any Char.isUpper ∧ delimiter.length ≤ maxDelimiterLength then
    let content := withoutLineBreak (withoutHint (text.dropWhile isDelimiter))
    match cutHeredoc delimiter (content.splitOn '\n') with
    | some (body, closing, rest) =>
      let indent := (closing.takeWhile isIndent).length
      .ok (.heredoc (body.flatMap fun line => outdent indent line ++ ['\n']),
        closing.dropWhile (· ≠ '\r') ++ rest.flatMap fun line => '\n' :: line)
    | none => .error .badHeredoc
  else .error .badHeredoc

/-! ## Tags -/

def isTagStart (c : Char) : Bool :=
  c.isAlpha || c = '_'

def isTagName (c : Char) : Bool :=
  c.isAlphanum || c = '_' || c = '-'

/-- Whether a raw scalar opens after the letter `r`. -/
def opensRaw (rest : List Char) : Bool :=
  rest.head? = some '"' || rest.head? = some '#'

/-- The name of a tag, the names of the tags that slashes join to it, and what follows
them.  The first letter of the name is already taken.  A name stops before a raw scalar. -/
def cutTagNames : List Char → List Char × List (List Char) × List Char
  | [] => ([], [], [])
  | '/' :: '@' :: c :: rest =>
    if isTagStart c then
      let (name, joined, tail) := cutTagNames rest
      ([], (c :: name) :: joined, tail)
    else ([], [], '/' :: '@' :: c :: rest)
  | c :: rest =>
    if isTagName c ∧ ¬ (c = 'r' ∧ opensRaw rest) then
      let (name, joined, tail) := cutTagNames rest
      (c :: name, joined, tail)
    else ([], [], c :: rest)

/-- Whether a tag or a unit may end before a text: no bare scalar touches it. -/
def endsTag : List Char → Bool
  | '@' :: _ | '/' :: '/' :: _ | '<' :: '<' :: _ => true
  | 'r' :: rest => opensRaw rest
  | c :: _ => !isBare c
  | [] => true

/-- Reads on after `@`: the name of a tag, or nothing. -/
def tagOrUnit (text : List Char) : Except Defect (Token × List Char) :=
  let (token, rest) := match text with
    | c :: rest =>
      if isTagStart c then
        let (name, joined, tail) := cutTagNames rest
        (Token.tag (c :: name) joined, tail)
      else (.unit, text)
    | [] => (.unit, [])
  if endsTag rest then .ok (token, rest) else .error .badTag

/-! ## The token at the front of a text -/

/-- Drops the rest of a line, where a comment ends. -/
def afterComment (text : List Char) : List Char :=
  text.dropWhile fun c => c ≠ '\n' && c ≠ '\r'

/-- The token that a character starts, and what follows the token.  Blanks and
comments, which are no tokens, are not at the front. -/
def nextToken (c : Char) (rest : List Char) : Except Defect (Token × List Char) :=
  let bare : Except Defect (Token × List Char) :=
    .ok (.bare (c :: rest.takeWhile isBare), rest.dropWhile isBare)
  match c, rest with
  | '\n', _ => .ok (.lineBreak, rest)
  | '\r', '\n' :: rest => .ok (.lineBreak, rest)
  | '\r', _ => .error .strayCarriageReturn
  | ',', _ => .ok (.comma, rest)
  | '\x7b', _ => .ok (.openBrace, rest)
  | '\x7d', _ => .ok (.closeBrace, rest)
  | '(', _ => .ok (.openParen, rest)
  | ')', _ => .ok (.closeParen, rest)
  | '>', _ => .ok (.arrow, rest)
  | '"', _ => quotedScalar rest
  | '=', _ => .error .badScalar
  | '@', _ => tagOrUnit rest
  | '<', '<' :: rest => heredocScalar rest
  | '/', '/' :: '/' :: rest => .ok (.doc, afterComment rest)
  | 'r', _ => if opensRaw rest then rawScalar rest else bare
  | _, _ => if isBare c then bare else .error .badScalar

/-- The tokens of a text.  Each one, and each blank or comment, takes characters off
the text, so a text of `fuel` characters is read to its end. -/
def lexemes : Nat → Bool → List Char → Except Defect (List Lexeme)
  | 0, _, _ => .ok []
  | _, _, [] => .ok []
  | fuel + 1, touches, c :: rest =>
    if isIndent c then lexemes fuel false rest
    else if c = '/' ∧ rest.head? = some '/' ∧ rest.tail.head? ≠ some '/' then
      lexemes fuel false (afterComment rest)
    else do
      let (token, tail) ← nextToken c rest
      return { token, touches } :: (← lexemes fuel true tail)

end Schemata.Styx
