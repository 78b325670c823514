import Schemata.ConnInfo
import Schemata.Text.Blank

/-!
# Key and value connection strings

The form `host=db user='a b'`: parameters between blanks, with blanks allowed around
the equals sign.  A backslash takes the next character literally; a value in single
quotes may hold blanks and may be empty.
-/

namespace Schemata.ConnInfo.KeyValue

open Text (isBlank trimStart)

/-- A value without quotes goes up to a blank.  Answers the value and what follows. -/
def bareValue : List Char → List Char × List Char
  | [] => ([], [])
  | ['\\'] => ([], [])
  | '\\' :: c :: rest =>
    let (value, tail) := bareValue rest
    (c :: value, tail)
  | c :: rest =>
    if isBlank c then ([], c :: rest)
    else
      let (value, tail) := bareValue rest
      (c :: value, tail)

/-- Reads on after an opening quote.  Answers the value and what follows the closing
quote, if there is one. -/
def quotedValue : List Char → Option (List Char × List Char)
  | [] => none
  | '\'' :: rest => some ([], rest)
  | '\\' :: c :: rest => (quotedValue rest).map fun (value, tail) => (c :: value, tail)
  | c :: rest => (quotedValue rest).map fun (value, tail) => (c :: value, tail)

/-- A value of either form. -/
def value : List Char → Except Defect (List Char × List Char)
  | '\'' :: rest =>
    match quotedValue rest with
    | some result => .ok result
    | none => .error .unterminatedQuote
  | text =>
    let result := bareValue text
    if result.1 = [] then .error .unexpectedEnd else .ok result

/-- One parameter: its key, its value and what follows. -/
structure Parameter where
  key : List Char
  value : List Char
  rest : List Char

/-- Reads the parameter at the front of a text; `none` if there is no key, which ends
the string.  `size` is the length in bytes of the whole string, for the position of
a defect. -/
def parameter (size : Nat) (text : List Char) : Except Defect (Option Parameter) :=
  let text := trimStart text
  let isKey := fun c => !isBlank c && c ≠ '='
  let key := text.takeWhile isKey
  if key = [] then .ok none
  else
    match trimStart (text.dropWhile isKey) with
    | [] => .error .unexpectedEnd
    | '=' :: rest => (value (trimStart rest)).map fun (value, rest) => some { key, value, rest }
    | c :: rest => .error (.expectedEquals (size - (Text.Utf8.encode (c :: rest)).length) c)

/-- Reads parameter after parameter into `info`.  Every parameter takes characters
off the text, so a text of `fuel` characters is read to its end. -/
def assignAll (size : Nat) : Nat → List Char → ConnInfo → Except Defect ConnInfo
  | 0, _, info => .ok info
  | fuel + 1, text, info =>
    match parameter size text with
    | .error defect => .error defect
    | .ok none => .ok info
    | .ok (some parameter) =>
      (info.assign (String.ofList parameter.key) parameter.value).bind
        (assignAll size fuel parameter.rest)

/-- Reads a connection string of keys and values. -/
def parse (text : List Char) : Except Defect ConnInfo :=
  assignAll (Text.Utf8.encode text).length text.length text {}

end Schemata.ConnInfo.KeyValue
