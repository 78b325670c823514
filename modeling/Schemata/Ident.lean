/-!
# Quoted identifiers

Between double quotes PostgreSQL takes a name literally; a double quote inside
the name is written twice.  Quoting every name keeps its case, and lets keywords,
blanks and punctuation be names.  Writing (`quote`) stands beside two readers:
`scan` finds where a quoted identifier ends inside a longer text, and `unquote?`
accepts a text that is one quoted identifier and nothing else.
-/

namespace Schemata.Ident

/-- The inside of a quoted identifier: each double quote is doubled. -/
def escape : List Char → List Char
  | [] => []
  | c :: rest => if c = '"' then '"' :: '"' :: escape rest else c :: escape rest

/-- A name as a quoted identifier, over characters. -/
def quoteChars (name : List Char) : List Char :=
  '"' :: (escape name ++ ['"'])

/-- A name as a quoted identifier. -/
def quote (name : String) : String :=
  String.ofList (quoteChars name.toList)

/-- Reads on after the opening quote: a doubled quote stands for one, the first
quote that is not doubled closes.  Answers the name and what follows. -/
def scanBody : List Char → Option (List Char × List Char)
  | [] => none
  | '"' :: '"' :: rest => (scanBody rest).map fun (name, tail) => ('"' :: name, tail)
  | '"' :: rest => some ([], rest)
  | c :: rest => (scanBody rest).map fun (name, tail) => (c :: name, tail)

/-- Reads one quoted identifier from the front of a text. -/
def scan : List Char → Option (List Char × List Char)
  | '"' :: rest => scanBody rest
  | _ => none

/-- Undoes `escape`; a quote that stands alone is refused. -/
def unescape? : List Char → Option (List Char)
  | [] => some []
  | '"' :: '"' :: rest => (unescape? rest).map ('"' :: ·)
  | c :: rest => if c = '"' then none else (unescape? rest).map (c :: ·)

/-- The name that a quoted identifier stands for, if the whole text is one. -/
def unquote? (text : String) : Option String :=
  match text.toList with
  | '"' :: rest =>
    if rest.getLast? = some '"' then (unescape? rest.dropLast).map String.ofList else none
  | _ => none

end Schemata.Ident
