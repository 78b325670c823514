import Schemata.Text.Invisible

/-!
# Quoted texts

A text between double quotes, as a message shows it: the quote, the backslash and
characters that cannot be seen are escaped.
-/

namespace Schemata.Text.Quoted

/-- How a quoted text shows a character. -/
def escape (c : Char) : List Char :=
  match c with
  | '"' => ['\\', '"']
  | '\\' => ['\\', '\\']
  | '\n' => ['\\', 'n']
  | '\r' => ['\\', 'r']
  | '\t' => ['\\', 't']
  | '\x00' => ['\\', '0']
  | c =>
    if isInvisible c then ['\\', 'u', '\x7b'] ++ Nat.toDigits 16 c.toNat ++ ['\x7d'] else [c]

/-- A text between double quotes. -/
def quote (text : String) : String :=
  String.ofList ('"' :: (text.toList.flatMap escape ++ ['"']))

end Schemata.Text.Quoted
