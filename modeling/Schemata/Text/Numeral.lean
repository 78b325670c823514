/-!
# Numerals

Decimal numbers of a bounded range: ASCII digits after an optional sign, leading
zeros allowed, nothing else.
-/

namespace Schemata.Text.Numeral

/-- The largest number of 16 bits. -/
def max16 : Nat := 0xFFFF

/-- The largest number of 32 bits. -/
def max32 : Nat := 0xFFFFFFFF

/-- The largest number of 64 bits. -/
def max64 : Nat := 0xFFFFFFFFFFFFFFFF

/-- The largest signed number of 64 bits. -/
def maxSigned64 : Nat := 0x7FFFFFFFFFFFFFFF

/-- The number that a list of decimal digits writes; at least one digit. -/
def digits? (text : List Char) : Option Nat :=
  if text ≠ [] ∧ text.all Char.isDigit then
    some (text.foldl (fun value c => 10 * value + (c.toNat - '0'.toNat)) 0)
  else none

/-- A number from 0 to `bound`; a plus sign may stand before it. -/
def unsigned? (bound : Nat) (text : List Char) : Option Nat :=
  let magnitude? := match text with
    | '+' :: rest => digits? rest
    | _ => digits? text
  magnitude?.filter (· ≤ bound)

/-- A number from `-bound - 1` to `bound`; a sign may stand before it. -/
def signed? (bound : Nat) (text : List Char) : Option Int :=
  match text with
  | '-' :: rest => ((digits? rest).filter (· ≤ bound + 1)).map fun n => -(n : Int)
  | _ => (unsigned? bound text).map Int.ofNat

end Schemata.Text.Numeral
