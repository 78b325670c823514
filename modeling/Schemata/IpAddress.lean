import Schemata.Text.Numeral
import Schemata.Text.Percent

/-!
# IP addresses

Addresses of both versions in their usual text: four decimal octets, or eight
hexadecimal groups, the last two of which may be written as octets, and one run of
zero groups left out.  `IpAddress.toText` writes the canonical form.
-/

namespace Schemata

inductive IpAddress where
  | v4 (octets : List UInt8)
  | v6 (groups : List UInt16)
deriving DecidableEq, Repr

namespace IpAddress

/-- A decimal octet of one to three digits, without a leading zero. -/
def octet? (text : List Char) : Option UInt8 :=
  if text.length ≤ 3 ∧ (text.length ≤ 1 ∨ text.head? ≠ some '0') then
    ((Text.Numeral.digits? text).filter (· ≤ 255)).map UInt8.ofNat
  else none

/-- Four octets with dots between them. -/
def octets? (text : List Char) : Option (List UInt8) :=
  let parts := text.splitOn '.'
  if parts.length = 4 then parts.mapM octet? else none

/-- A hexadecimal group of one to four digits. -/
def group? (text : List Char) : Option UInt16 :=
  if text ≠ [] ∧ text.length ≤ 4 then
    (text.mapM Text.Percent.hexDigit?).map fun digits =>
      UInt16.ofNat (digits.foldl (fun value digit => 16 * value + digit) 0)
  else none

/-- The groups of colon-separated parts; the last part may be four octets, which
make two groups. -/
def groups? : List (List Char) → Option (List UInt16)
  | [] => some []
  | [last] =>
    match octets? last with
    | some [a, b, c, d] =>
      some [a.toUInt16 * 256 + b.toUInt16, c.toUInt16 * 256 + d.toUInt16]
    | _ => (group? last).map ([·])
  | part :: rest => do
    let group ← group? part
    let groups ← groups? rest
    return group :: groups

/-- The text on either side of the first double colon. -/
def splitElision : List Char → Option (List Char × List Char)
  | ':' :: ':' :: rest => some ([], rest)
  | c :: rest => (splitElision rest).map fun (front, back) => (c :: front, back)
  | [] => none

/-- The groups on one side of a double colon, where there may be none. -/
def side? (text : List Char) : Option (List UInt16) :=
  if text = [] then some [] else groups? (text.splitOn ':')

/-- Eight groups, or fewer with one double colon for the missing zeros, at least one.
Octets may end the address but not stand before a double colon. -/
def v6? (text : List Char) : Option (List UInt16) :=
  match splitElision text with
  | none => (groups? (text.splitOn ':')).filter (·.length = 8)
  | some (front, back) => do
    let head ← side? front
    let tail ← side? back
    if front.contains '.' ∨ head.length + tail.length > 7 then none
    else some (head ++ List.replicate (8 - head.length - tail.length) 0 ++ tail)

/-- The address that a text writes. -/
def parse? (text : List Char) : Option IpAddress :=
  match octets? text with
  | some octets => some (.v4 octets)
  | none => (v6? text).map .v6

def octetsText (octets : List UInt8) : String :=
  ".".intercalate (octets.map fun octet => toString octet.toNat)

/-- A group in lower-case hexadecimal without leading zeros. -/
def groupText (group : UInt16) : String :=
  String.ofList (Nat.toDigits 16 group.toNat)

def groupsText (groups : List UInt16) : String :=
  ":".intercalate (groups.map groupText)

/-- How many zeros stand at the front. -/
def zeroRun (groups : List UInt16) : Nat :=
  (groups.takeWhile (· = 0)).length

/-- Start and length of the longest run of zeros, the first of equal ones. -/
def longestZeroRun : List UInt16 → Nat × Nat
  | [] => (0, 0)
  | group :: rest =>
    let here := zeroRun (group :: rest)
    let (start, length) := longestZeroRun rest
    if length > here then (start + 1, length) else (0, here)

/-- The canonical text.  An address that carries an IPv4 address ends in octets;
otherwise the longest run of two or more zero groups is left out. -/
def toText : IpAddress → String
  | .v4 octets => octetsText octets
  | .v6 [0, 0, 0, 0, 0, 0xFFFF, high, low] =>
    "::ffff:" ++ octetsText [(high / 256).toUInt8, high.toUInt8, (low / 256).toUInt8, low.toUInt8]
  | .v6 groups =>
    let (start, length) := longestZeroRun groups
    if length > 1 then
      groupsText (groups.take start) ++ "::" ++ groupsText (groups.drop (start + length))
    else groupsText groups

end IpAddress

end Schemata
