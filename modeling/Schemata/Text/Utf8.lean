/-!
# UTF-8

Bytes as text.  `pieces` cuts any list of bytes into characters and ill-formed
sequences and loses nothing; the strict and the lenient reading are both read off
the pieces.  An ill-formed sequence is as long as it could have been the start of a
character.
-/

namespace Schemata.Text.Utf8

/-- The bytes of a text. -/
def encode (text : List Char) : List UInt8 :=
  text.flatMap String.utf8EncodeChar

/-- A piece of a list of bytes. -/
inductive Piece where
  | char (c : Char)
  /-- A sequence of this many bytes that starts no character. -/
  | illFormed (length : Nat)
  /-- The text ends after this many bytes of a character. -/
  | truncated (length : Nat)
deriving DecidableEq, Repr

/-- Whether a byte can continue a character. -/
def isContinuation (byte : UInt8) : Bool :=
  0x80 ≤ byte && byte ≤ 0xBF

/-- How many bytes a character with this first byte has; 0 if there is none. -/
def width (first : UInt8) : Nat :=
  if first ≤ 0x7F then 1
  else if 0xC2 ≤ first && first ≤ 0xDF then 2
  else if 0xE0 ≤ first && first ≤ 0xEF then 3
  else if 0xF0 ≤ first && first ≤ 0xF4 then 4
  else 0

/-- Whether a byte may be the second one.  The bounds rule out surrogates, code points
past the last one, and forms longer than needed. -/
def isSecond (first second : UInt8) : Bool :=
  if first = 0xE0 then 0xA0 ≤ second && second ≤ 0xBF
  else if first = 0xED then 0x80 ≤ second && second ≤ 0x9F
  else if first = 0xF0 then 0x90 ≤ second && second ≤ 0xBF
  else if first = 0xF4 then 0x80 ≤ second && second ≤ 0x8F
  else isContinuation second

/-- The character of a first byte with the given payload bits and its continuations. -/
def assemble (payload : Nat) (continuations : List UInt8) : Char :=
  Char.ofNat (continuations.foldl (fun code byte => code * 64 + (byte.toNat - 0x80)) payload)

/-- Cuts bytes into characters and ill-formed sequences. -/
def pieces : List UInt8 → List Piece
  | [] => []
  | a :: rest =>
    match width a with
    | 1 => .char (Char.ofNat a.toNat) :: pieces rest
    | 0 => .illFormed 1 :: pieces rest
    | width =>
      match rest with
      | [] => [.truncated 1]
      | b :: rest' =>
        if !isSecond a b then .illFormed 1 :: pieces (b :: rest')
        else if width = 2 then .char (assemble (a.toNat - 0xC0) [b]) :: pieces rest'
        else
          match rest' with
          | [] => [.truncated 2]
          | c :: rest'' =>
            if !isContinuation c then .illFormed 2 :: pieces (c :: rest'')
            else if width = 3 then .char (assemble (a.toNat - 0xE0) [b, c]) :: pieces rest''
            else
              match rest'' with
              | [] => [.truncated 3]
              | d :: rest''' =>
                if !isContinuation d then .illFormed 3 :: pieces (d :: rest''')
                else .char (assemble (a.toNat - 0xF0) [b, c, d]) :: pieces rest'''

/-- Why bytes are no text, and where. -/
structure Defect where
  index : Nat
  /-- The length of the ill-formed sequence; absent if the text ends inside a character. -/
  length : Option Nat
deriving DecidableEq, Repr

def Defect.message (defect : Defect) : String :=
  match defect.length with
  | some length =>
    "invalid utf-8 sequence of " ++ toString length ++ " bytes from index " ++
      toString defect.index
  | none => "incomplete utf-8 byte sequence from index " ++ toString defect.index

/-- Strict reading of pieces, the first of which starts at the given byte. -/
def strict (index : Nat) : List Piece → Except Defect (List Char)
  | [] => .ok []
  | .char c :: rest => (strict (index + c.utf8Size) rest).map (c :: ·)
  | .illFormed length :: _ => .error { index, length := some length }
  | .truncated _ :: _ => .error { index, length := none }

/-- The text of bytes that are UTF-8. -/
def decode (bytes : List UInt8) : Except Defect (List Char) :=
  strict 0 (pieces bytes)

/-- The text of any bytes: what is ill-formed becomes a replacement character. -/
def decodeLenient (bytes : List UInt8) : List Char :=
  (pieces bytes).map fun
    | .char c => c
    | _ => '\uFFFD'

end Schemata.Text.Utf8
