/-!
# Masked connection URLs

A URL is shown without its password: what stands between the first colon of the
user information and the last at sign is replaced.  A text without these marks is
shown as it is.
-/

namespace Schemata.Masking

/-- A text cut in front of the first place where `mark` occurs, if it does. -/
def cutAt (mark : List Char) : List Char → Option (List Char × List Char)
  | [] => if mark = [] then some ([], []) else none
  | c :: rest =>
    if mark.isPrefixOf (c :: rest) then some ([], c :: rest)
    else (cutAt mark rest).map fun (before, after) => (c :: before, after)

/-- A text cut in front of the last place where `c` stands, if it does. -/
def cutAtLast (c : Char) : List Char → Option (List Char × List Char)
  | [] => none
  | first :: rest =>
    match cutAtLast c rest with
    | some (before, after) => some (first :: before, after)
    | none => if first = c then some ([], first :: rest) else none

/-- The text with the password hidden, if it has the marks of a URL with one. -/
def maskChars (url : List Char) : Option (List Char) := do
  let (scheme, rest) ← cutAt "://".toList url
  let (userInfo, tail) ← cutAtLast '@' (rest.drop 3)
  let (user, _) ← cutAt ":".toList userInfo
  return scheme ++ "://".toList ++ user ++ ":***".toList ++ tail

/-- The text with the password hidden. -/
def mask (url : String) : String :=
  match maskChars url.toList with
  | some masked => String.ofList masked
  | none => url

/-! ## By byte offsets

A text is stored as bytes, and a slice of it goes from one byte offset to another.  What
follows masks a URL by such slices and gives nothing if one of them cannot be cut. -/

/-- How many bytes a text takes. -/
def byteSize (text : List Char) : Nat :=
  (String.ofList text).utf8ByteSize

/-- The text between two byte offsets.  Both have to lie within the text or at its end and
in front of a whole character, and they have to come in order. -/
def slice? (text : String) (first last : Nat) : Option String :=
  if String.Pos.Raw.IsValid text ⟨first⟩ ∧ String.Pos.Raw.IsValid text ⟨last⟩ ∧ first ≤ last then
    some (String.Pos.Raw.extract text ⟨first⟩ ⟨last⟩)
  else none

/-- The byte offset of the first place where `mark` occurs. -/
def offset? (mark : List Char) (text : String) : Option Nat :=
  (cutAt mark text.toList).map fun cut => byteSize cut.1

/-- The byte offset of the last place where `c` stands. -/
def lastOffset? (c : Char) (text : String) : Option Nat :=
  (cutAtLast c text.toList).map fun cut => byteSize cut.1

/-- The text with the password hidden, put together from slices. -/
def maskSlices? (url : String) : Option String :=
  match offset? "://".toList url, lastOffset? '@' url with
  | some start, some sign =>
    if sign > start then do
      let userInfo ← slice? url (start + 3) sign
      match offset? ":".toList userInfo with
      | some colon => do
        let user ← slice? url (start + 3) (start + 3 + colon)
        let front ← slice? url 0 (start + 3)
        let back ← slice? url sign url.utf8ByteSize
        return front ++ user ++ ":***" ++ back
      | none => return url
    else some url
  | _, _ => some url

end Schemata.Masking
