import Refactoring.Text.Utf8

/-!
# Percent coding

A URI writes a byte that it cannot hold as `%` and two hexadecimal digits.  Each part of a URI has
its own set of characters to be encoded; characters outside ASCII are encoded everywhere.
-/

namespace Refactoring.Uri

/-- Controls, and all that is not ASCII. -/
def isControl (c : Char) : Bool := c.toNat < 0x20 || 0x7F ≤ c.toNat

/-- What a fragment encodes. -/
def fragmentSet (c : Char) : Bool := isControl c || " \"<>`".toList.contains c

/-- What a query encodes; web schemes also encode the apostrophe. -/
def querySet (special : Bool) (c : Char) : Bool :=
  isControl c || " \"#<>".toList.contains c || (special && c == '\'')

/-- What a path encodes. -/
def pathSet (c : Char) : Bool := fragmentSet c || "#?\x7b\x7d".toList.contains c

/-- What a name in a path encodes, so that it stays one name. -/
def nameSet (c : Char) : Bool := pathSet c || "/%\\".toList.contains c

/-- What a user name or password encodes. -/
def userSet (c : Char) : Bool := pathSet c || "/:;=@[\\]^|".toList.contains c

/-- An upper-case hexadecimal digit. -/
def hexUpper (n : Nat) : Char := (Nat.digitChar n).toUpper

/-- The code of a byte. -/
def percentByte (b : UInt8) : List Char :=
  ['%', hexUpper (b.toNat / 16), hexUpper (b.toNat % 16)]

/-- Encodes the characters of a set, byte by byte. -/
def percentEncode (set : Char → Bool) (text : List Char) : List Char :=
  text.flatMap fun c =>
    if set c then (Utf8.encode (String.singleton c)).flatMap percentByte else [c]

/-- Encodes a name given in bytes. -/
def percentEncodeName (name : List UInt8) : String :=
  String.ofList <| name.flatMap fun b =>
    let c := Char.ofNat b.toNat
    if nameSet c then percentByte b else [c]

/-- The value of a hexadecimal digit given as a byte. -/
def hexByte? (b : UInt8) : Option UInt8 :=
  if 48 ≤ b ∧ b ≤ 57 then some (b - 48)
  else if 97 ≤ b ∧ b ≤ 102 then some (b - 87)
  else if 65 ≤ b ∧ b ≤ 70 then some (b - 55)
  else none

/-- The value of two hexadecimal digits. -/
def hexPair? (a b : UInt8) : Option UInt8 := do
  let high ← hexByte? a
  let low ← hexByte? b
  some (high * 16 + low)

/-- Puts back the bytes that are coded; a `%` without two digits stands for itself. -/
def percentDecodeBytes : List UInt8 → List UInt8
  | [] => []
  | 37 :: a :: b :: rest =>
    match hexPair? a b with
    | some byte => byte :: percentDecodeBytes rest
    | none => 37 :: percentDecodeBytes (a :: b :: rest)
  | byte :: rest => byte :: percentDecodeBytes rest

/-- The bytes that a coded text stands for. -/
def percentDecode (text : String) : List UInt8 := percentDecodeBytes (Utf8.encode text)

end Refactoring.Uri
