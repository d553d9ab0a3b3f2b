import Refactoring.Uri.Domain.Composition
import Refactoring.Uri.Domain.Joining
import Refactoring.Uri.Domain.Mapping
import Refactoring.Uri.Punycode

/-!
# Labels

A domain is a list of labels.  Each of them has a form for readers and one that only has ASCII
characters, which is the reader's form itself or, behind `xn--`, its encoded form.  A label that is
given in the encoded form has to be the one that its reader's form would get.
-/

namespace Refactoring.Uri.Domain

/-- A label in both forms. -/
structure Label where
  /-- The code points that a reader sees. -/
  letters : List Nat
  ascii : List Char
  deriving Repr, DecidableEq

/-- What no domain may hold. -/
def isForbidden (code : Nat) : Bool :=
  code ≤ 0x20 || code == 0x7F || ("#/:<>?@[\\]^|%".toList.map Char.toNat).contains code

/-- Whether all code points belong to ASCII. -/
def isPlain (letters : List Nat) : Bool := letters.all (· < 0x80)

/-- The characters of code points. -/
def characters (letters : List Nat) : List Char := letters.map Char.ofNat

/-- Whether letters may make up a label, as far as one can tell without its neighbours. -/
def isSound (letters : List Nat) : Bool :=
  !letters.any isForbidden && !letters.head?.any isMark && joinersFit [] letters

/-- What an encoded label begins with. -/
def encodedMark : List Char := "xn--".toList

/-- The most characters that a label may have before it is encoded, and behind the mark. -/
def longestLabel : Nat := 1000

@[inherit_doc longestLabel]
def longestEncoded : Nat := 2000

/-- A label given in its encoded form. -/
def Label.ofEncoded? (text : List Char) : Option Label := do
  let encoded := text.drop encodedMark.length
  guard (text.getLast? ≠ some '-' ∧ encoded.length ≤ longestEncoded)
  let letters := (← Punycode.decode? encoded).map Char.toNat
  guard (letters.all isKept && composed letters == letters && isSound letters)
  some ⟨letters, text⟩

/-- The label of letters that have been mapped and composed. -/
def Label.ofLetters? (letters : List Nat) : Option Label :=
  let text := characters letters
  if encodedMark.isPrefixOf text then
    if isPlain letters then Label.ofEncoded? text else none
  else if isPlain letters then
    if letters.any isForbidden then none else some ⟨letters, text⟩
  else if isSound letters ∧ letters.length ≤ longestLabel then
    some ⟨letters, encodedMark ++ Punycode.encode text⟩
  else none

end Refactoring.Uri.Domain
