/-!
# Reading UTF-8

Bytes from a stream need not be text.  `Utf8.decode?` accepts exactly the encodings of texts;
`Utf8.firstFault?` says where other bytes go wrong, and `Utf8.lossy` puts a replacement character in
place of each faulty run.
-/

namespace Refactoring

/-- The first faulty run of bytes: where it begins, and how long it is unless the bytes end in the
middle of a character. -/
structure Utf8.Fault where
  index : Nat
  length : Option Nat
  deriving Repr, DecidableEq

namespace Utf8

/-- The bytes of a text. -/
def encode (text : String) : List UInt8 := text.toUTF8.data.toList

/-- The text that the bytes encode. -/
def decode? (bytes : List UInt8) : Option String := String.fromUTF8? ⟨bytes.toArray⟩

/-- A byte that continues a character. -/
def isContinuation (b : UInt8) : Bool := 0x80 ≤ b && b ≤ 0xBF

/-- How many bytes a character with this first byte has; none may begin with other bytes. -/
def width? (first : UInt8) : Option Nat :=
  if first < 0x80 then some 1
  else if 0xC2 ≤ first && first ≤ 0xDF then some 2
  else if 0xE0 ≤ first && first ≤ 0xEF then some 3
  else if 0xF0 ≤ first && first ≤ 0xF4 then some 4
  else none

/-- Whether `second` may follow `first`: overlong forms, surrogates and values past the last code
point show in the second byte. -/
def mayFollow (first second : UInt8) : Bool :=
  if first = 0xE0 then 0xA0 ≤ second && second ≤ 0xBF
  else if first = 0xED then 0x80 ≤ second && second ≤ 0x9F
  else if first = 0xF0 then 0x90 ≤ second && second ≤ 0xBF
  else if first = 0xF4 then 0x80 ≤ second && second ≤ 0x8F
  else isContinuation second

/-- What stands at the beginning of some bytes. -/
inductive Head where
  /-- A whole character of this many bytes. -/
  | whole (length : Nat)
  /-- This many bytes that begin no character. -/
  | faulty (length : Nat)
  /-- A character that the end of the bytes cuts off. -/
  | cut
  deriving Repr, DecidableEq

/-- Looks for the remaining continuation bytes of a character, `seen` bytes of which are good. -/
def continued (seen : Nat) : Nat → List UInt8 → Head
  | 0, _ => .whole seen
  | _ + 1, [] => .cut
  | more + 1, b :: rest => if isContinuation b then continued (seen + 1) more rest else .faulty seen

/-- Classifies what `first :: rest` begins with. -/
def head (first : UInt8) (rest : List UInt8) : Head :=
  match width? first with
  | none => .faulty 1
  | some 1 => .whole 1
  | some width =>
    match rest with
    | [] => .cut
    | second :: more =>
      if mayFollow first second then continued 2 (width - 2) more else .faulty 1

/-- The first fault from `index` on, if any. -/
def faultFrom (index : Nat) : List UInt8 → Option Fault
  | [] => none
  | first :: rest =>
    match head first rest with
    | .whole length => faultFrom (index + length) (rest.drop (length - 1))
    | .faulty length => some ⟨index, some length⟩
    | .cut => some ⟨index, none⟩
termination_by bytes => bytes.length
decreasing_by simp only [List.length_drop, List.length_cons]; omega

/-- The first fault of the bytes, if any. -/
def firstFault? (bytes : List UInt8) : Option Fault := faultFrom 0 bytes

/-- Splits the bytes into faulty runs and the good bytes between them, with the replacement
character's bytes for each run. -/
def repaired : List UInt8 → List UInt8
  | [] => []
  | first :: rest =>
    match head first rest with
    | .whole length => (first :: rest).take length ++ repaired (rest.drop (length - 1))
    | .faulty length => encode "\uFFFD" ++ repaired (rest.drop (length - 1))
    | .cut => encode "\uFFFD"
termination_by bytes => bytes.length
decreasing_by all_goals simp only [List.length_drop, List.length_cons]; omega

/-- The text of the bytes with a replacement character for each faulty run. -/
def lossy (bytes : List UInt8) : String := (decode? (repaired bytes)).getD ""

/-- Says where text ends in bytes that are no text. -/
def Fault.message (fault : Fault) : String :=
  match fault.length with
  | some length => s!"invalid utf-8 sequence of {length} bytes from index {fault.index}"
  | none => s!"incomplete utf-8 byte sequence from index {fault.index}"

/-- Text reads back from its own bytes. -/
theorem decode?_encode (text : String) : decode? (encode text) = some text := by
  simp [decode?, encode, String.fromUTF8?, String.toUTF8, String.fromUTF8, text.isValidUTF8]

end Utf8
end Refactoring
