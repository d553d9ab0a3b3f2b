import Refactoring.Text.Position

/-!
# Faults in JSON text

What can be wrong with a text that should be JSON, and where.  A place is a line and a column in
bytes; a fault is found either in front of a byte or just behind it.
-/

namespace Refactoring.Json

/-- Why a text is not the JSON that was asked for. -/
inductive Cause where
  | endInValue
  | endInObject
  | endInList
  | endInString
  | expectedColon
  | expectedListComma
  | expectedObjectComma
  | expectedWord
  | expectedValue
  | keyNotString
  | trailingComma
  | trailingText
  | invalidNumber
  | numberOutOfRange
  | invalidEscape
  | loneSurrogate
  | unfinishedPair
  | controlCharacter
  | tooDeep
  /-- The text is JSON but does not have the shape that was asked for. -/
  | shape (message : String)
  deriving Repr, DecidableEq

/-- The wording of a cause. -/
def Cause.message : Cause → String
  | .endInValue => "EOF while parsing a value"
  | .endInObject => "EOF while parsing an object"
  | .endInList => "EOF while parsing a list"
  | .endInString => "EOF while parsing a string"
  | .expectedColon => "expected `:`"
  | .expectedListComma => "expected `,` or `]`"
  | .expectedObjectComma => "expected `,` or `\x7d`"
  | .expectedWord => "expected ident"
  | .expectedValue => "expected value"
  | .keyNotString => "key must be a string"
  | .trailingComma => "trailing comma"
  | .trailingText => "trailing characters"
  | .invalidNumber => "invalid number"
  | .numberOutOfRange => "number out of range"
  | .invalidEscape => "invalid escape"
  | .loneSurrogate => "lone leading surrogate in hex escape"
  | .unfinishedPair => "unexpected end of hex escape"
  | .controlCharacter => "control character (\\u0000-\\u001F) found while parsing a string"
  | .tooDeep => "recursion limit exceeded"
  | .shape message => message

/-- A cause, and how many bytes of the text lie behind the place where it shows. -/
structure Fault where
  cause : Cause
  left : Nat
  deriving Repr, DecidableEq

namespace Fault

/-- A fault in front of `rest`. -/
def before (cause : Cause) (rest : List Char) : Fault := ⟨cause, bytes8 rest⟩

/-- A fault behind the first `count` bytes of `rest`. -/
def behind (cause : Cause) (rest : List Char) (count : Nat) : Fault := ⟨cause, bytes8 rest - count⟩

/-- A fault behind the first byte of `rest`. -/
def onNext (cause : Cause) (rest : List Char) : Fault := behind cause rest 1

/-- Line and column behind the given bytes. -/
def lineAndColumn (bytes : List UInt8) : Nat × Nat :=
  bytes.foldl (fun (line, column) (b : UInt8) =>
    if b = 10 then (line + 1, 0) else (line, column + 1)) (1, 0)

/-- The fault of a text in words. -/
def message (fault : Fault) (text : String) : String :=
  let bytes := text.toUTF8.data.toList
  let (line, column) := lineAndColumn (bytes.take (bytes.length - fault.left))
  s!"{fault.cause.message} at line {line} column {column}"

end Fault
end Refactoring.Json
