import Refactoring.Text.Ranges
import Refactoring.Text.Unprintable
import Refactoring.Text.Extending

/-!
# Quoted text in messages

A message shows a received text between double quotes.  Quotes, backslashes and the usual controls
are escaped with a backslash; what has no printed form of its own is written by its code point.
-/

namespace Refactoring.Text

/-- Whether a character stands for itself in a quoted text. -/
def isShown (c : Char) : Bool :=
  (0x20 ≤ c.toNat && c.toNat < 0x7F) ||
  (!inRanges extendingRanges c.toNat && !inRanges unprintableRanges c.toNat)

/-- A code point in lower-case hexadecimal between braces. -/
def codeEscape (c : Char) : String :=
  "\\u\x7b" ++ String.ofList (Nat.toDigits 16 c.toNat) ++ "\x7d"

/-- How one character is written inside quotes. -/
def quotedChar (c : Char) : String :=
  if c = '\x00' then "\\0"
  else if c = '\t' then "\\t"
  else if c = '\r' then "\\r"
  else if c = '\n' then "\\n"
  else if c = '"' then "\\\""
  else if c = '\\' then "\\\\"
  else if isShown c then String.singleton c
  else codeEscape c

/-- A text between double quotes. -/
def quoted (text : String) : String :=
  "\"" ++ String.join (text.toList.map quotedChar) ++ "\""

/-- Plain text is only put between quotes. -/
example : quoted "Foo.java" = "\"Foo.java\"" := by decide +kernel

/-- Escapes. -/
example : quoted "a\"b\\\n" = "\"a\\\"b\\\\\\n\"" := by decide +kernel

end Refactoring.Text
