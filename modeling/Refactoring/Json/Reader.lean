import Refactoring.Json.Basic
import Refactoring.Json.Fault

/-!
# Reading JSON

A recursive descent over the characters of a text.  `parse` gives the value of a whole text;
`skipValue` passes over a value whose content does not matter, with a looser grammar: any nesting,
numbers of any size, and escapes that need not pair up.

Each reader takes the text from where it starts and returns what it read and the text behind.
-/

namespace Refactoring.Json

/-- What a reader gives: a value with the text behind it, or a fault. -/
abbrev Read (α : Type) := Except Fault (α × List Char)

/-- The four blanks of JSON. -/
def isBlank (c : Char) : Bool := c == ' ' || c == '\n' || c == '\t' || c == '\r'

/-- Drops blanks in front. -/
def skipBlanks (text : List Char) : List Char := text.dropWhile isBlank

/-- Expects the characters of a word. -/
def readWord : List Char → List Char → Except Fault (List Char)
  | [], text => .ok text
  | _ :: _, [] => .error (.before .endInValue [])
  | c :: word, d :: text =>
    if c = d then readWord word text else .error (.onNext .expectedWord (d :: text))

/-! ### Strings -/

/-- The value of a hexadecimal digit. -/
def hexValue? (c : Char) : Option Nat :=
  if '0' ≤ c ∧ c ≤ '9' then some (c.toNat - 48)
  else if 'a' ≤ c ∧ c ≤ 'f' then some (c.toNat - 87)
  else if 'A' ≤ c ∧ c ≤ 'F' then some (c.toNat - 55)
  else none

/-- The value of the four hexadecimal digits that come next. -/
def hexUnit (text : List Char) : Except Fault Nat :=
  match (text.take 4).mapM hexValue? with
  | some [a, b, c, d] => .ok (((a * 16 + b) * 16 + c) * 16 + d)
  | _ =>
    if bytes8 text < 4 then .error (.before .endInString [])
    else .error (.behind .invalidEscape text 4)

/-- The character of an escape by code unit, and how many characters behind the `u` it takes.  Units
of the surrogate ranges must form a pair. -/
def unitEscape (text : List Char) : Except Fault (Char × Nat) := do
  let unit ← hexUnit text
  if 0xDC00 ≤ unit ∧ unit ≤ 0xDFFF then .error (.before .loneSurrogate (text.drop 4))
  else if unit < 0xD800 ∨ 0xDBFF < unit then .ok (Char.ofNat unit, 4)
  else
    match text.drop 4 with
    | [] => .error (.before .endInString [])
    | '\\' :: [] => .error (.before .endInString [])
    | '\\' :: 'u' :: rest =>
      let low ← hexUnit rest
      if low < 0xDC00 ∨ 0xDFFF < low then .error (.before .loneSurrogate (rest.drop 4))
      else .ok (Char.ofNat (0x10000 + (unit - 0xD800) * 0x400 + (low - 0xDC00)), 10)
    | '\\' :: rest => .error (.onNext .unfinishedPair rest)
    | rest => .error (.onNext .unfinishedPair rest)

/-- The character of an escape by letter. -/
def letterEscape? (c : Char) : Option Char :=
  if c = '"' ∨ c = '\\' ∨ c = '/' then some c
  else if c = 'b' then some '\x08'
  else if c = 'f' then some '\x0c'
  else if c = 'n' then some '\n'
  else if c = 'r' then some '\r'
  else if c = 't' then some '\t'
  else none

/-- Puts a character in front of what a reader of strings gives. -/
def consRead (c : Char) (r : Read (List Char)) : Read (List Char) :=
  r.map fun (cs, rest) => (c :: cs, rest)

/-- The characters up to the closing quote.  Unless `strict`, code units need not form text, and a
control is found without passing it. -/
def readChars (strict : Bool) : List Char → Read (List Char)
  | [] => .error (.before .endInString [])
  | '"' :: rest => .ok ([], rest)
  | '\\' :: [] => .error (.before .endInString [])
  | '\\' :: 'u' :: rest =>
    if strict then
      match unitEscape rest with
      | .ok (c, count) => consRead c (readChars strict (rest.drop count))
      | .error fault => .error fault
    else
      match hexUnit rest with
      | .ok _ => consRead '\uFFFD' (readChars strict (rest.drop 4))
      | .error fault => .error fault
  | '\\' :: c :: rest =>
    match letterEscape? c with
    | some d => consRead d (readChars strict rest)
    | none => .error (.onNext .invalidEscape (c :: rest))
  | c :: rest =>
    if c.toNat < 0x20 then
      .error (.behind .controlCharacter (c :: rest) (if strict then 1 else 0))
    else consRead c (readChars strict rest)
termination_by text => text.length
decreasing_by all_goals simp only [List.length_cons, List.length_drop]; omega

/-- A string behind its opening quote. -/
def readString (text : List Char) : Read String :=
  (readChars true text).map fun (cs, rest) => (String.ofList cs, rest)

/-! ### Numbers -/

/-- A decimal digit. -/
def isDigit (c : Char) : Bool := '0' ≤ c && c ≤ '9'

/-- The value of a decimal digit. -/
def digitValue (c : Char) : Nat := c.toNat - 48

/-- Takes digits into a number while it stays at most `limit`; gives the digits left over. -/
def gather (limit : Nat) : Nat → List Char → Nat × List Char
  | n, [] => (n, [])
  | n, c :: rest =>
    if 10 * n + digitValue c ≤ limit then gather limit (10 * n + digitValue c) rest
    else (n, c :: rest)

/-- The largest unsigned integer of 64 bits. -/
def maxWord : Nat := 18446744073709551615

/-- A power of ten as a floating-point number. -/
def powerOfTen (n : Nat) : Float := Float.ofScientific 1 false n

/-- Divides by a power of ten, in steps that the format can hold. -/
def divideByPower (x : Float) (n : Nat) : Float :=
  if n ≤ 308 then x / powerOfTen n
  else if x == 0 then x
  else divideByPower (x / powerOfTen 308) (n - 308)
termination_by n

/-- `significand * 10 ^ exponent` by one conversion and one multiplication or division; `none` when
it is too large. -/
def scaled? (significand : Nat) (exponent : Int) : Option Float :=
  let x := significand.toUInt64.toFloat
  if exponent < 0 then some (divideByPower x exponent.natAbs)
  else if exponent ≤ 308 then
    let y := x * powerOfTen exponent.natAbs
    if y.isInf then none else some y
  else if x == 0 then some x else none

/-- The floating-point number of a sign, digits and an exponent, found in front of `rest`. -/
def floatOf (negative : Bool) (significand : Nat) (exponent : Int) (rest : List Char) :
    Read Number :=
  match scaled? significand exponent with
  | some x => .ok (.float (.ofFloat (if negative then -x else x)), rest)
  | none => .error (.before .numberOutOfRange rest)

/-- The exponent behind its `e`, and with it the number. -/
def readExponent (negative : Bool) (significand : Nat) (start : Int) (text : List Char) :
    Read Number :=
  let (down, text) :=
    match text with
    | '+' :: rest => (false, rest)
    | '-' :: rest => (true, rest)
    | _ => (false, text)
  let digits := text.takeWhile isDigit
  let rest := text.dropWhile isDigit
  match digits with
  | [] =>
    match text with
    | [] => .error (.before .endInValue [])
    | _ => .error (.onNext .invalidNumber text)
  | _ =>
    match gather 2147483647 0 digits with
    | (exponent, []) =>
      floatOf negative significand (if down then start - exponent else start + exponent) rest
    | (_, _ :: surplus) =>
      if significand ≠ 0 ∧ !down then .error (.before .numberOutOfRange (surplus ++ rest))
      else .ok (.float (.ofFloat (if negative then -0.0 else 0.0)), rest)

/-- An exponent if one follows, and the number. -/
def readScale (negative : Bool) (significand : Nat) (exponent : Int) : List Char → Read Number
  | 'e' :: rest => readExponent negative significand exponent rest
  | 'E' :: rest => readExponent negative significand exponent rest
  | rest => floatOf negative significand exponent rest

/-- The digits behind a point, and with them the number. -/
def readFraction (negative : Bool) (significand : Nat) (exponent : Int) (text : List Char) :
    Read Number :=
  let digits := text.takeWhile isDigit
  let rest := text.dropWhile isDigit
  match digits, text with
  | [], [] => .error (.before .endInValue [])
  | [], _ => .error (.onNext .invalidNumber text)
  | _, _ =>
    let (significand, surplus) := gather maxWord significand digits
    readScale negative significand (exponent - (digits.length - surplus.length : Nat)) rest

/-- The number of an integer without fraction and exponent: a negative one that is zero or does not
fit into 64 bits is a floating-point number. -/
def integer (negative : Bool) (significand : Nat) : Number :=
  if !negative then .int significand
  else if 0 < significand ∧ significand ≤ 9223372036854775808 then .int (-significand)
  else .float (.ofFloat (-significand.toUInt64.toFloat))

/-- A number behind its sign. -/
def readNumber (negative : Bool) (text : List Char) : Read Number :=
  match text with
  | [] => .error (.before .endInValue [])
  | c :: behind =>
    if !isDigit c then .error (.onNext .invalidNumber text)
    else if c = '0' ∧ (behind.head?.any isDigit) then .error (.onNext .invalidNumber behind)
    else
      let digits := text.takeWhile isDigit
      let rest := text.dropWhile isDigit
      let (significand, surplus) := gather maxWord 0 digits
      match rest with
      | '.' :: rest => readFraction negative significand surplus.length rest
      | 'e' :: _ => readScale negative significand surplus.length rest
      | 'E' :: _ => readScale negative significand surplus.length rest
      | _ =>
        if surplus.isEmpty then .ok (integer negative significand, rest)
        else floatOf negative significand surplus.length rest

/-! ### Values -/

/-- The value that the first character of a scalar announces, read to its end. -/
def readScalar : List Char → Read Json
  | [] => .error (.before .endInValue [])
  | 'n' :: rest => (readWord "ull".toList rest).map fun rest => (.null, rest)
  | 't' :: rest => (readWord "rue".toList rest).map fun rest => (.bool true, rest)
  | 'f' :: rest => (readWord "alse".toList rest).map fun rest => (.bool false, rest)
  | '"' :: rest => (readString rest).map fun (s, rest) => (.string s, rest)
  | '-' :: rest => (readNumber true rest).map fun (n, rest) => (.number n, rest)
  | c :: rest =>
    if isDigit c then (readNumber false (c :: rest)).map fun (n, rest) => (.number n, rest)
    else .error (.onNext .expectedValue (c :: rest))

/-- Passes the colon between a key and its value. -/
def readColon (text : List Char) : Except Fault (List Char) :=
  match skipBlanks text with
  | [] => .error (.before .endInObject [])
  | ':' :: rest => .ok rest
  | rest => .error (.onNext .expectedColon rest)

/-- Whether another item follows: the text in front of it, or what is behind the closing bracket. -/
def nextItem (first : Bool) (text : List Char) : Except Fault (List Char ⊕ List Char) :=
  match skipBlanks text with
  | [] => .error (.before .endInList [])
  | ']' :: rest => .ok (.inr rest)
  | c :: rest =>
    if first then .ok (.inl (c :: rest))
    else if c = ',' then
      match skipBlanks rest with
      | [] => .error (.before .endInValue [])
      | ']' :: rest => .error (.onNext .trailingComma (']' :: rest))
      | rest => .ok (.inl rest)
    else .error (.onNext .expectedListComma (c :: rest))

/-- Whether another member follows: the text behind the opening quote of its key, or the text behind
the closing brace. -/
def nextKey (first : Bool) (text : List Char) : Except Fault (List Char ⊕ List Char) :=
  match skipBlanks text with
  | [] => .error (.before .endInObject [])
  | '\x7d' :: rest => .ok (.inr rest)
  | c :: rest =>
    if first then
      if c = '"' then .ok (.inl rest) else .error (.onNext .keyNotString (c :: rest))
    else if c = ',' then
      match skipBlanks rest with
      | [] => .error (.before .endInValue [])
      | '"' :: rest => .ok (.inl rest)
      | '\x7d' :: rest => .error (.onNext .trailingComma ('\x7d' :: rest))
      | rest => .error (.onNext .keyNotString rest)
    else .error (.onNext .expectedObjectComma (c :: rest))

mutual

/-- A value within `depth` further levels of nesting. -/
def readValue : Nat → Nat → List Char → Read Json
  | 0, _, text => .error (.before .endInValue text)
  | fuel + 1, depth, text =>
    match skipBlanks text with
    | '[' :: rest =>
      if depth ≤ 1 then .error (.onNext .tooDeep ('[' :: rest))
      else (readItems fuel (depth - 1) true rest).map fun (items, rest) => (.array items, rest)
    | '\x7b' :: rest =>
      if depth ≤ 1 then .error (.onNext .tooDeep ('\x7b' :: rest))
      else (readMembers fuel (depth - 1) true rest).map fun (members, rest) =>
        (.object (members.foldl (fun known m => setMember known m.1 m.2) []), rest)
    | rest => readScalar rest

/-- The items up to the closing bracket. -/
def readItems : Nat → Nat → Bool → List Char → Except Fault (List Json × List Char)
  | 0, _, _, text => .error (.before .endInList text)
  | fuel + 1, depth, first, text => do
    match ← nextItem first text with
    | .inr rest => .ok ([], rest)
    | .inl rest =>
      let (item, rest) ← readValue fuel depth rest
      let (items, rest) ← readItems fuel depth false rest
      .ok (item :: items, rest)

/-- The members up to the closing brace, repeated keys included. -/
def readMembers :
    Nat → Nat → Bool → List Char → Except Fault (List (String × Json) × List Char)
  | 0, _, _, text => .error (.before .endInObject text)
  | fuel + 1, depth, first, text => do
    match ← nextKey first text with
    | .inr rest => .ok ([], rest)
    | .inl rest =>
      let (key, rest) ← readString rest
      let rest ← readColon rest
      let (value, rest) ← readValue fuel depth rest
      let (members, rest) ← readMembers fuel depth false rest
      .ok ((key, value) :: members, rest)

end

/-- How deep arrays and objects may nest, plus one. -/
def depthLimit : Nat := 128

/-- Enough steps to read any text of this length. -/
def fuelFor (text : List Char) : Nat := 2 * text.length + 2

/-- Nothing but blanks may follow a value. -/
def expectEnd (text : List Char) : Except Fault Unit :=
  match skipBlanks text with
  | [] => .ok ()
  | rest => .error (.onNext .trailingText rest)

/-- The value of a text, or its first fault. -/
def parse (text : String) : Except Fault Json := do
  let chars := text.toList
  let (value, rest) ← readValue (fuelFor chars) depthLimit chars
  expectEnd rest
  .ok value

/-- The value of a text, or its first fault in words. -/
def ofText (text : String) : Except String Json :=
  match parse text with
  | .ok value => .ok value
  | .error fault => .error (fault.message text)

/-! ### Values that do not matter -/

/-- Passes an exponent behind its `e`. -/
def skipExponent (text : List Char) : Except Fault (List Char) :=
  let text := match text with
    | '+' :: rest => rest
    | '-' :: rest => rest
    | _ => text
  match text with
  | [] => .error (.before .invalidNumber [])
  | c :: rest =>
    if isDigit c then .ok (rest.dropWhile isDigit) else .error (.onNext .invalidNumber (c :: rest))

/-- Passes an exponent if one follows. -/
def skipScale : List Char → Except Fault (List Char)
  | 'e' :: rest => skipExponent rest
  | 'E' :: rest => skipExponent rest
  | rest => .ok rest

/-- Passes a number behind its sign. -/
def skipNumber (text : List Char) : Except Fault (List Char) :=
  match text with
  | [] => .error (.before .invalidNumber [])
  | c :: behind =>
    if !isDigit c then .error (.onNext .invalidNumber text)
    else if c = '0' ∧ (behind.head?.any isDigit) then .error (.onNext .invalidNumber behind)
    else
      match text.dropWhile isDigit with
      | '.' :: rest =>
        match rest with
        | [] => .error (.before .invalidNumber [])
        | d :: _ =>
          if isDigit d then skipScale (rest.dropWhile isDigit)
          else .error (.onNext .invalidNumber rest)
      | rest => skipScale rest

mutual

/-- Passes a value. -/
def skipValue : Nat → List Char → Except Fault (List Char)
  | 0, text => .error (.before .endInValue text)
  | fuel + 1, text =>
    match skipBlanks text with
    | [] => .error (.before .endInValue [])
    | 'n' :: rest => readWord "ull".toList rest
    | 't' :: rest => readWord "rue".toList rest
    | 'f' :: rest => readWord "alse".toList rest
    | '"' :: rest => (readChars false rest).map (·.2)
    | '-' :: rest => skipNumber rest
    | '[' :: rest =>
      match skipBlanks rest with
      | [] => .error (.before .endInList [])
      | ']' :: rest => .ok rest
      | rest => skipItems fuel rest
    | '\x7b' :: rest =>
      match skipBlanks rest with
      | '\x7d' :: rest => .ok rest
      | rest => skipMembers fuel rest
    | c :: rest =>
      if isDigit c then skipNumber (c :: rest) else .error (.onNext .expectedValue (c :: rest))

/-- Passes one item and those behind it. -/
def skipItems : Nat → List Char → Except Fault (List Char)
  | 0, text => .error (.before .endInList text)
  | fuel + 1, text => do
    let rest ← skipValue fuel text
    match skipBlanks rest with
    | [] => .error (.before .endInList [])
    | ']' :: rest => .ok rest
    | ',' :: rest => skipItems fuel rest
    | rest => .error (.onNext .expectedListComma rest)

/-- Passes one member and those behind it. -/
def skipMembers : Nat → List Char → Except Fault (List Char)
  | 0, text => .error (.before .endInObject text)
  | fuel + 1, text => do
    match skipBlanks text with
    | [] => .error (.before .endInObject [])
    | '"' :: rest =>
      let (_, rest) ← readChars false rest
      let rest ← readColon rest
      let rest ← skipValue fuel rest
      match skipBlanks rest with
      | [] => .error (.before .endInObject [])
      | '\x7d' :: rest => .ok rest
      | ',' :: rest => skipMembers fuel rest
      | rest => .error (.onNext .expectedObjectComma rest)
    | rest => .error (.onNext .keyNotString rest)

end

end Refactoring.Json
