/-!
# Punycode

A label of a domain that has characters outside ASCII is written with the plain characters first and
then, for each other character, how far the decoder has to count to insert it: numbers in base 36
with digits of adapting weight.
-/

namespace Refactoring.Uri.Punycode

/-- The digit of a value below 36: letters first. -/
def digit (value : Nat) : Char :=
  if value < 26 then Char.ofNat (97 + value) else Char.ofNat (22 + value)

/-- The least weight of a digit at position `k`. -/
def threshold (k bias : Nat) : Nat := min 26 (max 1 (k - bias))

/-- Reduces a count until it fits, and says by how many positions. -/
def reduce : Nat → Nat → Nat → Nat × Nat
  | 0, delta, k => (delta, k)
  | fuel + 1, delta, k => if delta > 455 then reduce fuel (delta / 35) (k + 36) else (delta, k)

/-- The bias after a count has been written. -/
def adapt (delta count : Nat) (first : Bool) : Nat :=
  let delta := if first then delta / 700 else delta / 2
  let (delta, k) := reduce 32 (delta + delta / count) 0
  k + 36 * delta / (delta + 38)

/-- A count as digits from position `k` on. -/
def countDigits : Nat → Nat → Nat → Nat → List Char
  | 0, _, _, _ => []
  | fuel + 1, bias, k, q =>
    let t := threshold k bias
    if q < t then [digit q]
    else digit (t + (q - t) % (36 - t)) :: countDigits fuel bias (k + 36) ((q - t) / (36 - t))

/-- The state of the encoder while it inserts one code point after the other. -/
structure Progress where
  delta : Nat
  bias : Nat
  handled : Nat
  output : List Char

/-- Counts past the characters below `code` and writes a count at each `code`. -/
def insertAll (code plain : Nat) (input : List Nat) (p : Progress) : Progress :=
  input.foldl (fun p c =>
    if c < code then { p with delta := p.delta + 1 }
    else if c = code then
      { delta := 0, bias := adapt p.delta (p.handled + 1) (p.handled == plain),
        handled := p.handled + 1, output := p.output ++ countDigits 32 p.bias 36 p.delta }
    else p) p

/-- Inserts all code points from `least` on, in ascending order. -/
def insertFrom : Nat → Nat → Nat → List Nat → Progress → Progress
  | 0, _, _, _, p => p
  | fuel + 1, least, plain, input, p =>
    match (input.filter (least ≤ ·)).min? with
    | none => p
    | some code =>
      let p := insertAll code plain input
        { p with delta := p.delta + (code - least) * (p.handled + 1) }
      insertFrom fuel (code + 1) plain input { p with delta := p.delta + 1 }

/-- The encoded form of a label. -/
def encode (label : List Char) : List Char :=
  let plain := label.filter (·.toNat < 128)
  let input := label.map Char.toNat
  let start : Progress :=
    ⟨0, 72, plain.length, if plain.isEmpty then [] else plain ++ ['-']⟩
  (insertFrom label.length 128 plain.length input start).output

/-! ### Decoding -/

/-- The value of a digit in either case. -/
def digitValue? (c : Char) : Option Nat :=
  if 'a' ≤ c ∧ c ≤ 'z' then some (c.toNat - 97)
  else if 'A' ≤ c ∧ c ≤ 'Z' then some (c.toNat - 65)
  else if '0' ≤ c ∧ c ≤ '9' then some (c.toNat - 22)
  else none

/-- The state of the decoder: where it stands and since when, and the number it is reading. -/
structure Reading where
  code : Nat
  position : Nat
  /-- The position at which the number began. -/
  start : Nat
  bias : Nat
  weight : Nat
  k : Nat
  output : List Char

/-- The state in which a number begins. -/
def Reading.atNumber (code position bias : Nat) (output : List Char) : Reading :=
  ⟨code, position, position, bias, 1, 36, output⟩

/-- A number beyond this is no position. -/
def positionLimit : Nat := UInt32.size

/-- Reads one number after the other and inserts a character for each. -/
def decodeFrom (r : Reading) : List Char → Option (List Char)
  | [] => if r.weight = 1 then some r.output else none
  | c :: rest => do
    let value ← digitValue? c
    let position := r.position + value * r.weight
    guard (position < positionLimit)
    let t := threshold r.k r.bias
    if value < t then
      let count := r.output.length + 1
      let code := r.code + position / count
      guard code.isValidChar
      let place := position % count
      decodeFrom
        (.atNumber code (place + 1) (adapt (position - r.start) count (r.start == 0))
          (r.output.insertIdx place (Char.ofNat code))) rest
    else
      decodeFrom
        { r with position := position, weight := r.weight * (36 - t), k := r.k + 36 } rest

/-- The label of an encoded form. -/
def decode? (text : List Char) : Option (List Char) :=
  let numbers := (text.reverse.takeWhile (· ≠ '-')).reverse
  let plain := (text.take (text.length - numbers.length)).dropLast
  if plain.isEmpty then decodeFrom (.atNumber 128 0 72 []) text
  else decodeFrom (.atNumber 128 0 72 plain) numbers

/-- A label with one letter outside ASCII. -/
example : encode "bücher".toList = "bcher-kva".toList := by decide +kernel

/-- The same label read back. -/
example : decode? "bcher-kva".toList = some "bücher".toList := by decide +kernel

/-- A number that ends too early. -/
example : decode? "a".toList = some "".toList ∧ decode? "z".toList = none := by decide +kernel

end Refactoring.Uri.Punycode
