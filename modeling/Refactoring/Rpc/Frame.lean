import Refactoring.Text.Blank
import Refactoring.Text.Utf8

/-!
# Frames

Messages travel in frames: a block of header lines, a blank line, and as many bytes as the header
`Content-Length` says.  `Frame.write` writes a frame and `Frame.read` takes one off a stream;
whatever the outcome, reading goes on behind what it consumed.  `Frame.missing` says how much of a
frame is still to come.
-/

namespace Refactoring

/-- Why no frame could be read. -/
inductive Frame.Fault where
  /-- The stream ended before the blank line. -/
  | closed
  /-- A header line is no text. -/
  | header (fault : Utf8.Fault)
  | noLength
  | lengthDigit
  | lengthTooLarge
  /-- No body in memory has the length. -/
  | bodyTooLarge
  /-- The stream ended inside the body. -/
  | cut
  /-- The body is no text. -/
  | body (fault : Utf8.Fault)
  deriving Repr, DecidableEq

/-- The wording of a fault. -/
def Frame.Fault.message : Frame.Fault → String
  | .closed => "Connection closed by language server"
  | .header fault => fault.message
  | .noLength => "Missing Content-Length header"
  | .lengthDigit => "invalid digit found in string"
  | .lengthTooLarge => "number too large to fit in target type"
  | .bodyTooLarge => "capacity overflow"
  | .cut => "early eof"
  | .body fault => fault.message

namespace Frame

/-- A stream of bytes that has ended or will end. -/
abbrev Stream := List UInt8

/-- The most bytes that a body in memory can have.  Memory is taken to last that far. -/
def longestBody : Nat := UInt64.size / 2 - 1

/-- The bytes of a frame. -/
def write (content : String) : Stream :=
  let body := Utf8.encode content
  Utf8.encode s!"Content-Length: {body.length}\r\n\r\n" ++ body

/-- The first line with its line feed, and what follows. -/
def cutLine : Stream → Stream × Stream
  | [] => ([], [])
  | b :: rest => if b = 10 then ([b], rest) else (b :: (cutLine rest).1, (cutLine rest).2)

/-- A line and what follows make up the stream. -/
theorem cutLine_append (s : Stream) : (cutLine s).1 ++ (cutLine s).2 = s := by
  induction s with
  | nil => rfl
  | cons b rest ih =>
    unfold cutLine
    split
    · rfl
    · simp [ih]

/-- A line takes at least one byte. -/
theorem length_cutLine_lt (b : UInt8) (rest : Stream) :
    (cutLine (b :: rest)).2.length < (b :: rest).length := by
  induction rest generalizing b with
  | nil => unfold cutLine; split <;> simp [cutLine]
  | cons c rest ih =>
    unfold cutLine
    split
    · simp
    · have := ih c
      simp only [List.length_cons] at *
      omega

/-- The bytes as a text, or the place where they are none. -/
def decode (bytes : Stream) : Except Utf8.Fault String :=
  match Utf8.decode? bytes with
  | some text => .ok text
  | none => .error ((Utf8.firstFault? bytes).getD ⟨0, none⟩)

/-- The digits of a length; the number must fit into 64 bits. -/
def parseDigits : Nat → List Char → Except Fault Nat
  | n, [] => .ok n
  | n, c :: rest =>
    if c < '0' ∨ '9' < c then .error .lengthDigit
    else
      let next := 10 * n + (c.toNat - 48)
      if next < UInt64.size then parseDigits next rest else .error .lengthTooLarge

/-- A length with an optional plus sign. -/
def parseLength (text : List Char) : Except Fault Nat :=
  match text with
  | '+' :: c :: rest => parseDigits 0 (c :: rest)
  | [] => .error .lengthDigit
  | _ => parseDigits 0 text

/-- The value that a header line gives for the length, if it does. -/
def lengthIn (line : String) : Option (List Char) :=
  match Text.splitOnce ": ".toList (Text.trim line.toList) with
  | some (key, value) =>
    if key.map Char.toLower = "content-length".toList then some value else none
  | none => none

/-- Reads header lines up to the blank one; the last length given counts. -/
def readHeader (found : Option (List Char)) : Stream → Except Fault (Option (List Char)) × Stream
  | [] => (.error .closed, [])
  | b :: rest =>
    let line := (cutLine (b :: rest)).1
    let behind := (cutLine (b :: rest)).2
    match decode line with
    | .error fault => (.error (.header fault), behind)
    | .ok text =>
      if (Text.trim text.toList).isEmpty then (.ok found, behind)
      else readHeader ((lengthIn text).or found) behind
termination_by stream => stream.length
decreasing_by exact length_cutLine_lt b rest

/-- Reads a body of the given length; nothing is read for one that is too large. -/
def readBody (length : Nat) (stream : Stream) : Except Fault String × Stream :=
  if longestBody < length then (.error .bodyTooLarge, stream)
  else if stream.length < length then (.error .cut, [])
  else ((decode (stream.take length)).mapError .body, stream.drop length)

/-- Takes one frame off a stream: its content or why there is none, and the rest of the stream. -/
def read (stream : Stream) : Except Fault String × Stream :=
  match readHeader none stream with
  | (.error fault, rest) => (.error fault, rest)
  | (.ok none, rest) => (.error .noLength, rest)
  | (.ok (some digits), rest) =>
    match parseLength digits with
    | .error fault => (.error fault, rest)
    | .ok length => readBody length rest

/-- Whether a header has come in as far as it matters: up to the blank line, or up to a line that is
no text. -/
def headerArrived : Stream → Bool
  | [] => false
  | b :: rest =>
    let line := (cutLine (b :: rest)).1
    if line.getLast? ≠ some 10 then false
    else
      match decode line with
      | .error _ => true
      | .ok text => (Text.trim text.toList).isEmpty || headerArrived (cutLine (b :: rest)).2
termination_by stream => stream.length
decreasing_by exact length_cutLine_lt b rest

/-- How many bytes have to come in, at least, before the next frame is decided. -/
def missing (stream : Stream) : Nat :=
  if !headerArrived stream then 1
  else
    match readHeader none stream with
    | (.ok (some digits), rest) =>
      match parseLength digits with
      | .ok length => if longestBody < length then 0 else length - rest.length
      | .error _ => 0
    | _ => 0

/-- Takes several frames off a stream, going on after a fault. -/
def readMany : Nat → Stream → List (Except Fault String)
  | 0, _ => []
  | n + 1, stream => (read stream).1 :: readMany n (read stream).2

end Frame
end Refactoring
