/-!
# Positions in a text

A position names a place in a text by line and column.  Columns and offsets count UTF-16 code
units.  A line ends at a line feed, at a carriage return, or at the two together.

`positionAt` goes from an offset to a position and rounds down to a whole character; `locate` goes
back, rounds up, and also finds the byte index.  Both walk the text with the same cursor step
`Position.after`.
-/

namespace Refactoring

/-- The number of UTF-16 code units of a character: two outside the basic plane. -/
def units (c : Char) : Nat := if c.val < 0x10000 then 1 else 2

/-- The number of UTF-16 code units of a text. -/
def units16 : List Char → Nat
  | [] => 0
  | c :: rest => units c + units16 rest

/-- The number of bytes of a text in UTF-8. -/
def bytes8 : List Char → Nat
  | [] => 0
  | c :: rest => c.utf8Size + bytes8 rest

/-- The units of two texts add up. -/
@[simp] theorem units16_append (front back : List Char) :
    units16 (front ++ back) = units16 front + units16 back := by
  induction front with
  | nil => simp [units16]
  | cons c rest ih => simp [units16, ih, Nat.add_assoc]

/-- The bytes of two texts add up. -/
@[simp] theorem bytes8_append (front back : List Char) :
    bytes8 (front ++ back) = bytes8 front + bytes8 back := by
  induction front with
  | nil => simp [bytes8]
  | cons c rest ih => simp [bytes8, ih, Nat.add_assoc]

/-- A zero-based line and a column in UTF-16 code units. -/
structure Position where
  line : Nat
  character : Nat
  deriving Repr, DecidableEq, Inhabited

/-- The text between two positions; an end before the start counts as the start. -/
structure Range where
  start : Position
  stop : Position
  deriving Repr, DecidableEq, Inhabited

/-- Both characters that can end a line. -/
def isLineBreak (c : Char) : Bool := c == '\n' || c == '\r'

/-- Whether `c`, with `next` behind it, completes a line.  A carriage return before a line feed
leaves that to the line feed. -/
def endsLine (c : Char) (next : Option Char) : Bool :=
  c == '\n' || (c == '\r' && next != some '\n')

namespace Position

/-- The beginning of a text. -/
def origin : Position := ⟨0, 0⟩

/-- Where the cursor stands once it has passed `c`, when `next` follows.  The carriage return of a
pair has no width. -/
def after (p : Position) (c : Char) (next : Option Char) : Position :=
  if endsLine c next then ⟨p.line + 1, 0⟩
  else if c == '\r' then p
  else ⟨p.line, p.character + units c⟩

/-- The earlier line first, then the smaller column. -/
def le (p q : Position) : Prop := p.line < q.line ∨ (p.line = q.line ∧ p.character ≤ q.character)

instance : LE Position := ⟨le⟩

end Position

namespace Text

/-- Passes whole characters while `budget` units last, starting at `p`. -/
def advance : List Char → Nat → Position → Position
  | [], _, p => p
  | c :: rest, budget, p =>
    if units c > budget then p else advance rest (budget - units c) (p.after c rest.head?)

/-- The position of an offset; past the end it is the end of the text. -/
def positionAt (text : List Char) (offset : Nat) : Position :=
  advance text offset .origin

/-- A place in a text by both of its measures. -/
structure Located where
  utf16 : Nat
  byte : Nat
  deriving Repr, DecidableEq, Inhabited

/-- The place one character further on. -/
def Located.after (here : Located) (c : Char) : Located :=
  ⟨here.utf16 + units c, here.byte + c.utf8Size⟩

/-- Walks from the cursor `p` at the place `here` until `target` is reached or its line ends. -/
def seek (target : Position) : List Char → Position → Located → Located
  | [], _, here => here
  | c :: rest, p, here =>
    if p.line = target.line ∧ (target.character ≤ p.character ∨ isLineBreak c) then here
    else seek target rest (p.after c rest.head?) (here.after c)

/-- The place of a position, held back at the end of its line and at the end of the text. -/
def locate (text : List Char) (target : Position) : Located :=
  seek target text .origin ⟨0, 0⟩

/-- The UTF-16 offset of a position. -/
def offsetAt (text : List Char) (target : Position) : Nat := (locate text target).utf16

/-- Nothing follows the end of a text. -/
@[simp] theorem positionAt_nil (offset : Nat) : positionAt [] offset = .origin := rfl

/-- The beginning of every text is at the origin. -/
@[simp] theorem positionAt_zero (text : List Char) : positionAt text 0 = .origin := by
  cases text with
  | nil => rfl
  | cons c rest =>
    have : 0 < units c := by unfold units; split <;> decide
    simp [positionAt, advance, this]

end Text
end Refactoring
