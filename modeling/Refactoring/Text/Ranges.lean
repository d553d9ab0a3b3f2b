/-!
# Tables of code points

A property of characters is a table of ranges of code points, ends included, in ascending order.
-/

namespace Refactoring.Text

/-- Whether a code point lies in one of the ranges of a table. -/
def inRanges (ranges : Array (Nat × Nat)) (code : Nat) : Bool :=
  ranges.any fun (low, high) => low ≤ code && code ≤ high

/-- The value that a table gives a code point. -/
def valueIn? {α : Type} (ranges : Array (Nat × Nat × α)) (code : Nat) : Option α :=
  (ranges.find? fun (low, high, _) => low ≤ code && code ≤ high).map (·.2.2)

end Refactoring.Text
