import Refactoring.Number.Binary64

/-!
# Shortest decimals

The decimal with the fewest digits that rounds to a given floating-point number, and of those the
nearest one; a tie goes to the even digit.  For each number of digits the two neighbours of the
number on that decimal grid are tested against the interval of reals that round to the number.
-/

namespace Refactoring

/-- A decimal `digits * 10 ^ exponent`. -/
structure Decimal where
  digits : Nat
  exponent : Int
  deriving Repr, DecidableEq, Inhabited

namespace Decimal

/-- A power of two. -/
def twoTo (n : Nat) : Nat := Nat.pow 2 n

/-- A power of ten. -/
def tenTo (n : Nat) : Nat := Nat.pow 10 n

/-- The reals that round to a number, as fractions `_ / den`: from `low` to `high` around `mid`,
with the ends if `closed`. -/
structure Interval where
  low : Nat
  mid : Nat
  high : Nat
  den : Nat
  closed : Bool

/-- The reals that round to a finite number other than zero.  The gap below a power of two is half
the gap above it. -/
def Interval.of (x : Binary64) : Interval :=
  let m := x.mantissa
  let narrow := m == Binary64.leadingBit && 1 < x.exponent
  let scale := twoTo (x.exponent - 1077)
  ⟨(if narrow then 4 * m - 1 else 4 * m - 2) * scale, 4 * m * scale, (4 * m + 2) * scale,
    twoTo (1077 - x.exponent), m % 2 == 0⟩

/-- Whether `d * 10 ^ k` rounds to the number. -/
def Interval.holds (i : Interval) (d : Nat) (k : Int) : Bool :=
  let v := d * tenTo k.toNat * i.den
  let low := i.low * tenTo (-k).toNat
  let high := i.high * tenTo (-k).toNat
  if i.closed then low ≤ v && v ≤ high else low < v && v < high

/-- The largest grid point `d` of step `10 ^ k` with `d * 10 ^ k` at most the number. -/
def Interval.below (i : Interval) (k : Int) : Nat :=
  (i.mid * tenTo (-k).toNat) / (i.den * tenTo k.toNat)

/-- Whether twice the number is less than, equal to or greater than the sum of a grid point and
the next. -/
def Interval.half (i : Interval) (d : Nat) (k : Int) : Ordering :=
  compare (2 * i.mid * tenTo (-k).toNat) ((2 * d + 1) * tenTo k.toNat * i.den)

/-- The grid point of step `10 ^ k` that rounds to the number and is nearest to it, if any does. -/
def Interval.nearest? (i : Interval) (k : Int) : Option Nat :=
  let d := i.below k
  match i.holds d k, i.holds (d + 1) k with
  | true, true =>
    match i.half d k with
    | .lt => some d
    | .gt => some (d + 1)
    | .eq => some (if d % 2 = 0 then d else d + 1)
  | true, false => some d
  | false, true => some (d + 1)
  | false, false => none

/-- The power of ten of the number's first digit. -/
def Interval.magnitude (i : Interval) : Int :=
  let guess : Int := (Nat.toDigits 10 i.mid).length - (Nat.toDigits 10 i.den).length
  if i.below guess = 0 then guess - 1 else guess

/-- Drops zeros at the end of the digits. -/
def trimZeros : Nat → Nat → Int → Decimal
  | 0, d, k => ⟨d, k⟩
  | fuel + 1, d, k => if d % 10 = 0 ∧ d ≠ 0 then trimZeros fuel (d / 10) (k + 1) else ⟨d, k⟩

/-- The shortest decimal for the magnitude of a finite number. -/
def shortest (x : Binary64) : Decimal :=
  if x.mantissa = 0 then ⟨0, 0⟩
  else
    let i := Interval.of x
    let top := i.magnitude
    let found := (List.range 17).findSome? fun (n : Nat) =>
      (i.nearest? (top - (n : Int))).map fun d => trimZeros 18 d (top - (n : Int))
    found.getD ⟨i.below (top - 16), top - 16⟩

/-- The digits of a decimal as text. -/
def text (d : Decimal) : String := String.ofList (Nat.toDigits 10 d.digits)

end Decimal
end Refactoring
