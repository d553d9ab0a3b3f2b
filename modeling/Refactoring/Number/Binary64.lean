/-!
# Binary floating-point numbers

A number of the 64-bit format, kept as its bits, so that two are equal exactly when they are the
same number.  Arithmetic goes through `Float`.
-/

namespace Refactoring

/-- A 64-bit floating-point number. -/
structure Binary64 where
  bits : UInt64
  deriving DecidableEq, Repr, Inhabited

namespace Binary64

/-- The number that arithmetic yields. -/
def ofFloat (x : Float) : Binary64 := ⟨x.toBits⟩

/-- The number as arithmetic takes it. -/
def toFloat (x : Binary64) : Float := Float.ofBits x.bits

/-- The sign bit is set. -/
def isNegative (x : Binary64) : Bool := x.bits >>> 63 == 1

/-- The eleven exponent bits. -/
def exponentField (x : Binary64) : Nat := ((x.bits >>> 52) &&& 0x7FF).toNat

/-- The fifty-two bits behind the point. -/
def fractionField (x : Binary64) : Nat := (x.bits &&& 0xFFFFFFFFFFFFF).toNat

/-- The weight of the bit in front of the point, which is not kept: two to the fifty-second. -/
def leadingBit : Nat := 4503599627370496

/-- The magnitude of a finite number is `mantissa * 2 ^ (exponent - 1075)`. -/
def mantissa (x : Binary64) : Nat :=
  if x.exponentField = 0 then x.fractionField else leadingBit + x.fractionField

/-- The binary exponent that goes with `mantissa`, shifted to be a natural number. -/
def exponent (x : Binary64) : Nat := max x.exponentField 1

end Binary64
end Refactoring
