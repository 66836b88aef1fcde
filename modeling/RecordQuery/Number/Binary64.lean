import RecordQuery.Number.Rounding

/-!
# Double-precision numbers

A double-precision number is its 64 bits, so that the two zeros and the many NaNs stay apart and
equality is decidable. Arithmetic goes through the exact magnitude and one rounding.
-/

namespace RecordQuery.Number

/-- A double-precision number, by its bits: a sign, eleven bits of exponent, and 52 of fraction. -/
structure Binary64 where
  bits : UInt64
deriving DecidableEq, Repr

namespace Binary64

def isNegative (x : Binary64) : Bool := (x.bits >>> 63) == 1

def exponentBits (x : Binary64) : Nat := ((x.bits >>> 52) &&& 0x7FF).toNat

def fractionBits (x : Binary64) : Nat := (x.bits &&& 0xFFFFFFFFFFFFF).toNat

/-- All exponent bits set marks the infinities and the NaNs. -/
def isFinite (x : Binary64) : Bool := x.exponentBits != 0x7FF

def isNaN (x : Binary64) : Bool := !x.isFinite && x.fractionBits != 0

def isZero (x : Binary64) : Bool := x.exponentBits == 0 && x.fractionBits == 0

/-- The magnitude of a finite number: without a leading bit when all exponent bits are clear. -/
def magnitude (x : Binary64) : Magnitude :=
  if x.exponentBits == 0 then ⟨x.fractionBits, -1074⟩
  else ⟨0x10000000000000 + x.fractionBits, (x.exponentBits : Int) - 1075⟩

/-- The gap to the next smaller magnitude is half the gap to the next larger one. -/
def hasNarrowGapBelow (x : Binary64) : Bool := x.fractionBits == 0 && x.exponentBits > 1

/-- The sign bit set over the bits of a magnitude. -/
def withSign (negative : Bool) (magnitudeBits : Nat) : Binary64 :=
  ⟨UInt64.ofNat (magnitudeBits + if negative then 0x8000000000000000 else 0)⟩

def zero (negative : Bool) : Binary64 := withSign negative 0

def infinity (negative : Bool) : Binary64 := withSign negative 0x7FF0000000000000

/-- The quiet NaN. -/
def nan : Binary64 := withSign false 0x7FF8000000000000

/-- The number of the given sign nearest to `num / den`. Neighbouring magnitudes have
neighbouring bits: the exponent counts binades of `2 ^ 52` numbers each, and a significand with its
leading bit set steps into the next one. -/
def ofQuotient (negative : Bool) (num den : Nat) : Binary64 :=
  if num == 0 then zero negative
  else
    let x := Format.double.round num den
    if Format.double.overflows x then infinity negative
    else withSign negative ((x.exponent + 1074).toNat * 0x10000000000000 + x.significand)

def ofNat (n : Nat) : Binary64 := ofQuotient false n 1

def ofInt (n : Int) : Binary64 := ofQuotient (n < 0) n.natAbs 1

/-- The number of the same magnitude and the other sign. -/
def neg (x : Binary64) : Binary64 := ⟨x.bits ^^^ 0x8000000000000000⟩

def mul (x y : Binary64) : Binary64 :=
  ofQuotient (x.isNegative != y.isNegative)
    (x.magnitude.numerator * y.magnitude.numerator)
    (x.magnitude.denominator * y.magnitude.denominator)

/-- The rounded quotient of two finite numbers, the second one not zero. -/
def div (x y : Binary64) : Binary64 :=
  ofQuotient (x.isNegative != y.isNegative)
    (x.magnitude.numerator * y.magnitude.denominator)
    (x.magnitude.denominator * y.magnitude.numerator)

/-- Reads a number that was first rounded to single precision, and is exact from there on. -/
def ofQuotientViaSingle (negative : Bool) (num den : Nat) : Binary64 :=
  if num == 0 then zero negative
  else
    let x := Format.single.round num den
    if Format.single.overflows x then infinity negative
    else ofQuotient negative x.numerator x.denominator

end Binary64

end RecordQuery.Number
