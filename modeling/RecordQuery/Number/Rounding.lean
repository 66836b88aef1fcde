/-!
# Rounding to a binary format

A non-negative quotient is rounded to the nearest number `significand * 2 ^ exponent` that a
binary floating-point format holds, a tie going to the even significand. All arithmetic is exact,
on natural numbers.

* `roundDiv` rounds a quotient to an integer, and `roundDiv_near` puts it within half a unit.
* `Format.round` chooses the exponent at which the quotient has the format's precision.
-/

namespace RecordQuery.Number

/-- The magnitude `significand * 2 ^ exponent`. -/
structure Magnitude where
  significand : Nat
  exponent : Int
deriving DecidableEq, Repr

namespace Magnitude

/-- Numerator of the magnitude as a quotient of naturals. -/
def numerator (x : Magnitude) : Nat := x.significand * Nat.pow 2 x.exponent.toNat

/-- Denominator of the magnitude as a quotient of naturals, a power of two. -/
def denominator (x : Magnitude) : Nat := Nat.pow 2 (-x.exponent).toNat

end Magnitude

/-- The quotient `num / den` rounded to the nearest integer, a tie going to the even one. -/
def roundDiv (num den : Nat) : Nat :=
  let q := num / den
  let twice := 2 * (num % den)
  if twice < den || (twice == den && q % 2 == 0) then q else q + 1

/-- The rounded quotient lies within half a unit of the exact one. -/
theorem roundDiv_near (num den : Nat) (h : 0 < den) :
    2 * (roundDiv num den * den) ≤ 2 * num + den ∧ 2 * num ≤ 2 * (roundDiv num den * den) + den := by
  have hdiv : den * (num / den) + num % den = num := Nat.div_add_mod num den
  have hlt : num % den < den := Nat.mod_lt _ h
  have hmul : num / den * den = den * (num / den) := Nat.mul_comm ..
  have hsucc : (num / den + 1) * den = den * (num / den) + den := by
    rw [Nat.add_mul, Nat.one_mul, Nat.mul_comm]
  simp only [roundDiv]
  split
  · rename_i hc
    simp only [Bool.or_eq_true, decide_eq_true_eq, Bool.and_eq_true, beq_iff_eq] at hc
    rcases hc with hc | ⟨hc, _⟩ <;> omega
  · rename_i hc
    simp only [Bool.or_eq_true, decide_eq_true_eq, Bool.and_eq_true, beq_iff_eq, not_or] at hc
    omega

structure Format where
  /-- Number of bits of a full significand. -/
  precision : Nat
  /-- Exponent of the unit in which the least magnitudes are counted. -/
  leastExponent : Int
  /-- No finite magnitude reaches two to this power. -/
  overflowExponent : Nat

namespace Format

def double : Format := ⟨53, -1074, 1024⟩

def single : Format := ⟨24, -149, 128⟩

/-- The exponent of the leading bit of `num / den`, for positive `num` and `den`. -/
def leadingExponent (num den : Nat) : Int :=
  let e : Int := (num.log2 : Int) - (den.log2 : Int)
  if den * Nat.pow 2 e.toNat ≤ num * Nat.pow 2 (-e).toNat then e else e - 1

/-- The magnitude of the format nearest to `num / den`, a tie going to the even significand.
The result is not bounded above. -/
def round (fmt : Format) (num den : Nat) : Magnitude :=
  let exponent := max (leadingExponent num den - (fmt.precision - 1)) fmt.leastExponent
  ⟨roundDiv (num * Nat.pow 2 (-exponent).toNat) (den * Nat.pow 2 exponent.toNat), exponent⟩

/-- A magnitude too large to be finite in the format. -/
def overflows (fmt : Format) (x : Magnitude) : Bool :=
  Nat.pow 2 fmt.overflowExponent * x.denominator ≤ x.numerator

end Format

end RecordQuery.Number
