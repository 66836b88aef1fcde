import RecordQuery.Number.Binary64

/-!
# Decimal numbers

A decimal magnitude `digits * 10 ^ exponent`, the text of one, and the two directions between
decimals and double-precision numbers.

* `Decimal.shortest` picks, among the decimals that round to a given finite number, one with the
  fewest digits, and of those the nearest.
* `Binary64.ofText?` reads a decimal text, rounded once.
-/

namespace RecordQuery.Number

/-- The magnitude `digits * 10 ^ exponent`. -/
structure Decimal where
  digits : Nat
  exponent : Int
deriving DecidableEq, Repr

namespace Decimal

/-- Numerator of the decimal as a quotient of naturals. -/
def numerator (d : Decimal) : Nat := d.digits * Nat.pow 10 d.exponent.toNat

/-- Denominator of the decimal as a quotient of naturals, a power of ten. -/
def denominator (d : Decimal) : Nat := Nat.pow 10 (-d.exponent).toNat

/-- The decimal digits of a natural number, most significant first. -/
def digitChars (n : Nat) : List Char := Nat.toDigits 10 n

def length (n : Nat) : Nat := (digitChars n).length

/-- Moves the zeros at the end of the digits into the exponent. -/
def stripZeros (d : Decimal) : Decimal :=
  let zeros := ((digitChars d.digits).reverse.takeWhile (· == '0')).length
  if d.digits == 0 then d else ⟨d.digits / Nat.pow 10 zeros, d.exponent + zeros⟩

/-! ## The fewest digits -/

/-- Which of two equally near decimals of the same length is taken. -/
inductive Tie where
  | toEven
  | up

/-- The reals between `lower` and `upper`, both counted in quarters of the unit of `x`, are those
that round to `x`. -/
structure RoundingInterval where
  lower : Nat
  upper : Nat
  exponent : Int
  /-- The ends belong to the interval when the significand is even. -/
  closed : Bool

/-- The interval of the reals that round to a finite positive number. -/
def roundingInterval (x : Binary64) : RoundingInterval :=
  let m := x.magnitude
  { lower := 4 * m.significand - if x.hasNarrowGapBelow then 1 else 2
    upper := 4 * m.significand + 2
    exponent := m.exponent - 2
    closed := m.significand % 2 == 0 }

/-- Compares a decimal with `significand * 2 ^ exponent`, exactly. -/
def compareBinary (d : Decimal) (x : Magnitude) : Ordering :=
  compare (d.numerator * x.denominator) (x.numerator * d.denominator)

def readsBack (d : Decimal) (i : RoundingInterval) : Bool :=
  let low := d.compareBinary ⟨i.lower, i.exponent⟩
  let high := d.compareBinary ⟨i.upper, i.exponent⟩
  (low == .gt || (i.closed && low == .eq)) && (high == .lt || (i.closed && high == .eq))

/-- The exponent of the leading decimal digit of `num / den`, for positive `num` and `den`. -/
def leadingExponent (num den : Nat) : Int :=
  if den ≤ num then (length (num / den) : Int) - 1
  else -(length ((den - 1) / num) : Int)

/-- The neighbour of `x` on the grid of multiples of `10 ^ exponent` that reads back as `x`: the
nearer one if both do. -/
def onGrid? (tie : Tie) (x : Binary64) (exponent : Int) : Option Decimal :=
  let m := x.magnitude
  -- The magnitude, counted in units of the grid.
  let num := m.numerator * Nat.pow 10 (-exponent).toNat
  let den := m.denominator * Nat.pow 10 exponent.toNat
  let below : Decimal := ⟨num / den, exponent⟩
  let above : Decimal := ⟨num / den + 1, exponent⟩
  let interval := roundingInterval x
  match below.readsBack interval, above.readsBack interval with
  | false, false => none
  | true, false => some below
  | false, true => some above
  | true, true =>
    match compare (2 * (num % den)) den, tie with
    | .lt, _ => some below
    | .gt, _ => some above
    | .eq, .up => some above
    | .eq, .toEven => some (if below.digits % 2 == 0 then below else above)

/-- The decimal with the fewest digits that reads back as the finite number `x`. Seventeen digits
always suffice; the exact value stands behind them. -/
def shortest (tie : Tie) (x : Binary64) : Decimal :=
  if x.isZero then ⟨0, 0⟩
  else
    let m := x.magnitude
    let lead := leadingExponent m.numerator m.denominator
    match (List.range 17).findSome? fun (k : Nat) => onGrid? tie x (lead - k) with
    | some d => d.stripZeros
    | none =>
      let digits := m.significand * Nat.pow 2 m.exponent.toNat * Nat.pow 5 (-m.exponent).toNat
      stripZeros ⟨digits, min m.exponent 0⟩

/-! ## Reading -/

/-- Reads `digits`, an optional `.` with further digits, and an optional exponent: at least one
digit in all, and at least one in an exponent that is announced. -/
def ofChars? (cs : List Char) : Option Decimal :=
  let whole := cs.takeWhile Char.isDigit
  let rest := cs.dropWhile Char.isDigit
  let (fraction, rest) := match rest with
    | '.' :: r => (r.takeWhile Char.isDigit, r.dropWhile Char.isDigit)
    | r => ([], r)
  let digits := Nat.ofDigitChars 10 (whole ++ fraction) 0
  let exponent? : Option Int := match rest with
    | [] => some 0
    | c :: r =>
      let (negative, ds) := match r with
        | '-' :: ds => (true, ds)
        | '+' :: ds => (false, ds)
        | ds => (false, ds)
      let value : Int := Nat.ofDigitChars 10 ds 0
      if (c == 'e' || c == 'E') && !ds.isEmpty && ds.all Char.isDigit then
        some (if negative then -value else value)
      else none
  if (whole ++ fraction).isEmpty then none
  else exponent?.map fun e => ⟨digits, e - fraction.length⟩

/-! ## Rounding -/

/-- The exponent of the leading digit of a decimal other than zero. -/
def lead (d : Decimal) : Int := d.exponent + length d.digits - 1

/-- No format used here has a number above zero and below `10 ^ (-400)`, or a finite one above
`10 ^ 400`. -/
def farExponent : Int := 400

/-- The number nearest to a decimal, `nearest` taking a quotient. What is too small or too large for
every format is settled by its exponent, and its power of ten never written out. -/
def roundBy (nearest : Bool → Nat → Nat → Binary64) (negative : Bool) (d : Decimal) : Binary64 :=
  if d.digits == 0 || d.lead < -farExponent then Binary64.zero negative
  else if farExponent < d.lead then Binary64.infinity negative
  else nearest negative d.numerator d.denominator

end Decimal

/-! ## Numbers from decimal text -/

/-- Reads a signed decimal, `inf` or `NaN`; `nearest` takes a quotient to a number. -/
def readDecimal? (nearest : Bool → Nat → Nat → Binary64) (text : String) : Option Binary64 :=
  let (negative, body) := match text.toList with
    | '-' :: r => (true, r)
    | '+' :: r => (false, r)
    | r => (false, r)
  match String.ofList (body.map Char.toLower) with
  | "inf" | "infinity" => some (Binary64.infinity negative)
  | "nan" => some Binary64.nan
  | _ => (Decimal.ofChars? body).map (Decimal.roundBy nearest negative)

def Binary64.ofText? (text : String) : Option Binary64 :=
  readDecimal? Binary64.ofQuotient text

/-- The single-precision number nearest to a decimal text, widened. -/
def Binary64.ofSingleText? (text : String) : Option Binary64 :=
  readDecimal? Binary64.ofQuotientViaSingle text

end RecordQuery.Number
