import RecordQuery.Number.Decimal

/-!
# Layout of decimal digits

Which digits a number is written with is settled by `Decimal.shortest`; a `Notation` holds what is
left to decide for a text format: where positional notation ends, whether an integral number keeps
its point, and which of two equally near decimals is written.
-/

namespace RecordQuery.Number

/-- The decisions of a text format about the digits of a finite number. -/
structure Notation where
  /-- The exponents of the leading digit for which the number is written positionally. -/
  isPositional : Int → Bool
  /-- An integral number written positionally ends in `.0`. -/
  keepsPoint : Bool
  tie : Decimal.Tie

namespace Notation

/-- Every digit at its place, as in filter texts: no exponent, and no point after an integer. -/
def plain : Notation := ⟨fun _ => true, false, .up⟩

/-- As in JSON text: positional from `1e-5` up to below `1e16`, always with a point. -/
def json : Notation := ⟨fun e => -5 ≤ e && e < 16, true, .toEven⟩

/-- Digits at their places, for a decimal whose leading digit has the exponent `lead`. -/
def positional (keepsPoint : Bool) (digits : List Char) (lead : Int) : List Char :=
  if lead < 0 then
    "0.".toList ++ List.replicate (-lead - 1).toNat '0' ++ digits
  else
    let width := lead.toNat + 1
    if width < digits.length then digits.take width ++ '.' :: digits.drop width
    else
      digits ++ List.replicate (width - digits.length) '0' ++ if keepsPoint then ".0".toList else []

/-- One digit, the others behind a point, and the exponent with its sign. -/
def scientific (digits : List Char) (lead : Int) : List Char :=
  let mantissa := match digits with
    | d :: rest@(_ :: _) => d :: '.' :: rest
    | ds => ds
  let sign := if lead < 0 then '-' else '+'
  mantissa ++ 'e' :: sign :: Decimal.digitChars lead.natAbs

def text (style : Notation) (x : Binary64) : String :=
  let d := Decimal.shortest style.tie x
  let digits := Decimal.digitChars d.digits
  let lead : Int := d.exponent + digits.length - 1
  let body :=
    if style.isPositional lead then positional style.keepsPoint digits lead
    else scientific digits lead
  String.ofList (if x.isNegative then '-' :: body else body)

/-- The text of any number, in filter texts. -/
def plainText (x : Binary64) : String :=
  if x.isNaN then "NaN"
  else if x.isFinite then plain.text x
  else if x.isNegative then "-inf" else "inf"

end Notation

end RecordQuery.Number
