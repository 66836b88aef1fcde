import RecordQuery.Json.Basic
import RecordQuery.Json.Cursor

/-!
# Numbers in JSON text

An integer that 64 bits hold stays an integer; every other number becomes a double-precision
number. Its digits are gathered in an unsigned word for as long as they fit, and the word, rounded
to double precision, is scaled by powers of ten, each step rounded. A number too large to be finite
is a fault.
-/

namespace RecordQuery.Json

open RecordQuery.Number (Binary64)

def digitValue (c : Char) : Nat := c.toNat - '0'.toNat

/-- Appends digits to a number for as long as it stays within `limit`: the number reached, and how
many digits went into it. -/
def gatherDigits (limit : Nat) : Nat → List Char → Nat × Nat
  | value, [] => (value, 0)
  | value, c :: rest =>
    let longer := 10 * value + digitValue c
    if longer ≤ limit then
      let (result, taken) := gatherDigits limit longer rest
      (result, taken + 1)
    else (value, 0)

/-! ## Scaling by powers of ten -/

/-- The double-precision number nearest to a power of ten. -/
def powerOfTen (n : Nat) : Binary64 := Binary64.ofNat (Nat.pow 10 n)

/-- The largest power of ten that is finite in double precision. -/
def largestPower : Nat := 308

/-- Divides by `10 ^ n`, by at most the largest power at a time. -/
def scaleDown (x : Binary64) (n : Nat) : Binary64 :=
  if n ≤ largestPower then x.div (powerOfTen n)
  else if x.isZero then x
  else scaleDown (x.div (powerOfTen largestPower)) (n - largestPower)
termination_by n
decreasing_by simp only [largestPower] at *; omega

/-- Scales by a power of ten; `none` when the result is not finite. -/
def scale? (x : Binary64) (exponent : Int) : Option Binary64 :=
  if exponent < 0 then some (scaleDown x exponent.natAbs)
  else if exponent ≤ largestPower then
    let y := x.mul (powerOfTen exponent.toNat)
    if y.isFinite then some y else none
  else if x.isZero then some x
  else none

namespace Reader

/-- The digits that have to stand at the cursor. -/
def digits : Reader (List Char) := do
  match ← peek with
  | none => failHere .endOfValue
  | some c => if c.isDigit then takeWhile Char.isDigit else failNext .invalidNumber

/-- The digits before the point: one zero, or digits that do not begin with one. -/
def wholeDigits : Reader (List Char) := do
  let ds ← digits
  match ds with
  | '0' :: _ :: _ => do
    let cursor ← get
    failAt ⟨cursor.place.line, cursor.place.column + 2 - ds.length⟩ .invalidNumber
  | _ => return ds

/-- A sign that may stand before an exponent: whether it is a minus. -/
def exponentSign : Reader Bool := do
  match ← peek with
  | some '-' => skip; return true
  | some '+' => skip; return false
  | _ => return false

def exponentFollows : Reader Bool := do
  return (← peek).any fun c => c == 'e' || c == 'E'

/-- The exponent that may follow, added to one already known. `none` stands for an exponent below
all bounds. -/
def exponent (isZero : Bool) (known : Int) : Reader (Option Int) := do
  if ← exponentFollows then
    skip
    let negative ← exponentSign
    let place := (← get).place
    let ds ← digits
    let (value, taken) := gatherDigits 0x7FFFFFFF 0 ds
    if taken == ds.length then
      return some (if negative then known - value else known + value)
    else if isZero || negative then
      return none
    else
      failAt ⟨place.line, place.column + taken + 1⟩ .numberOutOfRange
  else return some known

/-- The digits behind a point, if there is one. -/
def fraction? : Reader (Option (List Char)) := do
  match ← peek with
  | some '.' => skip; return some (← digits)
  | _ => return none

def finite (negative : Bool) (x : Binary64) : Reader Number :=
  let y := if negative then x.neg else x
  if h : y.isFinite = true then return .float y h else failHere .numberOutOfRange

def scaled (negative : Bool) (significand : Nat) (exponent : Option Int) : Reader Number := do
  match exponent with
  | none => finite negative (Binary64.zero false)
  | some e =>
    match scale? (Binary64.ofNat significand) e with
    | none => failHere .numberOutOfRange
    | some x => finite negative x

/-- An integer of at most 64 bits; a negative one below the signed range, and the negative zero,
are double-precision numbers. -/
def integer (negative : Bool) (significand : Nat) : Reader Number :=
  let value : Int := if negative then -significand else significand
  if h : (-0x8000000000000000 ≤ value ∧ value < 0x10000000000000000) ∧
      ¬(negative = true ∧ significand = 0) then
    return .int value h.1
  else finite negative (Binary64.ofNat significand)

def number (negative : Bool) : Reader Number := do
  let limit := UInt64.size - 1
  let whole ← wholeDigits
  let (gathered, taken) := gatherDigits limit 0 whole
  -- Digits before the point that do not fit count as powers of ten, digits behind it not at all.
  let dropped := whole.length - taken
  match ← fraction? with
  | some behind => do
    let (significand, taken) := gatherDigits limit gathered behind
    scaled negative significand (← exponent (significand == 0) (dropped - taken))
  | none => do
    if dropped == 0 && !(← exponentFollows) then integer negative gathered
    else scaled negative gathered (← exponent (gathered == 0) dropped)

end Reader

end RecordQuery.Json
