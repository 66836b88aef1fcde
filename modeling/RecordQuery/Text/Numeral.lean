/-!
# Numerals

The texts read as an unsigned decimal number: an optional `+`, then one or more ASCII digits. And
the hexadecimal digits, of either case.
-/

namespace RecordQuery.Text

/-- The digits of an unsigned numeral: what is left of the text after an optional `+`. -/
def unsignedDigits (cs : List Char) : List Char :=
  match cs with
  | '+' :: rest => rest
  | _ => cs

/-- Reads an unsigned numeral whose value lies below `bound`. -/
def unsigned? (bound : Nat) (s : String) : Option Nat :=
  let digits := unsignedDigits s.toList
  let value := Nat.ofDigitChars 10 digits 0
  if !digits.isEmpty && digits.all Char.isDigit && value < bound then some value else none

def readUInt32? (s : String) : Option UInt32 :=
  (unsigned? UInt32.size s).map UInt32.ofNat

def readUInt64? (s : String) : Option UInt64 :=
  (unsigned? UInt64.size s).map UInt64.ofNat

/-- The value of a hexadecimal digit of either case. -/
def hexDigit? (c : Char) : Option Nat :=
  if '0' ≤ c ∧ c ≤ '9' then some (c.toNat - '0'.toNat)
  else if 'A' ≤ c ∧ c ≤ 'F' then some (c.toNat - 'A'.toNat + 10)
  else if 'a' ≤ c ∧ c ≤ 'f' then some (c.toNat - 'a'.toNat + 10)
  else none

end RecordQuery.Text
