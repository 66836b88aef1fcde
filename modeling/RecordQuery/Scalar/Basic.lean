import RecordQuery.Number.Notation

/-!
# Scalars

A scalar is what a filter compares a column with, and what a primary key holds. Its text in a
filter has no quotes: nothing for null, plain decimals for numbers, and a text as it is.
-/

namespace RecordQuery

open Number (Binary64 Notation)

/-- A single comparable value. -/
inductive Scalar where
  | null
  | bool (value : Bool)
  | int (value : Int64)
  | float (value : Binary64)
  | text (value : String)
deriving DecidableEq

namespace Scalar

def isNull : Scalar → Bool
  | .null => true
  | _ => false

/-- Null and the empty text do not identify a record. -/
def isBlank : Scalar → Bool
  | .null => true
  | .text s => s.isEmpty
  | _ => false

/-- The text of a scalar in a filter or in a path. -/
def display : Scalar → String
  | .null => ""
  | .bool true => "true"
  | .bool false => "false"
  | .int n => toString n.toInt
  | .float x => Notation.plainText x
  | .text s => s

def ofOption : Option Scalar → Scalar
  | none => .null
  | some s => s

end Scalar

end RecordQuery
