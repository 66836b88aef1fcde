import RecordQuery.Json.Members
import RecordQuery.Number.Binary64

/-!
# JSON values

A JSON number is an integer of at most 64 bits or a finite double-precision number, and the two
never mix: `1` and `1.0` are different values. An object has its members in the order of their keys,
one for a key.
-/

namespace RecordQuery

open Number (Binary64)

inductive Json.Number where
  /-- An integer that a signed or an unsigned word of 64 bits holds. -/
  | int (value : Int) (range : -0x8000000000000000 ≤ value ∧ value < 0x10000000000000000)
  | float (value : Binary64) (finite : value.isFinite = true)
deriving DecidableEq

inductive Json where
  | null
  | bool (value : Bool)
  | number (value : Json.Number)
  | string (value : String)
  | array (items : List Json)
  | object (fields : Members Json)

instance : Inhabited Json := ⟨.null⟩

/-- The members of a JSON object. -/
abbrev Fields := Members Json

namespace Json

/-- The member of an object under a key; other values have none. -/
def member? (key : String) : Json → Option Json
  | .object fields => fields.lookup key
  | _ => none

/-- The members of an object; other values have none. -/
def fields? : Json → Option Fields
  | .object fields => some fields
  | _ => none

def isNull : Json → Bool
  | .null => true
  | _ => false

def isObject : Json → Bool
  | .object _ => true
  | _ => false

/-- A value without parts: neither an array nor an object. -/
def isLeaf : Json → Bool
  | .array _ => false
  | .object _ => false
  | _ => true

theorem isObject_of_isLeaf {json : Json} (h : json.isLeaf = true) : json.isObject = false := by
  cases json with
  | object fields => cases h
  | _ => rfl

def ofInt64 (n : Int64) : Json :=
  .number (.int n.toInt ⟨Int64.le_toInt n, by have := Int64.toInt_lt n; omega⟩)

def ofUInt64 (n : UInt64) : Json :=
  .number (.int n.toNat ⟨by omega, by have := n.toNat_lt; omega⟩)

/-- An unsigned word of 32 bits as a number. -/
def ofUInt32 (n : UInt32) : Json := ofUInt64 n.toUInt64

/-- A double-precision number; JSON has no infinities and no NaN, so these become `null`. -/
def ofBinary64 (x : Binary64) : Json :=
  if finite : x.isFinite = true then .number (.float x finite) else .null

/-- A value that may be missing, `null` standing for its absence. -/
def ofOption (encode : α → Json) : Option α → Json
  | none => .null
  | some a => encode a

end Json

end RecordQuery
