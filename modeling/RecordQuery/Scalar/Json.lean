import RecordQuery.Json.Decode
import RecordQuery.Scalar.Basic

/-!
# Scalars and JSON

Two ways lead from scalars to JSON and back. `Scalar.toJson` and `Scalar.ofJson` serve request
bodies and responses: every value has a scalar, arrays and objects becoming their text.
`Scalar.encode` and `Scalar.decode` serve stored scalars, where the alternatives of the type are
tried in turn and an array or an object is none of them.
-/

namespace RecordQuery

open Number (Binary64)

namespace Scalar

/-- The JSON value of a scalar in a request body. -/
def toJson : Scalar → Json
  | .null => .null
  | .bool b => .bool b
  | .int n => Json.ofInt64 n
  | .float x => Json.ofBinary64 x
  | .text s => .string s

/-- The scalar of a JSON number: an integer if a signed word holds it, and otherwise the nearest
double-precision number. -/
def ofNumber : Json.Number → Scalar
  | .int n _ => if n < 0x8000000000000000 then .int (Int64.ofInt n) else .float (Binary64.ofInt n)
  | .float x _ => .float x

/-- The scalar that a JSON value holds; arrays and objects are kept as their text. -/
def ofJson : Json → Scalar
  | .null => .null
  | .bool b => .bool b
  | .number n => ofNumber n
  | .string s => .text s
  | json => .text json.text

/-! ## Stored scalars -/

/-- The JSON value under which a scalar is stored: that of its content. -/
def encode : Scalar → Json
  | .null => .null
  | .bool b => .bool b
  | .int n => Json.ofInt64 n
  | .float x => if finite : x.isFinite = true then .number (.float x finite) else .null
  | .text s => .string s

def nullAlternative? : Json → Option Scalar
  | .null => some .null
  | _ => none

def boolAlternative? : Json → Option Scalar
  | .bool b => some (.bool b)
  | _ => none

def intAlternative? : Json → Option Scalar
  | .number (.int n _) => if n < 0x8000000000000000 then some (.int (Int64.ofInt n)) else none
  | _ => none

def floatAlternative? : Json → Option Scalar
  | .number (.int n _) => some (.float (Binary64.ofInt n))
  | .number (.float x _) => some (.float x)
  | _ => none

def textAlternative? : Json → Option Scalar
  | .string s => some (.text s)
  | _ => none

/-- The alternatives of the type, in the order in which they are tried. -/
def alternatives : List (Json → Option Scalar) :=
  [nullAlternative?, boolAlternative?, intAlternative?, floatAlternative?, textAlternative?]

/-- Decodes a stored scalar as the first alternative that fits. -/
def decode : Decoder Scalar := fun json =>
  match alternatives.findSome? fun alternative => alternative json with
  | some s => .ok s
  | none => .error (.noAlternative "Scalar")

end Scalar

end RecordQuery
