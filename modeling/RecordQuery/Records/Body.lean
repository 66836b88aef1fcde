import RecordQuery.Row

/-!
# Bodies of write requests

Records are written in arrays, also when there is just one of them, and a record is addressed by
its primary key inside the array. An answer to a write of one record is an array, too.
-/

namespace RecordQuery

/-- Records to be created, and with them whether the caller thinks of one or of several. -/
inductive NewRecords where
  | one (row : Row)
  | many (rows : List Row)

namespace NewRecords

/-- One record was meant. -/
def isOne : NewRecords → Bool
  | .one _ => true
  | .many _ => false

def rows : NewRecords → List Row
  | .one row => [row]
  | .many rows => rows

def size (records : NewRecords) : Nat := records.rows.length

def isEmpty (records : NewRecords) : Bool := records.rows.isEmpty

theorem isEmpty_iff {records : NewRecords} : records.isEmpty = true ↔ records = .many [] := by
  cases records <;> simp [isEmpty, rows]

/-- The body of the request: always an array. -/
def body (records : NewRecords) : Json := .array (records.rows.map Row.toJson)

end NewRecords

/-- The first item of an array that has one; any other value as it is. -/
def Json.firstOrSelf : Json → Json
  | .array (item :: _) => item
  | json => json

/-- The body of an update: the fields of one record, with its key. -/
def updateBody (fields : Row) (key : Scalar) : Json :=
  .array [(fields.insert primaryKey key.toJson).toJson]

/-- The body of a deletion: the key of one record. -/
def deleteBody (key : Scalar) : Json :=
  .array [(Row.empty.insert primaryKey key.toJson).toJson]

end RecordQuery
