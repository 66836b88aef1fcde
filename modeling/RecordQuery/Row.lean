import RecordQuery.Scalar.Json

/-!
# Rows

A row is one record as a table holds it: JSON values under column names, which are kept as they
came. The primary key of a row stands under one of three names.
-/

namespace RecordQuery

/-- The column name under which a primary key is written. -/
def primaryKey : String := "Id"

/-- The column names under which a primary key is found, in the order of search. -/
def primaryKeyNames : List String := ["Id", "id", "_id"]

/-- A column name that stands for the primary key. -/
def isPrimaryKey (column : String) : Bool := primaryKeyNames.contains column

/-- One record. -/
structure Row where
  fields : Fields

namespace Row

def empty : Row := ⟨.empty⟩

def get? (row : Row) (column : String) : Option Json := row.fields.lookup column

/-- A column is present, be its value null. -/
def contains (row : Row) (column : String) : Bool := (row.get? column).isSome

/-- The row with a value under a column, in place of what stood there. -/
def insert (row : Row) (column : String) (value : Json) : Row :=
  ⟨row.fields.insert column value⟩

def size (row : Row) : Nat := row.fields.size

def isEmpty (row : Row) : Bool := row.fields.isEmpty

def columns (row : Row) : List String := row.fields.keys

def toJson (row : Row) : Json := .object row.fields

def ofJson? : Json → Option Row
  | .object fields => some ⟨fields⟩
  | _ => none

def decode : Decoder Row
  | .object fields => .ok ⟨fields⟩
  | found => .error (.wrongKind found "a map")

/-- The primary key of a row: the first value under one of its names that is not null. -/
def id? (row : Row) : Option Scalar :=
  ((primaryKeyNames.filterMap row.get?).find? fun value => !value.isNull).map Scalar.ofJson

@[simp] theorem get?_insert_self (row : Row) (column : String) (value : Json) :
    (row.insert column value).get? column = some value :=
  Members.lookup_insert_self row.fields column value

theorem get?_insert_of_ne {column other : String} (row : Row) (value : Json)
    (h : other ≠ column) : (row.insert column value).get? other = row.get? other :=
  Members.lookup_insert_of_ne row.fields value h

@[simp] theorem ofJson?_toJson (row : Row) : ofJson? row.toJson = some row := rfl

end Row

end RecordQuery
