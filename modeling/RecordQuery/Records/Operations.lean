import RecordQuery.Filter.Key
import RecordQuery.Page.Basic
import RecordQuery.Records.Body
import RecordQuery.Records.Listing
import RecordQuery.Records.Operation

/-!
# Operations on records

Reading by query, by key and by page, and creating, updating and deleting records. Filters are
written by a `FilterCompiler`, `whereClause?` in general. An update or a deletion addresses one
record by its key and makes no call if it has none.
-/

namespace RecordQuery

namespace Query

/-! ## Reading -/

def get (compile : FilterCompiler) (q : Query) : Operation Listing := do
  return Listing.ofResponse (← .request (.list q.table (q.parameters compile)))

def first (compile : FilterCompiler) (q : Query) : Operation (Option Row) := do
  return (← (q.withWindow (some 1) q.offset).get compile).rows.head?

/-- The size of the result of a query, zero if the remote side does not tell. -/
def count (compile : FilterCompiler) (q : Query) : Operation UInt64 := do
  return (PageInfo.ofResponse (← .request (.list q.table (q.probe compile)))).total

/-- One page of a query whose result has a known size, or a size that is asked for first. -/
def paginateWithTotal (compile : FilterCompiler) (q : Query) (perPage page : UInt64)
    (total : Option UInt64) : Operation (Page Row) := do
  let request := PageRequest.of page perPage
  let window := q.withWindow (some request.limit) (some request.offset)
  let total ← match total with
    | some total => pure total
    | none => q.count compile
  return Page.answering request (← window.get compile).rows total

/-- One page of a query, with the size of the whole result. -/
def paginate (compile : FilterCompiler) (q : Query) (perPage page : UInt64) :
    Operation (Page Row) :=
  q.paginateWithTotal compile perPage page none

end Query

def findRecord (table : String) (id : Scalar) : Operation (Option Row) := do
  return Row.ofJson? (← .request (.get table id))

/-! ## Writing -/

/-- Creates records. One record comes back as such, several as the whole answer; nothing is sent if
there is nothing to create. -/
def createRecords (table : String) (records : NewRecords) : Operation Json :=
  if records.isEmpty then pure (.array [])
  else do
    let response ← .request (.create table records.body)
    return if records.isOne then response.firstOrSelf else response

/-- Creates records whatever the answer. -/
def insertRecords (table : String) (records : NewRecords) : Operation Bool := do
  let _ ← createRecords table records
  return true

/-- Creates a record, and gives the key it was assigned. -/
def insertRecord (table : String) (row : Row) : Operation (Option Scalar) := do
  return (Row.ofJson? (← createRecords table (.one row))).bind Row.id?

namespace Query

/-- The key that the filter of a query asks for. -/
def key? (q : Query) : Option Scalar := q.filter.bind Predicate.key?

/-- Updates the record whose key the query asks for. -/
def update (q : Query) (fields : Row) : Operation Json :=
  match q.key? with
  | none =>
    .fail (.invalidOperation
      ("update on '" ++ q.table ++ "' requires a primary key in the where clause"))
  | some key => do
    return (← .request (.update q.table (updateBody fields key))).firstOrSelf

/-- Deletes the record under a key: the given one, or that which the query asks for if the given
one is missing or blank. -/
def delete (q : Query) (id : Option Scalar) : Operation Json :=
  match (id.filter fun key => !key.isBlank).or q.key? with
  | none => .fail (.invalidOperation ("delete on '" ++ q.table ++ "' requires a primary key"))
  | some key => .request (.delete q.table (deleteBody key))

end Query

end RecordQuery
