import RecordQuery.Filter.WhereClause
import RecordQuery.Json.Basic
import RecordQuery.Query.Basic

/-!
# Parameters of a list request

The parameters as plain texts and numbers, before anything is encoded for a URL. A limit of zero, an
empty sort order and an empty filter are left out; an offset of zero is not.
-/

namespace RecordQuery

/-- The parameters of a list request. -/
structure Parameters where
  limit : Option UInt64 := none
  offset : Option UInt64 := none
  sort : Option String := none
  filter : Option String := none
deriving DecidableEq, Repr

namespace Parameters

/-- The parameters for a query whose filter has the given text. -/
def ofQuery (q : Query) (filter : Option String) : Parameters where
  limit := q.limit.filter fun n => 0 < n
  offset := q.offset
  sort := q.sorts.param?
  filter := filter.filter fun text => !text.isEmpty

/-- The parameters that ask for the size of a result: its first row alone, in no order. -/
def probe (filter : Option String) : Parameters where
  limit := some 1
  offset := some 0
  sort := none
  filter := filter.filter fun text => !text.isEmpty

/-- The parameters that a URL encodes as a form does, with their names, in order. -/
def pairs (p : Parameters) : List (String × String) :=
  (p.limit.map fun n => ("limit", toString n.toNat)).toList
    ++ (p.offset.map fun n => ("offset", toString n.toNat)).toList
    ++ (p.sort.map fun text => ("sort", text)).toList

def isEmpty (p : Parameters) : Bool :=
  p.limit.isNone && p.offset.isNone && p.sort.isNone && p.filter.isNone

/-- The parameters that are set, as a JSON object. -/
def toJson (p : Parameters) : Json :=
  .object <| .ofPairs
    ((p.limit.map fun n => ("limit", Json.ofUInt64 n)).toList
      ++ (p.offset.map fun n => ("offset", Json.ofUInt64 n)).toList
      ++ (p.sort.map fun text => ("sort", Json.string text)).toList
      ++ (p.filter.map fun text => ("where", Json.string text)).toList)

end Parameters

/-- The parameters of a list request for a query, its filter written by `compile`. -/
def Query.parameters (compile : FilterCompiler) (q : Query) : Parameters :=
  Parameters.ofQuery q (compile q.filter)

/-- The parameters that ask for the size of the result of a query. -/
def Query.probe (compile : FilterCompiler) (q : Query) : Parameters :=
  Parameters.probe (compile q.filter)

end RecordQuery
