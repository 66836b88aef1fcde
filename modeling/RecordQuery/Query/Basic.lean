import RecordQuery.Filter.Predicate
import RecordQuery.Query.Sort

/-!
# Queries

What a list request is about: a table, a filter on its rows, the order of the result, and the part
of it that is wanted.
-/

namespace RecordQuery

/-- A query against a table. -/
structure Query where
  table : String
  filter : Option Predicate := none
  sorts : SortOrder := {}
  limit : Option UInt64 := none
  offset : Option UInt64 := none

namespace Query

/-- The query for another part of the same result. -/
def withWindow (q : Query) (limit offset : Option UInt64) : Query := { q with limit, offset }

end Query

end RecordQuery
