import RecordQuery.Filter.Operator
import RecordQuery.Filter.Predicate

/-!
# The text of a filter

A comparison is written `(column,operator,value)`. Siblings are joined by `~` and the connector of
the right one. A condition without comparisons is left out together with its connector, a group of
which one child is left is written as that child, and a larger group is parenthesised unless it is
the whole filter.
-/

namespace RecordQuery

def Comparison.clause (c : Comparison) : String :=
  "(" ++ bareColumn c.column ++ "," ++ (Operator.ofToken c.operator).name ++ ","
    ++ c.value.display ++ ")"

namespace Predicate

/-- A condition behind its left sibling. -/
def joined (item : Connector × String) : String := "~" ++ item.1.name ++ item.2

/-- The text of a group of which the given children are left, inside another group or not. -/
def groupClause? (nested : Bool) : List (Connector × String) → Option String
  | [] => none
  | [(_, clause)] => some clause
  | (_, clause) :: rest =>
    let body := clause ++ String.join (rest.map joined)
    some (if nested then "(" ++ body ++ ")" else body)

mutual

/-- The text of a condition, inside a group or not; `none` if it has no comparison. -/
def clause? (nested : Bool) : Predicate → Option String
  | .comparison _ test => some test.clause
  | .group _ children => groupClause? nested (clauses children)

/-- The texts of the children of a group that have a comparison, with their connectors. -/
def clauses : List Predicate → List (Connector × String)
  | [] => []
  | p :: rest =>
    match clause? true p with
    | none => clauses rest
    | some clause => (p.connector, clause) :: clauses rest

end

theorem clauses_eq_filterMap (ps : List Predicate) :
    clauses ps = ps.filterMap fun p => (p.clause? true).map (p.connector, ·) := by
  induction ps with
  | nil => rfl
  | cons p rest ih =>
    simp only [clauses, List.filterMap_cons, ih]
    cases p.clause? true <;> rfl

end Predicate

/-- A way to write filters: a text, or nothing if there is nothing to filter by. -/
abbrev FilterCompiler := Option Predicate → Option String

/-- The text of a filter; `none` if there is no filter, or no comparison in it. -/
def whereClause? : FilterCompiler
  | none => none
  | some p => if p.isEmpty then none else p.clause? false

end RecordQuery
