import RecordQuery.Scalar.Basic
import RecordQuery.Text.Split

/-!
# Predicates

A filter is a tree of comparisons and groups. Each node says how it joins the sibling on its left;
the first sibling has nothing to join. Column names may be qualified by a table, and operators are
kept as the caller wrote them.
-/

namespace RecordQuery

/-- How a condition joins the one on its left. -/
inductive Connector where
  | and
  | or
deriving DecidableEq, Repr

/-- The name of a connector in the filter dialect. -/
def Connector.name : Connector → String
  | .and => "and"
  | .or => "or"

/-- A column compared with a value. -/
structure Comparison where
  column : String
  operator : String
  value : Scalar
deriving DecidableEq

/-- A column name without the table in front of it: what follows the last point. -/
def bareColumn (column : String) : String :=
  String.ofList (Text.afterLast '.' column.toList)

theorem point_notMem_bareColumn (column : String) : '.' ∉ (bareColumn column).toList := by
  unfold bareColumn
  rw [String.toList_ofList]
  exact Text.separator_notMem_afterLast '.' column.toList

/-- Nothing is cut from a name that was cut before. -/
@[simp] theorem bareColumn_bareColumn (column : String) :
    bareColumn (bareColumn column) = bareColumn column := by
  have hself := Text.afterLast_eq_self (point_notMem_bareColumn column)
  show String.ofList (Text.afterLast '.' (bareColumn column).toList) = _
  rw [hself, String.ofList_toList]

/-- What stands in front of a point does not matter, whatever it is. -/
@[simp] theorem bareColumn_qualified (table column : String) :
    bareColumn (table ++ "." ++ column) = bareColumn column := by
  have htext : (table ++ "." ++ column).toList = table.toList ++ '.' :: column.toList := by
    simp [String.toList_append]
  unfold bareColumn
  rw [htext, Text.afterLast_append_cons]

inductive Predicate where
  | comparison (connector : Connector) (test : Comparison)
  | group (connector : Connector) (children : List Predicate)

namespace Predicate

def connector : Predicate → Connector
  | .comparison c _ => c
  | .group c _ => c

/-- The condition, joining its left sibling by another connector. -/
def withConnector (c : Connector) : Predicate → Predicate
  | .comparison _ test => .comparison c test
  | .group _ children => .group c children

mutual

def leafCount : Predicate → Nat
  | .comparison _ _ => 1
  | .group _ children => leafCountAll children

/-- The number of comparisons in a list of conditions. -/
def leafCountAll : List Predicate → Nat
  | [] => 0
  | p :: rest => leafCount p + leafCountAll rest

end

/-- A condition without comparisons. -/
def isEmpty (p : Predicate) : Bool := p.leafCount == 0

@[simp] theorem connector_withConnector (c : Connector) (p : Predicate) :
    (p.withConnector c).connector = c := by
  cases p <;> rfl

end Predicate

end RecordQuery
