import RecordQuery.Filter.Operator
import RecordQuery.Filter.Predicate
import RecordQuery.Row

/-!
# The primary key that a filter asks for

A filter singles out a record by a comparison of the primary key at its top: by equality, with a
value that is not blank, and joined by `and` unless it stands first. Keys inside nested groups do
not count.
-/

namespace RecordQuery

def Comparison.key? (c : Comparison) : Option Scalar :=
  if isPrimaryKey (bareColumn c.column) && Operator.ofToken c.operator == .equal
      && !c.value.isBlank then
    some c.value
  else none

namespace Predicate

/-- The key that one of several siblings asks for, if its place among them allows it. -/
def siblingKey? (first : Bool) : Predicate → Option Scalar
  | .comparison connector test => if first || connector == .and then test.key? else none
  | .group _ _ => none

/-- The key that the first of several siblings to do so asks for. -/
def keyAmong? (first : Bool) : List Predicate → Option Scalar
  | [] => none
  | p :: rest => (p.siblingKey? first).or (keyAmong? false rest)

def key? : Predicate → Option Scalar
  | .comparison _ test => test.key?
  | .group _ children => keyAmong? true children

/-- A key in front goes before one behind it. -/
theorem keyAmong?_append (first : Bool) (ps qs : List Predicate) :
    keyAmong? first (ps ++ qs)
      = (keyAmong? first ps).or (keyAmong? (first && ps.isEmpty) qs) := by
  induction ps generalizing first with
  | nil => rw [List.nil_append, keyAmong?, Option.none_or, List.isEmpty_nil, Bool.and_true]
  | cons p rest ih =>
    rw [List.cons_append, keyAmong?, ih, keyAmong?, Option.or_assoc, List.isEmpty_cons,
      Bool.false_and, Bool.and_false]

end Predicate

/-- The key that a comparison asks for is not blank. -/
theorem Comparison.isBlank_of_key? {c : Comparison} {key : Scalar} (h : c.key? = some key) :
    key.isBlank = false := by
  simp only [Comparison.key?] at h
  split at h
  · rename_i hc
    simp only [Bool.and_eq_true, Bool.not_eq_true', Option.some.injEq] at hc h
    exact h ▸ hc.2
  · contradiction

end RecordQuery
