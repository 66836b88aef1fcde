import RecordQuery.Text.Casing

/-!
# Comparison operators

The operators of the filter dialect, and the tokens by which callers name them. The naming is
total: a token that names no other operator names equality.
-/

namespace RecordQuery

inductive Operator where
  | equal
  | notEqual
  | greater
  | greaterOrEqual
  | less
  | lessOrEqual
  | like
  | notLike
deriving DecidableEq, Repr

namespace Operator

/-- The operator that a token names, in any letter case. -/
def ofToken (token : String) : Operator :=
  match Text.lower token with
  | "=" => .equal
  | "!=" | "<>" => .notEqual
  | ">" => .greater
  | ">=" => .greaterOrEqual
  | "<" => .less
  | "<=" => .lessOrEqual
  | "like" => .like
  | "not like" => .notLike
  | _ => .equal

/-- The name of an operator in the filter dialect. -/
def name : Operator → String
  | .equal => "eq"
  | .notEqual => "neq"
  | .greater => "gt"
  | .greaterOrEqual => "ge"
  | .less => "lt"
  | .lessOrEqual => "le"
  | .like => "like"
  | .notLike => "nlike"

/-- The operator that goes without saying. -/
def default : Operator := .equal

theorem name_injective {a b : Operator} (h : a.name = b.name) : a = b := by
  cases a <;> cases b <;> simp_all [name]

end Operator

end RecordQuery
