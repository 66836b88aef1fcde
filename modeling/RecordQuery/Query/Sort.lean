/-!
# Sort orders

The keys by which a result is sorted, the most significant one first. In a request the keys are
joined by commas, a descending one with `-` in front of its column.
-/

namespace RecordQuery

inductive Direction where
  | ascending
  | descending
deriving DecidableEq, Repr

namespace Direction

def default : Direction := .ascending

def sign : Direction → String
  | .ascending => ""
  | .descending => "-"

end Direction

/-- A column and the direction in which it sorts. -/
structure SortKey where
  column : String
  direction : Direction
deriving DecidableEq, Repr

namespace SortKey

def asc (column : String) : SortKey := ⟨column, .ascending⟩

def desc (column : String) : SortKey := ⟨column, .descending⟩

def text (key : SortKey) : String := key.direction.sign ++ key.column

end SortKey

structure SortOrder where
  keys : List SortKey := []
deriving DecidableEq, Repr

/-- A step in putting a sort order together. -/
inductive SortStep where
  /-- Starts over with one key. -/
  | only (key : SortKey)
  /-- Adds a key that counts less than those already there. -/
  | add (key : SortKey)
deriving DecidableEq, Repr

/-- The key that a step brings in. -/
def SortStep.key : SortStep → SortKey
  | .only key => key
  | .add key => key

namespace SortOrder

def only (key : SortKey) : SortOrder := ⟨[key]⟩

def add (order : SortOrder) (key : SortKey) : SortOrder := ⟨order.keys ++ [key]⟩

/-- Takes a step. -/
def step (order : SortOrder) : SortStep → SortOrder
  | .only key => only key
  | .add key => order.add key

def run (order : SortOrder) (steps : List SortStep) : SortOrder := steps.foldl step order

def size (order : SortOrder) : Nat := order.keys.length

/-- An order without keys. -/
def isEmpty (order : SortOrder) : Bool := order.keys.isEmpty

/-- The sort parameter of a request; none for an order without keys. -/
def param? (order : SortOrder) : Option String :=
  if order.isEmpty then none else some (",".intercalate (order.keys.map SortKey.text))

theorem param?_eq_none_iff {order : SortOrder} : order.param? = none ↔ order.keys = [] := by
  rw [param?, ← List.isEmpty_iff]
  show (if order.keys.isEmpty then none else _) = none ↔ _
  cases order.keys.isEmpty <;> simp

end SortOrder

end RecordQuery
