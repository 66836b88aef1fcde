import RecordQuery.Filter.WhereClause

/-!
# Normal forms of filters

Many filters are written by the same text: a condition without comparisons leaves no trace, a group
of which one child is left is written as that child, and the connector of a first sibling is not
written. `Predicate.normalForm?` keeps what is left of a filter once these differences are gone. It
is a `Sequence` of items, and an item is a comparison or a sequence in parentheses.

## Main statements

* `Predicate.whereClause?_eq_map_text`: the text of a filter is the text of its normal form.
* `Predicate.normalForm?_eq_none_iff`: a filter has no normal form iff it has no comparison.
-/

namespace RecordQuery

/-- A comparison as a text shows it: the bare column, the operator and the text of the value. -/
structure Leaf where
  column : String
  operator : Operator
  value : String
deriving DecidableEq, Repr

def Comparison.leaf (c : Comparison) : Leaf :=
  ⟨bareColumn c.column, Operator.ofToken c.operator, c.value.display⟩

def Leaf.text (l : Leaf) : String :=
  "(" ++ l.column ++ "," ++ l.operator.name ++ "," ++ l.value ++ ")"

theorem Comparison.clause_eq_text_leaf (c : Comparison) : c.clause = c.leaf.text := rfl

/-- A condition as a text shows it: a leaf, or conditions in parentheses, each but the first one with
the connector that joins it to the one on its left. -/
inductive Item where
  | leaf (l : Leaf)
  | nested (first : Item) (rest : List (Connector × Item))

/-- Conditions in a row, each but the first one with its connector. -/
structure Sequence where
  first : Item
  rest : List (Connector × Item)

/-! ## The text of a normal form -/

namespace Item

mutual

def text : Item → String
  | .leaf l => l.text
  | .nested first rest => "(" ++ (first.text ++ tailText rest) ++ ")"

def tailText : List (Connector × Item) → String
  | [] => ""
  | (connector, item) :: rest => "~" ++ connector.name ++ item.text ++ tailText rest

end

/-- The item that is left of a group, given what is left of its children. -/
def ofItems? : List (Connector × Item) → Option Item
  | [] => none
  | [(_, item)] => some item
  | (_, first) :: second :: rest => some (.nested first (second :: rest))

theorem tailText_eq_join (items : List (Connector × Item)) :
    tailText items
      = String.join ((items.map fun item => (item.1, item.2.text)).map Predicate.joined) := by
  induction items with
  | nil => simp [tailText]
  | cons item rest ih =>
    obtain ⟨connector, item⟩ := item
    simp only [tailText, List.map_cons, String.join_cons, Predicate.joined, ih]

theorem ofItems?_eq_none_iff {items : List (Connector × Item)} :
    ofItems? items = none ↔ items = [] := by
  match items with
  | [] => simp [ofItems?]
  | [_] => simp [ofItems?]
  | _ :: _ :: _ => simp [ofItems?]

end Item

namespace Sequence

def text (s : Sequence) : String := s.first.text ++ Item.tailText s.rest

/-- The sequence that some items are, whatever the connector of the first one. -/
def ofItems? : List (Connector × Item) → Option Sequence
  | [] => none
  | (_, first) :: rest => some ⟨first, rest⟩

theorem ofItems?_eq_none_iff {items : List (Connector × Item)} :
    ofItems? items = none ↔ items = [] := by
  cases items <;> simp [ofItems?]

end Sequence

namespace Predicate

mutual

/-- What is left of a condition as a child of a group. -/
def item? : Predicate → Option Item
  | .comparison _ test => some (.leaf test.leaf)
  | .group _ children => Item.ofItems? (items children)

/-- What is left of the children of a group, each with the connector of the child. -/
def items : List Predicate → List (Connector × Item)
  | [] => []
  | p :: rest =>
    match item? p with
    | none => items rest
    | some item => (p.connector, item) :: items rest

end

/-- What is left of a whole filter. -/
def normalForm? : Predicate → Option Sequence
  | .comparison _ test => some ⟨.leaf test.leaf, []⟩
  | .group _ children => Sequence.ofItems? (items children)

/-! ## Nothing is left iff there is no comparison

Mutual induction over a condition and the children of a group. A child of which nothing is left adds no
comparison to the count, and any other one adds at least one. -/

mutual

theorem item?_eq_none_iff (p : Predicate) : p.item? = none ↔ p.leafCount = 0 := by
  match p with
  | .comparison _ test => simp [item?, leafCount]
  | .group _ children =>
    rw [item?, Item.ofItems?_eq_none_iff, leafCount]
    exact items_eq_nil_iff children

theorem items_eq_nil_iff (ps : List Predicate) : items ps = [] ↔ leafCountAll ps = 0 := by
  match ps with
  | [] => simp [items, leafCountAll]
  | p :: rest =>
    have hp := item?_eq_none_iff p
    have hrest := items_eq_nil_iff rest
    rw [items, leafCountAll, Nat.add_eq_zero_iff, ← hp, ← hrest]
    cases p.item? with
    | none => simp
    | some item => simp

end

theorem normalForm?_eq_none_iff (p : Predicate) : p.normalForm? = none ↔ p.leafCount = 0 := by
  cases p with
  | comparison connector test => simp [normalForm?, leafCount]
  | group connector children =>
    rw [leafCount, normalForm?, Sequence.ofItems?_eq_none_iff, items_eq_nil_iff]

/-! ## The text of a filter is that of its normal form

A group writes the same texts in one of two shapes: in parentheses inside another group, if two of
them are left, and without parentheses as the whole filter. What its children write is one mutual
induction for both shapes. -/

/-- A group inside another one is written as the item that is left of it. -/
theorem groupClause?_nested (items : List (Connector × Item)) :
    groupClause? true (items.map fun item => (item.1, item.2.text))
      = (Item.ofItems? items).map Item.text := by
  match items with
  | [] => rfl
  | [_] => rfl
  | (_, first) :: second :: rest =>
    simp only [List.map_cons, groupClause?, Item.ofItems?, Option.map_some, Item.text,
      Item.tailText_eq_join, if_true]

/-- A group that is the whole filter is written as the sequence of what is left of its children. -/
theorem groupClause?_whole (items : List (Connector × Item)) :
    groupClause? false (items.map fun item => (item.1, item.2.text))
      = (Sequence.ofItems? items).map Sequence.text := by
  match items with
  | [] => rfl
  | [(_, item)] => simp [groupClause?, Sequence.ofItems?, Sequence.text, Item.tailText]
  | (_, first) :: second :: rest =>
    simp [groupClause?, Sequence.ofItems?, Sequence.text, Item.tailText_eq_join]

mutual

theorem clause?_eq_map_text (p : Predicate) : p.clause? true = p.item?.map Item.text := by
  match p with
  | .comparison _ test =>
    simp [clause?, item?, Item.text, Comparison.clause_eq_text_leaf]
  | .group _ children =>
    rw [clause?, item?, clauses_eq_map_text children, groupClause?_nested]

theorem clauses_eq_map_text (ps : List Predicate) :
    clauses ps = (items ps).map fun item => (item.1, item.2.text) := by
  match ps with
  | [] => rfl
  | p :: rest =>
    have hp := clause?_eq_map_text p
    have hrest := clauses_eq_map_text rest
    rw [clauses, items, hp, hrest]
    cases p.item? with
    | none => rfl
    | some item => rfl

end

/-- A child of a group is not written iff it has no comparison. -/
theorem clause?_eq_none_iff (p : Predicate) : p.clause? true = none ↔ p.leafCount = 0 := by
  rw [clause?_eq_map_text, Option.map_eq_none_iff, item?_eq_none_iff]

theorem clauses_eq_nil_iff (ps : List Predicate) : clauses ps = [] ↔ leafCountAll ps = 0 := by
  rw [clauses_eq_map_text, List.map_eq_nil_iff, items_eq_nil_iff]

theorem whereClause?_eq_map_text (p : Predicate) :
    whereClause? (some p) = p.normalForm?.map Sequence.text := by
  rw [whereClause?, isEmpty]
  by_cases hp : p.leafCount = 0
  · -- The filter is not looked at, and has no normal form.
    rw [(normalForm?_eq_none_iff p).mpr hp]
    simp [hp]
  · rw [if_neg (by simpa using hp)]
    cases p with
    | comparison connector test =>
      simp [clause?, normalForm?, Sequence.text, Item.text, Item.tailText,
        Comparison.clause_eq_text_leaf]
    | group connector children =>
      rw [clause?, normalForm?, clauses_eq_map_text, groupClause?_whole]

theorem whereClause?_eq_none_iff (p : Predicate) :
    whereClause? (some p) = none ↔ p.leafCount = 0 := by
  rw [whereClause?_eq_map_text, Option.map_eq_none_iff, normalForm?_eq_none_iff]

end Predicate

end RecordQuery
