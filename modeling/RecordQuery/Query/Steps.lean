import RecordQuery.Query.Basic
import RecordQuery.Row

/-!
# Building queries step by step

A query is put together by steps. A condition step adds one condition behind those already there;
the conditions become the children of the group at the root of the filter. Sort keys are added or
replaced as a whole, and limit and offset are set. A group is put together by condition steps alone,
apart from any query. Steps are data, so that a sequence of them can be run and reasoned about.

* `GroupDraft.conditions_run`: a run of condition steps adds one condition for each, in order.
-/

namespace RecordQuery

inductive ConditionStep where
  /-- A comparison, joined to the condition before it. -/
  | compare (connector : Connector) (test : Comparison)
  /-- A group of the conditions that some steps add. -/
  | group (connector : Connector) (steps : List ConditionStep)
  /-- A condition built elsewhere, with a connector of its own. -/
  | predicate (p : Predicate)

namespace ConditionStep

def whereEq (column : String) (value : Scalar) : ConditionStep := .compare .and ⟨column, "=", value⟩

def orWhereEq (column : String) (value : Scalar) : ConditionStep := .compare .or ⟨column, "=", value⟩

/-- A comparison of the primary key by equality, joined by `and`. -/
def whereId (id : Scalar) : ConditionStep := whereEq primaryKey id

mutual

def condition : ConditionStep → Predicate
  | .compare connector test => .comparison connector test
  | .group connector steps => .group connector (conditions steps)
  | .predicate p => p

def conditions : List ConditionStep → List Predicate
  | [] => []
  | step :: rest => step.condition :: conditions rest

end

theorem conditions_eq_map (steps : List ConditionStep) : conditions steps = steps.map condition := by
  induction steps with
  | nil => rfl
  | cons step rest ih => simp only [conditions, List.map_cons, ih]

end ConditionStep

/-- The filter of which some conditions are the top; no filter if there are none. -/
def filterOf (conditions : List Predicate) : Option Predicate :=
  if conditions.isEmpty then none else some (.group .and conditions)

theorem filterOf_of_ne_nil {conditions : List Predicate} (h : conditions ≠ []) :
    filterOf conditions = some (.group .and conditions) := by
  unfold filterOf
  rw [if_neg (mt List.isEmpty_iff.mp h)]

theorem filterOf_eq_none_iff {conditions : List Predicate} :
    filterOf conditions = none ↔ conditions = [] := by
  cases conditions with
  | nil => simp [filterOf]
  | cons p rest => simp [filterOf]

/-- A group under construction, with the conditions that were added to it. -/
structure GroupDraft where
  conditions : List Predicate := []

namespace GroupDraft

def add (g : GroupDraft) (p : Predicate) : GroupDraft := ⟨g.conditions ++ [p]⟩

mutual

/-- Takes a step. A step that adds a group builds it from nothing. -/
def step (g : GroupDraft) : ConditionStep → GroupDraft
  | .compare connector test => g.add (.comparison connector test)
  | .group connector steps => g.add (.group connector (run {} steps).conditions)
  | .predicate p => g.add p

def run (g : GroupDraft) : List ConditionStep → GroupDraft
  | [] => g
  | s :: rest => run (step g s) rest

end

/-- Nothing was added. -/
def isEmpty (g : GroupDraft) : Bool := g.conditions.isEmpty

def build (g : GroupDraft) : Option Predicate := filterOf g.conditions

mutual

@[simp] theorem conditions_step (g : GroupDraft) (s : ConditionStep) :
    (g.step s).conditions = g.conditions ++ [s.condition] := by
  cases s with
  | compare connector test => rw [step, add, ConditionStep.condition]
  | group connector steps =>
    rw [step, add, ConditionStep.condition, conditions_run {} steps, List.nil_append]
  | predicate p => rw [step, add, ConditionStep.condition]

@[simp] theorem conditions_run (g : GroupDraft) (steps : List ConditionStep) :
    (g.run steps).conditions = g.conditions ++ ConditionStep.conditions steps := by
  cases steps with
  | nil => rw [run, ConditionStep.conditions, List.append_nil]
  | cons s rest =>
    rw [run, ConditionStep.conditions, conditions_run (g.step s) rest, conditions_step g s,
      List.append_assoc, List.singleton_append]

end

end GroupDraft

/-- A query under construction. -/
structure QueryDraft where
  table : String
  conditions : List Predicate := []
  sorts : SortOrder := {}
  limit : Option UInt64 := none
  offset : Option UInt64 := none

inductive QueryStep where
  | condition (step : ConditionStep)
  | orderBy (key : SortKey)
  | sort (order : SortOrder)
  | limit (n : UInt64)
  | offset (n : UInt64)

namespace QueryDraft

/-- A query against a table, with nothing else said about it. -/
def ofTable (table : String) : QueryDraft := { table }

/-- Takes a step. -/
def step (d : QueryDraft) : QueryStep → QueryDraft
  | .condition s => { d with conditions := d.conditions ++ [s.condition] }
  | .orderBy key => { d with sorts := d.sorts.add key }
  | .sort order => { d with sorts := order }
  | .limit n => { d with limit := some n }
  | .offset n => { d with offset := some n }

def run (d : QueryDraft) (steps : List QueryStep) : QueryDraft := steps.foldl step d

theorem run_append (d : QueryDraft) (steps more : List QueryStep) :
    d.run (steps ++ more) = (d.run steps).run more := by
  unfold run
  exact List.foldl_append

def build (d : QueryDraft) : Query where
  table := d.table
  filter := filterOf d.conditions
  sorts := d.sorts
  limit := d.limit
  offset := d.offset

end QueryDraft

end RecordQuery
