import RecordQuery.Query.Steps
import RecordQuery.Records.Operations

/-!
# Building steps of different kinds

A query is built by steps of four kinds: conditions, sort keys, limits and offsets. Each kind has
its own part of the query and leaves the others alone, so the order matters among steps of one kind
and nowhere else. Conditions add up as in a group that is built apart, a limit or an offset replaces
the one before, and sort keys add up from the last replacement of all of them on.

## Main statements

* `QueryDraft.conditions_run`, `QueryDraft.lastSet_run`, `QueryDraft.sorts_run`: each part of a
  query after a run, from the steps of its kind.
* `QueryDraft.keys_run_of_no_sort`, `QueryDraft.keys_run_of_sort`: the sort keys after a run.
* `QueryDraft.build_run_eq_of_sameByKind`: steps that are the same kind by kind build the same
  query.
* `QueryDraft.build_run_by_kind`: this, and what the query is.
-/

namespace RecordQuery

namespace QueryStep

def condition? : QueryStep → Option ConditionStep
  | .condition s => some s
  | _ => none

/-- The step adds a sort key or replaces all of them. -/
def isSort : QueryStep → Bool
  | .orderBy _ => true
  | .sort _ => true
  | _ => false

/-- The sort key that a step adds. -/
def addedKey? : QueryStep → Option SortKey
  | .orderBy key => some key
  | _ => none

def limit? : QueryStep → Option UInt64
  | .limit n => some n
  | _ => none

def offset? : QueryStep → Option UInt64
  | .offset n => some n
  | _ => none

/-- Two sequences have the same steps of each kind in the same order, mixed in any way. -/
structure SameByKind (steps steps' : List QueryStep) : Prop where
  conditions : steps.filterMap condition? = steps'.filterMap condition?
  sorts : steps.filter isSort = steps'.filter isSort
  limits : steps.filterMap limit? = steps'.filterMap limit?
  offsets : steps.filterMap offset? = steps'.filterMap offset?

end QueryStep

/-- The sort order after a building step. -/
def SortOrder.after (order : SortOrder) : QueryStep → SortOrder
  | .orderBy key => order.add key
  | .sort replacement => replacement
  | _ => order

namespace QueryDraft

open QueryStep (SameByKind)

/-! ## One step

What a step does to each part of a query. -/

section Step

variable (d : QueryDraft) (s : QueryStep)

theorem table_step : (d.step s).table = d.table := by
  cases s <;> rfl

theorem conditions_step : (d.step s).conditions
    = d.conditions ++ (s.condition?.map ConditionStep.condition).toList := by
  cases s with
  | condition c => rfl
  | _ => exact (List.append_nil d.conditions).symm

theorem limit_step : (d.step s).limit = s.limit?.or d.limit := by
  cases s <;> rfl

theorem offset_step : (d.step s).offset = s.offset?.or d.offset := by
  cases s <;> rfl

theorem sorts_step : (d.step s).sorts = d.sorts.after s := by
  cases s <;> rfl

end Step

/-! ## A run

Each part of the query by induction on the steps. Steps of other kinds drop out. -/

section Run

variable (d : QueryDraft) (steps : List QueryStep)

theorem table_run : (d.run steps).table = d.table := by
  induction steps generalizing d with
  | nil => rfl
  | cons s rest ih => exact (ih (d.step s)).trans (table_step d s)

theorem conditions_run : (d.run steps).conditions
    = d.conditions ++ (steps.filterMap QueryStep.condition?).map ConditionStep.condition := by
  induction steps generalizing d with
  | nil => exact (List.append_nil d.conditions).symm
  | cons s rest ih =>
    have hrest := ih (d.step s)
    rw [conditions_step, List.append_assoc] at hrest
    rw [List.filterMap_cons]
    show ((d.step s).run rest).conditions = _
    rw [hrest]
    cases s.condition? <;> rfl

/-- A part that each step either sets or leaves as it is, has the last value that was set. -/
theorem lastSet_run {α : Type} {part : QueryDraft → Option α} {set? : QueryStep → Option α}
    (hstep : ∀ d s, part (d.step s) = (set? s).or (part d)) :
    part (d.run steps) = (steps.filterMap set?).getLast?.or (part d) := by
  induction steps generalizing d with
  | nil => rfl
  | cons s rest ih =>
    have hrest := ih (d.step s)
    rw [hstep] at hrest
    rw [List.filterMap_cons]
    show part ((d.step s).run rest) = _
    rw [hrest]
    cases hs : set? s with
    | none => rw [Option.none_or]
    | some value =>
      rw [Option.some_or, List.getLast?_cons]
      cases (rest.filterMap set?).getLast? <;> rfl

theorem sorts_run : (d.run steps).sorts
    = (steps.filter QueryStep.isSort).foldl SortOrder.after d.sorts := by
  have hstep (order : SortOrder) (s : QueryStep) :
      (if s.isSort then order.after s else order) = order.after s := by
    cases s <;> rfl
  unfold run
  rw [List.foldl_filter, ← List.foldl_hom QueryDraft.sorts fun d s => ?_]
  rw [hstep, sorts_step]

variable {d steps}

/-- Without a replacement the keys of the steps come behind those there. -/
theorem keys_run_of_no_sort (h : ∀ order, .sort order ∉ steps) :
    (d.run steps).sorts.keys = d.sorts.keys ++ steps.filterMap QueryStep.addedKey? := by
  induction steps generalizing d with
  | nil => exact (List.append_nil d.sorts.keys).symm
  | cons s rest ih =>
    have hrest := @ih (d.step s) fun order hmem => h order (List.mem_cons_of_mem s hmem)
    show ((d.step s).run rest).sorts.keys = _
    rw [hrest, List.filterMap_cons]
    cases s with
    | orderBy key => exact List.append_assoc d.sorts.keys [key] _
    | sort order => exact absurd (List.mem_cons_self ..) (h order)
    | _ => rfl

/-- The last replacement makes up for all that was before it. -/
theorem keys_run_of_sort {before later : List QueryStep} {order : SortOrder}
    (hsteps : steps = before ++ .sort order :: later) (h : ∀ other, .sort other ∉ later) :
    (d.run steps).sorts.keys = order.keys ++ later.filterMap QueryStep.addedKey? := by
  rw [hsteps, run_append]
  exact keys_run_of_no_sort (d := (d.run before).step (.sort order)) h

end Run

/-! ## The query that was built -/

variable (table : String) (steps : List QueryStep)

theorem limit_build_run :
    ((ofTable table).run steps).build.limit = (steps.filterMap QueryStep.limit?).getLast? :=
  (lastSet_run (ofTable table) steps limit_step).trans (Option.or_none ..)

theorem offset_build_run :
    ((ofTable table).run steps).build.offset = (steps.filterMap QueryStep.offset?).getLast? :=
  (lastSet_run (ofTable table) steps offset_step).trans (Option.or_none ..)

theorem filter_build_run : ((ofTable table).run steps).build.filter
    = filterOf ((steps.filterMap QueryStep.condition?).map ConditionStep.condition) := by
  show filterOf ((ofTable table).run steps).conditions = _
  rw [conditions_run]
  rfl

variable {steps}

theorem build_run_eq_of_sameByKind {steps' : List QueryStep} (h : SameByKind steps steps') :
    ((ofTable table).run steps).build = ((ofTable table).run steps').build := by
  have htable : ((ofTable table).run steps).table = ((ofTable table).run steps').table := by
    rw [table_run, table_run]
  have hconditions :
      ((ofTable table).run steps).conditions = ((ofTable table).run steps').conditions := by
    rw [conditions_run, conditions_run, h.conditions]
  have hsorts : ((ofTable table).run steps).sorts = ((ofTable table).run steps').sorts := by
    rw [sorts_run, sorts_run, h.sorts]
  have hlimit : ((ofTable table).run steps).limit = ((ofTable table).run steps').limit := by
    rw [lastSet_run _ _ limit_step, lastSet_run _ _ limit_step, h.limits]
  have hoffset : ((ofTable table).run steps).offset = ((ofTable table).run steps').offset := by
    rw [lastSet_run _ _ offset_step, lastSet_run _ _ offset_step, h.offsets]
  unfold build
  rw [htable, hconditions, hsorts, hlimit, hoffset]

/-- The same steps kind by kind build the same query, with the same parameters and the same key,
however the kinds are mixed. Its limit and its offset are the last ones set, its sort keys those of
the last replacement and those added behind it, and its filter is that of a group built by the
condition steps: none if there are none, and otherwise one condition for each of them, in order. -/
theorem build_run_by_kind (table : String) (steps : List QueryStep) :
    let q := ((ofTable table).run steps).build
    let conditionSteps := steps.filterMap QueryStep.condition?
    (∀ steps', SameByKind steps steps' →
      let q' := ((ofTable table).run steps').build
      q = q' ∧ q.key? = q'.key?
        ∧ ∀ compile, q.parameters compile = q'.parameters compile
          ∧ q.probe compile = q'.probe compile)
    ∧ q.table = table
    ∧ q.limit = (steps.filterMap QueryStep.limit?).getLast?
    ∧ q.offset = (steps.filterMap QueryStep.offset?).getLast?
    ∧ ((∀ order, .sort order ∉ steps) → q.sorts.keys = steps.filterMap QueryStep.addedKey?)
    ∧ (∀ before order later, steps = before ++ .sort order :: later →
        (∀ other, .sort other ∉ later) →
        q.sorts.keys = order.keys ++ later.filterMap QueryStep.addedKey?)
    ∧ q.filter = (GroupDraft.run {} conditionSteps).build
    ∧ (q.filter = none ↔ conditionSteps = [])
    ∧ (conditionSteps ≠ [] →
        q.filter = some (.group .and (conditionSteps.map ConditionStep.condition))) := by
  intro q conditionSteps
  have hfilter : q.filter = filterOf (conditionSteps.map ConditionStep.condition) :=
    filter_build_run table steps
  refine ⟨?_, table_run (ofTable table) steps, limit_build_run table steps,
    offset_build_run table steps, fun h => keys_run_of_no_sort h,
    fun _ _ _ hsteps h => keys_run_of_sort hsteps h, ?_, ?_, ?_⟩
  · intro steps' h q'
    have hbuild : q = q' := build_run_eq_of_sameByKind table h
    rw [hbuild]
    exact ⟨rfl, rfl, fun compile => ⟨rfl, rfl⟩⟩
  · unfold GroupDraft.build
    rw [hfilter, GroupDraft.conditions_run, ConditionStep.conditions_eq_map]
    rfl
  · rw [hfilter, filterOf_eq_none_iff, List.map_eq_nil_iff]
  · intro hsome
    rw [hfilter, filterOf_of_ne_nil (mt List.map_eq_nil_iff.mp hsome)]

/-- Sort keys that are replaced, a limit that is set twice and conditions of every sort, told in two
ways. -/
theorem build_run_by_kind_told_twice :
    let byStatus : QueryStep := .condition (.whereEq "status" (.text "active"))
    let byAge : QueryStep := .condition (.group .or [.compare .and ⟨"age", ">", .int 18⟩])
    let byId : QueryStep := .condition (.whereId (.int 7))
    let steps : List QueryStep :=
      [.orderBy (.asc "name"), byStatus, .limit 5, .sort (.only (.desc "age")), byAge,
        .orderBy (.asc "Id"), .limit 10, byId, .offset 0]
    let steps' : List QueryStep :=
      [.offset 0, byStatus, byAge, byId, .limit 5, .limit 10, .orderBy (.asc "name"),
        .sort (.only (.desc "age")), .orderBy (.asc "Id")]
    let q := ((ofTable "leads").run steps).build
    SameByKind steps steps'
      ∧ q = ((ofTable "leads").run steps').build
      ∧ q.limit = some 10
      ∧ q.sorts.keys = [.desc "age", .asc "Id"]
      ∧ q.key? = some (.int 7) := by
  intro byStatus byAge byId steps steps' q
  have hsame : SameByKind steps steps' := ⟨rfl, rfl, rfl, rfl⟩
  obtain ⟨hbuild, -, hlimit, -, -, hkeys, -⟩ := build_run_by_kind "leads" steps
  exact ⟨hsame, (hbuild steps' hsame).1, hlimit,
    hkeys [.orderBy (.asc "name"), byStatus, .limit 5] _ _ rfl (by simp [byAge, byId]), by decide⟩

end QueryDraft

end RecordQuery
