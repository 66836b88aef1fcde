import RecordQuery.Proofs.Filter.KeyClause
import RecordQuery.Query.Steps

/-!
# What a building step does to the text of a filter

A filter that is built step by step is written as the row of the conditions added so far. A further
condition is written behind them, joined by its connector, and what is there stays as it is: no
parentheses are put around it. A condition without comparisons leaves no trace, also where all
conditions so far were of this kind.

## Main statements

* `Predicate.groupClause?_concat`: the text of siblings with one more behind them.
* `QueryDraft.filterText?_condition_of_empty`, `QueryDraft.filterText?_condition_of_none`,
  `QueryDraft.filterText?_condition_of_some`: what a condition step does to the text.
* `QueryDraft.exists_filterText?_run`: steps never change what is written already.
* `QueryDraft.whereClause?_build_run`: the whole of it, for the filter of a built query.
-/

namespace RecordQuery

namespace Predicate

/-! ## One more condition in a row -/

theorem clauses_concat_of_none {p : Predicate} (ps : List Predicate) (h : p.clause? true = none) :
    clauses (ps ++ [p]) = clauses ps := by
  rw [clauses_append, clauses, h]
  show clauses ps ++ [] = clauses ps
  rw [List.append_nil]

theorem clauses_concat_of_some {p : Predicate} {clause : String} (ps : List Predicate)
    (h : p.clause? true = some clause) :
    clauses (ps ++ [p]) = clauses ps ++ [(p.connector, clause)] := by
  rw [clauses_append, clauses, h]
  rfl

/-- Behind other siblings a condition is written with its connector in front. -/
theorem groupClause?_concat {items : List (Connector × String)} {text : String}
    (h : groupClause? false items = some text) (item : Connector × String) :
    groupClause? false (items ++ [item]) = some (text ++ "~" ++ item.1.name ++ item.2) := by
  cases items with
  | nil => simp [groupClause?] at h
  | cons first rest =>
    rw [groupClause?_false_cons, Option.some.injEq] at h
    rw [List.cons_append, groupClause?_false_cons, List.map_append, String.join_append, ← h]
    simp [joined, String.append_assoc]

/-- The text of a condition alone in the group at the root. -/
theorem whereClause?_alone (p : Predicate) :
    whereClause? (some (.group .and [p])) = p.clause? true := by
  rw [whereClause?_eq_groupClause?, topLevel]
  cases h : p.clause? true with
  | none =>
    rw [show [p] = [] ++ [p] from rfl, clauses_concat_of_none [] h]
    rfl
  | some clause =>
    rw [show [p] = [] ++ [p] from rfl, clauses_concat_of_some [] h]
    rfl

end Predicate

namespace QueryDraft

open Predicate

/-- The text of the filter that was built so far. -/
def filterText? (d : QueryDraft) : Option String := whereClause? d.build.filter

theorem filterText?_eq_groupClause? (d : QueryDraft) :
    d.filterText? = groupClause? false (clauses d.conditions) := by
  unfold filterText? build filterOf
  cases d.conditions with
  | nil => rfl
  | cons p rest => exact whereClause?_eq_groupClause? (.group .and (p :: rest))

/-! ## One step

Everything is said of a query under construction, whatever steps led to it. -/

section Step

variable (d : QueryDraft) (s : ConditionStep)

theorem filterText?_condition_of_empty (h : s.condition.leafCount = 0) :
    (d.step (.condition s)).filterText? = d.filterText? := by
  rw [filterText?_eq_groupClause?, filterText?_eq_groupClause?]
  show groupClause? false (clauses (d.conditions ++ [s.condition])) = _
  rw [clauses_concat_of_none d.conditions ((clause?_eq_none_iff s.condition).mpr h)]

theorem filterText?_condition_of_none (h : d.filterText? = none) :
    (d.step (.condition s)).filterText? = whereClause? (some (.group .and [s.condition])) := by
  -- Nothing is written so far, so that no condition in front has a comparison.
  have hclauses : clauses d.conditions = [] := by
    rw [filterText?_eq_groupClause?] at h
    cases hd : clauses d.conditions with
    | nil => rfl
    | cons first rest =>
      rw [hd, groupClause?_false_cons] at h
      contradiction
  rw [filterText?_eq_groupClause?, whereClause?_eq_groupClause?]
  show groupClause? false (clauses (d.conditions ++ [s.condition])) = _
  rw [clauses_append, hclauses, List.nil_append]
  rfl

theorem filterText?_condition_of_some {text : String} (h : d.filterText? = some text)
    (hleaf : s.condition.leafCount ≠ 0) :
    ∃ clause, whereClause? (some (.group .and [s.condition])) = some clause
      ∧ (d.step (.condition s)).filterText?
        = some (text ++ "~" ++ s.condition.connector.name ++ clause) := by
  obtain ⟨clause, hclause⟩ : ∃ clause, s.condition.clause? true = some clause := by
    rw [← Option.ne_none_iff_exists']
    exact mt (clause?_eq_none_iff s.condition).mp hleaf
  refine ⟨clause, by rw [whereClause?_alone, hclause], ?_⟩
  rw [filterText?_eq_groupClause?] at h ⊢
  show groupClause? false (clauses (d.conditions ++ [s.condition])) = _
  rw [clauses_concat_of_some d.conditions hclause]
  exact groupClause?_concat h _

theorem filterText?_step_of_ne_condition {step : QueryStep} (h : ∀ s, step ≠ .condition s) :
    (d.step step).filterText? = d.filterText? := by
  cases step with
  | condition s => exact absurd rfl (h s)
  | orderBy key => rfl
  | sort order => rfl
  | limit n => rfl
  | offset n => rfl

end Step

/-! ## Any number of steps

Induction on the further steps: each of them leaves the text as it is or writes something behind
it. -/

theorem exists_filterText?_step {d : QueryDraft} {text : String} (h : d.filterText? = some text)
    (step : QueryStep) : ∃ added, (d.step step).filterText? = some (text ++ added) := by
  have hsame : (d.step step).filterText? = d.filterText?
      → ∃ added, (d.step step).filterText? = some (text ++ added) :=
    fun heq => ⟨"", by rw [heq, h, String.append_empty]⟩
  cases step with
  | condition s =>
    by_cases hleaf : s.condition.leafCount = 0
    · exact hsame (filterText?_condition_of_empty d s hleaf)
    · obtain ⟨clause, -, htext⟩ := filterText?_condition_of_some d s h hleaf
      refine ⟨"~" ++ s.condition.connector.name ++ clause, ?_⟩
      rw [htext, String.append_assoc, String.append_assoc, String.append_assoc]
  | orderBy key => exact hsame rfl
  | sort order => exact hsame rfl
  | limit n => exact hsame rfl
  | offset n => exact hsame rfl

theorem exists_filterText?_run {d : QueryDraft} {text : String} (h : d.filterText? = some text)
    (more : List QueryStep) : ∃ added, (d.run more).filterText? = some (text ++ added) := by
  induction more generalizing d text with
  | nil => exact ⟨"", by rw [String.append_empty]; exact h⟩
  | cons step rest ih =>
    obtain ⟨first, hfirst⟩ := exists_filterText?_step h step
    obtain ⟨added, hadded⟩ := ih hfirst
    exact ⟨first ++ added, by rw [← String.append_assoc]; exact hadded⟩

/-- Behind any steps, a condition step adds to the text of the filter what its condition is written
as alone, joined by the connector of the condition to what is written already. It adds nothing if
the condition has no comparison, and no connector if nothing is written so far. The other steps do
not change the text. So whatever steps follow, the text only grows at its end. -/
theorem whereClause?_build_run (table : String) (steps : List QueryStep) :
    let text (steps : List QueryStep) := whereClause? ((ofTable table).run steps).build.filter
    (∀ step : ConditionStep,
      let p := step.condition
      let alone := whereClause? (some (.group .and [p]))
      (p.leafCount = 0 → text (steps ++ [.condition step]) = text steps)
      ∧ (text steps = none → text (steps ++ [.condition step]) = alone)
      ∧ ∀ before, text steps = some before → p.leafCount ≠ 0 →
          ∃ clause, alone = some clause
            ∧ text (steps ++ [.condition step])
              = some (before ++ "~" ++ p.connector.name ++ clause))
    ∧ (∀ step : QueryStep, (∀ s, step ≠ .condition s) → text (steps ++ [step]) = text steps)
    ∧ ∀ (more : List QueryStep) (before : String), text steps = some before →
        ∃ added, text (steps ++ more) = some (before ++ added) := by
  intro text
  have hconcat (s : QueryStep) :
      text (steps ++ [s]) = (((ofTable table).run steps).step s).filterText? := by
    show whereClause? ((ofTable table).run (steps ++ [s])).build.filter = _
    rw [run_append]
    rfl
  refine ⟨fun step => ⟨?_, ?_, ?_⟩, ?_, ?_⟩
  · intro hleaf
    rw [hconcat]
    exact filterText?_condition_of_empty _ step hleaf
  · intro hnone
    rw [hconcat]
    exact filterText?_condition_of_none _ step hnone
  · intro before hbefore hleaf
    rw [hconcat]
    exact filterText?_condition_of_some _ step hbefore hleaf
  · intro step hstep
    rw [hconcat]
    exact filterText?_step_of_ne_condition _ hstep
  · intro more before hbefore
    show ∃ added, whereClause? ((ofTable table).run (steps ++ more)).build.filter = _
    rw [run_append]
    exact exists_filterText?_run hbefore more

example :
    let steps : List QueryStep :=
      [.condition (.group .or []), .condition (.whereEq "status" (.text "active")), .limit 5,
        .condition (.group .or [.compare .or ⟨"age", ">", .int 18⟩,
          .compare .or ⟨"age", "=", .int 7⟩])]
    whereClause? ((ofTable "leads").run steps).build.filter
      = some "(status,eq,active)~or((age,gt,18)~or(age,eq,7))" := by
  decide +kernel

end QueryDraft

end RecordQuery
