import RecordQuery.Proofs.Filter.EmptyConditions
import RecordQuery.Proofs.Filter.KeyClause

/-!
# Tables in front of columns

The column of a comparison may be qualified by a table, or by any text that ends in a point. The text
of a filter and its key both go by the bare column, which is what follows the last point, and each of
them is found by a walk of its own. So a further qualifier changes neither, at however many places of
a filter, and the requests for a query stay the same.

## Main statements

* `Predicate.whereClause?_mapTests`, `Predicate.key?_mapTests`: what may be changed in the comparisons
  of a filter without a change of its text, and of its key.
* `Predicate.exists_whereClause?_around_leaf`: each comparison stands in the text of its filter.
* `Query.requests_qualified`: requests do not depend on qualifiers, and no column is sent with one.
-/

namespace RecordQuery

/-- The comparison with a table, or any other text, in front of its column. -/
def Comparison.qualified (test : Comparison) (table : String) : Comparison :=
  { test with column := table ++ "." ++ test.column }

@[simp] theorem Comparison.leaf_qualified (test : Comparison) (table : String) :
    (test.qualified table).leaf = test.leaf := by
  unfold leaf qualified
  rw [bareColumn_qualified]

@[simp] theorem Comparison.key?_qualified (test : Comparison) (table : String) :
    (test.qualified table).key? = test.key? := by
  unfold key? qualified
  rw [bareColumn_qualified]

namespace Predicate

/-! ## Changes to the comparisons of a filter

A change may depend on the place of the comparison, given by the numbers of the children on the way
to it. Induction over a condition and the children of a group: as long as each comparison keeps what
the text shows of it, so does each child, and the connectors are not touched. The key needs no mutual
induction, since only the children of the root are searched. -/

mutual

/-- The filter with each comparison changed. -/
def mapTests (f : List Nat → Comparison → Comparison) : Predicate → Predicate
  | .comparison connector test => .comparison connector (f [] test)
  | .group connector children => .group connector (mapTestsAll f 0 children)

/-- The children of a group with each comparison changed, from the child numbered `index` on. -/
def mapTestsAll (f : List Nat → Comparison → Comparison) (index : Nat) :
    List Predicate → List Predicate
  | [] => []
  | p :: rest => mapTests (fun path => f (index :: path)) p :: mapTestsAll f (index + 1) rest

end

@[simp] theorem connector_mapTests (f : List Nat → Comparison → Comparison) (p : Predicate) :
    (p.mapTests f).connector = p.connector := by
  cases p <;> simp only [mapTests, connector]

mutual

theorem item?_mapTests {f : List Nat → Comparison → Comparison}
    (hf : ∀ path test, (f path test).leaf = test.leaf) (p : Predicate) :
    (p.mapTests f).item? = p.item? := by
  match p with
  | .comparison _ test =>
    show some (Item.leaf (f [] test).leaf) = some (Item.leaf test.leaf)
    rw [hf]
  | .group _ children =>
    show Item.ofItems? (items (mapTestsAll f 0 children)) = Item.ofItems? (items children)
    rw [items_mapTestsAll hf]

theorem items_mapTestsAll {f : List Nat → Comparison → Comparison}
    (hf : ∀ path test, (f path test).leaf = test.leaf) (index : Nat) (ps : List Predicate) :
    items (mapTestsAll f index ps) = items ps := by
  match ps with
  | [] => rfl
  | p :: rest =>
    have hp := item?_mapTests (fun path => hf (index :: path)) p
    have hrest := items_mapTestsAll hf (index + 1) rest
    rw [mapTestsAll, items, items, hp, hrest, connector_mapTests]

end

variable {f : List Nat → Comparison → Comparison}

theorem normalForm?_mapTests (hf : ∀ path test, (f path test).leaf = test.leaf) (p : Predicate) :
    (p.mapTests f).normalForm? = p.normalForm? := by
  cases p with
  | comparison _ test =>
    show some (Sequence.mk (.leaf (f [] test).leaf) []) = some ⟨.leaf test.leaf, []⟩
    rw [hf]
  | group _ children =>
    show Sequence.ofItems? (items (mapTestsAll f 0 children)) = Sequence.ofItems? (items children)
    rw [items_mapTestsAll hf]

/-- A text stays as it is if it shows each comparison as before. -/
theorem whereClause?_mapTests (hf : ∀ path test, (f path test).leaf = test.leaf) (p : Predicate) :
    whereClause? (some (p.mapTests f)) = whereClause? (some p) := by
  rw [whereClause?_eq_map_text, whereClause?_eq_map_text, normalForm?_mapTests hf]

theorem siblingKey?_mapTests (hf : ∀ path test, (f path test).key? = test.key?) (first : Bool)
    (p : Predicate) : (p.mapTests f).siblingKey? first = p.siblingKey? first := by
  cases p with
  | comparison connector test =>
    show (if first || connector == .and then (f [] test).key? else none) = _
    rw [hf]
    rfl
  | group _ _ => rfl

theorem keyAmong?_mapTestsAll (hf : ∀ path test, (f path test).key? = test.key?) (first : Bool)
    (index : Nat) (ps : List Predicate) :
    keyAmong? first (mapTestsAll f index ps) = keyAmong? first ps := by
  induction ps generalizing first index with
  | nil => rfl
  | cons p rest ih =>
    have hp := siblingKey?_mapTests (fun path => hf (index :: path)) first p
    rw [mapTestsAll, keyAmong?, keyAmong?, hp, ih]

/-- A key stays the same if each comparison asks for the same key as before. -/
theorem key?_mapTests (hf : ∀ path test, (f path test).key? = test.key?) (p : Predicate) :
    (p.mapTests f).key? = p.key? := by
  cases p with
  | comparison _ test => exact hf [] test
  | group _ children => exact keyAmong?_mapTestsAll hf true 0 children

/-! ## The place of a comparison in the text -/

/-- The text of a condition stands in that of its group, with or without parentheses. -/
theorem exists_groupClause?_inside (nested : Bool) (before later : List (Connector × String))
    (connector : Connector) (clause : String) :
    ∃ pre post, groupClause? nested (before ++ (connector, clause) :: later)
      = some (pre ++ clause ++ post) := by
  obtain ⟨pre, post, htext, -⟩ := exists_groupClause?_around before later connector clause
  cases nested with
  | false => exact ⟨pre, post, htext⟩
  | true =>
    rw [groupClause?_true, htext, Option.map_some]
    split
    · refine ⟨"(" ++ pre, post ++ ")", ?_⟩
      simp only [String.append_assoc]
    · exact ⟨pre, post, rfl⟩

mutual

theorem exists_clause?_around_leaf {test : Comparison} (p : Predicate) (h : test ∈ p.leaves) :
    ∃ pre post, p.clause? true = some (pre ++ test.clause ++ post) := by
  match p with
  | .comparison _ other =>
    obtain rfl : test = other := List.mem_singleton.mp h
    refine ⟨"", "", ?_⟩
    rw [String.empty_append, String.append_empty]
    rfl
  | .group _ children =>
    obtain ⟨before, connector, pre, post, later, hclauses⟩ :=
      exists_clauses_around_leaf children h
    obtain ⟨front, back, htext⟩ :=
      exists_groupClause?_inside true before later connector (pre ++ test.clause ++ post)
    refine ⟨front ++ pre, post ++ back, ?_⟩
    show groupClause? true (clauses children) = _
    rw [hclauses, htext]
    simp only [String.append_assoc]

theorem exists_clauses_around_leaf {test : Comparison} (ps : List Predicate)
    (h : test ∈ leavesAll ps) :
    ∃ before connector pre post later,
      clauses ps = before ++ (connector, pre ++ test.clause ++ post) :: later := by
  match ps with
  | [] => simp [leavesAll] at h
  | p :: rest =>
    rcases List.mem_append.mp h with hp | hrest
    · obtain ⟨pre, post, hclause⟩ := exists_clause?_around_leaf p hp
      refine ⟨[], p.connector, pre, post, clauses rest, ?_⟩
      rw [clauses, hclause]
      rfl
    · obtain ⟨before, connector, pre, post, later, hclauses⟩ :=
        exists_clauses_around_leaf rest hrest
      rw [clauses, hclauses]
      cases p.clause? true with
      | none => exact ⟨before, connector, pre, post, later, rfl⟩
      | some clause => exact ⟨(p.connector, clause) :: before, connector, pre, post, later, rfl⟩

end

theorem exists_whereClause?_around_leaf {p : Predicate} {test : Comparison} (h : test ∈ p.leaves) :
    ∃ pre post, whereClause? (some p) = some (pre ++ test.leaf.text ++ post) := by
  rw [leaves_eq_leavesAll_topLevel] at h
  obtain ⟨before, connector, pre, post, later, hclauses⟩ := exists_clauses_around_leaf _ h
  obtain ⟨front, back, htext⟩ :=
    exists_groupClause?_inside false before later connector (pre ++ test.clause ++ post)
  refine ⟨front ++ pre, post ++ back, ?_⟩
  rw [whereClause?_eq_groupClause?, hclauses, htext, ← Comparison.clause_eq_text_leaf]
  simp only [String.append_assoc]

/-- The filter with further tables in front of some of its columns, by the place of the
comparison. -/
def qualified (tables : List Nat → Option String) : Predicate → Predicate :=
  mapTests fun path test => (tables path).elim test test.qualified

end Predicate

namespace Query

open Predicate

/-- The query with further tables in front of some columns of its filter. -/
def qualified (q : Query) (tables : List Nat → Option String) : Query :=
  { q with filter := q.filter.map (Predicate.qualified tables) }

theorem whereClause?_qualified (q : Query) (tables : List Nat → Option String) :
    whereClause? (q.qualified tables).filter = whereClause? q.filter := by
  unfold qualified
  cases q.filter with
  | none => rfl
  | some p =>
    refine whereClause?_mapTests (fun path test => ?_) p
    cases tables path with
    | none => rfl
    | some table => exact test.leaf_qualified table

theorem key?_qualified (q : Query) (tables : List Nat → Option String) :
    (q.qualified tables).key? = q.key? := by
  unfold key? qualified
  cases q.filter with
  | none => rfl
  | some p =>
    refine key?_mapTests (fun path test => ?_) p
    cases tables path with
    | none => rfl
    | some table => exact test.key?_qualified table

/-- Tables in front of columns, whatever their names and wherever they are put, change neither the
text of a filter nor its key, and so none of the requests. Each comparison stands in the text with a
column that holds no point, from which nothing more is cut. -/
theorem requests_qualified (q : Query) (tables : List Nat → Option String) :
    whereClause? (q.qualified tables).filter = whereClause? q.filter
      ∧ (q.qualified tables).key? = q.key?
      ∧ (q.qualified tables).get whereClause? = q.get whereClause?
      ∧ (∀ fields, (q.qualified tables).update fields = q.update fields)
      ∧ (∀ id, (q.qualified tables).delete id = q.delete id)
      ∧ ∀ p, q.filter = some p → ∀ test ∈ p.leaves,
        (∃ pre post, whereClause? q.filter = some (pre ++ test.leaf.text ++ post))
          ∧ '.' ∉ test.leaf.column.toList ∧ bareColumn test.leaf.column = test.leaf.column := by
  have htext := whereClause?_qualified q tables
  have hkey := key?_qualified q tables
  have htable : (q.qualified tables).table = q.table := rfl
  refine ⟨htext, hkey, ?_, update_eq_of_sameKey htable hkey, delete_eq_of_sameKey htable hkey, ?_⟩
  · unfold get parameters
    rw [htext]
    rfl
  · rintro p hp test htest
    rw [hp]
    exact ⟨exists_whereClause?_around_leaf htest, point_notMem_bareColumn test.column,
      bareColumn_bareColumn test.column⟩

/-- An empty table, one with points in its name and a column that ends in a point. -/
theorem requests_qualified_points :
    let name : Comparison := ⟨"crm.leads.name", "like", .text "%a%"⟩
    let p : Predicate := .group .and
      [.comparison .and ⟨"Id", "=", .int 7⟩,
        .group .or [.comparison .or name, .comparison .or ⟨"age.", ">", .int 18⟩]]
    let q : Query := { table := "leads", filter := some p }
    let tables : List Nat → Option String := fun path =>
      if path = [0] then some "" else if path = [1, 1] then some "a..b." else none
    (p.qualified tables).leaves.map Comparison.column = [".Id", "crm.leads.name", "a..b..age."]
      ∧ whereClause? (q.qualified tables).filter = some "(Id,eq,7)~or((name,like,%a%)~or(,gt,18))"
      ∧ (q.qualified tables).key? = some (.int 7)
      ∧ (q.qualified tables).delete none = q.delete none
      ∧ name ∈ p.leaves ∧ '.' ∉ name.leaf.column.toList := by
  intro name p q tables
  obtain ⟨htext, hkey, -, -, hdelete, hleaves⟩ := requests_qualified q tables
  have hname : name ∈ p.leaves := by decide
  refine ⟨by decide, ?_, ?_, hdelete none, hname, (hleaves p rfl name hname).2.1⟩
  · rw [htext]
    decide
  · rw [hkey]
    decide

end Query

end RecordQuery
