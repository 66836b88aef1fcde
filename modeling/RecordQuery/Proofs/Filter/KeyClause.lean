import RecordQuery.Proofs.Filter.Grammar
import RecordQuery.Records.Operations

/-!
# The key of a filter in its text

The key of a filter is searched for in the tree, and the text is written by another walk over it. Still
a key that is found stands in the text: the comparison that it is taken from is written out, at the top,
behind the text of all that stands in front of it.

## Main statements

* `Predicate.exists_split_of_keyAmong?`: the key is that of the first comparison that asks for one.
* `Predicate.exists_groupClause?_around`: the text of siblings is the text in front of one of them, its
  own text, and the rest.
* `Query.whereClause?_of_key?`: both together.
-/

namespace RecordQuery

/-- A comparison can give a filter its key, given its place among its siblings and its connector. -/
structure Comparison.AsksForKey (test : Comparison) (index : Nat) (connector : Connector) : Prop where
  /-- It stands first or is joined by `and`. -/
  joined : index = 0 ∨ connector = .and
  column : bareColumn test.column ∈ ["Id", "id", "_id"]
  operator : Operator.ofToken test.operator = .equal
  value : test.value.isBlank = false

theorem Comparison.key?_eq_some_iff {test : Comparison} {key : Scalar} :
    test.key? = some key ↔ bareColumn test.column ∈ ["Id", "id", "_id"]
      ∧ Operator.ofToken test.operator = .equal ∧ test.value.isBlank = false ∧ test.value = key := by
  rw [key?, Option.ite_none_right_eq_some]
  simp only [isPrimaryKey, primaryKeyNames, List.contains_iff_mem, Bool.and_eq_true, beq_iff_eq,
    Bool.not_eq_true', Option.some.injEq, and_assoc]

namespace Predicate

/-- The conditions at the top of a filter: the children of a group, or a comparison alone. -/
def topLevel : Predicate → List Predicate
  | .comparison connector test => [.comparison connector test]
  | .group _ children => children

theorem leaves_eq_leavesAll_topLevel (p : Predicate) : p.leaves = leavesAll p.topLevel := by
  cases p with
  | comparison _ _ => rfl
  | group _ _ => rfl

theorem leafCount_eq_leafCountAll_topLevel (p : Predicate) :
    p.leafCount = leafCountAll p.topLevel := by
  cases p with
  | comparison _ _ => rfl
  | group _ _ => rfl

/-! ## The comparison that gives the key -/

theorem key?_eq_keyAmong?_topLevel (p : Predicate) : p.key? = keyAmong? true p.topLevel := by
  cases p with
  | comparison connector test => simp [key?, topLevel, keyAmong?, siblingKey?]
  | group _ _ => rfl

/-- A condition can give a filter its key if it is a comparison that can. -/
def AsksForKey (index : Nat) : Predicate → Prop
  | .comparison connector test => test.AsksForKey index connector
  | .group _ _ => False

theorem siblingKey?_eq_some_iff {index : Nat} {p : Predicate} {key : Scalar} :
    p.siblingKey? (index == 0) = some key
      ↔ p.AsksForKey index ∧ ∃ connector test, p = .comparison connector test ∧ test.value = key := by
  cases p with
  | group _ _ => simp [siblingKey?, AsksForKey]
  | comparison connector test =>
    rw [siblingKey?, Option.ite_none_right_eq_some, Comparison.key?_eq_some_iff, Bool.or_eq_true,
      beq_iff_eq, beq_iff_eq]
    constructor
    · rintro ⟨hjoined, hcolumn, hoperator, hvalue, hkey⟩
      exact ⟨⟨hjoined, hcolumn, hoperator, hvalue⟩, connector, test, rfl, hkey⟩
    · rintro ⟨hasks, _, _, heq, hkey⟩
      cases heq
      exact ⟨hasks.joined, hasks.column, hasks.operator, hasks.value, hkey⟩

theorem not_asksForKey_of_siblingKey? {index : Nat} {p : Predicate}
    (h : p.siblingKey? (index == 0) = none) : ¬ p.AsksForKey index := by
  cases p with
  | group _ _ => exact id
  | comparison connector test =>
    intro hasks
    have hsome := siblingKey?_eq_some_iff.mpr ⟨hasks, connector, test, rfl, rfl⟩
    exact absurd (h.symm.trans hsome) (by simp)

/-- The key among siblings, numbered from `index` on, is the value of the first of them that asks for
one. -/
theorem exists_split_of_keyAmong? {index : Nat} {ps : List Predicate} {key : Scalar}
    (h : keyAmong? (index == 0) ps = some key) :
    ∃ before connector test later, ps = before ++ .comparison connector test :: later
      ∧ test.AsksForKey (index + before.length) connector ∧ test.value = key
      ∧ ∀ (i : Nat) (p : Predicate), before[i]? = some p → ¬ p.AsksForKey (index + i) := by
  induction ps generalizing index with
  | nil => simp [keyAmong?] at h
  | cons p rest ih =>
    rw [keyAmong?] at h
    cases hp : p.siblingKey? (index == 0) with
    | some found =>
      obtain ⟨hasks, connector, test, rfl, hvalue⟩ := siblingKey?_eq_some_iff.mp hp
      rw [hp, Option.some_or, Option.some.injEq] at h
      exact ⟨[], connector, test, rest, rfl, hasks, hvalue.trans h, by simp⟩
    | none =>
      -- The condition is passed over, and stands in front of what the rest gives.
      rw [hp, Option.none_or] at h
      have hrest : keyAmong? (index + 1 == 0) rest = some key := h
      obtain ⟨before, connector, test, later, rfl, hasks, hvalue, hnone⟩ := ih hrest
      refine ⟨p :: before, connector, test, later, rfl, ?_, hvalue, ?_⟩
      · rwa [List.length_cons, Nat.add_comm before.length, ← Nat.add_assoc]
      · intro i q hi
        cases i with
        | zero =>
          obtain rfl := Option.some.inj hi
          exact not_asksForKey_of_siblingKey? hp
        | succ i =>
          rw [Nat.add_comm i, ← Nat.add_assoc]
          exact hnone i q hi

/-! ## The text around a condition -/

theorem clauses_append (ps qs : List Predicate) : clauses (ps ++ qs) = clauses ps ++ clauses qs := by
  rw [clauses_eq_filterMap, clauses_eq_filterMap, clauses_eq_filterMap, List.filterMap_append]

/-- A whole filter is written as the row of the conditions at its top. -/
theorem whereClause?_eq_groupClause? (p : Predicate) :
    whereClause? (some p) = groupClause? false (clauses p.topLevel) := by
  rw [whereClause?_eq_map_text, clauses_eq_map_text, groupClause?_whole]
  cases p with
  | comparison _ _ => rfl
  | group _ _ => rfl

theorem groupClause?_false_cons (first : Connector × String) (rest : List (Connector × String)) :
    groupClause? false (first :: rest) = some (first.2 ++ String.join (rest.map joined)) := by
  cases rest with
  | nil => simp [groupClause?]
  | cons _ _ => simp [groupClause?]

/-- Inside another group the text of two or more siblings stands in parentheses. -/
theorem groupClause?_true (items : List (Connector × String)) :
    groupClause? true items = (groupClause? false items).map fun text =>
      if 2 ≤ items.length then "(" ++ text ++ ")" else text := by
  match items with
  | [] => rfl
  | [_] => rfl
  | _ :: _ :: _ => simp [groupClause?]

/-- Behind the first one each condition starts with `~`. -/
theorem join_joined_eq (rest : List (Connector × String)) :
    String.join (rest.map joined) = "" ∨ ∃ text, String.join (rest.map joined) = "~" ++ text := by
  cases rest with
  | nil => exact .inl (by simp)
  | cons item rest =>
    refine .inr ⟨item.1.name ++ item.2 ++ String.join (rest.map joined), ?_⟩
    simp [joined, String.append_assoc]

/-- The text of siblings is what is in front of one of them with the connector, the text of that one, and
what is behind it. -/
theorem exists_groupClause?_around (before later : List (Connector × String)) (connector : Connector)
    (clause : String) :
    ∃ pre post, groupClause? false (before ++ (connector, clause) :: later)
        = some (pre ++ clause ++ post)
      ∧ (before = [] ∧ pre = ""
        ∨ ∃ text, groupClause? false before = some text ∧ pre = text ++ "~" ++ connector.name)
      ∧ (post = "" ∨ ∃ text, post = "~" ++ text) := by
  cases before with
  | nil =>
    refine ⟨"", String.join (later.map joined), ?_, .inl ⟨rfl, rfl⟩, join_joined_eq later⟩
    rw [List.nil_append, groupClause?_false_cons, String.empty_append]
  | cons first rest =>
    refine ⟨first.2 ++ String.join (rest.map joined) ++ "~" ++ connector.name,
      String.join (later.map joined), ?_, .inr ⟨_, groupClause?_false_cons first rest, rfl⟩,
      join_joined_eq later⟩
    rw [List.cons_append, groupClause?_false_cons]
    simp [joined, String.append_assoc]

end Predicate

/-- A key of a query stands in the text of the filter, in a comparison by equality that `and` joins to
the text of all conditions in front of it. None of these asks for a key. -/
theorem Query.whereClause?_of_key? (q : Query) (key : Scalar) (hkey : q.key? = some key) :
    key.isBlank = false ∧ ∃ filter before connector test later name pre post,
      q.filter = some filter
      ∧ filter.topLevel = before ++ .comparison connector test :: later
      ∧ test.AsksForKey before.length connector
      ∧ test.value = key
      ∧ (∀ (i : Nat) (p : Predicate), before[i]? = some p → ¬ p.AsksForKey i)
      ∧ name ∈ ["Id", "id", "_id"]
      ∧ whereClause? q.filter = some (pre ++ ("(" ++ name ++ ",eq," ++ key.display ++ ")") ++ post)
      ∧ (whereClause? (some (.group .and before)) = none ∧ pre = ""
        ∨ ∃ text, whereClause? (some (.group .and before)) = some text ∧ pre = text ++ "~and")
      ∧ (post = "" ∨ ∃ text, post = "~" ++ text) := by
  rw [Query.key?, Option.bind_eq_some_iff] at hkey
  obtain ⟨filter, hfilter, hkey⟩ := hkey
  rw [Predicate.key?_eq_keyAmong?_topLevel] at hkey
  have hamong : Predicate.keyAmong? (0 == 0) filter.topLevel = some key := hkey
  obtain ⟨before, connector, test, later, hsplit, hasks, rfl, hnone⟩ :=
    Predicate.exists_split_of_keyAmong? hamong
  simp only [Nat.zero_add] at hasks hnone
  obtain ⟨pre, post, htext, hpre, hpost⟩ := Predicate.exists_groupClause?_around
    (Predicate.clauses before) (Predicate.clauses later) connector test.clause
  have hbefore : whereClause? (some (.group .and before))
      = Predicate.groupClause? false (Predicate.clauses before) :=
    Predicate.whereClause?_eq_groupClause? (.group .and before)
  have hclause : test.clause
      = "(" ++ bareColumn test.column ++ ",eq," ++ test.value.display ++ ")" := by
    rw [Comparison.clause, hasks.operator]
    simp [Operator.name, String.append_assoc]
  refine ⟨hasks.value, filter, before, connector, test, later, bareColumn test.column, pre, post,
    hfilter, hsplit, hasks, rfl, hnone, hasks.column, ?_, ?_, hpost⟩
  · rw [hfilter, Predicate.whereClause?_eq_groupClause?, hsplit, Predicate.clauses_append,
      Predicate.clauses, Predicate.clause?, ← hclause]
    exact htext
  · rw [hbefore]
    rcases hpre with ⟨hnil, rfl⟩ | ⟨text, hsome, rfl⟩
    · exact .inl ⟨by rw [hnil]; rfl, rfl⟩
    · -- Something stands in front of the comparison, so `and` joins it.
      have hne : before.length ≠ 0 := by
        intro hlength
        rw [List.eq_nil_of_length_eq_zero hlength] at hsome
        simp [Predicate.clauses, Predicate.groupClause?] at hsome
      have hand : connector = .and := hasks.joined.resolve_left hne
      exact .inr ⟨text, hsome, by rw [hand, String.append_assoc]; rfl⟩

/-- An operator that names no other one, a column of a table, groups and a comparison of the key that is
joined by `or` are no hindrance. -/
theorem Query.whereClause?_of_key?_seven :
    let filter : Predicate := .group .and
      [.group .or [], .comparison .and ⟨"status", "=", .text "active"⟩,
        .comparison .or ⟨"Id", "=", .int 3⟩,
        .group .and [.comparison .or ⟨"age", "<", .int 10⟩, .comparison .or ⟨"age", ">", .int 18⟩],
        .comparison .and ⟨"leads._id", "sounds like", .int 7⟩,
        .comparison .or ⟨"id", "=", .int 8⟩]
    ({ table := "leads", filter } : Query).key? = some (.int 7)
      ∧ whereClause? (some filter)
        = some "(status,eq,active)~or(Id,eq,3)~and((age,lt,10)~or(age,gt,18))~and(_id,eq,7)~or(id,eq,8)"
      ∧ ∃ name pre post, name ∈ ["Id", "id", "_id"]
        ∧ whereClause? (some filter) = some (pre ++ ("(" ++ name ++ ",eq," ++ "7" ++ ")") ++ post) := by
  intro filter
  have hkey : ({ table := "leads", filter := some filter } : Query).key? = some (.int 7) := by decide
  obtain ⟨-, _, _, _, _, _, name, pre, post, -, -, -, -, -, hname, htext, -⟩ :=
    Query.whereClause?_of_key? { table := "leads", filter := some filter } (.int 7) hkey
  exact ⟨hkey, by decide, name, pre, post, hname, htext⟩

end RecordQuery
