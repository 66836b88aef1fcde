import RecordQuery.Proofs.Filter.EmptyConditions
import RecordQuery.Proofs.Filter.KeyClause

/-!
# The marks in the text of a filter

A filter has a text iff it has a comparison. This is decided by a count of the comparisons before
anything is written, but writing alone comes to the same: where nothing is left, nothing is written,
and what is written is never empty.

The marks of a text can be counted off the filter. Each comparison stands in parentheses, and so does
each group of two or more conditions inside another group. Between any two comparisons that follow
each other there is one tilde, and a parenthesis is closed after it was opened. All this holds if
there are no marks in the names of columns and in the texts of values.

## Main statements

* `Predicate.whereClause?_eq_clause?`: writing alone leaves out what has no comparison.
* `Balanced.append`, `Balanced.parenthesised`: how balanced texts come about.
* `Marked.joined`, `Marked.parenthesised`: the marks of conditions in a row and of a group.
* `Predicate.marked_row`: the marks of conditions are those that can be counted off them.
* `Predicate.whereClause?_marks`: all together.
-/

namespace RecordQuery

/-! ## Balanced texts -/

/-- As many parentheses are closed as are opened, and none of them before it is opened. -/
structure Balanced (cs : List Char) : Prop where
  count_eq : cs.count ')' = cs.count '('
  opened_first : ∀ front, front <+: cs → front.count ')' ≤ front.count '('

theorem balanced_of_notMem {cs : List Char} (hopen : '(' ∉ cs) (hclose : ')' ∉ cs) :
    Balanced cs where
  count_eq := by rw [List.count_eq_zero.mpr hopen, List.count_eq_zero.mpr hclose]
  opened_first := by
    intro front hfront
    have hnone : front.count ')' = 0 :=
      List.count_eq_zero.mpr fun hmem => hclose (hfront.subset hmem)
    omega

theorem Balanced.append {cs ds : List Char} (hcs : Balanced cs) (hds : Balanced ds) :
    Balanced (cs ++ ds) where
  count_eq := by rw [List.count_append, List.count_append, hcs.count_eq, hds.count_eq]
  opened_first := by
    intro front hfront
    -- The prefix ends in the first text, or it is all of it and ends in the second one.
    rcases List.prefix_or_prefix_of_prefix hfront (List.prefix_append cs ds) with hcut | ⟨rest, rfl⟩
    · exact hcs.opened_first front hcut
    · have hrest := hds.opened_first rest ((List.prefix_append_right_inj cs).mp hfront)
      rw [List.count_append, List.count_append, hcs.count_eq]
      omega

theorem count_parenthesised (cs : List Char) (mark : Char) :
    ('(' :: (cs ++ [')'])).count mark = cs.count mark + if mark ∈ ['(', ')'] then 1 else 0 := by
  rw [List.count_cons, List.count_append, List.count_singleton]
  by_cases hopen : mark = '('
  · subst hopen
    rfl
  · by_cases hclose : mark = ')'
    · subst hclose
      rfl
    · simp [hopen, hclose, Ne.symm hopen, Ne.symm hclose]

theorem Balanced.parenthesised {cs : List Char} (h : Balanced cs) :
    Balanced ('(' :: (cs ++ [')'])) where
  count_eq := by
    rw [count_parenthesised, count_parenthesised, h.count_eq]
    rfl
  opened_first := by
    intro front hfront
    rcases List.prefix_cons_iff.mp hfront with rfl | ⟨inner, rfl, hinner⟩
    · exact Nat.le_refl _
    · rw [List.count_cons_of_ne (by decide), List.count_cons_self]
      rcases List.prefix_concat_iff.mp hinner with rfl | hcut
      · -- The last parenthesis closes the first one, and they enclose a balanced text.
        have heq := h.count_eq
        rw [List.count_append, List.count_append, List.count_singleton_self, List.count_singleton]
        omega
      · have hle := h.opened_first inner hcut
        omega

/-! ## The marks of a text -/

/-- A text without parentheses and tildes. -/
structure MarkFree (cs : List Char) : Prop where
  opening : '(' ∉ cs
  closing : ')' ∉ cs
  tilde : '~' ∉ cs

instance (cs : List Char) : Decidable (MarkFree cs) :=
  decidable_of_iff ('(' ∉ cs ∧ ')' ∉ cs ∧ '~' ∉ cs)
    ⟨fun ⟨hopening, hclosing, htilde⟩ => ⟨hopening, hclosing, htilde⟩,
      fun h => ⟨h.opening, h.closing, h.tilde⟩⟩

theorem Connector.markFree_name (connector : Connector) : MarkFree connector.name.toList := by
  cases connector <;> decide

theorem Operator.markFree_name (operator : Operator) : MarkFree operator.name.toList := by
  cases operator <;> decide

/-- The marks of a text of so many comparisons, with so many groups in parentheses. -/
structure Marked (cs : List Char) (leaves groups : Nat) : Prop where
  tildes : cs.count '~' + 1 = leaves
  opened : cs.count '(' = leaves + groups
  balanced : Balanced cs

namespace Marked

variable {cs ds : List Char} {leaves groups leaves' groups' : Nat}

/-- Two texts with a connector between them. -/
theorem joined (hcs : Marked cs leaves groups) (hds : Marked ds leaves' groups')
    (connector : Connector) :
    Marked (cs ++ '~' :: (connector.name.toList ++ ds)) (leaves + leaves') (groups + groups') := by
  have hname := connector.markFree_name
  have htilde := hcs.tildes
  have htilde' := hds.tildes
  have hopened := hcs.opened
  have hopened' := hds.opened
  refine ⟨?_, ?_, ?_⟩
  · rw [List.count_append, List.count_cons_self, List.count_append,
      List.count_eq_zero.mpr hname.tilde]
    omega
  · rw [List.count_append, List.count_cons_of_ne (by decide), List.count_append,
      List.count_eq_zero.mpr hname.opening]
    omega
  · have hbetween : Balanced ('~' :: connector.name.toList) := by
      apply balanced_of_notMem
      · simpa using hname.opening
      · simpa using hname.closing
    exact hcs.balanced.append (hbetween.append hds.balanced)

theorem parenthesised (h : Marked cs leaves groups) :
    Marked ('(' :: (cs ++ [')'])) leaves (groups + 1) := by
  refine ⟨?_, ?_, h.balanced.parenthesised⟩
  · rw [count_parenthesised]
    exact h.tildes
  · rw [count_parenthesised, h.opened]
    rfl

end Marked

/-- No mark of the dialect stands in the column or in the value of a leaf. -/
def Leaf.Unmarked (l : Leaf) : Prop :=
  MarkFree l.column.toList ∧ MarkFree l.value.toList

instance (l : Leaf) : Decidable l.Unmarked := inferInstanceAs (Decidable (_ ∧ _))

theorem Leaf.marked_text {l : Leaf} (h : l.Unmarked) : Marked l.text.toList 1 0 := by
  let inner := l.column.toList ++ ',' :: (l.operator.name.toList ++ ',' :: l.value.toList)
  have htext : l.text.toList = '(' :: (inner ++ [')']) := by
    simp [inner, Leaf.text, String.toList_append]
  obtain ⟨hcolumn, hvalue⟩ := h
  have hname := l.operator.markFree_name
  have hinner : MarkFree inner := by
    constructor
    · simp [inner, hcolumn.opening, hname.opening, hvalue.opening]
    · simp [inner, hcolumn.closing, hname.closing, hvalue.closing]
    · simp [inner, hcolumn.tilde, hname.tilde, hvalue.tilde]
  have hbalanced : Balanced inner := balanced_of_notMem hinner.opening hinner.closing
  rw [htext]
  refine ⟨?_, ?_, hbalanced.parenthesised⟩
  · rw [count_parenthesised, List.count_eq_zero.mpr hinner.tilde]
    rfl
  · rw [count_parenthesised, List.count_eq_zero.mpr hinner.opening]
    rfl

namespace Predicate

/-! ## Groups with parentheses -/

mutual

/-- The number of groups with two or more children that have a comparison, the condition itself
among them. -/
def wideGroups : Predicate → Nat
  | .comparison _ _ => 0
  | .group _ children => wideGroupsAll children + if 2 ≤ (kept children).length then 1 else 0

def wideGroupsAll : List Predicate → Nat
  | [] => 0
  | p :: rest => wideGroups p + wideGroupsAll rest

end

/-- The number of such groups inside the whole filter, which is none of them itself. -/
def innerWideGroups (p : Predicate) : Nat := wideGroupsAll p.topLevel

theorem length_clauses (ps : List Predicate) : (clauses ps).length = (kept ps).length := by
  induction ps with
  | nil => rfl
  | cons p rest ih =>
    unfold clauses
    cases hclause : p.clause? true with
    | none =>
      have hempty : p.isEmpty = true := by simpa [isEmpty] using (clause?_eq_none_iff p).mp hclause
      rw [kept_cons_of_isEmpty hempty]
      exact ih
    | some clause =>
      have hempty : p.isEmpty = false := by
        have hcount : p.leafCount ≠ 0 := mt (clause?_eq_none_iff p).mpr (by simp [hclause])
        simpa [isEmpty] using hcount
      rw [kept_cons_of_not_isEmpty hempty, List.length_cons, List.length_cons, ih]

mutual

theorem wideGroups_eq_zero (p : Predicate) (h : p.leafCount = 0) : p.wideGroups = 0 := by
  match p with
  | .comparison _ _ => rfl
  | .group _ children =>
    have hchildren : leafCountAll children = 0 := h
    have hkept : (kept children).length = 0 := by
      rw [← length_clauses, (clauses_eq_nil_iff children).mpr hchildren]
      rfl
    unfold wideGroups
    rw [wideGroupsAll_eq_zero children hchildren, hkept]
    rfl

theorem wideGroupsAll_eq_zero (ps : List Predicate) (h : leafCountAll ps = 0) :
    wideGroupsAll ps = 0 := by
  match ps with
  | [] => rfl
  | p :: rest =>
    have hsum : p.leafCount + leafCountAll rest = 0 := h
    unfold wideGroupsAll
    rw [wideGroups_eq_zero p (by omega), wideGroupsAll_eq_zero rest (by omega)]

end

/-! ## The marks of a filter

Mutual induction over a condition and the children of a group. A child without comparisons adds
nothing, neither to the text nor to the numbers. Any other one stands in front of the row of the later
ones, with the connector of the next one that is written, or it is the last one that is written. -/

theorem groupClause?_false_cons_cons (first second : Connector × String)
    (later : List (Connector × String)) :
    groupClause? false (first :: second :: later)
      = (groupClause? false (second :: later)).map fun text =>
        first.2 ++ ("~" ++ second.1.name ++ text) := by
  rw [groupClause?_false_cons, groupClause?_false_cons, Option.map_some, List.map_cons,
    String.join_cons]
  unfold joined
  simp only [String.append_assoc]

mutual

theorem marked_clause? (p : Predicate) (hp : ∀ test ∈ p.leaves, test.leaf.Unmarked)
    {clause : String} (h : p.clause? true = some clause) :
    Marked clause.toList p.leafCount p.wideGroups := by
  match p with
  | .comparison _ test =>
    rw [clause?, Option.some.injEq] at h
    rw [← h, Comparison.clause_eq_text_leaf]
    exact Leaf.marked_text (hp test (by simp [leaves]))
  | .group _ children =>
    rw [clause?, groupClause?_true, Option.map_eq_some_iff, length_clauses] at h
    obtain ⟨text, htext, hclause⟩ := h
    have hrow := marked_row children hp htext
    unfold leafCount wideGroups
    -- The number of clauses decides on parentheses, and it is the number of the children counted.
    split at hclause
    · rename_i hwide
      have hparenthesised : clause.toList = '(' :: (text.toList ++ [')']) := by
        simp [← hclause, String.toList_append]
      rw [if_pos hwide, hparenthesised]
      exact hrow.parenthesised
    · rename_i hwide
      rw [if_neg hwide, ← hclause]
      exact hrow

theorem marked_row (ps : List Predicate) (hps : ∀ test ∈ leavesAll ps, test.leaf.Unmarked)
    {text : String} (h : groupClause? false (clauses ps) = some text) :
    Marked text.toList (leafCountAll ps) (wideGroupsAll ps) := by
  match ps with
  | [] => contradiction
  | p :: rest =>
    have hrest : ∀ test ∈ leavesAll rest, test.leaf.Unmarked :=
      fun test htest => hps test (by simp [leavesAll, htest])
    unfold leafCountAll wideGroupsAll
    unfold clauses at h
    cases hclause : p.clause? true with
    | none =>
      -- Nothing is written for the child, and it has nothing to be counted.
      have hcount : p.leafCount = 0 := (clause?_eq_none_iff p).mp hclause
      rw [hclause] at h
      rw [hcount, wideGroups_eq_zero p hcount, Nat.zero_add, Nat.zero_add]
      exact marked_row rest hrest h
    | some clause =>
      have hp := marked_clause? p (fun test htest => hps test (by simp [leavesAll, htest])) hclause
      rw [hclause] at h
      cases hlater : clauses rest with
      | nil =>
        -- The last child that is written: there is no connector behind it.
        have hcount : leafCountAll rest = 0 := (clauses_eq_nil_iff rest).mp hlater
        rw [hlater] at h
        obtain rfl : clause = text := Option.some.inj h
        rw [hcount, wideGroupsAll_eq_zero rest hcount]
        exact hp
      | cons second later =>
        -- `second` is the next child that is written, not the next one in the group.
        rw [hlater] at h
        simp only [groupClause?_false_cons_cons, Option.map_eq_some_iff] at h
        obtain ⟨back, hback, rfl⟩ := h
        rw [← hlater] at hback
        have htext : (clause ++ ("~" ++ second.1.name ++ back)).toList
            = clause.toList ++ '~' :: (second.1.name.toList ++ back.toList) := by
          simp [String.toList_append]
        rw [htext]
        exact hp.joined (marked_row rest hrest hback) second.1

end

/-! ## The text of a whole filter -/

/-- The count of the comparisons is not needed: what has none is not written anyway. -/
theorem whereClause?_eq_clause? (p : Predicate) : whereClause? (some p) = p.clause? false := by
  rw [whereClause?_eq_groupClause?]
  cases p with
  | comparison _ _ => rfl
  | group _ _ => rfl

/-- Whatever is written begins with a parenthesis. -/
theorem whereClause?_ne_empty (p : Predicate) : whereClause? (some p) ≠ some "" := by
  rw [whereClause?_eq_map_text]
  intro h
  obtain ⟨s, -, htext⟩ := Option.map_eq_some_iff.mp h
  have hfirst : s.first.text = "" := (String.append_eq_empty_iff.mp htext).1
  have hlist := congrArg String.toList hfirst
  cases hitem : s.first with
  | leaf l => simp [hitem, Item.text, Leaf.text, String.toList_append] at hlist
  | nested first rest => simp [hitem, Item.text, String.toList_append] at hlist

/-- A filter has a text iff it has a comparison, and this text is not empty and is what writing alone
gives. With no marks in its columns and values the text has a tilde between any two comparisons that
follow each other, and a pair of parentheses around each comparison and each group with two or more
children that have comparisons, the root apart. None of them is closed before it is opened. -/
theorem whereClause?_marks (p : Predicate) :
    (whereClause? (some p) = none ↔ p.leafCount = 0)
      ∧ whereClause? (some p) ≠ some ""
      ∧ whereClause? (some p) = p.clause? false
      ∧ (p.leafCount ≠ 0 → (∀ test ∈ p.leaves, test.leaf.Unmarked) →
        ∃ text, whereClause? (some p) = some text
          ∧ text.toList.count '~' = p.leafCount - 1
          ∧ text.toList.count '(' = p.leafCount + p.innerWideGroups
          ∧ text.toList.count ')' = p.leafCount + p.innerWideGroups
          ∧ ∀ front, front <+: text.toList → front.count ')' ≤ front.count '(') := by
  refine ⟨whereClause?_eq_none_iff p, whereClause?_ne_empty p, whereClause?_eq_clause? p, ?_⟩
  intro hcount hunmarked
  obtain ⟨text, htext⟩ : ∃ text, whereClause? (some p) = some text :=
    Option.ne_none_iff_exists'.mp (mt (whereClause?_eq_none_iff p).mp hcount)
  rw [leaves_eq_leavesAll_topLevel] at hunmarked
  have hrow : groupClause? false (clauses p.topLevel) = some text := by
    rw [← whereClause?_eq_groupClause?, htext]
  have hmarked := marked_row p.topLevel hunmarked hrow
  rw [← leafCount_eq_leafCountAll_topLevel] at hmarked
  have htildes := hmarked.tildes
  refine ⟨text, htext, ?_, hmarked.opened, ?_, hmarked.balanced.opened_first⟩
  · omega
  · rw [hmarked.balanced.count_eq, hmarked.opened]
    rfl

/-- Of two groups inside groups one has a single child left, and so has no parentheses of its own. -/
theorem whereClause?_marks_nested :
    let leaf (column : String) : Predicate := .comparison .or ⟨column, "=", .int 1⟩
    let p : Predicate := .group .and
      [.group .or [], leaf "a", .group .or [.group .and [leaf "b", leaf "c"], .group .or []],
        .group .and [leaf "d", .group .and [.group .or [], leaf "e"]]]
    (∀ test ∈ p.leaves, test.leaf.Unmarked) ∧ p.leafCount = 5 ∧ p.innerWideGroups = 2
      ∧ ∃ text, whereClause? (some p) = some text
        ∧ text = "(a,eq,1)~or((b,eq,1)~or(c,eq,1))~and((d,eq,1)~and(e,eq,1))"
        ∧ text.toList.count '~' = 4 ∧ text.toList.count '(' = 7 ∧ text.toList.count ')' = 7
        ∧ ∀ front, front <+: text.toList → front.count ')' ≤ front.count '(' := by
  intro leaf p
  have hunmarked : ∀ test ∈ p.leaves, test.leaf.Unmarked := by decide
  have hwritten : whereClause? (some p)
      = some "(a,eq,1)~or((b,eq,1)~or(c,eq,1))~and((d,eq,1)~and(e,eq,1))" := by decide
  obtain ⟨text, htext, htildes, hopened, hclosed, hfirst⟩ :=
    (whereClause?_marks p).2.2.2 (by decide) hunmarked
  have hwhole := Option.some.inj (htext.symm.trans hwritten)
  exact ⟨hunmarked, by decide, by decide, text, htext, hwhole, htildes, hopened, hclosed, hfirst⟩

end Predicate

end RecordQuery
