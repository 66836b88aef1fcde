import RecordQuery.Proofs.Filter.Reading

/-!
# The meaning of a filter

A filter is true or false once each of its comparisons is. How a row of conditions combines is not
settled by the dialect: from left to right, `and` before `or`, or otherwise. So meaning is taken by a
`Rule`, which has to give one condition its own value and is free in all else. A filter as a tree and
the text of the filter then mean the same by every rule.

## Main statements

* `Predicate.value?_eq_map_value`: a filter means what its normal form means.
* `Predicate.value?_eq_value_of_reads`: a filter means what its text is read as, and a filter without
  meaning has no text.
-/

namespace RecordQuery

/-- A way to combine truth values in a row, each but the first one with its connector. -/
structure Rule where
  combine : Bool → List (Connector × Bool) → Bool
  /-- One value stands for itself. -/
  combine_nil (value : Bool) : combine value [] = value

def Connector.apply : Connector → Bool → Bool → Bool
  | .and, a, b => a && b
  | .or, a, b => a || b

namespace Rule

/-- Each connector joins what stands on its left to the next value. -/
def leftToRight : Rule where
  combine first rest := rest.foldl (fun value item => item.1.apply value item.2) first
  combine_nil _ := rfl

/-- Values joined by `and`, these runs joined by `or`. -/
def anyOfRuns (run : Bool) : List (Connector × Bool) → Bool
  | [] => run
  | (.and, value) :: rest => anyOfRuns (run && value) rest
  | (.or, value) :: rest => run || anyOfRuns value rest

def andFirst : Rule where
  combine := anyOfRuns
  combine_nil _ := rfl

/-- The value of a group, given the values of the children that have one. -/
def combineAll? (R : Rule) : List (Connector × Bool) → Option Bool
  | [] => none
  | (_, first) :: rest => some (R.combine first rest)

theorem combineAll?_eq_none_iff {R : Rule} {values : List (Connector × Bool)} :
    R.combineAll? values = none ↔ values = [] := by
  cases values <;> simp [combineAll?]

end Rule

/-! ## Trees and normal forms -/

/-- A truth value for each comparison of a filter, which may depend on its place: the numbers of the
children on the way to it. -/
abbrev Assignment := List Nat → Comparison → Bool

/-- The assignment as a child of a group sees it. -/
def Assignment.child (v : Assignment) (index : Nat) : Assignment := fun path => v (index :: path)

/-- The assignment that goes by what the text of a comparison shows. -/
def Assignment.ofLeaves (t : Leaf → Bool) : Assignment := fun _ test => t test.leaf

namespace Predicate

mutual

/-- The value of a filter; `none` if it has no comparison. -/
def value? (R : Rule) (v : Assignment) : Predicate → Option Bool
  | .comparison _ test => some (v [] test)
  | .group _ children => R.combineAll? (values R v 0 children)

/-- The values of the children of a group that have one, from the one numbered `index` on, each with
the connector of the child. -/
def values (R : Rule) (v : Assignment) (index : Nat) : List Predicate → List (Connector × Bool)
  | [] => []
  | p :: rest =>
    match value? R (v.child index) p with
    | none => values R v (index + 1) rest
    | some value => (p.connector, value) :: values R v (index + 1) rest

end

mutual

theorem value?_eq_none_iff (R : Rule) (v : Assignment) (p : Predicate) :
    p.value? R v = none ↔ p.leafCount = 0 := by
  match p with
  | .comparison _ test => simp [value?, leafCount]
  | .group _ children =>
    rw [value?, Rule.combineAll?_eq_none_iff, leafCount]
    exact values_eq_nil_iff R v 0 children

theorem values_eq_nil_iff (R : Rule) (v : Assignment) (index : Nat) (ps : List Predicate) :
    values R v index ps = [] ↔ leafCountAll ps = 0 := by
  match ps with
  | [] => simp [values, leafCountAll]
  | p :: rest =>
    have hp := value?_eq_none_iff R (v.child index) p
    have hrest := values_eq_nil_iff R v (index + 1) rest
    rw [values, leafCountAll, Nat.add_eq_zero_iff, ← hp, ← hrest]
    cases p.value? R (v.child index) with
    | none => simp
    | some value => simp

end

end Predicate

namespace Item

mutual

def value (R : Rule) (t : Leaf → Bool) : Item → Bool
  | .leaf l => t l
  | .nested first rest => R.combine (first.value R t) (tailValues R t rest)

def tailValues (R : Rule) (t : Leaf → Bool) : List (Connector × Item) → List (Connector × Bool)
  | [] => []
  | (connector, item) :: rest => (connector, item.value R t) :: tailValues R t rest

end

theorem tailValues_eq_map (R : Rule) (t : Leaf → Bool) (items : List (Connector × Item)) :
    tailValues R t items = items.map fun item => (item.1, item.2.value R t) := by
  induction items with
  | nil => rfl
  | cons item rest ih =>
    obtain ⟨connector, item⟩ := item
    simp only [tailValues, List.map_cons, ih]

/-- Leaving out the parentheses around one item changes no value. -/
theorem combineAll?_eq_map_value (R : Rule) (t : Leaf → Bool) (items : List (Connector × Item)) :
    R.combineAll? (items.map fun item => (item.1, item.2.value R t))
      = (ofItems? items).map (value R t) := by
  match items with
  | [] => rfl
  | [(_, item)] => simp [Rule.combineAll?, ofItems?, R.combine_nil]
  | (_, first) :: second :: rest =>
    simp [Rule.combineAll?, ofItems?, value, tailValues_eq_map]

end Item

def Sequence.value (R : Rule) (t : Leaf → Bool) (s : Sequence) : Bool :=
  R.combine (s.first.value R t) (Item.tailValues R t s.rest)

/-! ## A filter means what its normal form means

The same mutual induction as for texts. It needs no more of the rule than that one value stands for
itself, which is where a group of one child loses its parentheses. -/

namespace Predicate

mutual

theorem value?_eq_map_item_value (R : Rule) (t : Leaf → Bool) (p : Predicate) :
    p.value? R (.ofLeaves t) = p.item?.map (Item.value R t) := by
  match p with
  | .comparison _ test => rfl
  | .group _ children =>
    rw [value?, values_eq_map_item_value R t 0 children, item?, Item.combineAll?_eq_map_value]

theorem values_eq_map_item_value (R : Rule) (t : Leaf → Bool) (index : Nat)
    (ps : List Predicate) :
    values R (.ofLeaves t) index ps = (items ps).map fun item => (item.1, item.2.value R t) := by
  match ps with
  | [] => rfl
  | p :: rest =>
    -- An assignment that goes by leaves is the same for every child.
    have hp : p.value? R (Assignment.child (.ofLeaves t) index) = p.item?.map (Item.value R t) :=
      value?_eq_map_item_value R t p
    have hrest := values_eq_map_item_value R t (index + 1) rest
    rw [values, items, hp, hrest]
    cases p.item? with
    | none => rfl
    | some item => rfl

end

theorem value?_eq_map_value (R : Rule) (t : Leaf → Bool) (p : Predicate) :
    p.value? R (.ofLeaves t) = p.normalForm?.map (Sequence.value R t) := by
  cases p with
  | comparison _ test =>
    simp [value?, normalForm?, Assignment.ofLeaves, Sequence.value, Item.value, Item.tailValues,
      R.combine_nil]
  | group _ children =>
    rw [value?, normalForm?, values_eq_map_item_value R t 0 children]
    cases items children with
    | nil => rfl
    | cons first rest =>
      simp [Rule.combineAll?, Sequence.ofItems?, Sequence.value, Item.tailValues_eq_map]

/-- The text of a filter is read as something, all that it is read as means what the filter means, and
a filter has no text iff it has no meaning, which is iff it has no comparison. -/
theorem value?_eq_value_of_reads (p : Predicate) (hp : p.Readable) (R : Rule) (t : Leaf → Bool) :
    (∀ text, whereClause? (some p) = some text →
      (∃ s : Sequence, s.Reads text.toList)
      ∧ ∀ s : Sequence, s.Reads text.toList → p.value? R (.ofLeaves t) = some (s.value R t))
    ∧ (p.value? R (.ofLeaves t) = none ↔ whereClause? (some p) = none)
    ∧ (p.value? R (.ofLeaves t) = none ↔ p.leafCount = 0) := by
  have hnone := value?_eq_none_iff R (.ofLeaves t) p
  refine ⟨?_, hnone.trans (whereClause?_eq_none_iff p).symm, hnone⟩
  intro text htext
  rw [whereClause?_eq_map_text, Option.map_eq_some_iff] at htext
  obtain ⟨s, hs, rfl⟩ := htext
  -- Whatever the text is read as is the normal form, and that means what the filter means.
  have hreads := reads_text_of_normalForm? hp hs
  refine ⟨⟨s, hreads⟩, fun s' hreads' => ?_⟩
  rw [value?_eq_map_value, hs, hreads'.unique hreads, Option.map_some]

/-- A filter that means different things by different rules: `a = 1 or b = 2 and c = 3`. -/
def mixedConnectors : Predicate :=
  .group .and [.comparison .and ⟨"a", "=", .int 1⟩, .comparison .or ⟨"b", "=", .int 2⟩,
    .comparison .and ⟨"c", "=", .int 3⟩]

/-- Where only `a = 1` holds, the mixed connectors are false from left to right and true with `and`
before `or`, as a tree and as a text. -/
theorem value_of_reads_mixedConnectors :
    mixedConnectors.Readable
      ∧ whereClause? (some mixedConnectors) = some "(a,eq,1)~or(b,eq,2)~and(c,eq,3)"
      ∧ (∃ s : Sequence, s.Reads "(a,eq,1)~or(b,eq,2)~and(c,eq,3)".toList)
      ∧ ∀ s : Sequence, s.Reads "(a,eq,1)~or(b,eq,2)~and(c,eq,3)".toList →
        s.value .leftToRight (fun l => l.column == "a") = false
        ∧ s.value .andFirst (fun l => l.column == "a") = true := by
  have hreadable : mixedConnectors.Readable := by decide
  have htext : whereClause? (some mixedConnectors) = some "(a,eq,1)~or(b,eq,2)~and(c,eq,3)" := by
    decide
  have hmeans (R : Rule) :=
    (value?_eq_value_of_reads mixedConnectors hreadable R (fun l => l.column == "a")).1 _ htext
  refine ⟨hreadable, htext, (hmeans .leftToRight).1, fun s hs => ⟨?_, ?_⟩⟩
  · exact (Option.some.inj ((hmeans .leftToRight).2 s hs)).symm
  · exact (Option.some.inj ((hmeans .andFirst).2 s hs)).symm

end Predicate

end RecordQuery
