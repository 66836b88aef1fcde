import Mathlib.Logic.Relation
import RecordQuery.Proofs.Filter.NormalForm

/-!
# Rewriting filters without changing their text

The text of a filter shows no condition without comparisons, no group around a single condition, and
no connector of a first one. So such a condition may be put in or taken out, such a group may give way
to the condition in it, and such a connector may be any other, at every place in a filter, and the text
stays the same.

## Main statements

* `Predicate.ShownAlike.fill`: what a text shows alike in one place it shows alike in every place.
* `Predicate.normalForm?_eq_of_rewrite`: a rewrite keeps the normal form.
* `Predicate.whereClause?_eq_of_rewrites`: rewrites in any number and direction keep the text.
-/

namespace RecordQuery

/-- The item that a sequence is inside a group. -/
def Sequence.item : Sequence → Item
  | ⟨first, []⟩ => first
  | ⟨first, second :: rest⟩ => .nested first (second :: rest)

theorem Item.ofItems?_eq_map_item (items : List (Connector × Item)) :
    ofItems? items = (Sequence.ofItems? items).map Sequence.item := by
  match items with
  | [] => rfl
  | [_] => rfl
  | _ :: _ :: _ => rfl

namespace Predicate

/-! ## Places and rewrites -/

/-- A place in a filter: the root, or a place inside a child of a group, given with the siblings of
that child. -/
inductive Place where
  | root
  | child (connector : Connector) (before : List Predicate) (inside : Place) (after : List Predicate)

/-- The filter that has a condition at a place. -/
def Place.fill : Place → Predicate → Predicate
  | .root, p => p
  | .child connector before inside after, p => .group connector (before ++ inside.fill p :: after)

/-- A filter, and the same filter with a change in one place that no text shows. -/
inductive Rewrite : Predicate → Predicate → Prop
  /-- A condition without comparisons comes in among the children of a group. -/
  | insertEmpty (place : Place) (connector : Connector) (before : List Predicate) (p : Predicate)
      (after : List Predicate) (hp : p.isEmpty = true) :
      Rewrite (place.fill (.group connector (before ++ after)))
        (place.fill (.group connector (before ++ p :: after)))
  /-- A group inside another one gives way to the one child that has a comparison. -/
  | collapse (place : Place) (connector : Connector) (before : List Predicate) (p : Predicate)
      (after : List Predicate) (hplace : place ≠ .root) (hbefore : ∀ q ∈ before, q.isEmpty = true)
      (hp : p.isEmpty = false) (hafter : ∀ q ∈ after, q.isEmpty = true) :
      Rewrite (place.fill (.group connector (before ++ p :: after)))
        (place.fill (p.withConnector connector))
  /-- The whole filter, which has no left sibling, joins it by another connector. -/
  | rejoinRoot (connector : Connector) (p : Predicate) : Rewrite p (p.withConnector connector)
  /-- So does a child of a group if no child in front of it has a comparison. -/
  | rejoinFirst (place : Place) (connector joining : Connector) (before : List Predicate)
      (p : Predicate) (after : List Predicate) (hbefore : ∀ q ∈ before, q.isEmpty = true) :
      Rewrite (place.fill (.group connector (before ++ p :: after)))
        (place.fill (.group connector (before ++ p.withConnector joining :: after)))

/-- A filter inside groups of one child each, with the connectors of the groups from outside to
inside. -/
def wrapped (connectors : List Connector) (p : Predicate) : Predicate :=
  connectors.foldr (fun connector inner => .group connector [inner]) p

/-! ## What is left of children -/

theorem items_append (ps qs : List Predicate) : items (ps ++ qs) = items ps ++ items qs := by
  induction ps with
  | nil => rfl
  | cons p rest ih =>
    rw [List.cons_append, items, items, ih]
    cases p.item? with
    | none => rfl
    | some item => rfl

theorem item?_eq_none_of_isEmpty {p : Predicate} (h : p.isEmpty = true) : p.item? = none :=
  (item?_eq_none_iff p).mpr (by simpa [isEmpty] using h)

theorem items_eq_nil_of_isEmpty {ps : List Predicate} (h : ∀ p ∈ ps, p.isEmpty = true) :
    items ps = [] := by
  induction ps with
  | nil => rfl
  | cons p rest ih =>
    rw [items, item?_eq_none_of_isEmpty (h p List.mem_cons_self)]
    exact ih fun q hq => h q (List.mem_cons_of_mem _ hq)

@[simp] theorem item?_withConnector (connector : Connector) (p : Predicate) :
    (p.withConnector connector).item? = p.item? := by
  cases p <;> simp only [withConnector, item?]

@[simp] theorem normalForm?_withConnector (connector : Connector) (p : Predicate) :
    (p.withConnector connector).normalForm? = p.normalForm? := by
  cases p <;> simp only [withConnector, normalForm?]

theorem item?_group (connector : Connector) (children : List Predicate) :
    (group connector children).item?
      = (group connector children).normalForm?.map Sequence.item := by
  rw [item?, normalForm?, Item.ofItems?_eq_map_item]

/-! ## Conditions that a text shows alike

Of a child a text shows the connector and what is left of it, and nothing else. So two conditions that
agree in both make two groups that agree in both, and the way up from a place to the root is a plain
induction. The root is apart, since a group that is the whole filter has no parentheses. -/

/-- A text shows two conditions alike wherever they are children of a group. -/
structure ShownAlike (p q : Predicate) : Prop where
  connector : p.connector = q.connector
  item? : p.item? = q.item?

variable {p q : Predicate}

theorem ShownAlike.items_eq (h : ShownAlike p q) (before after : List Predicate) :
    items (before ++ p :: after) = items (before ++ q :: after) := by
  rw [items_append, items_append, items, items, h.item?, h.connector]

theorem ShownAlike.fill (h : ShownAlike p q) (place : Place) :
    ShownAlike (place.fill p) (place.fill q) := by
  induction place with
  | root => exact h
  | child connector before inside after ih =>
    refine ⟨rfl, ?_⟩
    show (group connector _).item? = (group connector _).item?
    rw [Predicate.item?, Predicate.item?, ih.items_eq]

theorem ShownAlike.normalForm?_fill (h : ShownAlike p q) {place : Place} (hplace : place ≠ .root) :
    (place.fill p).normalForm? = (place.fill q).normalForm? := by
  cases place with
  | root => exact absurd rfl hplace
  | child connector before inside after =>
    show (group connector _).normalForm? = (group connector _).normalForm?
    rw [normalForm?, normalForm?, (h.fill inside).items_eq]

/-- Groups of one normal form may stand for each other, also as the whole filter. -/
theorem normalForm?_fill_group {connector : Connector} {ps qs : List Predicate}
    (h : (group connector ps).normalForm? = (group connector qs).normalForm?) (place : Place) :
    (place.fill (.group connector ps)).normalForm?
      = (place.fill (.group connector qs)).normalForm? := by
  by_cases hplace : place = .root
  · rw [hplace]
    exact h
  · have halike : ShownAlike (.group connector ps) (.group connector qs) :=
      ⟨rfl, by rw [item?_group, item?_group, h]⟩
    exact halike.normalForm?_fill hplace

/-! ## Rewrites keep the text -/

/-- Of a group with one child that has a comparison, that child is left. -/
theorem item?_group_of_only {connector : Connector} {before after : List Predicate}
    (hbefore : ∀ q ∈ before, q.isEmpty = true) (hafter : ∀ q ∈ after, q.isEmpty = true) :
    (group connector (before ++ p :: after)).item? = p.item? := by
  rw [Predicate.item?, items_append, items, items_eq_nil_of_isEmpty hbefore,
    items_eq_nil_of_isEmpty hafter]
  cases p.item? with
  | none => rfl
  | some item => rfl

/-- The connector of the first item that is left does not count. -/
theorem normalForm?_rejoinFirst (connector joining : Connector) {before : List Predicate}
    (hbefore : ∀ q ∈ before, q.isEmpty = true) (p : Predicate) (after : List Predicate) :
    (group connector (before ++ p :: after)).normalForm?
      = (group connector (before ++ p.withConnector joining :: after)).normalForm? := by
  rw [normalForm?, normalForm?, items_append, items_append, items_eq_nil_of_isEmpty hbefore, items,
    items, item?_withConnector]
  cases p.item? with
  | none => rfl
  | some item => rfl

theorem normalForm?_eq_of_rewrite (h : Rewrite p q) : p.normalForm? = q.normalForm? := by
  cases h with
  | insertEmpty place connector before p after hp =>
    refine normalForm?_fill_group ?_ place
    rw [normalForm?, normalForm?, items_append, items_append, items, item?_eq_none_of_isEmpty hp]
  | collapse place connector before only after hplace hbefore _ hafter =>
    have halike : ShownAlike (.group connector (before ++ only :: after))
        (only.withConnector connector) :=
      { connector := (connector_withConnector connector only).symm
        item? := by rw [item?_group_of_only hbefore hafter, item?_withConnector] }
    exact halike.normalForm?_fill hplace
  | rejoinRoot connector p => exact (normalForm?_withConnector connector p).symm
  | rejoinFirst place connector joining before p after hbefore =>
    exact normalForm?_fill_group (normalForm?_rejoinFirst connector joining hbefore p after) place

theorem normalForm?_eq_of_rewrites (h : Relation.EqvGen Rewrite p q) :
    p.normalForm? = q.normalForm? := by
  induction h with
  | rel _ _ h => exact normalForm?_eq_of_rewrite h
  | refl _ => rfl
  | symm _ _ _ ih => exact ih.symm
  | trans _ _ _ _ _ ih ih' => exact ih.trans ih'

/-! ## Groups around a whole filter -/

/-- The second group from outside can be left out. -/
theorem rewrites_wrapped_cons (outer inner : Connector) (rest : List Connector) (p : Predicate) :
    Relation.EqvGen Rewrite (wrapped (outer :: inner :: rest) p) (wrapped (outer :: rest) p) := by
  have hrejoin : Rewrite (wrapped (outer :: rest) p)
      (.group outer [(wrapped rest p).withConnector inner]) :=
    .rejoinFirst .root outer inner [] (wrapped rest p) [] (by simp)
  cases hempty : (wrapped rest p).isEmpty with
  | false =>
    -- The second group gives way to what is in it, which then joins as it did before.
    have hcollapse : Rewrite (wrapped (outer :: inner :: rest) p)
        (.group outer [(wrapped rest p).withConnector inner]) :=
      .collapse (.child outer [] .root []) inner [] (wrapped rest p) [] (by simp) (by simp) hempty
        (by simp)
    exact .trans _ _ _ (.rel _ _ hcollapse) (.symm _ _ (.rel _ _ hrejoin))
  | true =>
    -- No group has a comparison: the second one is taken out, and what was in it comes in.
    have hgroup : (group inner [wrapped rest p]).isEmpty = true := by
      simpa [isEmpty, leafCount, leafCountAll] using hempty
    have hout : Rewrite (.group outer []) (wrapped (outer :: inner :: rest) p) :=
      .insertEmpty .root outer [] _ [] hgroup
    have hin : Rewrite (.group outer []) (wrapped (outer :: rest) p) :=
      .insertEmpty .root outer [] _ [] hempty
    exact .trans _ _ _ (.symm _ _ (.rel _ _ hout)) (.rel _ _ hin)

/-- All groups around a filter but one can be left out, whatever the connector of that one. -/
theorem rewrites_wrapped (outer connector : Connector) (rest : List Connector) (p : Predicate) :
    Relation.EqvGen Rewrite (wrapped (outer :: rest) p) (wrapped [connector] p) := by
  induction rest with
  | nil => exact .rel _ _ (.rejoinRoot connector (wrapped [outer] p))
  | cons inner rest ih => exact .trans _ _ _ (rewrites_wrapped_cons outer inner rest p) ih

/-- Rewrites do not change the text of a filter, however many there are and whether forwards or
backwards. So two or more groups of one child each around a filter are written like one. -/
theorem whereClause?_eq_of_rewrites :
    (∀ p q : Predicate, Relation.EqvGen Rewrite p q → whereClause? (some p) = whereClause? (some q))
    ∧ ∀ (outer inner connector : Connector) (rest : List Connector) (p : Predicate),
        whereClause? (some (wrapped (outer :: inner :: rest) p))
          = whereClause? (some (wrapped [connector] p)) := by
  have htext : ∀ p q : Predicate, Relation.EqvGen Rewrite p q →
      whereClause? (some p) = whereClause? (some q) := fun p q h => by
    rw [whereClause?_eq_map_text, whereClause?_eq_map_text, normalForm?_eq_of_rewrites h]
  exact ⟨htext, fun outer inner connector rest p =>
    htext _ _ (rewrites_wrapped outer connector (inner :: rest) p)⟩

/-- The filter `a = 1 or b = 2` with conditions, groups and connectors that no text shows. -/
def cluttered : Predicate :=
  .group .and [.group .or [], .comparison .or ⟨"a", "=", .int 1⟩,
    .group .or [.group .and [], .comparison .and ⟨"b", "=", .int 2⟩], .group .or [.group .and []]]

/-- Rewrites of all four kinds clear up the cluttered filter, and its text is that of what is left. -/
theorem whereClause?_eq_of_rewrites_cluttered :
    let a : Comparison := ⟨"a", "=", .int 1⟩
    let b : Comparison := ⟨"b", "=", .int 2⟩
    let clear : Predicate := .group .or [.comparison .and a, .comparison .or b]
    Relation.EqvGen Rewrite cluttered clear
      ∧ whereClause? (some cluttered) = whereClause? (some clear)
      ∧ whereClause? (some clear) = some "(a,eq,1)~or(b,eq,2)" := by
  intro a b clear
  let last : Predicate := .group .or [.group .and []]
  let inGroup : Predicate := .group .or [.group .and [], .comparison .and b]
  have hroot : Rewrite cluttered
      (.group .or [.group .or [], .comparison .or a, inGroup, last]) :=
    .rejoinRoot .or cluttered
  have hleading : Rewrite (.group .or [.comparison .or a, inGroup, last])
      (.group .or [.group .or [], .comparison .or a, inGroup, last]) :=
    .insertEmpty .root .or [] _ _ (by decide)
  have hfirst : Rewrite (.group .or [.comparison .or a, inGroup, last])
      (.group .or [.comparison .and a, inGroup, last]) :=
    .rejoinFirst .root .or .and [] (.comparison .or a) _ (by simp)
  have hgroup : Rewrite (.group .or [.comparison .and a, inGroup, last])
      (.group .or [.comparison .and a, .comparison .or b, last]) :=
    .collapse (.child .or [.comparison .and a] .root [last]) .or [.group .and []]
      (.comparison .and b) [] (by simp) (by decide) (by decide) (by decide)
  have hlast : Rewrite clear (.group .or [.comparison .and a, .comparison .or b, last]) :=
    .insertEmpty .root .or [.comparison .and a, .comparison .or b] _ [] (by decide)
  have hrewrites : Relation.EqvGen Rewrite cluttered clear :=
    .trans _ _ _ (.rel _ _ hroot) <| .trans _ _ _ (.symm _ _ (.rel _ _ hleading)) <|
      .trans _ _ _ (.rel _ _ hfirst) <| .trans _ _ _ (.rel _ _ hgroup) (.symm _ _ (.rel _ _ hlast))
  exact ⟨hrewrites, whereClause?_eq_of_rewrites.1 _ _ hrewrites, by decide⟩

end Predicate

end RecordQuery
