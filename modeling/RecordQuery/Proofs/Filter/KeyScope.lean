import Mathlib.Tactic.ByContra
import RecordQuery.Proofs.Filter.KeyPlace
import RecordQuery.Proofs.Filter.Meaning
import RecordQuery.Records.Operations

/-!
# What the key of a filter says about the filter

A filter holds for rows of its key only iff no condition behind the comparison that gives the key is
joined by `or`. The search for the key looks at the connector in front of the comparison alone, so a
filter may have a key and accept rows with other keys.

Conditions combine from left to right here.

## Main statements

* `Predicate.holds_of_value?`: with no `or` behind it, the comparison holds where the filter does.
* `Predicate.value?_exceptAt`: with an `or` behind it, the filter can hold where the comparison does
  not.
* `Query.holds_at_keyPlace_iff`: both together.
-/

namespace RecordQuery

/-- No condition behind the comparison is joined by `or`, those without comparisons apart. -/
def KeyPlace.Decisive (place : KeyPlace) : Prop :=
  ∀ p ∈ place.later, p.isEmpty = false → p.connector = .and

instance (place : KeyPlace) : Decidable place.Decisive :=
  inferInstanceAs (Decidable (∀ p ∈ place.later, p.isEmpty = false → p.connector = .and))

namespace Predicate

/-! ## Values in a row

The value of a row from left to right is settled by its last `or`: what stands in front of it does not
matter where the value behind it is true, and behind it all values have to be true. -/

theorem values_append (R : Rule) (v : Assignment) (index : Nat) (ps qs : List Predicate) :
    values R v index (ps ++ qs) = values R v index ps ++ values R v (index + ps.length) qs := by
  induction ps generalizing index with
  | nil => rfl
  | cons p rest ih =>
    have hlength : index + (p :: rest).length = index + 1 + rest.length := by
      rw [List.length_cons]; omega
    rw [List.cons_append, values, values, ih, hlength]
    cases value? R (v.child index) p with
    | none => rfl
    | some value => rfl

/-- A value among those of siblings is the value of one of them, with its connector. -/
theorem exists_of_mem_values {R : Rule} {v : Assignment} {index : Nat} {ps : List Predicate}
    {x : Connector × Bool} (h : x ∈ values R v index ps) :
    ∃ p ∈ ps, ∃ i, index ≤ i ∧ p.connector = x.1 ∧ p.value? R (v.child i) = some x.2 := by
  induction ps generalizing index with
  | nil => simp [values] at h
  | cons p rest ih =>
    -- A later sibling has a larger number.
    have hlater (h : x ∈ values R v (index + 1) rest) :
        ∃ q ∈ p :: rest, ∃ i, index ≤ i ∧ q.connector = x.1
          ∧ q.value? R (v.child i) = some x.2 := by
      obtain ⟨q, hq, i, hi, hx⟩ := ih h
      exact ⟨q, List.mem_cons_of_mem _ hq, i, by omega, hx⟩
    rw [values] at h
    cases hp : p.value? R (v.child index) with
    | none => rw [hp] at h; exact hlater h
    | some value =>
      rw [hp] at h
      rcases List.mem_cons.mp h with rfl | h
      · exact ⟨p, List.mem_cons_self, index, Nat.le_refl _, rfl, hp⟩
      · exact hlater h

/-- A sibling with a comparison has a value among those of the siblings. -/
theorem exists_mem_values (R : Rule) (v : Assignment) (index : Nat) {ps : List Predicate}
    {p : Predicate} (hp : p ∈ ps) (hne : p.leafCount ≠ 0) :
    ∃ value, (p.connector, value) ∈ values R v index ps := by
  induction ps generalizing index with
  | nil => simp at hp
  | cons q rest ih =>
    rw [values]
    rcases List.mem_cons.mp hp with rfl | hrest
    · cases hvalue : p.value? R (v.child index) with
      | none => exact absurd ((value?_eq_none_iff R _ p).mp hvalue) hne
      | some value => exact ⟨value, List.mem_cons_self⟩
    · obtain ⟨value, hmem⟩ := ih (index + 1) hrest
      refine ⟨value, ?_⟩
      cases q.value? R (v.child index) with
      | none => exact hmem
      | some _ => exact List.mem_cons_of_mem _ hmem

end Predicate

namespace Rule

/-- A row of values joined by `and` holds only if the first one does. -/
theorem eq_true_of_leftToRight {rest : List (Connector × Bool)} {first : Bool}
    (hand : ∀ x ∈ rest, x.1 = .and) (h : leftToRight.combine first rest = true) :
    first = true := by
  induction rest generalizing first with
  | nil => exact h
  | cons x rest ih =>
    have hx : x.1 = .and := hand x List.mem_cons_self
    have happly : x.1.apply first x.2 = true :=
      ih (fun y hy => hand y (List.mem_cons_of_mem _ hy)) h
    rw [hx, Connector.apply, Bool.and_eq_true] at happly
    exact happly.1

theorem leftToRight_eq_true_of_all {rest : List (Connector × Bool)}
    (hall : ∀ x ∈ rest, x.2 = true) : leftToRight.combine true rest = true := by
  induction rest with
  | nil => rfl
  | cons x rest ih =>
    have hx : x.2 = true := hall x List.mem_cons_self
    have happly : x.1.apply true x.2 = true := by
      rw [hx]; cases x.1 <;> rfl
    show leftToRight.combine (x.1.apply true x.2) rest = true
    rw [happly]
    exact ih fun y hy => hall y (List.mem_cons_of_mem _ hy)

/-- A row of true values with an `or` holds whatever stands in front of it. -/
theorem leftToRight_eq_true_of_or {rest : List (Connector × Bool)} (first : Bool)
    (hall : ∀ x ∈ rest, x.2 = true) (hor : ∃ x ∈ rest, x.1 = .or) :
    leftToRight.combine first rest = true := by
  induction rest generalizing first with
  | nil => simp at hor
  | cons x rest ih =>
    have hrest : ∀ y ∈ rest, y.2 = true := fun y hy => hall y (List.mem_cons_of_mem _ hy)
    show leftToRight.combine (x.1.apply first x.2) rest = true
    cases hx : x.1 with
    | or =>
      -- From here on the row is true, and only true values follow.
      rw [hall x List.mem_cons_self, Connector.apply, Bool.or_true]
      exact leftToRight_eq_true_of_all hrest
    | and =>
      obtain ⟨y, hy, hyor⟩ := hor
      rcases List.mem_cons.mp hy with rfl | hy
      · exact absurd (hx.symm.trans hyor) (by decide)
      · exact ih _ hrest ⟨y, hy, hyor⟩

/-- A row is the value up to one of its items, and then the rest. An item that stands first or is
joined by `and` is true where the value up to it is. -/
theorem combineAll?_leftToRight_split {before after : List (Connector × Bool)}
    {connector : Connector} {value : Bool} (hjoined : before = [] ∨ connector = .and) :
    ∃ upTo, (upTo = true → value = true)
      ∧ leftToRight.combineAll? (before ++ (connector, value) :: after)
        = some (leftToRight.combine upTo after) := by
  cases before with
  | nil => exact ⟨value, id, rfl⟩
  | cons x before =>
    obtain rfl := hjoined.resolve_left (by simp)
    refine ⟨leftToRight.combine x.2 before && value, fun h => (Bool.and_eq_true _ _ ▸ h).2, ?_⟩
    simp [combineAll?, leftToRight, List.foldl_append, Connector.apply]

end Rule

/-! ## A filter holds where all of its comparisons do -/

namespace Predicate

mutual

theorem eq_true_of_value? {v : Assignment} (hv : ∀ path test, v path test = true) (p : Predicate)
    {value : Bool} (h : p.value? .leftToRight v = some value) : value = true := by
  match p with
  | .comparison _ test => exact (Option.some.inj h).symm.trans (hv [] test)
  | .group _ children =>
    have hall := eq_true_of_mem_values hv 0 children
    rw [value?] at h
    cases hvalues : values .leftToRight v 0 children with
    | nil => simp [hvalues, Rule.combineAll?] at h
    | cons x rest =>
      rw [hvalues] at h hall
      have hx : x.2 = true := hall x List.mem_cons_self
      obtain rfl := Option.some.inj h
      rw [hx]
      exact Rule.leftToRight_eq_true_of_all fun y hy => hall y (List.mem_cons_of_mem _ hy)

theorem eq_true_of_mem_values {v : Assignment} (hv : ∀ path test, v path test = true) (index : Nat)
    (ps : List Predicate) : ∀ x ∈ values .leftToRight v index ps, x.2 = true := by
  match ps with
  | [] => simp [values]
  | p :: rest =>
    have hrest := eq_true_of_mem_values hv (index + 1) rest
    rw [values]
    cases hp : p.value? .leftToRight (v.child index) with
    | none => exact hrest
    | some value =>
      have hvalue : value = true := eq_true_of_value? (fun path => hv (index :: path)) p hp
      intro x hx
      rcases List.mem_cons.mp hx with rfl | hx
      · exact hvalue
      · exact hrest x hx

end

/-! ## What the key comparison says about the filter -/

/-- A filter with a key combines a value that is true only if the comparison that gives the key holds
with the values of the siblings behind that comparison, which have other places. -/
theorem value?_eq_combine_later {p : Predicate} {place : KeyPlace} (h : p.keyPlace? = some place)
    (v : Assignment) :
    ∃ upTo index, (upTo = true → v place.path place.test = true)
      ∧ (∀ i path, index ≤ i → i :: path ≠ place.path)
      ∧ p.value? .leftToRight v
        = some (Rule.leftToRight.combine upTo (values .leftToRight v index place.later)) := by
  cases p with
  | comparison _ test =>
    rw [keyPlace?] at h
    split at h
    · obtain rfl := Option.some.inj h
      exact ⟨v [] test, 0, id, by simp, rfl⟩
    · exact absurd h (by simp)
  | group _ children =>
    obtain ⟨before, connector, hsplit, hpath, hjoined⟩ := split_of_keyPlaceAmong? h
    rw [Nat.zero_add] at hpath hjoined
    -- The siblings in front of the comparison, its own value, and those behind it.
    have hvalues : values .leftToRight v 0 children
        = values .leftToRight v 0 before
          ++ (connector, v place.path place.test)
            :: values .leftToRight v (before.length + 1) place.later := by
      rw [hsplit, values_append, hpath, Nat.zero_add]
      rfl
    have hfirst : values .leftToRight v 0 before = [] ∨ connector = .and := by
      rcases hjoined with hlength | hand
      · rw [List.eq_nil_of_length_eq_zero hlength]
        exact Or.inl rfl
      · exact Or.inr hand
    obtain ⟨upTo, hupTo, hcombine⟩ := Rule.combineAll?_leftToRight_split hfirst
    refine ⟨upTo, before.length + 1, hupTo, ?_, ?_⟩
    · intro i path hi heq
      rw [hpath] at heq
      have hindex : i = before.length := (List.cons.inj heq).1
      omega
    · rw [value?, hvalues, hcombine]

/-- With no `or` behind it, the comparison that gives the key holds where the filter does. -/
theorem holds_of_value? {p : Predicate} {place : KeyPlace} (h : p.keyPlace? = some place)
    (hdecisive : place.Decisive) {v : Assignment} (hv : p.value? .leftToRight v = some true) :
    v place.path place.test = true := by
  obtain ⟨upTo, index, hupTo, -, hcombine⟩ := value?_eq_combine_later h v
  rw [hv, Option.some.injEq, eq_comm] at hcombine
  refine hupTo (Rule.eq_true_of_leftToRight ?_ hcombine)
  -- A value behind the comparison is that of a sibling with a comparison, which `and` joins.
  intro x hx
  obtain ⟨q, hq, i, -, hconnector, hvalue⟩ := exists_of_mem_values hx
  have hne : q.isEmpty = false := by
    have hcount := mt (value?_eq_none_iff .leftToRight (v.child i) q).mpr (by simp [hvalue])
    simpa [isEmpty] using hcount
  rw [← hconnector]
  exact hdecisive q hq hne

/-- The assignment by which every comparison holds but the one at a place. -/
def exceptAt (place : List Nat) : Assignment := fun path _ => path != place

/-- With an `or` behind it, the comparison that gives the key may be the only one that does not hold,
and the filter holds. -/
theorem value?_exceptAt {p : Predicate} {place : KeyPlace} (h : p.keyPlace? = some place)
    (hor : ¬ place.Decisive) : p.value? .leftToRight (exceptAt place.path) = some true := by
  obtain ⟨upTo, index, -, hother, hcombine⟩ := value?_eq_combine_later h (exceptAt place.path)
  rw [hcombine, Rule.leftToRight_eq_true_of_or]
  · -- No sibling behind the comparison contains it, so all of them hold.
    intro x hx
    obtain ⟨q, -, i, hi, -, hvalue⟩ := exists_of_mem_values hx
    refine eq_true_of_value? (fun path test => ?_) q hvalue
    simpa [Assignment.child, exceptAt] using hother i path hi
  · unfold KeyPlace.Decisive at hor
    push Not at hor
    obtain ⟨q, hq, hne, hconnector⟩ := hor
    obtain ⟨value, hmem⟩ := exists_mem_values .leftToRight (exceptAt place.path) index hq
      (by simpa [isEmpty] using hne)
    refine ⟨_, hmem, ?_⟩
    cases hc : q.connector with
    | and => exact absurd hc hconnector
    | or => rfl

end Predicate

/-- A query with a key takes it from a comparison at the top of its filter. The filter accepts nothing
without that comparison iff no condition behind the comparison is joined by `or`. -/
theorem Query.holds_at_keyPlace_iff (q : Query) (key : Scalar) (hkey : q.key? = some key) :
    ∃ filter place, q.filter = some filter ∧ filter.keyPlace? = some place
      ∧ place.test.key? = some key
      ∧ ((∀ v : Assignment, filter.value? .leftToRight v = some true →
            v place.path place.test = true)
        ↔ place.Decisive) := by
  rw [Query.key?, Option.bind_eq_some_iff] at hkey
  obtain ⟨filter, hfilter, hkey⟩ := hkey
  rw [Predicate.key?_eq_key?_of_keyPlace?, Option.bind_eq_some_iff] at hkey
  obtain ⟨place, hplace, hkey⟩ := hkey
  refine ⟨filter, place, hfilter, hplace, hkey, fun hall => ?_, fun hdecisive v hv => ?_⟩
  · -- Where an `or` follows, all comparisons but this one make the filter hold.
    by_contra hor
    have hat := hall _ (Predicate.value?_exceptAt hplace hor)
    simp [Predicate.exceptAt] at hat
  · exact Predicate.holds_of_value? hplace hdecisive hv

/-- Siblings in front of the key comparison and groups without comparisons behind it do no harm: the
filter holds only where `leads.id = 7` does. -/
theorem Query.holds_at_keyPlace_among_groups :
    let filter : Predicate := .group .and
      [.comparison .and ⟨"status", "=", .text "active"⟩, .group .or [],
        .comparison .and ⟨"leads.id", "=", .int 7⟩, .group .or [.group .or []],
        .group .and [.comparison .or ⟨"age", "<", .int 10⟩, .comparison .or ⟨"age", ">", .int 18⟩]]
    ({ table := "leads", filter } : Query).key? = some (.int 7)
      ∧ ∀ v : Assignment, filter.value? .leftToRight v = some true →
        v [2] ⟨"leads.id", "=", .int 7⟩ = true := by
  refine ⟨by decide, ?_⟩
  obtain ⟨filter, place, hfilter, hplace, -, hiff⟩ :=
    Query.holds_at_keyPlace_iff
      { table := "leads", filter := some (.group .and
        [.comparison .and ⟨"status", "=", .text "active"⟩, .group .or [],
          .comparison .and ⟨"leads.id", "=", .int 7⟩, .group .or [.group .or []],
          .group .and
            [.comparison .or ⟨"age", "<", .int 10⟩, .comparison .or ⟨"age", ">", .int 18⟩]]) }
      (.int 7) (by decide)
  obtain rfl := Option.some.inj hfilter
  obtain rfl := Option.some.inj hplace
  exact hiff.mpr (by decide)

/-- A filter with the key `5` accepts a row with another key: `Id = 5 or status = active` holds where
`status = active` does, and `Id = 5` does not. -/
theorem Query.key?_of_filter_with_later_or :
    let filter : Predicate := .group .and
      [.comparison .and ⟨"Id", "=", .int 5⟩, .comparison .or ⟨"status", "=", .text "active"⟩]
    let otherRow : Assignment := fun _ test => test.column == "status"
    ({ table := "leads", filter } : Query).key? = some (.int 5)
      ∧ (filter.keyPlace?.map fun place => (place.path, place.test))
        = some ([0], ⟨"Id", "=", .int 5⟩)
      ∧ filter.value? .leftToRight otherRow = some true
      ∧ otherRow [0] ⟨"Id", "=", .int 5⟩ = false :=
  ⟨by decide, by decide, by decide, by decide⟩

end RecordQuery
