import RecordQuery.Filter.Key

/-!
# Where the key of a filter comes from

`Predicate.key?` gives the key of a filter, and `Predicate.keyPlace?` the comparison that it is taken
from, with its place in the filter and the siblings behind it.

## Main statements

* `Predicate.key?_eq_key?_of_keyPlace?`: the key of a filter is that of the comparison it is taken
  from.
* `Predicate.split_of_keyPlaceAmong?`: that comparison stands first among its siblings or is joined
  by `and`.
-/

namespace RecordQuery

/-- Where a filter takes its key from. -/
structure KeyPlace where
  /-- The place of the comparison in the filter. -/
  path : List Nat
  test : Comparison
  /-- The siblings behind the comparison. -/
  later : List Predicate

namespace Predicate

/-- Where siblings, numbered from `index` on, take their key from. -/
def keyPlaceAmong? (index : Nat) : List Predicate → Option KeyPlace
  | [] => none
  | .comparison connector test :: rest =>
    if (siblingKey? (index == 0) (.comparison connector test)).isSome then
      some ⟨[index], test, rest⟩
    else keyPlaceAmong? (index + 1) rest
  | .group _ _ :: rest => keyPlaceAmong? (index + 1) rest

def keyPlace? : Predicate → Option KeyPlace
  | .comparison _ test => if test.key?.isSome then some ⟨[], test, []⟩ else none
  | .group _ children => keyPlaceAmong? 0 children

/-- The key among siblings is that of the comparison it is taken from. -/
theorem keyAmong?_eq_bind (index : Nat) (ps : List Predicate) :
    keyAmong? (index == 0) ps = (keyPlaceAmong? index ps).bind fun place => place.test.key? := by
  induction ps generalizing index with
  | nil => rfl
  | cons p rest ih =>
    have hrest : keyAmong? false rest
        = (keyPlaceAmong? (index + 1) rest).bind fun place => place.test.key? := ih (index + 1)
    cases p with
    | group _ _ => rw [keyAmong?, keyPlaceAmong?, siblingKey?, Option.none_or, hrest]
    | comparison connector test =>
      rw [keyAmong?, keyPlaceAmong?, hrest]
      cases hkey : siblingKey? (index == 0) (.comparison connector test) with
      | none => simp
      | some key =>
        -- A key is found only behind `and` or in the first place, and there it is that of the test.
        rw [siblingKey?] at hkey
        split at hkey
        · simp [hkey]
        · exact absurd hkey (by simp)

theorem key?_eq_key?_of_keyPlace? (p : Predicate) :
    p.key? = p.keyPlace?.bind fun place => place.test.key? := by
  cases p with
  | group _ children => exact keyAmong?_eq_bind 0 children
  | comparison _ test =>
    rw [key?, keyPlace?]
    cases hkey : test.key? with
    | none => simp
    | some key => simp [hkey]

/-- The comparison that siblings, numbered from `index` on, take their key from is one of them. It
stands first or is joined by `and`. -/
theorem split_of_keyPlaceAmong? {index : Nat} {ps : List Predicate} {place : KeyPlace}
    (h : keyPlaceAmong? index ps = some place) :
    ∃ before connector, ps = before ++ .comparison connector place.test :: place.later
      ∧ place.path = [index + before.length] ∧ (index + before.length = 0 ∨ connector = .and) := by
  induction ps generalizing index with
  | nil => simp [keyPlaceAmong?] at h
  | cons p rest ih =>
    -- A sibling that is passed over stands in front of the comparison.
    have hskip (h : keyPlaceAmong? (index + 1) rest = some place) :
        ∃ before connector, p :: rest = before ++ .comparison connector place.test :: place.later
          ∧ place.path = [index + before.length]
          ∧ (index + before.length = 0 ∨ connector = .and) := by
      obtain ⟨before, connector, hsplit, hpath, hjoined⟩ := ih h
      refine ⟨p :: before, connector, by rw [hsplit, List.cons_append], ?_, ?_⟩
      · rw [hpath, List.length_cons, Nat.add_assoc, Nat.add_comm 1]
      · exact Or.inr (hjoined.resolve_left (by omega))
    cases p with
    | group _ _ => exact hskip h
    | comparison connector test =>
      rw [keyPlaceAmong?] at h
      split at h
      · next hkey =>
        obtain rfl := Option.some.inj h
        refine ⟨[], connector, rfl, rfl, ?_⟩
        rw [siblingKey?] at hkey
        split at hkey
        · next hjoined => simpa using hjoined
        · exact absurd hkey (by simp)
      · exact hskip h

theorem isBlank_of_key? {p : Predicate} {key : Scalar} (h : p.key? = some key) :
    key.isBlank = false := by
  rw [key?_eq_key?_of_keyPlace?, Option.bind_eq_some_iff] at h
  obtain ⟨place, -, hkey⟩ := h
  exact Comparison.isBlank_of_key? hkey

end Predicate

end RecordQuery
