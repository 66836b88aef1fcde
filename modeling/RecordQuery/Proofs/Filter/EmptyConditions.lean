import Mathlib.Tactic.ByContra
import RecordQuery.Proofs.Filter.Rewriting
import RecordQuery.Records.Operations

/-!
# Conditions without comparisons and the key of a filter

The text of a filter leaves out the conditions without comparisons, and takes the first of the others
for the first condition. The search for the key passes over them as well, but counts them: behind one
of them no condition is the first, and a key comparison that is joined by `or` is no longer found.
So conditions without comparisons at the top of a filter never change its text, and they change its key
in this one case.

## Main statements

* `Predicate.whereClause?_group_eq_of_kept_eq`: the text depends on the kept conditions alone.
* `Predicate.keyAmong?_eq_iff_of_kept_eq`: when the same key is found among the same kept conditions.
* `Query.key?_eq_iff_of_kept_eq`: what becomes of the text, of the key and of writes by this key.
-/

namespace RecordQuery

namespace Predicate

/-- The conditions that have a comparison. -/
def kept (ps : List Predicate) : List Predicate := ps.filter fun p => !p.isEmpty

/-- The first condition has no comparison. -/
def StartsEmpty (ps : List Predicate) : Prop := ∃ p rest, ps = p :: rest ∧ p.isEmpty = true

/-- The first condition asks for a key and is joined by `or`, and the conditions behind it do not ask
for the same key. -/
def OrKeyFirst (ps : List Predicate) : Prop :=
  ∃ test rest, ps = .comparison .or test :: rest ∧ test.key? ≠ none
    ∧ test.key? ≠ keyAmong? false rest

/-! ## The text -/

theorem kept_cons_of_isEmpty {p : Predicate} (h : p.isEmpty = true) (rest : List Predicate) :
    kept (p :: rest) = kept rest := by
  rw [kept, List.filter_cons_of_neg (by simp [h]), kept]

theorem kept_cons_of_not_isEmpty {p : Predicate} (h : p.isEmpty = false) (rest : List Predicate) :
    kept (p :: rest) = p :: kept rest := by
  rw [kept, List.filter_cons_of_pos (by simp [h]), kept]

theorem items_kept (ps : List Predicate) : items (kept ps) = items ps := by
  induction ps with
  | nil => rfl
  | cons p rest ih =>
    cases hp : p.isEmpty with
    | true => rw [kept_cons_of_isEmpty hp, ih, items, item?_eq_none_of_isEmpty hp]
    | false => rw [kept_cons_of_not_isEmpty hp, items, items, ih]

theorem whereClause?_group_eq_of_kept_eq (connector : Connector) {ps qs : List Predicate}
    (h : kept ps = kept qs) :
    whereClause? (some (.group connector ps)) = whereClause? (some (.group connector qs)) := by
  rw [whereClause?_eq_map_text, whereClause?_eq_map_text, normalForm?, normalForm?, ← items_kept ps,
    ← items_kept qs, h]

/-! ## The key

The scan tells only the first condition from the others, by its place. -/

/-- A condition without comparisons is a group, and asks for no key. -/
theorem siblingKey?_of_isEmpty (first : Bool) {p : Predicate} (h : p.isEmpty = true) :
    p.siblingKey? first = none := by
  cases p with
  | comparison _ _ => simp [isEmpty, leafCount] at h
  | group _ _ => rfl

theorem keyAmong?_cons_of_isEmpty (first : Bool) {p : Predicate} (h : p.isEmpty = true)
    (rest : List Predicate) : keyAmong? first (p :: rest) = keyAmong? false rest := by
  rw [keyAmong?, siblingKey?_of_isEmpty first h, Option.none_or]

theorem keyAmong?_false_kept (ps : List Predicate) :
    keyAmong? false (kept ps) = keyAmong? false ps := by
  induction ps with
  | nil => rfl
  | cons p rest ih =>
    cases hp : p.isEmpty with
    | true => rw [kept_cons_of_isEmpty hp, keyAmong?_cons_of_isEmpty false hp, ih]
    | false => rw [kept_cons_of_not_isEmpty hp, keyAmong?, keyAmong?, ih]

/-- The kept conditions are searched as they are, but with none of them in the first place if an empty
one stands there. -/
theorem keyAmong?_true_of_startsEmpty {ps : List Predicate} (h : StartsEmpty ps) :
    keyAmong? true ps = keyAmong? false (kept ps) := by
  obtain ⟨p, rest, rfl, hp⟩ := h
  rw [keyAmong?_cons_of_isEmpty true hp, kept_cons_of_isEmpty hp, keyAmong?_false_kept]

theorem keyAmong?_true_of_not_startsEmpty {ps : List Predicate} (h : ¬ StartsEmpty ps) :
    keyAmong? true ps = keyAmong? true (kept ps) := by
  cases ps with
  | nil => rfl
  | cons p rest =>
    have hp : p.isEmpty = false := Bool.eq_false_iff.mpr fun hempty => h ⟨p, rest, rfl, hempty⟩
    rw [kept_cons_of_not_isEmpty hp, keyAmong?, keyAmong?, keyAmong?_false_kept]

/-- The first place matters to a comparison that is joined by `or`, and to no other condition. -/
theorem keyAmong?_true_eq_false_iff (ps : List Predicate) :
    keyAmong? true ps = keyAmong? false ps ↔ ¬ OrKeyFirst ps := by
  match ps with
  | [] => simp [OrKeyFirst, keyAmong?]
  | .group _ _ :: rest => simp [OrKeyFirst, keyAmong?, siblingKey?]
  | .comparison .and test :: rest => simp [OrKeyFirst, keyAmong?, siblingKey?]
  | .comparison .or test :: rest =>
    -- In the first place the comparison is asked before the others, elsewhere it is passed over.
    have hfirst : keyAmong? true (.comparison .or test :: rest)
        = test.key?.or (keyAmong? false rest) := rfl
    have helsewhere : keyAmong? false (.comparison .or test :: rest) = keyAmong? false rest := rfl
    rw [hfirst, helsewhere]
    constructor
    · rintro heq ⟨_, _, hsplit, hkey, hne⟩
      cases hsplit
      cases htest : test.key? with
      | none => exact hkey htest
      | some key =>
        rw [htest, Option.some_or] at heq
        exact hne (htest.trans heq)
    · intro hnot
      cases htest : test.key? with
      | none => rfl
      | some key =>
        rw [Option.some_or]
        by_contra hne
        exact hnot ⟨test, rest, rfl, by simp [htest], by rwa [htest]⟩

/-- Among the same kept conditions the same key is found iff empty ones stand in front of all or of
none of them, or the first place does not matter to the first of them. -/
theorem keyAmong?_eq_iff_of_kept_eq {ps qs : List Predicate} (h : kept ps = kept qs) :
    keyAmong? true ps = keyAmong? true qs
      ↔ (StartsEmpty ps ↔ StartsEmpty qs) ∨ ¬ OrKeyFirst (kept ps) := by
  rw [← keyAmong?_true_eq_false_iff]
  by_cases hps : StartsEmpty ps <;> by_cases hqs : StartsEmpty qs
  · rw [keyAmong?_true_of_startsEmpty hps, keyAmong?_true_of_startsEmpty hqs, h]
    exact iff_of_true rfl (.inl (iff_of_true hps hqs))
  · rw [keyAmong?_true_of_startsEmpty hps, keyAmong?_true_of_not_startsEmpty hqs, ← h]
    simp [hps, hqs, eq_comm]
  · rw [keyAmong?_true_of_not_startsEmpty hps, keyAmong?_true_of_startsEmpty hqs, ← h]
    simp [hps, hqs]
  · rw [keyAmong?_true_of_not_startsEmpty hps, keyAmong?_true_of_not_startsEmpty hqs, h]
    exact iff_of_true rfl (.inl (iff_of_false hps hqs))

end Predicate

/-! ## The record that a write addresses -/

namespace Query

open Predicate

variable {q q' : Query}

theorem update_eq_of_sameKey (htable : q.table = q'.table) (hkey : q.key? = q'.key?)
    (fields : Row) : q.update fields = q'.update fields := by
  rw [update, update, htable, hkey]

theorem delete_eq_of_sameKey (htable : q.table = q'.table) (hkey : q.key? = q'.key?)
    (id : Option Scalar) : q.delete id = q'.delete id := by
  rw [delete, delete, htable, hkey]

/-- Conditions without comparisons, put among those at the top of a filter or taken out, do not change
its text. They do not change its key either, and no update and no deletion, unless they come to stand
in front of the others, or no longer do, and the first of these asks for the key and is joined by
`or`. -/
theorem key?_eq_iff_of_kept_eq (q : Query) (connector : Connector) (ps qs : List Predicate)
    (h : kept ps = kept qs) :
    let before : Query := { q with filter := some (.group connector ps) }
    let after : Query := { q with filter := some (.group connector qs) }
    whereClause? before.filter = whereClause? after.filter
      ∧ (before.key? = after.key? ↔ (StartsEmpty ps ↔ StartsEmpty qs) ∨ ¬ OrKeyFirst (kept ps))
      ∧ (before.key? = after.key? → ∀ fields id,
          before.update fields = after.update fields ∧ before.delete id = after.delete id) := by
  intro before after
  refine ⟨whereClause?_group_eq_of_kept_eq connector h, keyAmong?_eq_iff_of_kept_eq h, ?_⟩
  intro hkey fields id
  have htable : before.table = after.table := rfl
  exact ⟨update_eq_of_sameKey htable hkey fields, delete_eq_of_sameKey htable hkey id⟩

/-- An empty group may come to stand in front if the first condition asks for no key. -/
theorem key?_eq_of_kept_eq_status_first :
    let status : Predicate := .comparison .or ⟨"status", "=", .text "active"⟩
    let byId : Predicate := .comparison .and ⟨"leads.id", "=", .int 7⟩
    let ps : List Predicate := [status, byId]
    let qs : List Predicate :=
      [.group .or [], status, .group .and [.group .or []], byId, .group .or []]
    kept ps = kept qs
      ∧ whereClause? (some (.group .and ps)) = whereClause? (some (.group .and qs))
      ∧ ({ table := "leads", filter := some (.group .and ps) } : Query).key?
        = ({ table := "leads", filter := some (.group .and qs) } : Query).key?
      ∧ ({ table := "leads", filter := some (.group .and qs) } : Query).key? = some (.int 7) := by
  intro status byId ps qs
  have hkept : kept ps = kept qs := rfl
  obtain ⟨htext, hkey, -⟩ := key?_eq_iff_of_kept_eq { table := "leads" } .and ps qs hkept
  have hfirst : ¬ OrKeyFirst (kept ps) := (keyAmong?_true_eq_false_iff (kept ps)).mp (by decide)
  exact ⟨hkept, htext, hkey.mpr (.inr hfirst), by decide⟩

/-- An empty group in front of `Id = 5`, which is joined by `or`, is not seen in the text, and the key
is gone: an update addresses record 5 without the group, and fails with it. -/
theorem key?_none_behind_empty_group :
    let byId : Predicate := .comparison .or ⟨"Id", "=", .int 5⟩
    let alone : Query := { table := "leads", filter := some (.group .and [byId]) }
    let behind : Query := { table := "leads", filter := some (.group .and [.group .and [], byId]) }
    kept [byId] = kept [.group .and [], byId]
      ∧ whereClause? alone.filter = some "(Id,eq,5)"
      ∧ whereClause? behind.filter = some "(Id,eq,5)"
      ∧ alone.key? = some (.int 5)
      ∧ behind.key? = none
      ∧ ∀ fields, alone.update fields ≠ behind.update fields := by
  refine ⟨rfl, by decide, by decide, by decide, by decide, fun fields h => ?_⟩
  -- One of them makes a call, the other is over at once.
  cases h

end Query

end RecordQuery
