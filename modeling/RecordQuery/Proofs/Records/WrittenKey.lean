import RecordQuery.Proofs.Filter.KeyPlace
import RecordQuery.Proofs.Scalar.RoundTrip
import RecordQuery.Records.Operations

/-!
# The key that a write sends

An update and a deletion each send one record, and the record holds the key under `Id`. A key is not
blank as a scalar; it is not blank as a JSON value either, and can be read back from the record, iff
JSON can express it. A deletion by an infinity or a NaN is sent with `null` as the key.

## Main statements

* `Query.calls_update`, `Query.calls_delete`: the calls of a write, for any remote side.
* `Row.carriesKey_insert_iff`: when a record carries the key that was put into it.
* `Query.carriesKey_of_write_iff`: both together.
-/

namespace RecordQuery

/-- A record says which key it has: a value that is neither `null` nor the empty text stands under
`Id`, and the key is read back from the record. -/
structure Row.CarriesKey (row : Row) (key : Scalar) : Prop where
  value : ∃ json, row.get? primaryKey = some json ∧ json ≠ .null ∧ json ≠ .string ""
  id?_eq : row.id? = some key

namespace Row

/-- `Id` is the first name under which a row looks for its key. -/
theorem id?_insert_primaryKey (row : Row) {value : Json} (h : value ≠ .null) :
    (row.insert primaryKey value).id? = some (Scalar.ofJson value) := by
  have hget : (row.insert primaryKey value).get? "Id" = some value := get?_insert_self row _ _
  have hnull : value.isNull = false := by
    cases value <;> simp_all [Json.isNull]
  simp [id?, primaryKeyNames, List.filterMap_cons, hget, hnull]

/-- A record carries a key that was put into it iff JSON can express the key. -/
theorem carriesKey_insert_iff (row : Row) {key : Scalar} (hblank : key.isBlank = false) :
    (row.insert primaryKey key.toJson).CarriesKey key ↔ key.isExpressible = true := by
  constructor
  · -- What JSON cannot express would stand under `Id` as `null`.
    intro h
    obtain ⟨json, hget, hnull, -⟩ := h.value
    rw [get?_insert_self, Option.some.injEq] at hget
    cases hkey : key.isExpressible with
    | true => rfl
    | false => exact absurd (hget.symm.trans (Scalar.toJson_eq_null hkey)) hnull
  · intro hkey
    obtain ⟨hnull, hempty⟩ := Scalar.toJson_ne_blank hblank hkey
    refine ⟨⟨key.toJson, get?_insert_self row _ _, hnull, hempty⟩, ?_⟩
    rw [id?_insert_primaryKey row hnull, Scalar.ofJson_toJson hkey]

end Row

namespace Query

/-- The key of the record that a deletion is about: the given one, unless it is missing or blank, and
otherwise that which the query asks for. -/
def deletionKey? (q : Query) (id : Option Scalar) : Option Scalar :=
  (id.filter fun key => !key.isBlank).or q.key?

theorem isBlank_of_key? {q : Query} {key : Scalar} (h : q.key? = some key) :
    key.isBlank = false := by
  rw [Query.key?, Option.bind_eq_some_iff] at h
  obtain ⟨filter, -, hkey⟩ := h
  exact Predicate.isBlank_of_key? hkey

theorem isBlank_of_deletionKey? {q : Query} {id : Option Scalar} {key : Scalar}
    (h : q.deletionKey? id = some key) : key.isBlank = false := by
  rw [deletionKey?, Option.or_eq_some_iff] at h
  rcases h with hid | ⟨-, hkey⟩
  · rw [Option.filter_eq_some_iff] at hid
    simpa using hid.2
  · exact isBlank_of_key? hkey

/-! ## The calls of a write

Whether a call is made, and which, does not depend on the remote side: the one call of a write is its
first. -/

variable {σ : Type} (respond : Responder σ) (state : σ)

theorem calls_update (q : Query) (fields : Row) :
    ((q.update fields).run respond state).calls
      = (q.key?.map fun key => Call.update q.table (updateBody fields key)).toList := by
  rw [update]
  cases q.key? with
  | none => rfl
  | some key =>
    simp only [Operation.run_bind, Operation.run_request, Run.andThen]
    cases (respond state (.update q.table (updateBody fields key))).1 <;> rfl

theorem calls_delete (q : Query) (id : Option Scalar) :
    ((q.delete id).run respond state).calls
      = ((q.deletionKey? id).map fun key => Call.delete q.table (deleteBody key)).toList := by
  rw [delete, ← deletionKey?]
  cases q.deletionKey? id <;> rfl

/-- Every call of an update or a deletion sends one record, which carries the key of the operation
iff JSON can express that key. -/
theorem carriesKey_of_write_iff (q : Query) (fields : Row) (id : Option Scalar) :
    (∀ call ∈ ((q.update fields).run respond state).calls, ∃ (key : Scalar) (record : Row),
      q.key? = some key ∧ call = .update q.table (.array [record.toJson])
      ∧ (record.CarriesKey key ↔ key.isExpressible = true))
    ∧ ∀ call ∈ ((q.delete id).run respond state).calls, ∃ (key : Scalar) (record : Row),
      q.deletionKey? id = some key ∧ call = .delete q.table (.array [record.toJson])
      ∧ (record.CarriesKey key ↔ key.isExpressible = true) := by
  constructor
  · intro call hcall
    rw [calls_update, Option.mem_toList, Option.map_eq_some_iff] at hcall
    obtain ⟨key, hkey, rfl⟩ := hcall
    exact ⟨key, fields.insert primaryKey key.toJson, hkey, rfl,
      Row.carriesKey_insert_iff fields (isBlank_of_key? hkey)⟩
  · intro call hcall
    rw [calls_delete, Option.mem_toList, Option.map_eq_some_iff] at hcall
    obtain ⟨key, hkey, rfl⟩ := hcall
    exact ⟨key, Row.empty.insert primaryKey key.toJson, hkey, rfl,
      Row.carriesKey_insert_iff .empty (isBlank_of_deletionKey? hkey)⟩

/-- A key in the fields of an update gives way to that of the filter, and a blank id of a deletion to
it, too. -/
theorem carriesKey_of_write_seven :
    let q : Query := { table := "leads", filter := Predicate.comparison .and ⟨"_id", "=", .int 7⟩ }
    let fields : Row := ⟨.ofPairs [("Id", .string "old"), ("id", .null)]⟩
    let refuse : Responder Unit := fun state _ => (.error (.remote 500 ""), state)
    (∃ record : Row, ((q.update fields).run refuse ()).calls
        = [.update "leads" (.array [record.toJson])] ∧ record.CarriesKey (.int 7))
    ∧ ∃ record : Row, ((q.delete (some (.text ""))).run refuse ()).calls
        = [.delete "leads" (.array [record.toJson])] ∧ record.CarriesKey (.int 7) := by
  intro q fields refuse
  obtain ⟨hupdate, hdelete⟩ := carriesKey_of_write_iff refuse () q fields (some (.text ""))
  have hkey : q.key? = some (.int 7) := by decide
  have hupdated : ((q.update fields).run refuse ()).calls
      = [.update "leads" (updateBody fields (.int 7))] := by rw [calls_update, hkey]; rfl
  have hdeleted : ((q.delete (some (.text ""))).run refuse ()).calls
      = [.delete "leads" (deleteBody (.int 7))] := by rw [calls_delete]; rfl
  constructor
  · obtain ⟨key, record, hkey', hcall, hcarries⟩ :=
      hupdate _ (hupdated ▸ List.mem_singleton_self _)
    obtain rfl := Option.some.inj (hkey.symm.trans hkey')
    exact ⟨record, by rw [hupdated, hcall], hcarries.mpr rfl⟩
  · obtain ⟨key, record, hkey', hcall, hcarries⟩ :=
      hdelete _ (hdeleted ▸ List.mem_singleton_self _)
    obtain rfl : Scalar.int 7 = key := Option.some.inj hkey'
    exact ⟨record, by rw [hdeleted, hcall], hcarries.mpr rfl⟩

/-- A deletion by a NaN is sent, with `null` for the key. -/
theorem delete_of_nan_sends_null :
    let nan : Scalar := .float Number.Binary64.nan
    nan.isBlank = false
      ∧ ((({ table := "leads" } : Query).delete (some nan)).run
          (fun (state : Unit) _ => (.ok .null, state)) ()).calls
        = [.delete "leads" (.array [.object (.ofPairs [("Id", .null)])])]
      ∧ ¬ (Row.mk (.ofPairs [("Id", .null)])).CarriesKey nan := by
  refine ⟨by decide, rfl, ?_⟩
  rintro ⟨⟨json, hget, hnull, -⟩, -⟩
  exact hnull (Option.some.inj hget).symm

end Query

end RecordQuery
